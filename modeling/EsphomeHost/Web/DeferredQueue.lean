import EsphomeHost.Web.EventSource

/-!
# The deferred queue of a session

What the main loop asks a session to send, and what the session generates and sends for it when it
is ticked.  A generator does not call back: between the generating of an event and its erasing
nothing else is done with the session.

* `Waiting`: the events that have been asked for and not generated since.
* `Before`: which of two of them was asked for first.
* `faithful_of_reachable`: **what waits is in the queue, once; what is generated is what has waited
  longest; what cannot be sent stays in the queue of a closed session**.
* `not_waiting_looped`: and nothing waits once a tick of an open session is over.
-/

namespace EsphomeHost.AsyncEventSource

/-- What is recorded of an event. -/
inductive Entry
  | requested (event : DeferredEvent)
  | generated (event : DeferredEvent)
  | sent (event : DeferredEvent)
  | failed (event : DeferredEvent)
deriving DecidableEq

/-- A session, whether it is in its `loop`, and the record. -/
structure Deferring where
  session : Session
  ticking : Bool := false
  history : List Entry := []

namespace Deferring

/-- What is done with the session on the main loop, with what the generators make and whether it can
be sent.  `process_buffer_` asks for the states of entities. -/
inductive Label
  | deferrableSendState (event : DeferredEvent)
  | trySendNodefer (sent : Bool)
  | loop
  | processDeferred (outcome : Option Bool)
  | looped
deriving DecidableEq

/-- What a round of `process_deferred_queue_` does for its event. -/
def entries (event : DeferredEvent) : Option Bool → List Entry
  | none => [.generated event]
  | some true => [.generated event] ++ [.sent event]
  | some false => [.generated event] ++ [.failed event]

def step (s : Deferring) : Label → Option Deferring
  | .deferrableSendState event =>
      some { s with
        session := s.session.deferrableSendState event
        history := s.history ++ [.requested event] }
  | .trySendNodefer sent => some { s with session := s.session.trySendNodefer sent }
  | .loop => if s.ticking then none else some { s with ticking := s.session.isOpen }
  | .processDeferred outcome =>
      match s.session.deferredQueue with
      | event :: _ =>
          if s.ticking ∧ s.session.isOpen then
            some { s with
              session := s.session.processDeferred outcome
              history := s.history ++ entries event outcome }
          else none
      | [] => none
  | .looped =>
      if s.ticking ∧ (s.session.isOpen = false ∨ s.session.deferredQueue = []) then
        some { s with ticking := false }
      else none

def machine : Machine Deferring Label where
  init := fun s => ∃ sent, s = { session := Session.construct sent }
  step := step

end Deferring

/-! ## What has to hold -/

/-- The event has been asked for, and not generated since. -/
def Waiting (history : List Entry) (event : DeferredEvent) : Prop :=
  ∃ a b, history = a ++ .requested event :: b ∧ .generated event ∉ b

/-- The event has been waiting since the other was not. -/
def Before (history : List Entry) (event other : DeferredEvent) : Prop :=
  ∃ a b, history = a ++ b ∧ Waiting a event ∧ .generated event ∉ b ∧ ¬ Waiting a other

/-- Of all that waits the event was asked for first. -/
def Next (history : List Entry) (event : DeferredEvent) : Prop :=
  Waiting history event ∧ ∀ other ≠ event, Waiting history other → Before history event other

/-- What has waited longest is generated, and only what has just been generated is sent. -/
structure FirstComeFirstServed (history : List Entry) : Prop where
  generated : ∀ a event, a ++ [.generated event] <+: history → Next a event
  sent : ∀ a event, a ++ [.sent event] <+: history → [.generated event] <:+ a

structure Faithful (s : Session) (history : List Entry) : Prop where
  distinct : s.deferredQueue.Nodup
  waiting : ∀ event, Waiting history event → event ∈ s.deferredQueue
  ordered : FirstComeFirstServed history
  failed : ∀ event, .failed event ∈ history → event ∈ s.deferredQueue ∧ s.isOpen = false

/-! ## Records -/

variable {history : List Entry} {entry : Entry} {event other : DeferredEvent} {s : Session}

theorem waiting_concat : Waiting (history ++ [entry]) event ↔
    entry = .requested event ∨ entry ≠ .generated event ∧ Waiting history event := by
  constructor
  · rintro ⟨a, b, split, since⟩
    rcases List.eq_nil_or_concat b with rfl | ⟨b, last, rfl⟩
    · exact .inl (List.cons.inj (List.append_inj' split rfl).2).1
    · have parts : history ++ [entry] = (a ++ .requested event :: b) ++ [last] := by
        rw [split]
        simp
      obtain ⟨before, ends⟩ := List.append_inj' parts rfl
      obtain ⟨rfl, -⟩ := List.cons.inj ends
      rw [List.concat_eq_append, List.mem_append, not_or] at since
      exact .inr ⟨fun same => since.2 (List.mem_singleton.mpr same.symm), a, b, before, since.1⟩
  · rintro (rfl | ⟨other, a, b, rfl, since⟩)
    · exact ⟨history, [], rfl, List.not_mem_nil⟩
    · refine ⟨a, b ++ [entry], by simp, fun mem => ?_⟩
      rcases List.mem_append.mp mem with mem | mem
      · exact since mem
      · exact other (List.mem_singleton.mp mem).symm

/-- Sending changes nothing about what waits. -/
theorem waiting_outcome (apart : ∀ e, entry ≠ .requested e ∧ entry ≠ .generated e) :
    Waiting (history ++ [entry]) event ↔ Waiting history event := by
  rw [waiting_concat]
  exact ⟨fun waits => (waits.resolve_left (apart event).1).2,
    fun waits => .inr ⟨(apart event).2, waits⟩⟩

theorem not_waiting_nil : ¬ Waiting [] event := by
  rintro ⟨a, b, split, -⟩
  exact List.append_ne_nil_of_right_ne_nil a (List.cons_ne_nil _ b) split.symm

/-- The order stays as long as the event waits. -/
theorem Before.concat (before : Before history event other) (still : entry ≠ .generated event) :
    Before (history ++ [entry]) event other := by
  obtain ⟨a, b, rfl, waits, since, fresh⟩ := before
  refine ⟨a, b ++ [entry], List.append_assoc _ _ _, waits, fun mem => ?_, fresh⟩
  rcases List.mem_append.mp mem with mem | mem
  · exact since mem
  · exact still (List.mem_singleton.mp mem).symm

theorem before_of_fresh (waits : Waiting history event) (fresh : ¬ Waiting history other) :
    Before history event other :=
  ⟨history, [], (List.append_nil _).symm, waits, List.not_mem_nil, fresh⟩

theorem FirstComeFirstServed.concat (ordered : FirstComeFirstServed history)
    (generates : ∀ event, entry = .generated event → Next history event)
    (sends : ∀ event, entry = .sent event → [.generated event] <:+ history) :
    FirstComeFirstServed (history ++ [entry]) := by
  constructor
  · intro a event early
    rcases prefix_note.mp early with ⟨rfl, last⟩ | earlier
    · exact generates event last.symm
    · exact ordered.generated a event earlier
  · intro a event early
    rcases prefix_note.mp early with ⟨rfl, last⟩ | earlier
    · exact sends event last.symm
    · exact ordered.sent a event earlier

/-! ## The queue -/

/-- What is kept: the queue of an open session is what waits, in its order. -/
structure Queued (s : Session) (history : List Entry) : Prop extends Faithful s history where
  waits : s.isOpen = true → ∀ event ∈ s.deferredQueue, Waiting history event
  sorted : s.isOpen = true → s.deferredQueue.Pairwise (Before history)

namespace Queued

theorem init (sent : Bool) : Queued (Session.construct sent) [] where
  distinct := List.nodup_nil
  waiting _ waits := absurd waits not_waiting_nil
  ordered := by
    have long (a : List Entry) (e : Entry) : ¬ a ++ [e] <+: [] := fun early =>
      List.append_ne_nil_of_right_ne_nil a (List.cons_ne_nil _ _) (List.prefix_nil.mp early)
    exact ⟨fun _ _ early => absurd early (long _ _), fun _ _ early => absurd early (long _ _)⟩
  failed _ mem := absurd mem List.not_mem_nil
  waits _ _ mem := absurd mem List.not_mem_nil
  sorted _ := .nil

/-- Only the queue and whether the session is open count; it may be closed. -/
theorem closing (queued : Queued s history) {t : Session}
    (queue : t.deferredQueue = s.deferredQueue) (opened : t.isOpen = true → s.isOpen = true) :
    Queued t history where
  distinct := queue ▸ queued.distinct
  waiting := queue ▸ queued.waiting
  ordered := queued.ordered
  failed event mem := by
    obtain ⟨stays, closed⟩ := queued.failed event mem
    refine ⟨queue ▸ stays, ?_⟩
    by_contra reopened
    rw [opened (eq_true_of_ne_false reopened)] at closed
    cases closed
  waits still := queue ▸ queued.waits (opened still)
  sorted still := queue ▸ queued.sorted (opened still)

theorem trySendNodefer (queued : Queued s history) (sent : Bool) :
    Queued (s.trySendNodefer sent) history := by
  refine queued.closing ?_ ?_ <;> unfold Session.trySendNodefer Session.sendRaw <;> split
  · rfl
  · rfl
  · exact fun opened => nomatch opened
  · exact id

/-- **A request.**  An event that waits keeps its place. -/
theorem deferrableSendState (queued : Queued s history) (event : DeferredEvent) :
    Queued (s.deferrableSendState event) (history ++ [.requested event]) := by
  have ordered : FirstComeFirstServed (history ++ [.requested event]) :=
    queued.ordered.concat (fun _ same => nomatch same) fun _ same => nomatch same
  have old : ∀ e, .failed e ∈ history ++ [.requested event] → .failed e ∈ history := by
    simp
  unfold Session.deferrableSendState Session.deqPushBackWithDedup
  split
  · rename_i here
    refine ⟨⟨queued.distinct, fun e waits => ?_, ordered, fun e mem => queued.failed e (old e mem)⟩,
      fun opened e mem => ?_, fun opened => ?_⟩
    · rcases waiting_concat.mp waits with same | ⟨-, before⟩
      · cases same
        exact here
      · exact queued.waiting e before
    · exact waiting_concat.mpr (.inr ⟨nofun, queued.waits opened e mem⟩)
    · exact (queued.sorted opened).imp fun before => before.concat nofun
  · rename_i fresh
    refine ⟨⟨?_, fun e waits => ?_, ordered, fun e mem => ?_⟩,
      fun opened e mem => ?_, fun opened => ?_⟩
    · exact List.nodup_append.mpr ⟨queued.distinct, List.nodup_singleton _, fun a old b new same =>
        fresh (List.mem_singleton.mp new ▸ same ▸ old)⟩
    · rcases waiting_concat.mp waits with same | ⟨-, before⟩
      · cases same
        exact List.mem_append_right _ (List.mem_singleton_self _)
      · exact List.mem_append_left _ (queued.waiting e before)
    · obtain ⟨stays, closed⟩ := queued.failed e (old e mem)
      exact ⟨List.mem_append_left _ stays, closed⟩
    · rcases List.mem_append.mp mem with mem | mem
      · exact waiting_concat.mpr (.inr ⟨nofun, queued.waits opened e mem⟩)
      · exact waiting_concat.mpr (.inl (congrArg _ (List.mem_singleton.mp mem).symm))
    · refine List.pairwise_append.mpr ⟨?_, List.pairwise_singleton _ _, fun e mem f last => ?_⟩
      · exact (queued.sorted opened).imp fun before => before.concat nofun
      · -- the event did not wait when `e` did
        rw [List.mem_singleton.mp last]
        have idle : ¬ Waiting history event := fun waits => fresh (queued.waiting event waits)
        exact (before_of_fresh (queued.waits opened e mem) idle).concat nofun

/-- **A generated event.**  What is behind it keeps its place, and is all that waits. -/
theorem generate (queued : Queued s history) (opened : s.isOpen = true)
    {rest : List DeferredEvent} (front : s.deferredQueue = event :: rest) :
    Next history event ∧
      Queued { s with deferredQueue := rest } (history ++ [.generated event]) := by
  have distinct := queued.distinct
  have sorted := queued.sorted opened
  have waits := queued.waits opened
  rw [front] at distinct sorted waits
  obtain ⟨first, sorted⟩ := List.pairwise_cons.mp sorted
  obtain ⟨once, distinct⟩ := List.nodup_cons.mp distinct
  have behind : ∀ e, Waiting history e → e ≠ event → e ∈ rest := by
    intro e old other
    have mem := queued.waiting e old
    rw [front] at mem
    exact (List.mem_cons.mp mem).resolve_left other
  have next : Next history event :=
    ⟨waits event List.mem_cons_self, fun e other old => first e (behind e old other)⟩
  have apart : ∀ e ∈ rest, Entry.generated event ≠ .generated e := by
    intro e mem same
    cases same
    exact once mem
  refine ⟨next, ⟨distinct, fun e still => ?_, ?_, fun e mem => ?_⟩, fun _ e mem => ?_, fun _ => ?_⟩
  · rcases waiting_concat.mp still with same | ⟨other, old⟩
    · cases same
    · exact behind e old fun same => other (same ▸ rfl)
  · exact queued.ordered.concat (fun e same => Entry.generated.inj same ▸ next)
      fun _ same => nomatch same
  · have before : .failed e ∈ history := by simpa using mem
    rw [(queued.failed e before).2] at opened
    cases opened
  · exact waiting_concat.mpr (.inr ⟨apart e mem, waits e (List.mem_cons_of_mem _ mem)⟩)
  · exact sorted.imp_of_mem fun mem _ before => before.concat (apart _ mem)

theorem afterSent (queued : Queued s (history ++ [.generated event])) :
    Queued s (history ++ [.generated event] ++ [.sent event]) := by
  have apart : ∀ e, Entry.sent event ≠ .requested e ∧ Entry.sent event ≠ .generated e :=
    fun _ => ⟨nofun, nofun⟩
  have same {e : DeferredEvent} :
      Waiting (history ++ [.generated event] ++ [.sent event]) e ↔
        Waiting (history ++ [.generated event]) e := waiting_outcome apart
  refine ⟨⟨queued.distinct, fun e waits => queued.waiting e (same.mp waits), ?_, fun e mem => ?_⟩,
    fun opened e mem => same.mpr (queued.waits opened e mem), fun opened => ?_⟩
  · refine queued.ordered.concat (fun _ same => nomatch same) fun e same => ?_
    rw [Entry.sent.inj same]
    exact List.suffix_append _ _
  · exact queued.failed e (by simpa using mem)
  · exact (queued.sorted opened).imp fun before => before.concat nofun

/-- The event that cannot be sent is still in front. -/
theorem afterFailed (queued : Queued s (history ++ [.generated event])) (opened : s.isOpen = true)
    (once : event ∉ s.deferredQueue) :
    Queued { s with isOpen := false, deferredQueue := event :: s.deferredQueue }
      (history ++ [.generated event] ++ [.failed event]) := by
  refine ⟨⟨List.nodup_cons.mpr ⟨once, queued.distinct⟩, fun e waits => ?_, ?_, fun e mem => ?_⟩,
    fun still => (nomatch still), fun still => (nomatch still)⟩
  · have apart : ∀ e, Entry.failed event ≠ .requested e ∧ Entry.failed event ≠ .generated e :=
      fun _ => ⟨nofun, nofun⟩
    exact List.mem_cons_of_mem _ (queued.waiting e ((waiting_outcome apart).mp waits))
  · exact queued.ordered.concat (fun _ same => nomatch same) fun _ same => nomatch same
  · rcases List.mem_append.mp mem with old | new
    · rw [(queued.failed e old).2] at opened
      cases opened
    · cases List.mem_singleton.mp new
      exact ⟨List.mem_cons_self, rfl⟩

/-- **A round.** -/
theorem processDeferred (queued : Queued s history) (opened : s.isOpen = true)
    {rest : List DeferredEvent} (front : s.deferredQueue = event :: rest) (outcome : Option Bool) :
    Queued (s.processDeferred outcome) (history ++ Deferring.entries event outcome) := by
  obtain ⟨-, generated⟩ := queued.generate opened front
  match outcome with
  | none => exact generated.closing (congrArg List.tail front) id
  | some true =>
      rw [Deferring.entries, ← List.append_assoc]
      exact generated.afterSent.closing (congrArg List.tail front) id
  | some false =>
      have once : event ∉ rest := (List.nodup_cons.mp (front ▸ queued.distinct)).1
      rw [Deferring.entries, ← List.append_assoc]
      refine (generated.afterFailed opened once).closing ?_ ?_ <;>
        unfold Session.processDeferred Session.sendRaw <;> rw [if_pos rfl, if_pos ⟨opened, nofun⟩]
      · exact front
      · exact id

/-- **One step.** -/
theorem step {s t : Deferring} {l : Deferring.Label} (queued : Queued s.session s.history)
    (step : Deferring.machine.step s l = some t) : Queued t.session t.history := by
  cases l with
  | deferrableSendState event =>
      cases step
      exact queued.deferrableSendState event
  | trySendNodefer sent =>
      cases step
      exact queued.trySendNodefer sent
  | loop =>
      obtain ⟨-, ends⟩ := Option.ite_none_left_eq_some.mp step
      cases ends
      exact queued
  | processDeferred outcome =>
      unfold Deferring.machine Deferring.step at step
      dsimp only at step
      split at step
      · rename_i event rest front
        obtain ⟨⟨-, opened⟩, ends⟩ := Option.ite_none_right_eq_some.mp step
        cases ends
        exact queued.processDeferred opened front outcome
      · cases step
  | looped =>
      obtain ⟨-, ends⟩ := Option.ite_none_right_eq_some.mp step
      cases ends
      exact queued

end Queued

theorem queued_of_reachable {s : Deferring} (reachable : Deferring.machine.Reachable s) :
    Queued s.session s.history := by
  refine reachable.invariant (I := fun s => Queued s.session s.history) ?_ ?_
  · rintro s ⟨sent, rfl⟩
    exact .init sent
  · exact fun s l t queued _ step => queued.step step

/-- **What waits is in the queue, once; what is generated has waited longest; what cannot be sent
stays in the queue of a closed session.** -/
theorem faithful_of_reachable {s : Deferring} (reachable : Deferring.machine.Reachable s) :
    Faithful s.session s.history :=
  (queued_of_reachable reachable).toFaithful

/-- **Nothing waits when a tick of an open session is over.** -/
theorem not_waiting_looped {s t : Deferring} (reachable : Deferring.machine.Reachable s)
    (step : Deferring.machine.step s .looped = some t) (opened : t.session.isOpen = true)
    (event : DeferredEvent) : ¬ Waiting t.history event := by
  obtain ⟨⟨-, done⟩, ends⟩ := Option.ite_none_right_eq_some.mp step
  cases ends
  intro waits
  have mem := (queued_of_reachable reachable).waiting event waits
  rcases done with closed | empty
  · rw [closed] at opened
    cases opened
  · rw [empty] at mem
    cases mem

/-- A light and a switch are asked for, the light twice; it has nothing to show, and the switch
cannot be sent. -/
def halfDrained : List Deferring.Label :=
  [.deferrableSendState ⟨0, 0⟩, .deferrableSendState ⟨1, 1⟩, .deferrableSendState ⟨0, 0⟩, .loop,
    .processDeferred none, .processDeferred (some false), .looped, .deferrableSendState ⟨0, 0⟩]

theorem faithful_halfDrained : ∃ s, Deferring.machine.run { session := .construct true }
      halfDrained = some s ∧
    s.session.deferredQueue = [⟨1, 1⟩, ⟨0, 0⟩] ∧ Faithful s.session s.history := by
  have replay (s : Deferring)
      (ran : Deferring.machine.run { session := .construct true } halfDrained = some s) :
      Faithful s.session s.history :=
    faithful_of_reachable ⟨_, ⟨true, rfl⟩, Machine.run_reach ran⟩
  exact ⟨_, rfl, rfl, replay _ rfl⟩

end EsphomeHost.AsyncEventSource

import EsphomeHost.Lib.Machine
import Mathlib.Logic.Function.Basic

/-!
# A worker thread woken by a counter

Clients have mailboxes.  Whoever puts a command into one, or registers a client, writes to a counter
afterwards; the worker sleeps until the counter is not zero, clears it, takes a snapshot of the
registered clients and empties their mailboxes one after the other.  Every access to a mailbox, to
the registry and to the counter is a step of its own, and any number of threads may be in the
middle of a request.

* `Registry`: how clients are registered, with the law that a new client is announced.
* `Faithful`: commands and events keep their order, and none is lost or taken twice.
* `Awake`: a registered client with commands is announced, or the worker is still coming to it.
* `reachable_sound`: both hold in every state reached.
-/

universe u

namespace WakeLoop

/-- How clients are registered.  A request `i` is followed by a write to the counter. -/
structure Registry (κ ρ ι : Type u) where
  clients : ρ → List κ
  change : ι → ρ → ρ
  announces : ι → Option κ
  announced : ∀ i r c, c ∈ clients (change i r) → c ∈ clients r ∨ announces i = some c

/-- The two queues of a client, and what has gone into them and come out of them. -/
structure Mailbox (α ε : Type u) where
  queue : List α := []
  events : List ε := []
  enqueued : List α := []
  executed : List α := []
  posted : List ε := []
  drained : List ε := []

/-- Where the worker is. -/
inductive Phase (κ α : Type u)
  /-- The worker looks whether to stop. -/
  | testing
  /-- It waits for an event. -/
  | running
  /-- It is about to clear the counter. -/
  | handling
  /-- The wait is over. -/
  | returned
  /-- The clients still to be served in this pass. -/
  | calling (rest : List κ)
  /-- The commands of a client that are still to be executed. -/
  | executing (current : κ) (cmds : List α) (rest : List κ)
  | exited

/-- `inFlight` has the clients whose request is made but not yet written to the counter. -/
structure State (κ α ε ρ : Type u) where
  registry : ρ
  boxes : κ → Mailbox α ε
  counter : UInt64 := 0
  inFlight : List κ := []
  phase : Phase κ α := .testing

inductive Label (κ α ε ι : Type u)
  | enqueue (c : κ) (cmd : α)
  | change (i : ι)
  /-- The end of a request. -/
  | write (c : κ)
  /-- A write that belongs to no request. -/
  | wake
  | post (c : κ) (ev : ε)
  | drain (c : κ)
  /-- The wait ends because the counter is not zero. -/
  | dispatch
  /-- The wait ends for another reason. -/
  | idle
  /-- The wait fails. -/
  | fail
  | test (stop : Bool)
  | advance

/-- The counter after a write of 1; a write that would overflow it is refused. -/
def counterWrite (counter : UInt64) : UInt64 :=
  if counter ≥ 0xfffffffffffffffe then counter else counter + 1

section

variable {κ α ε ρ ι : Type u} [DecidableEq κ]

/-- Change one mailbox. -/
def State.update (s : State κ α ε ρ) (c : κ) (f : Mailbox α ε → Mailbox α ε) : State κ α ε ρ :=
  { s with boxes := Function.update s.boxes c (f (s.boxes c)) }

/-- What the worker does next, when that is determined. -/
def advance (R : Registry κ ρ ι) (s : State κ α ε ρ) : Option (State κ α ε ρ) :=
  match s.phase with
  | .handling => some { s with counter := 0, phase := .returned }
  | .returned => some { s with phase := .calling (R.clients s.registry) }
  | .calling [] => some { s with phase := .testing }
  | .calling (c :: rest) =>
      some { s.update c ({ · with queue := [] }) with
        phase := .executing c (s.boxes c).queue rest }
  | .executing c (cmd :: cmds) rest =>
      some { s.update c (fun b => { b with executed := b.executed ++ [cmd] }) with
        phase := .executing c cmds rest }
  | .executing _ [] rest => some { s with phase := .calling rest }
  | .testing | .running | .exited => none

def step (R : Registry κ ρ ι) (s : State κ α ε ρ) : Label κ α ε ι → Option (State κ α ε ρ)
  | .enqueue c cmd =>
      some { s.update c (fun b =>
          { b with queue := b.queue ++ [cmd], enqueued := b.enqueued ++ [cmd] }) with
        inFlight := c :: s.inFlight }
  | .change i =>
      some { s with
        registry := R.change i s.registry
        inFlight := (R.announces i).toList ++ s.inFlight }
  | .write c =>
      if c ∈ s.inFlight then
        some { s with counter := counterWrite s.counter, inFlight := s.inFlight.erase c }
      else none
  | .wake => some { s with counter := counterWrite s.counter }
  | .post c ev =>
      some (s.update c fun b => { b with events := b.events ++ [ev], posted := b.posted ++ [ev] })
  | .drain c =>
      some (s.update c fun b => { b with events := [], drained := b.drained ++ b.events })
  | .dispatch =>
      match s.phase with
      | .running => if s.counter = 0 then none else some { s with phase := .handling }
      | _ => none
  | .idle =>
      match s.phase with
      | .running => some { s with phase := .returned }
      | _ => none
  | .fail =>
      match s.phase with
      | .running => some { s with phase := .exited }
      | _ => none
  | .test stop =>
      match s.phase with
      | .testing => some { s with phase := if stop then .exited else .running }
      | _ => none
  | .advance => advance R s

/-- The worker starts when no client is registered; commands may be queued already. -/
def machine (R : Registry κ ρ ι) : Machine (State κ α ε ρ) (Label κ α ε ι) where
  init s := ∃ (r : ρ) (early : κ → List α), R.clients r = [] ∧
    s = { registry := r, boxes := fun c => { queue := early c, enqueued := early c } }
  step := step R

/-! ## Order -/

/-- The commands of `c` the worker has taken out but not executed. -/
def inHand (c : κ) : Phase κ α → List α
  | .executing current cmds _ => if current = c then cmds else []
  | _ => []

/-- Nothing is lost, taken twice or reordered in a mailbox, when `cmds` are in the worker's hand. -/
structure Mailbox.Faithful (b : Mailbox α ε) (cmds : List α) : Prop where
  commands : b.executed ++ (cmds ++ b.queue) = b.enqueued
  events : b.drained ++ b.events = b.posted

def Faithful (s : State κ α ε ρ) : Prop := ∀ c, (s.boxes c).Faithful (inHand c s.phase)

variable {R : Registry κ ρ ι} {s t : State κ α ε ρ}

@[simp] theorem update_phase (c : κ) (f : Mailbox α ε → Mailbox α ε) :
    (s.update c f).phase = s.phase := rfl

theorem update_box (c d : κ) (f : Mailbox α ε → Mailbox α ε) :
    (s.update c f).boxes d = if d = c then f (s.boxes d) else s.boxes d := by
  show Function.update s.boxes c (f (s.boxes c)) d = _
  rw [Function.update_apply]
  split
  · rename_i same
    rw [same]
  · rfl

/-- A change of one mailbox, while the worker has the same commands of the others in hand. -/
theorem Faithful.update (faithful : Faithful s) {c : κ} {f : Mailbox α ε → Mailbox α ε}
    (own : (f (s.boxes c)).Faithful (inHand c t.phase))
    (others : ∀ d, d ≠ c → inHand d t.phase = inHand d s.phase)
    (boxes : t.boxes = (s.update c f).boxes) : Faithful t := by
  intro d
  rw [boxes, update_box]
  split
  · rename_i same
    rw [same]
    exact own
  · rename_i different
    rw [others d different]
    exact faithful d

theorem Faithful.same (faithful : Faithful s) (boxes : t.boxes = s.boxes)
    (hand : ∀ c, inHand c t.phase = inHand c s.phase) : Faithful t := by
  intro c
  rw [boxes, hand]
  exact faithful c

theorem advance_faithful (faithful : Faithful s) (next : advance R s = some t) : Faithful t := by
  unfold advance at next
  split at next
  · rename_i phase
    cases next
    exact faithful.same rfl fun c => by rw [phase]; rfl
  · rename_i phase
    cases next
    exact faithful.same rfl fun c => by rw [phase]; rfl
  · rename_i phase
    cases next
    exact faithful.same rfl fun c => by rw [phase]; rfl
  · rename_i c rest phase
    cases next
    obtain ⟨commands, events⟩ := faithful c
    rw [phase] at commands
    refine faithful.update (c := c) (f := ({ · with queue := [] })) ⟨?_, events⟩ ?_ rfl
    · have mine : inHand c (.executing c (s.boxes c).queue rest) = (s.boxes c).queue :=
        if_pos rfl
      rw [mine, List.append_nil]
      exact commands
    · intro d different
      rw [phase]
      exact if_neg (Ne.symm different)
  · rename_i c cmd cmds rest phase
    cases next
    obtain ⟨commands, events⟩ := faithful c
    rw [phase] at commands
    refine faithful.update (c := c) (f := fun b => { b with executed := b.executed ++ [cmd] })
      ⟨?_, events⟩ ?_ rfl
    · have before : inHand c (.executing c (cmd :: cmds) rest) = cmd :: cmds := if_pos rfl
      have after : inHand c (.executing c cmds rest) = cmds := if_pos rfl
      rw [before] at commands
      rw [after, ← commands, List.append_assoc]
      rfl
    · intro d different
      rw [phase]
      exact (if_neg (Ne.symm different)).trans (if_neg (Ne.symm different)).symm
  · rename_i phase
    cases next
    exact faithful.same rfl fun c => by rw [phase]; exact (ite_self _).symm
  all_goals cases next

/-- **Order.**  No step loses, repeats or reorders a command or an event. -/
theorem step_faithful {l : Label κ α ε ι} (faithful : Faithful s) (next : step R s l = some t) :
    Faithful t := by
  have moved : ∀ {phase : Phase κ α}, (∀ c, inHand c phase = []) → s.phase = .running ∨
      s.phase = .testing → Faithful { s with phase := phase } := by
    intro phase nothing before
    refine faithful.same rfl fun c => ?_
    rcases before with before | before <;> rw [before] <;> exact nothing c
  cases l with
  | enqueue c cmd =>
      cases next
      obtain ⟨commands, events⟩ := faithful c
      refine faithful.update (c := c)
        (f := fun b => { b with queue := b.queue ++ [cmd], enqueued := b.enqueued ++ [cmd] })
        ⟨?_, events⟩ (fun _ _ => rfl) rfl
      rw [← commands]
      simp only [List.append_assoc]
      rfl
  | post c ev =>
      cases next
      obtain ⟨commands, events⟩ := faithful c
      refine faithful.update (c := c)
        (f := fun b => { b with events := b.events ++ [ev], posted := b.posted ++ [ev] })
        ⟨commands, ?_⟩ (fun _ _ => rfl) rfl
      rw [← events, List.append_assoc]
  | drain c =>
      cases next
      obtain ⟨commands, events⟩ := faithful c
      refine faithful.update (c := c)
        (f := fun b => { b with events := [], drained := b.drained ++ b.events })
        ⟨commands, ?_⟩ (fun _ _ => rfl) rfl
      rw [← events, List.append_nil]
  | change i =>
      cases next
      exact faithful.same rfl fun _ => rfl
  | wake =>
      cases next
      exact faithful.same rfl fun _ => rfl
  | write c =>
      obtain ⟨-, next⟩ := Option.ite_none_right_eq_some.mp next
      cases next
      exact faithful.same rfl fun _ => rfl
  | dispatch =>
      simp only [step] at next
      split at next
      · obtain ⟨-, next⟩ := Option.ite_none_left_eq_some.mp next
        cases next
        exact moved (fun _ => rfl) (.inl ‹_›)
      · cases next
  | idle | fail =>
      simp only [step] at next
      split at next
      · cases next
        exact moved (fun _ => rfl) (.inl ‹_›)
      · cases next
  | test stop =>
      simp only [step] at next
      split at next
      · cases next
        exact moved (fun _ => by cases stop <;> rfl) (.inr ‹_›)
      · cases next
  | advance => exact advance_faithful faithful next

/-! ## Waking -/

/-- The worker is still coming to `c` in this pass. -/
def Due (R : Registry κ ρ ι) (r : ρ) (c : κ) : Phase κ α → Prop
  | .returned => c ∈ R.clients r
  | .calling rest | .executing _ _ rest => c ∈ rest
  | _ => False

/-- A registered client with commands is announced, or the worker is still coming to it. -/
def Awake (R : Registry κ ρ ι) (s : State κ α ε ρ) : Prop :=
  ∀ c ∈ R.clients s.registry, (s.boxes c).queue ≠ [] →
    s.counter ≠ 0 ∨ c ∈ s.inFlight ∨ Due R s.registry c s.phase

theorem counterWrite_ne_zero (counter : UInt64) : counterWrite counter ≠ 0 := by
  unfold counterWrite
  split
  · rename_i full
    intro zero
    rw [zero] at full
    exact absurd full (by decide)
  · rename_i room
    have small : counter.toNat < 0xfffffffffffffffe :=
      UInt64.lt_iff_toNat_lt.mp (UInt64.not_le.mp room)
    intro zero
    have sum : (counter + 1).toNat = 0 := congrArg UInt64.toNat zero
    rw [UInt64.toNat_add, Nat.mod_eq_of_lt] at sum
    · cases sum
    · show counter.toNat + 1 < _
      omega

omit [DecidableEq κ] in
/-- Registration and mailboxes stand, and whoever was announced or due still is. -/
theorem Awake.same (awake : Awake R s) (registry : t.registry = s.registry)
    (queues : ∀ c, (t.boxes c).queue = (s.boxes c).queue)
    (kept : ∀ c ∈ R.clients s.registry,
      s.counter ≠ 0 ∨ c ∈ s.inFlight ∨ Due R s.registry c s.phase →
        t.counter ≠ 0 ∨ c ∈ t.inFlight ∨ Due R s.registry c t.phase) : Awake R t := by
  intro c registered waiting
  rw [registry] at registered ⊢
  rw [queues] at waiting
  exact kept c registered (awake c registered waiting)

theorem advance_awake (awake : Awake R s) (next : advance R s = some t) : Awake R t := by
  unfold advance at next
  split at next
  · rename_i phase
    cases next
    exact awake.same rfl (fun _ => rfl) fun c registered _ => .inr (.inr registered)
  · rename_i phase
    cases next
    refine awake.same rfl (fun _ => rfl) fun c registered before => ?_
    exact before.imp id fun rest => rest.imp id fun _ => registered
  · rename_i phase
    cases next
    refine awake.same rfl (fun _ => rfl) fun c registered before => ?_
    rw [phase] at before
    rcases before with raised | inFlight | due
    · exact .inl raised
    · exact .inr (.inl inFlight)
    · cases due
  · rename_i d rest phase
    cases next
    intro c registered waiting
    by_cases same : c = d
    · refine absurd ?_ waiting
      show ((s.update d ({ · with queue := [] })).boxes c).queue = []
      rw [update_box, if_pos same]
    · have before : (s.boxes c).queue ≠ [] := by
        intro empty
        refine waiting ?_
        show ((s.update d ({ · with queue := [] })).boxes c).queue = []
        rw [update_box, if_neg same]
        exact empty
      rcases awake c registered before with raised | inFlight | due
      · exact .inl raised
      · exact .inr (.inl inFlight)
      · rw [phase] at due
        exact .inr (.inr ((List.mem_cons.mp due).resolve_left same))
  · rename_i d cmd cmds rest phase
    cases next
    refine awake.same rfl (fun c => ?_) fun c _ before => ?_
    · show ((s.update d fun b => { b with executed := b.executed ++ [cmd] }).boxes c).queue = _
      rw [update_box]
      split <;> rfl
    · rw [phase] at before
      exact before
  · rename_i phase
    cases next
    refine awake.same rfl (fun _ => rfl) fun c _ before => ?_
    rw [phase] at before
    exact before
  all_goals cases next

/-- **No wake-up is lost.** -/
theorem step_awake {l : Label κ α ε ι} (awake : Awake R s) (next : step R s l = some t) :
    Awake R t := by
  have moved : ∀ {phase : Phase κ α}, s.phase = .running ∨ s.phase = .testing →
      Awake R { s with phase := phase } := by
    intro phase before
    refine awake.same rfl (fun _ => rfl) fun c _ due => ?_
    rcases before with before | before <;> rw [before] at due
    · exact due.imp id fun rest => rest.imp id nofun
    · exact due.imp id fun rest => rest.imp id nofun
  have raised : ∀ flying, Awake R
      { s with counter := counterWrite s.counter, inFlight := flying } :=
    fun _ _ _ _ => .inl (counterWrite_ne_zero s.counter)
  cases l with
  | enqueue d cmd =>
      cases next
      intro c registered waiting
      by_cases same : c = d
      · exact .inr (.inl (same ▸ List.mem_cons_self))
      · have before : (s.boxes c).queue ≠ [] := by
          intro empty
          refine waiting ?_
          show ((s.update d fun b => { b with
            queue := b.queue ++ [cmd], enqueued := b.enqueued ++ [cmd] }).boxes c).queue = []
          rw [update_box, if_neg same]
          exact empty
        rcases awake c registered before with raised | inFlight | due
        · exact .inl raised
        · exact .inr (.inl (List.mem_cons_of_mem _ inFlight))
        · exact .inr (.inr due)
  | change i =>
      cases next
      intro c registered waiting
      rcases R.announced i s.registry c registered with old | announced
      · rcases awake c old waiting with raised | inFlight | due
        · exact .inl raised
        · exact .inr (.inl (List.mem_append_right _ inFlight))
        · refine .inr (.inr ?_)
          show Due R (R.change i s.registry) c s.phase
          cases phase : s.phase with
          | returned => exact registered
          | _ =>
              rw [phase] at due
              exact due
      · refine .inr (.inl (List.mem_append_left _ ?_))
        rw [announced]
        exact List.mem_cons_self
  | write c =>
      obtain ⟨-, next⟩ := Option.ite_none_right_eq_some.mp next
      cases next
      exact raised _
  | wake =>
      cases next
      exact raised s.inFlight
  | post d ev =>
      cases next
      refine awake.same rfl (fun c => ?_) fun _ _ before => before
      rw [update_box]
      split <;> rfl
  | drain d =>
      cases next
      refine awake.same rfl (fun c => ?_) fun _ _ before => before
      rw [update_box]
      split <;> rfl
  | dispatch =>
      simp only [step] at next
      split at next
      · obtain ⟨-, next⟩ := Option.ite_none_left_eq_some.mp next
        cases next
        exact moved (.inl ‹_›)
      · cases next
  | idle | fail =>
      simp only [step] at next
      split at next
      · cases next
        exact moved (.inl ‹_›)
      · cases next
  | test stop =>
      simp only [step] at next
      split at next
      · cases next
        exact moved (.inr ‹_›)
      · cases next
  | advance => exact advance_awake awake next

/-! ## Every state reached -/

theorem init_faithful (init : (machine (α := α) (ε := ε) R).init s) : Faithful s := by
  obtain ⟨r, early, -, rfl⟩ := init
  exact fun c => ⟨rfl, rfl⟩

theorem init_awake (init : (machine (α := α) (ε := ε) R).init s) : Awake R s := by
  obtain ⟨r, early, nobody, rfl⟩ := init
  intro c registered
  rw [show R.clients r = [] from nobody] at registered
  cases registered

/-- **Order and waking in every state reached**, by any interleaving. -/
theorem reachable_sound (reachable : (machine R).Reachable s) : Faithful s ∧ Awake R s := by
  refine reachable.invariant (I := fun s => Faithful s ∧ Awake R s) ?_ ?_
  · exact fun s init => ⟨init_faithful init, init_awake init⟩
  · intro s l t ⟨faithful, awake⟩ _ next
    exact ⟨step_faithful faithful next, step_awake awake next⟩

/-- The commands executed are the first ones queued. -/
theorem Faithful.executed_prefix (faithful : Faithful s) (c : κ) :
    (s.boxes c).executed <+: (s.boxes c).enqueued :=
  ⟨_, (faithful c).commands⟩

/-- The events taken out are the first ones posted. -/
theorem Faithful.drained_prefix (faithful : Faithful s) (c : κ) :
    (s.boxes c).drained <+: (s.boxes c).posted :=
  ⟨_, (faithful c).events⟩

omit [DecidableEq κ] in
/-- A sleeping worker has nothing to do but for the requests in flight. -/
theorem Awake.queue_eq_nil (awake : Awake R s) (asleep : s.phase = .running)
    (silent : s.counter = 0) {c : κ} (registered : c ∈ R.clients s.registry)
    (settled : c ∉ s.inFlight) : (s.boxes c).queue = [] := by
  by_contra waiting
  rcases awake c registered waiting with raised | inFlight | due
  · exact raised silent
  · exact settled inFlight
  · rw [asleep] at due
    exact due

end

end WakeLoop

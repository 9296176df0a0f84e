import EsphomeHost.Gpio.Pin

/-!
# The alert thread

`run_` polls a snapshot of the entries and drains every descriptor that is reported readable; `add`
and `remove` change the entries on another thread and wake it.  The blocks under the mutex, `poll`,
`read`, `close` and the callbacks are the steps.

* `Obeys`: what is read and called is not removed.
* `obeys_iff_drained`: **this holds as long as `poll` reports no removed descriptor and `remove`
  does not return while the descriptor is still to be drained; and after any other step the threads
  can go on so that it fails.**
-/

namespace EsphomeHost.LinuxGpio

namespace AlertThread

/-- What is seen of the two threads: an entry is added, a `remove` returns, `run_` reads or
calls. -/
inductive Happening
  | added (fd : Nat)
  | removed (fd : Nat)
  | read (fd : Nat)
  | called (e : AlertEntry)
deriving DecidableEq

/-- The descriptor that `run_` reads or whose function it calls. -/
def Happening.touched : Happening → Option Nat
  | .read fd => some fd
  | .called e => some e.lineFd
  | _ => none

/-- Whether the descriptor is removed after `h`, if it was as `before` says. -/
def Happening.retires (fd : Nat) (before : Bool) : Happening → Bool
  | .added fd' => if fd' = fd then false else before
  | .removed fd' => if fd' = fd then true else before
  | _ => before

/-- A `remove` of the descriptor has returned and it has not been added since. -/
def retired (log : List Happening) (fd : Nat) : Bool :=
  log.foldl (fun before h => h.retires fd before) false

/-- **`run_` neither reads a removed descriptor nor calls its function.** -/
def Obeys (log : List Happening) : Prop :=
  ∀ first h, first ++ [h] <+: log → ∀ fd, h.touched = some fd → retired first fd = false

/-- The thread that calls `add`, `remove` and `detach_interrupt`: it has changed the entries and is
about to wake the alert thread, or is about to close the descriptor. -/
inductive Caller
  | idle
  | adding
  | removing (fd : Nat) (detaches : Bool)
  | closing (fd : Nat)
deriving DecidableEq

/-- `run_`: `todo` are the entries that are reported readable, and `left` is how many calls are
still due for a batch that was `full` or not. -/
inductive RunThread
  | top
  | polling (snapshot : List AlertEntry)
  | woken (todo : List AlertEntry)
  | draining (todo : List AlertEntry)
  | calling (e : AlertEntry) (left : Nat) (full : Bool) (todo : List AlertEntry)
  | ended
deriving DecidableEq

/-- `pipe` is the number of bytes in the self-pipe. -/
structure State where
  entries : List AlertEntry := []
  openFds : List Nat := []
  pipe : Nat := 0
  caller : Caller := .idle
  run : RunThread := .top
  log : List Happening := []
deriving DecidableEq

/-- The steps of the caller, and those of `run_` with what `poll` and `read` return; a `count` of 0
is an empty queue or an error. -/
inductive Act
  | request (fd : Nat)
  | add (e : AlertEntry)
  | remove (fd : Nat) (detaches : Bool)
  | wake
  | close
  | snapshot
  | poll (readable : List Nat)
  | pollFailed (interrupted : Bool)
  | readWake
  | read (count : Nat)
  | call
  | called
  | looped
deriving DecidableEq

/-- The size of `evs`. -/
def BATCH : Nat := 16

/-- The size of `buf`. -/
def BUF : Nat := 16

/-- What the self-pipe holds. -/
def PIPE_CAPACITY : Nat := 65536

namespace State

variable (s : State)

def note (h : Happening) : State := { s with log := s.log ++ [h] }

/-- `wake_`, and what follows it. -/
def wake : Option State :=
  match s.caller with
  | .adding => some { s with pipe := min (s.pipe + 1) PIPE_CAPACITY, caller := .idle }
  | .removing fd detaches =>
      some { s.note (.removed fd) with
        pipe := min (s.pipe + 1) PIPE_CAPACITY
        caller := if detaches then .closing fd else .idle }
  | _ => none

/-- A `read` of the first descriptor. -/
def read (count : Nat) : Option State :=
  match s.run with
  | .draining (e :: todo) =>
      if count = 0 then some { s.note (.read e.lineFd) with run := .draining todo }
      else if e.lineFd ∈ s.openFds ∧ count ≤ BATCH then
        some { s.note (.read e.lineFd) with run := .calling e count (count = BATCH) todo }
      else none
  | _ => none

/-- One call of the function of the entry, unless that is null. -/
def call : Option State :=
  match s.run with
  | .calling e (left + 1) full todo =>
      let s := if e.func = none then s else s.note (.called e)
      some { s with run := .calling e left full todo }
  | _ => none

end State

def step (s : State) : Act → Option State
  | .request fd => if fd ∈ s.openFds then none else some { s with openFds := fd :: s.openFds }
  | .add e =>
      if s.caller = .idle then
        some { s.note (.added e.lineFd) with entries := s.entries ++ [e], caller := .adding }
      else none
  | .remove fd detaches =>
      if s.caller = .idle then
        some { s with entries := removeEntries fd s.entries, caller := .removing fd detaches }
      else none
  | .wake => s.wake
  | .close =>
      match s.caller with
      | .closing fd =>
          some { s with openFds := s.openFds.filter fun n => n ≠ fd, caller := .idle }
      | _ => none
  | .snapshot => if s.run = .top then some { s with run := .polling s.entries } else none
  | .poll readable =>
      match s.run with
      | .polling snapshot =>
          if readable ⊆ s.openFds then
            let todo := snapshot.filter fun e => e.lineFd ∈ readable
            some { s with run := if 0 < s.pipe then .woken todo else .draining todo }
          else none
      | _ => none
  | .pollFailed interrupted =>
      match s.run with
      | .polling _ => some { s with run := if interrupted then .top else .ended }
      | _ => none
  | .readWake =>
      match s.run with
      | .woken todo => some { s with pipe := s.pipe - BUF, run := .draining todo }
      | _ => none
  | .read count => s.read count
  | .call => s.call
  | .called =>
      match s.run with
      | .calling e 0 full todo =>
          some { s with run := .draining (if full then e :: todo else todo) }
      | _ => none
  | .looped => if s.run = .draining [] then some { s with run := .top } else none

def machine : Machine State Act where
  init := fun s => s = {}
  step := step

/-! ## What is still to be drained -/

def RunThread.snapshot : RunThread → List AlertEntry
  | .polling snapshot => snapshot
  | _ => []

/-- The entries that `run_` is still to read or to call in this round. -/
def RunThread.pending : RunThread → List AlertEntry
  | .woken todo | .draining todo => todo
  | .calling e left full todo =>
      if full = true ∨ 0 < left ∧ e.func ≠ none then e :: todo else todo
  | _ => []

/-- The descriptor of a `remove` that is about to return. -/
def Caller.removes : Caller → Option Nat
  | .removing fd _ => some fd
  | _ => none

/-- `poll` reports no removed descriptor, and `remove` does not return while the descriptor is still
to be drained. -/
def Drained (s : State) : Act → Prop
  | .poll readable => ∀ e ∈ s.run.snapshot, e.lineFd ∈ readable → retired s.log e.lineFd = false
  | .wake => ∀ e ∈ s.run.pending, s.caller.removes ≠ some e.lineFd
  | _ => True

instance (s : State) : (act : Act) → Decidable (Drained s act)
  | .poll readable => inferInstanceAs (Decidable (∀ e ∈ s.run.snapshot,
      e.lineFd ∈ readable → retired s.log e.lineFd = false))
  | .wake => inferInstanceAs
      (Decidable (∀ e ∈ s.run.pending, s.caller.removes ≠ some e.lineFd))
  | .request _ | .add _ | .remove _ _ | .close | .snapshot | .pollFailed _ | .readWake | .read _
  | .call | .called | .looped => isTrue trivial

variable {s t u : State} {act : Act} {log : List Happening} {h : Happening} {fd : Nat}
  {e : AlertEntry} {todo : List AlertEntry}

/-! ## Logs -/

theorem retired_note (log : List Happening) (h : Happening) (fd : Nat) :
    retired (log ++ [h]) fd = h.retires fd (retired log fd) := by
  unfold retired
  rw [List.foldl_append]
  rfl

theorem obeys_nil : Obeys [] := fun _ _ early =>
  absurd (List.prefix_nil.mp early) (List.append_ne_nil_of_right_ne_nil _ (List.cons_ne_nil _ _))

theorem Obeys.note (obeys : Obeys log) (kept : ∀ fd, h.touched = some fd → retired log fd = false) :
    Obeys (log ++ [h]) := by
  intro first h' early
  rw [List.prefix_concat_iff] at early
  rcases early with whole | earlier
  · obtain ⟨rfl, same⟩ := List.append_inj' whole rfl
    rw [(List.cons.inj same).1]
    exact kept
  · exact obeys first h' earlier

theorem not_obeys_note (touched : h.touched = some fd) (gone : retired log fd = true) :
    ¬ Obeys (log ++ [h]) := fun obeys =>
  absurd ((obeys log h (List.prefix_refl _) fd touched).symm.trans gone) Bool.false_ne_true

/-- What is still to be drained is not removed. -/
structure Kept (s : State) : Prop where
  obeys : Obeys s.log
  pending : ∀ e ∈ s.run.pending, retired s.log e.lineFd = false

theorem Kept.quiet (kept : Kept s) (log : t.log = s.log)
    (fewer : t.run.pending ⊆ s.run.pending) : Kept t :=
  ⟨log ▸ kept.obeys, fun e mem => log ▸ kept.pending e (fewer mem)⟩

/-- An entry that is still to be drained is read or called. -/
theorem Kept.touch (kept : Kept s) (log : t.log = s.log ++ [h])
    (fewer : t.run.pending ⊆ s.run.pending) (mem : e ∈ s.run.pending)
    (touched : h.touched = some e.lineFd) : Kept t := by
  have same (fd : Nat) : retired t.log fd = retired s.log fd := by
    rw [log, retired_note]
    cases h with
    | added fd' => cases touched
    | removed fd' => cases touched
    | read fd' => rfl
    | called e' => rfl
  refine ⟨?_, fun e' mem' => (same e'.lineFd).trans (kept.pending e' (fewer mem'))⟩
  rw [log]
  refine kept.obeys.note fun fd now => ?_
  rw [touched] at now
  exact Option.some.inj now ▸ kept.pending e mem

theorem pending_calling (e : AlertEntry) (left : Nat) (full : Bool) (todo : List AlertEntry) :
    (RunThread.calling e left full todo).pending ⊆ e :: todo := by
  unfold RunThread.pending
  dsimp only
  split
  · exact List.Subset.refl _
  · exact List.subset_cons_self _ _

theorem pending_call (e : AlertEntry) (left : Nat) (full : Bool) (todo : List AlertEntry) :
    (RunThread.calling e left full todo).pending ⊆
      (RunThread.calling e (left + 1) full todo).pending := by
  by_cases due : full = true ∨ 0 < left ∧ e.func ≠ none
  · have more : full = true ∨ 0 < left + 1 ∧ e.func ≠ none :=
      due.imp_right fun calls => ⟨Nat.succ_pos left, calls.2⟩
    rw [RunThread.pending, RunThread.pending, if_pos due, if_pos more]
    exact List.Subset.refl _
  · rw [RunThread.pending, RunThread.pending, if_neg due]
    split
    · exact List.subset_cons_self _ _
    · exact List.Subset.refl _

theorem pending_polled (woken : Prop) [Decidable woken] (todo : List AlertEntry) :
    (if woken then RunThread.woken todo else .draining todo).pending = todo := by
  split <;> rfl

theorem kept_wake (kept : Kept s) (guard : Drained s .wake) (woke : s.wake = some t) : Kept t := by
  unfold State.wake at woke
  split at woke
  · cases woke
    exact kept.quiet rfl (List.Subset.refl _)
  · rename_i fd detaches removing
    cases woke
    refine ⟨kept.obeys.note fun fd' touched => ?_, fun e mem => ?_⟩
    · cases touched
    · have other : fd ≠ e.lineFd := fun same =>
        guard e mem (by rw [removing, ← same]; rfl)
      exact (retired_note _ _ _).trans ((if_neg other).trans (kept.pending e mem))
  · cases woke

theorem kept_read {count : Nat} (kept : Kept s) (read : s.read count = some t) : Kept t := by
  unfold State.read at read
  split at read
  · rename_i e todo draining
    have all : s.run.pending = e :: todo := by
      rw [draining]
      rfl
    have head : e ∈ s.run.pending := all ▸ List.mem_cons_self
    split at read
    · cases read
      exact kept.touch rfl (all ▸ List.subset_cons_self _ _) head rfl
    · obtain ⟨-, read⟩ := Option.ite_none_right_eq_some.mp read
      cases read
      exact kept.touch rfl (all ▸ pending_calling _ _ _ _) head rfl
  · cases read

theorem kept_call (kept : Kept s) (called : s.call = some t) : Kept t := by
  unfold State.call at called
  split at called
  · rename_i e left full todo calling
    have all : s.run.pending = (RunThread.calling e (left + 1) full todo).pending := by
      rw [calling]
    have fewer := all ▸ pending_call e left full todo
    cases called
    by_cases null : e.func = none
    · rw [if_pos null]
      exact kept.quiet rfl fewer
    · rw [if_neg null]
      have head : e ∈ s.run.pending := by
        rw [all, RunThread.pending, if_pos (.inr ⟨Nat.succ_pos left, null⟩)]
        exact List.mem_cons_self
      exact kept.touch rfl fewer head rfl
  · cases called

theorem kept_step (kept : Kept s) (guard : Drained s act) (stepped : step s act = some t) :
    Kept t := by
  cases act with
  | request fd =>
      obtain ⟨-, stepped⟩ := Option.ite_none_left_eq_some.mp stepped
      cases stepped
      exact kept.quiet rfl (List.Subset.refl _)
  | add e =>
      obtain ⟨-, stepped⟩ := Option.ite_none_right_eq_some.mp stepped
      cases stepped
      refine ⟨kept.obeys.note fun fd touched => ?_, fun e' mem => ?_⟩
      · cases touched
      · refine (retired_note _ _ _).trans ?_
        dsimp only [Happening.retires]
        split
        · rfl
        · exact kept.pending e' mem
  | remove fd detaches =>
      obtain ⟨-, stepped⟩ := Option.ite_none_right_eq_some.mp stepped
      cases stepped
      exact kept.quiet rfl (List.Subset.refl _)
  | wake => exact kept_wake kept guard stepped
  | close =>
      dsimp only [step] at stepped
      split at stepped
      · cases stepped
        exact kept.quiet rfl (List.Subset.refl _)
      · cases stepped
  | snapshot =>
      obtain ⟨-, stepped⟩ := Option.ite_none_right_eq_some.mp stepped
      cases stepped
      exact kept.quiet rfl (List.nil_subset _)
  | poll readable =>
      dsimp only [step] at stepped
      split at stepped
      · rename_i snapshot polling
        obtain ⟨-, stepped⟩ := Option.ite_none_right_eq_some.mp stepped
        cases stepped
        refine ⟨kept.obeys, fun e mem => ?_⟩
        dsimp only at mem
        rw [pending_polled] at mem
        obtain ⟨mem, reported⟩ := List.mem_filter.mp mem
        exact guard e (by rw [polling]; exact mem) (of_decide_eq_true reported)
      · cases stepped
  | pollFailed interrupted =>
      dsimp only [step] at stepped
      split at stepped
      · cases stepped
        cases interrupted <;> exact kept.quiet rfl (List.nil_subset _)
      · cases stepped
  | readWake =>
      dsimp only [step] at stepped
      split at stepped
      · rename_i todo woken
        cases stepped
        exact kept.quiet rfl (by rw [woken]; exact List.Subset.refl _)
      · cases stepped
  | read count => exact kept_read kept stepped
  | call => exact kept_call kept stepped
  | called =>
      dsimp only [step] at stepped
      split at stepped
      · rename_i e full todo calling
        cases stepped
        refine kept.quiet rfl ?_
        rw [calling]
        cases full with
        | true => exact List.Subset.refl _
        | false => exact List.Subset.refl _
      · cases stepped
  | looped =>
      obtain ⟨-, stepped⟩ := Option.ite_none_right_eq_some.mp stepped
      cases stepped
      exact kept.quiet rfl (List.nil_subset _)

theorem kept_of_reachableUnder (reachable : machine.ReachableUnder Drained s) : Kept s := by
  refine reachable.invariant (fun _ init => ?_) fun _ _ _ kept guard stepped =>
    kept_step kept guard stepped
  cases init
  exact ⟨obeys_nil, List.forall_mem_nil _⟩

/-! ## A removed descriptor that is still to be drained -/

/-- `run_` reads on until it comes to the descriptor; the induction is on the entries it is still to
read. -/
theorem violation_draining (draining : s.run = .draining todo)
    (gone : ∃ e ∈ todo, retired s.log e.lineFd = true) :
    ∃ u, machine.Reach Drained s u ∧ ¬ Obeys u.log := by
  induction todo generalizing s with
  | nil =>
      obtain ⟨e, mem, -⟩ := gone
      exact absurd mem List.not_mem_nil
  | cons e todo ih =>
      have read : machine.step s (.read 0) =
          some { s.note (.read e.lineFd) with run := .draining todo } := by
        dsimp only [machine, step, State.read]
        rw [draining]
        exact if_pos rfl
      have first : machine.Reach Drained s { s.note (.read e.lineFd) with run := .draining todo } :=
        .single (l := .read 0) trivial read
      by_cases here : retired s.log e.lineFd = true
      · exact ⟨_, first, not_obeys_note rfl here⟩
      · obtain ⟨e', mem, gone⟩ := gone
        have later : e' ∈ todo := (List.mem_cons.mp mem).resolve_left fun same =>
          here (same ▸ gone)
        obtain ⟨u, rest, broken⟩ := ih (s := { s.note (.read e.lineFd) with
          run := .draining todo }) rfl ⟨e', later, (retired_note _ _ _).trans gone⟩
        exact ⟨u, first.trans rest, broken⟩

/-- It finishes its calls before; the induction is on how many there are. -/
theorem violation_calling {left : Nat} {full : Bool} (calling : s.run = .calling e left full todo)
    (gone : ∃ e' ∈ s.run.pending, retired s.log e'.lineFd = true) :
    ∃ u, machine.Reach Drained s u ∧ ¬ Obeys u.log := by
  induction left generalizing s with
  | zero =>
      have called : machine.step s .called =
          some { s with run := .draining (if full then e :: todo else todo) } := by
        dsimp only [machine, step]
        rw [calling]
        rfl
      obtain ⟨e', mem, gone⟩ := gone
      have again : e' ∈ if full then e :: todo else todo := by
        rw [calling] at mem
        cases full with
        | true => exact mem
        | false => exact mem
      obtain ⟨u, rest, broken⟩ := violation_draining (s := { s with
        run := .draining (if full then e :: todo else todo) }) rfl ⟨e', again, gone⟩
      exact ⟨u, (Machine.Reach.single (l := .called) trivial called).trans rest, broken⟩
  | succ left ih =>
      obtain ⟨e', mem, gone⟩ := gone
      rw [calling] at mem
      by_cases null : e.func = none
      · have call : machine.step s .call = some { s with run := .calling e left full todo } := by
          dsimp only [machine, step, State.call]
          rw [calling]
          dsimp only
          rw [if_pos null]
        have still : e' ∈ (RunThread.calling e left full todo).pending := by
          unfold RunThread.pending at mem ⊢
          simpa only [null, ne_eq, not_true_eq_false, and_false, or_false] using mem
        obtain ⟨u, rest, broken⟩ := ih (s := { s with run := .calling e left full todo }) rfl
          ⟨e', still, gone⟩
        exact ⟨u, (Machine.Reach.single (l := .call) trivial call).trans rest, broken⟩
      · have call : machine.step s .call =
            some { s.note (.called e) with run := .calling e left full todo } := by
          dsimp only [machine, step, State.call]
          rw [calling]
          dsimp only
          rw [if_neg null]
        have first := Machine.Reach.single (G := Drained) (l := .call) trivial call
        by_cases here : retired s.log e.lineFd = true
        · exact ⟨_, first, not_obeys_note rfl here⟩
        · have later : e' ∈ todo := (List.mem_cons.mp (pending_calling _ _ _ _ mem)).resolve_left
            fun same => here (same ▸ gone)
          have still : e' ∈ (RunThread.calling e left full todo).pending := by
            unfold RunThread.pending
            dsimp only
            split
            · exact List.mem_cons_of_mem _ later
            · exact later
          obtain ⟨u, rest, broken⟩ := ih (s := { s.note (.called e) with
            run := .calling e left full todo }) rfl ⟨e', still, (retired_note _ _ _).trans gone⟩
          exact ⟨u, first.trans rest, broken⟩

theorem violation_pending (gone : ∃ e ∈ s.run.pending, retired s.log e.lineFd = true) :
    ∃ u, machine.Reach Drained s u ∧ ¬ Obeys u.log := by
  cases run : s.run with
  | woken todo =>
      have readWake : machine.step s .readWake =
          some { s with pipe := s.pipe - BUF, run := .draining todo } := by
        dsimp only [machine, step]
        rw [run]
      rw [run] at gone
      obtain ⟨u, rest, broken⟩ := violation_draining (s := { s with
        pipe := s.pipe - BUF, run := .draining todo }) rfl gone
      exact ⟨u, (Machine.Reach.single (l := .readWake) trivial readWake).trans rest, broken⟩
  | draining todo =>
      rw [run] at gone
      exact violation_draining run gone
  | calling e left full todo => exact violation_calling run gone
  | _ =>
      obtain ⟨e, mem, -⟩ := gone
      rw [run] at mem
      exact absurd mem List.not_mem_nil

/-- **After a removed descriptor is reported, or a descriptor is removed too early, it can be read
or its function called.** -/
theorem violation_of_not_drained (late : ¬ Drained s act) (stepped : step s act = some t) :
    ∃ u, machine.Reach Drained t u ∧ ¬ Obeys u.log := by
  cases act with
  | poll readable =>
      obtain ⟨e, late⟩ := Classical.not_forall.mp late
      obtain ⟨mem, late⟩ := Classical.not_imp.mp late
      obtain ⟨reported, gone⟩ := Classical.not_imp.mp late
      dsimp only [step] at stepped
      split at stepped
      · rename_i snapshot polling
        obtain ⟨-, stepped⟩ := Option.ite_none_right_eq_some.mp stepped
        cases stepped
        refine violation_pending ⟨e, ?_, Bool.of_not_eq_false gone⟩
        dsimp only
        rw [pending_polled]
        rw [polling] at mem
        exact List.mem_filter.mpr ⟨mem, decide_eq_true reported⟩
      · cases stepped
  | wake =>
      obtain ⟨e, late⟩ := Classical.not_forall.mp late
      obtain ⟨mem, late⟩ := Classical.not_imp.mp late
      have removes := not_not.mp late
      dsimp only [step] at stepped
      unfold State.wake at stepped
      split at stepped
      · rename_i adding
        rw [adding] at removes
        cases removes
      · rename_i fd detaches removing
        rw [removing] at removes
        cases removes
        cases stepped
        exact violation_pending ⟨e, mem, (retired_note _ _ _).trans (if_pos rfl)⟩
      · cases stepped
  | _ => exact absurd trivial late

/-- **`run_` leaves removed descriptors alone as long as `poll` reports none and none is removed
while it is still to be drained; and after any other step the threads can go on so that it does
not.** -/
theorem obeys_iff_drained (reachable : machine.ReachableUnder Drained s) :
    Obeys s.log ∧ ∀ act t, machine.step s act = some t →
      (Drained s act ↔ ∀ u, machine.Reach Drained t u → Obeys u.log) :=
  Machine.weakest_guard (fun _ reachable => (kept_of_reachableUnder reachable).obeys)
    (fun _ _ _ _ late stepped => violation_of_not_drained late stepped) reachable

/-- An interrupt that is detached between two rounds. -/
def detachedIdle : List Act :=
  [.request 6, .add ⟨6, some 1, 2, 0, 0⟩, .wake, .snapshot, .poll [6], .readWake, .read 1, .call,
    .called, .looped, .snapshot, .remove 6 true, .wake, .poll [], .readWake, .looped, .close]

theorem obeys_detachedIdle : ∃ s, machine.run {} detachedIdle = some s ∧
    s.log = [.added 6, .read 6, .called ⟨6, some 1, 2, 0, 0⟩, .removed 6] ∧ Obeys s.log := by
  have replay : (machine.guarded Drained).run {} detachedIdle = some _ := rfl
  have reachable : machine.ReachableUnder Drained _ :=
    ⟨{}, rfl, Machine.run_guarded_reach replay⟩
  exact ⟨_, rfl, rfl, (obeys_iff_drained reachable).1⟩

/-- An interrupt that is detached while its event is being drained. -/
def detachedLate : List Act :=
  [.request 6, .add ⟨6, some 1, 2, 0, 0⟩, .wake, .snapshot, .poll [6], .readWake, .read 1,
    .remove 6 true, .wake, .close, .call]

theorem not_obeys_detachedLate : ∃ s, machine.Reachable s ∧
    s.log = [.added 6, .read 6, .removed 6, .called ⟨6, some 1, 2, 0, 0⟩] ∧ ¬ Obeys s.log := by
  have replay : machine.run {} detachedLate = some _ := rfl
  exact ⟨_, ⟨{}, rfl, Machine.run_reach replay⟩, rfl, not_obeys_note rfl rfl⟩

end AlertThread

end EsphomeHost.LinuxGpio

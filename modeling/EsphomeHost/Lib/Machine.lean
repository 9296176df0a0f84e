import Mathlib.Data.List.Basic

/-!
# Labelled machines and guarded reachability

A `Machine` is a deterministic labelled transition system: the label of a step carries every
choice the environment makes, so a finite list of labels replays one run (`Machine.run`).

* `Reach m G s t`: `t` is reached from `s` by steps whose source state and label all meet `G`.
  The trivial guard gives ordinary reachability; a stronger guard says "in every run whose steps
  all meet the condition".
* `Reachable m s` and `ReachableUnder m G s`: the same from an initial state.
* `Reach.invariant` is the induction every safety result uses: what one guarded step preserves,
  a guarded run preserves.
* `run_reach` turns a replayed label list into a reach, which is how a concrete failing run is
  exhibited.
* `throughout_iff_meets` is the rule for an exact condition: a property holds all along a run if
  and only if every step of the run meets the condition.  `throughout_and_meets_iff` is the same for
  a property of the states together with one of the steps.
* `weakest_guard` is the rule for a condition that a step breaks before the property fails: the
  steps that meet it are those after which the property can still be kept.
-/

universe u v w

/-- A deterministic machine; `step s l = none` means that `l` is not enabled in `s`. -/
structure Machine (σ : Type u) (ℓ : Type v) where
  init : σ → Prop
  step : σ → ℓ → Option σ

namespace Machine

variable {σ : Type u} {ℓ : Type v}

/-- The guard every step meets. -/
def anyStep : σ → ℓ → Prop := fun _ _ => True

/-- `t` is reached from `s` by steps that all meet the guard `G`. -/
inductive Reach (m : Machine σ ℓ) (G : σ → ℓ → Prop) (s : σ) : σ → Prop
  | refl : Reach m G s s
  | tail {t u : σ} {l : ℓ} : Reach m G s t → G t l → m.step t l = some u → Reach m G s u

/-- Some initial state reaches `s` by guarded steps. -/
def ReachableUnder (m : Machine σ ℓ) (G : σ → ℓ → Prop) (s : σ) : Prop :=
  ∃ s₀, m.init s₀ ∧ m.Reach G s₀ s

/-- Some initial state reaches `s`. -/
def Reachable (m : Machine σ ℓ) (s : σ) : Prop := m.ReachableUnder anyStep s

/-- Replay a list of labels. -/
def run (m : Machine σ ℓ) : σ → List ℓ → Option σ
  | s, [] => some s
  | s, l :: ls => (m.step s l).bind fun t => m.run t ls

section Reach

variable {m : Machine σ ℓ} {G H : σ → ℓ → Prop} {s t u : σ}

theorem Reach.single {l : ℓ} (guard : G s l) (step : m.step s l = some t) : m.Reach G s t :=
  .tail .refl guard step

theorem Reach.trans (left : m.Reach G s t) (right : m.Reach G t u) : m.Reach G s u := by
  induction right with
  | refl => exact left
  | tail _ guard step ih => exact .tail ih guard step

theorem Reach.mono (sub : ∀ s l, G s l → H s l) (reach : m.Reach G s t) : m.Reach H s t := by
  induction reach with
  | refl => exact .refl
  | tail _ guard step ih => exact .tail ih (sub _ _ guard) step

/-- **Invariant rule.** What every guarded step preserves, a guarded run preserves. -/
theorem Reach.invariant {I : σ → Prop}
    (preserved : ∀ s l t, I s → G s l → m.step s l = some t → I t)
    (reach : m.Reach G s t) (start : I s) : I t := by
  induction reach with
  | refl => exact start
  | tail _ guard step ih => exact preserved _ _ _ ih guard step

theorem ReachableUnder.invariant {I : σ → Prop} (start : ∀ s, m.init s → I s)
    (preserved : ∀ s l t, I s → G s l → m.step s l = some t → I t)
    (reachable : m.ReachableUnder G s) : I s := by
  obtain ⟨s₀, init, reach⟩ := reachable
  exact reach.invariant preserved (start s₀ init)

theorem ReachableUnder.tail {l : ℓ} (reachable : m.ReachableUnder G s) (guard : G s l)
    (step : m.step s l = some t) : m.ReachableUnder G t := by
  obtain ⟨s₀, init, reach⟩ := reachable
  exact ⟨s₀, init, .tail reach guard step⟩

theorem ReachableUnder.trans (reachable : m.ReachableUnder G s) (reach : m.Reach G s t) :
    m.ReachableUnder G t := by
  obtain ⟨s₀, init, first⟩ := reachable
  exact ⟨s₀, init, first.trans reach⟩

theorem ReachableUnder.mono (sub : ∀ s l, G s l → H s l)
    (reachable : m.ReachableUnder G s) : m.ReachableUnder H s := by
  obtain ⟨s₀, init, reach⟩ := reachable
  exact ⟨s₀, init, reach.mono sub⟩

theorem ReachableUnder.reachable (reachable : m.ReachableUnder G s) : m.Reachable s :=
  reachable.mono fun _ _ _ => trivial

/-! ## Replayed runs -/

theorem run_reach {ls : List ℓ} (replay : m.run s ls = some t) : m.Reach anyStep s t := by
  induction ls generalizing s with
  | nil =>
      cases replay
      exact .refl
  | cons l ls ih =>
      obtain ⟨mid, step, rest⟩ := Option.bind_eq_some_iff.mp replay
      exact (Reach.single trivial step).trans (ih rest)

/-- A replayed run that ends in a state with a decidable property exhibits a reach to it. -/
theorem reach_of_run {ls : List ℓ} {p : σ → Bool} (replay : (m.run s ls).map p = some true) :
    ∃ t, m.Reach anyStep s t ∧ p t = true := by
  obtain ⟨t, ran, holds⟩ := Option.map_eq_some_iff.mp replay
  exact ⟨t, run_reach ran, holds⟩

/-- The machine with the guard built into its steps, so that a guarded run can be replayed. -/
def guarded (m : Machine σ ℓ) (G : σ → ℓ → Prop) [∀ s l, Decidable (G s l)] : Machine σ ℓ where
  init := m.init
  step s l := if G s l then m.step s l else none

theorem run_guarded_reach [∀ s l, Decidable (G s l)] {ls : List ℓ}
    (replay : (m.guarded G).run s ls = some t) : m.Reach G s t := by
  induction ls generalizing s with
  | nil =>
      cases replay
      exact .refl
  | cons l ls ih =>
      obtain ⟨mid, step, rest⟩ := Option.bind_eq_some_iff.mp replay
      obtain ⟨guard, step⟩ := Option.ite_none_right_eq_some.mp step
      exact (Reach.single guard step).trans (ih rest)

end Reach

/-! ## Exact conditions -/

/-- `P` holds in every state of the run `ls` from `s`. -/
def Throughout (m : Machine σ ℓ) (P : σ → Prop) : σ → List ℓ → Prop
  | s, [] => P s
  | s, l :: ls => P s ∧ ∀ t, m.step s l = some t → m.Throughout P t ls

/-- Every step of the run `ls` from `s` meets `G`. -/
def Meets (m : Machine σ ℓ) (G : σ → ℓ → Prop) : σ → List ℓ → Prop
  | _, [] => True
  | s, l :: ls => ∀ t, m.step s l = some t → G s l ∧ m.Meets G t ls

/-- Whether the steps of a run meet a condition can be computed. -/
instance decidableMeets (m : Machine σ ℓ) (G : σ → ℓ → Prop) [∀ s l, Decidable (G s l)] :
    (s : σ) → (ls : List ℓ) → Decidable (m.Meets G s ls)
  | _, [] => isTrue trivial
  | s, l :: ls =>
      have := fun t => decidableMeets m G t ls
      inferInstanceAs (Decidable (∀ t ∈ m.step s l, G s l ∧ m.Meets G t ls))

section Exact

variable {m : Machine σ ℓ} {G : σ → ℓ → Prop} {P I : σ → Prop} {s t : σ}

theorem Throughout.start {ls : List ℓ} (throughout : m.Throughout P s ls) : P s := by
  cases ls with
  | nil => exact throughout
  | cons => exact throughout.1

/-- A run that replays and has `P` throughout ends in `P`. -/
theorem Throughout.last {ls : List ℓ} (throughout : m.Throughout P s ls)
    (replay : m.run s ls = some t) : P t := by
  induction ls generalizing s with
  | nil =>
      cases replay
      exact throughout
  | cons l ls ih =>
      obtain ⟨mid, step, rest⟩ := Option.bind_eq_some_iff.mp replay
      exact ih (throughout.2 mid step) rest

/-- **Exact conditions on states and steps.**  If guarded steps keep `P` and have `R`, with an
invariant `I` to help, and every other step that has `R` breaks `P`, then `P` holds throughout and
the steps have `R` exactly in the runs whose steps all meet the guard. -/
theorem throughout_and_meets_iff {R : σ → ℓ → Prop}
    (keeps : ∀ s l t, I s → P s → G s l → m.step s l = some t → R s l ∧ I t ∧ P t)
    (breaks : ∀ s l t, I s → P s → ¬ G s l → m.step s l = some t → R s l → ¬ P t)
    (inv : I s) (start : P s) (ls : List ℓ) :
    m.Throughout P s ls ∧ m.Meets R s ls ↔ m.Meets G s ls := by
  induction ls generalizing s with
  | nil => exact ⟨fun _ => trivial, fun _ => ⟨start, trivial⟩⟩
  | cons l ls ih =>
      constructor
      · rintro ⟨throughout, meets⟩ t step
        obtain ⟨related, meets⟩ := meets t step
        have after : P t := (throughout.2 t step).start
        have guard : G s l := by
          by_contra broken
          exact breaks s l t inv start broken step related after
        obtain ⟨-, inv', -⟩ := keeps s l t inv start guard step
        exact ⟨guard, (ih inv' after).mp ⟨throughout.2 t step, meets⟩⟩
      · intro meets
        refine ⟨⟨start, fun t step => ?_⟩, fun t step => ?_⟩
        · obtain ⟨guard, rest⟩ := meets t step
          obtain ⟨-, inv', after⟩ := keeps s l t inv start guard step
          exact ((ih inv' after).mpr rest).1
        · obtain ⟨guard, rest⟩ := meets t step
          obtain ⟨related, inv', after⟩ := keeps s l t inv start guard step
          exact ⟨related, ((ih inv' after).mpr rest).2⟩

theorem Meets.of_forall {ls : List ℓ} (all : ∀ s l, G s l) : m.Meets G s ls := by
  induction ls generalizing s with
  | nil => trivial
  | cons l ls ih => exact fun t _ => ⟨all s l, ih⟩

/-- **Exact conditions.**  If guarded steps keep `P`, with an invariant `I` to help, and every
other step breaks it, then `P` holds throughout exactly the runs whose steps all meet the guard. -/
theorem throughout_iff_meets
    (keeps : ∀ s l t, I s → P s → G s l → m.step s l = some t → I t ∧ P t)
    (breaks : ∀ s l t, I s → P s → ¬ G s l → m.step s l = some t → ¬ P t)
    (inv : I s) (start : P s) (ls : List ℓ) : m.Throughout P s ls ↔ m.Meets G s ls := by
  rw [← throughout_and_meets_iff (R := fun _ _ => True)
    (fun s l t inv start guard step => ⟨trivial, keeps s l t inv start guard step⟩)
    (fun s l t inv start broken step _ => breaks s l t inv start broken step) inv start]
  exact (and_iff_left (Meets.of_forall fun _ _ => trivial)).symm

/-- **Weakest guards.**  If a guarded run keeps `P`, and after any other step of it a guarded run
breaks `P`, then the guard holds of exactly the steps after which guarded runs keep `P`. -/
theorem weakest_guard (safe : ∀ s, m.ReachableUnder G s → P s)
    (doomed : ∀ s l t, m.ReachableUnder G s → ¬ G s l → m.step s l = some t →
      ∃ u, m.Reach G t u ∧ ¬ P u)
    (reachable : m.ReachableUnder G s) :
    P s ∧ ∀ l t, m.step s l = some t → (G s l ↔ ∀ u, m.Reach G t u → P u) := by
  refine ⟨safe s reachable, fun l t step => ⟨fun guard u rest => ?_, fun keeps => ?_⟩⟩
  · exact safe u ((reachable.tail guard step).trans rest)
  · by_contra broken
    obtain ⟨u, rest, fails⟩ := doomed s l t reachable broken step
    exact fails (keeps u rest)

end Exact

end Machine

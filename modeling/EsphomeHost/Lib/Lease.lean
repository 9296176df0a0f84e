import Mathlib.Data.List.Count

/-!
# Resources that are given back

A log of what is done to resources, each of them acquired, used and released by name.  `hold` walks
the log and refuses what is not allowed: to acquire what is held, to use or to release what is not.

* `hold_append` and `hold_concat`: a log is walked in parts.
* `count_hold`: **of an allowed log that starts and ends with nothing held, every resource is
  released as often as it is acquired**.
-/

namespace EsphomeHost.Lease

inductive Event (ρ : Type)
  | acquire (r : ρ)
  | use (r : ρ)
  | release (r : ρ)
  deriving DecidableEq

variable {ρ : Type} [DecidableEq ρ]

/-- What is held after one event. -/
def holdOne (held : List ρ) : Event ρ → Option (List ρ)
  | .acquire r => if r ∈ held then none else some (r :: held)
  | .use r => if r ∈ held then some held else none
  | .release r => if r ∈ held then some (held.erase r) else none

/-- What is held after the events. -/
def hold : List ρ → List (Event ρ) → Option (List ρ)
  | held, [] => some held
  | held, e :: es => (holdOne held e).bind fun held => hold held es

variable {held held' : List ρ} {es : List (Event ρ)} {r : ρ}

theorem hold_append (es es' : List (Event ρ)) :
    hold held (es ++ es') = (hold held es).bind fun held => hold held es' := by
  induction es generalizing held with
  | nil => rfl
  | cons e es ih =>
      rw [List.cons_append, hold, hold, Option.bind_assoc]
      exact congrArg (holdOne held e).bind (funext fun _ => ih)

/-- One entry more, of a log whose entries each do something to the resources. -/
theorem hold_concat {γ : Type} {lease : γ → List (Event ρ)} {log : List γ} {c : γ}
    {start : List ρ} (before : hold start (log.flatMap lease) = some held)
    (after : hold held (lease c) = some held') :
    hold start ((log ++ [c]).flatMap lease) = some held' := by
  rw [List.flatMap_append, hold_append, before, List.flatMap_singleton]
  exact after

/-- Using what is held changes nothing. -/
theorem hold_uses (uses : ∀ e ∈ es, ∃ r ∈ held, e = .use r) : hold held es = some held := by
  induction es with
  | nil => rfl
  | cons e es ih =>
      obtain ⟨⟨r, mem, rfl⟩, later⟩ := List.forall_mem_cons.mp uses
      rw [hold, holdOne, if_pos mem]
      exact ih later

theorem count_holdOne {e : Event ρ} (allowed : holdOne held e = some held') (r : ρ) :
    held'.count r + [e].count (.release r) = held.count r + [e].count (.acquire r) := by
  cases e with
  | acquire s =>
      obtain ⟨-, same⟩ := Option.ite_none_left_eq_some.mp allowed
      cases same
      by_cases own : s = r
      · simp [own]
      · simp [own]
  | use s =>
      obtain ⟨-, same⟩ := Option.ite_none_right_eq_some.mp allowed
      cases same
      simp
  | release s =>
      obtain ⟨mem, same⟩ := Option.ite_none_right_eq_some.mp allowed
      cases same
      by_cases own : s = r
      · subst own
        have positive := List.count_pos_iff.mpr mem
        simp only [List.count_erase_self, List.count_singleton, beq_self_eq_true, if_true]
        simp
        omega
      · simp [List.count_erase_of_ne (Ne.symm own), own]

/-- **Acquired and released.** -/
theorem count_hold (allowed : hold held es = some held') (r : ρ) :
    held'.count r + es.count (.release r) = held.count r + es.count (.acquire r) := by
  induction es generalizing held with
  | nil =>
      cases allowed
      rfl
  | cons e es ih =>
      obtain ⟨mid, first, rest⟩ := Option.bind_eq_some_iff.mp allowed
      have here := count_holdOne first r
      have later := ih rest
      rw [← List.singleton_append, List.count_append, List.count_append]
      omega

end EsphomeHost.Lease

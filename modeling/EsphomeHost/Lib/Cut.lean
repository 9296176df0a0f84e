import Mathlib.Data.List.Basic

/-!
# Cutting a list at the first occurrence of a pattern

`cut pat s` is what stands before and after the first occurrence of `pat` in `s`: a search together
with the two substrings it is made for.

* `cut_append`: what stands before a place where the pattern cannot begin is skipped.
* `cut_eq_none_of_short`: an occurrence that ends outside a prefix is not found in it.
* `cut_behind`: what ends a list that does not contain the pattern is found there.
* `split pat s` is what stands between the occurrences, one search after another.
-/

namespace Cut

variable {α : Type} [DecidableEq α]

def cut (pat : List α) : List α → Option (List α × List α)
  | [] => if pat = [] then some ([], []) else none
  | x :: s =>
      if pat <+: x :: s then some ([], (x :: s).drop pat.length)
      else (cut pat s).map fun r => (x :: r.1, r.2)

variable {pat s t a b : List α} {x : α}

theorem cut_at_start (here : pat <+: s) : cut pat s = some ([], s.drop pat.length) := by
  cases s with
  | nil =>
      obtain rfl := List.prefix_nil.mp here
      rfl
  | cons x s => exact if_pos here

theorem cut_cons (elsewhere : ¬ pat <+: x :: s) :
    cut pat (x :: s) = (cut pat s).map fun r => (x :: r.1, r.2) := if_neg elsewhere

/-- The parts and the pattern make the list again. -/
theorem eq_of_cut (found : cut pat s = some (a, b)) : s = a ++ pat ++ b := by
  induction s generalizing a with
  | nil =>
      obtain ⟨empty, found⟩ := Option.ite_none_right_eq_some.mp found
      cases found
      rw [empty]
      rfl
  | cons x s ih =>
      by_cases here : pat <+: x :: s
      · rw [cut_at_start here] at found
        cases found
        exact List.prefix_iff_eq_append.mp here |>.symm
      · rw [cut_cons here] at found
        obtain ⟨⟨a', b'⟩, inner, same⟩ := Option.map_eq_some_iff.mp found
        cases same
        rw [ih inner]
        rfl

theorem length_of_cut (found : cut pat s = some (a, b)) :
    s.length = a.length + pat.length + b.length := by
  rw [eq_of_cut found, List.length_append, List.length_append]

/-- What stands where the pattern cannot begin is skipped. -/
theorem cut_append (elsewhere : ∀ i < a.length, ¬ pat <+: (a ++ s).drop i) :
    cut pat (a ++ s) = (cut pat s).map fun r => (a ++ r.1, r.2) := by
  induction a with
  | nil => simp
  | cons x a ih =>
      have first := elsewhere 0 (by simp)
      have rest : ∀ i < a.length, ¬ pat <+: (a ++ s).drop i := fun i inside =>
        elsewhere (i + 1) (by simpa using inside)
      rw [List.cons_append, cut_cons (by simpa using first), ih rest, Option.map_map]
      rfl

/-- A prefix without the first element of the pattern is skipped. -/
theorem cut_of_not_mem {p : List α} (fresh : x ∉ a) :
    cut (x :: p) (a ++ s) = (cut (x :: p) s).map fun r => (a ++ r.1, r.2) := by
  refine cut_append fun i inside here => fresh ?_
  obtain ⟨rest, here⟩ := here
  have first : (a ++ s)[i]? = some x := by
    rw [← List.head?_drop, ← here]
    rfl
  rw [List.getElem?_append_left inside] at first
  exact List.mem_of_getElem? first

theorem cut_here {p : List α} (fresh : x ∉ a) :
    cut (x :: p) (a ++ (x :: p ++ s)) = some (a, s) := by
  rw [cut_of_not_mem fresh, cut_at_start (List.prefix_append _ _)]
  simp

theorem cut_eq_none {p : List α} (fresh : x ∉ s) : cut (x :: p) s = none := by
  have skipped := @cut_of_not_mem α _ [] s x p fresh
  rw [List.append_nil] at skipped
  exact skipped

/-- The search does not miss an occurrence. -/
theorem cut_ne_none (a b : List α) : cut pat (a ++ (pat ++ b)) ≠ none := by
  induction a with
  | nil =>
      rw [List.nil_append, cut_at_start (List.prefix_append _ _)]
      exact nofun
  | cons x a ih =>
      by_cases here : pat <+: x :: (a ++ (pat ++ b))
      · rw [List.cons_append, cut_at_start here]
        exact nofun
      · rw [List.cons_append, cut_cons here]
        exact fun missing => ih (Option.map_eq_none_iff.mp missing)

/-- A pattern is found exactly if it occurs. -/
theorem cut_isSome_iff : (cut pat s).isSome ↔ pat <:+: s := by
  constructor
  · intro found
    obtain ⟨⟨a, b⟩, found⟩ := Option.isSome_iff_exists.mp found
    exact ⟨a, b, (eq_of_cut found).symm⟩
  · rintro ⟨a, b, rfl⟩
    rw [List.append_assoc, Option.isSome_iff_ne_none]
    exact cut_ne_none a b

/-- What stands before a single element does not contain it. -/
theorem not_mem_of_cut (found : cut [x] s = some (a, b)) : x ∉ a := by
  induction s generalizing a with
  | nil => cases found
  | cons y s ih =>
      by_cases here : [x] <+: y :: s
      · rw [cut_at_start here] at found
        cases found
        exact List.not_mem_nil
      · rw [cut_cons here] at found
        obtain ⟨⟨a', b'⟩, inner, same⟩ := Option.map_eq_some_iff.mp found
        cases same
        intro mem
        rcases List.mem_cons.mp mem with rfl | mem
        · exact here (List.cons_prefix_cons.mpr ⟨rfl, List.nil_prefix⟩)
        · exact ih inner mem

/-- A single element is found exactly if it occurs. -/
theorem cut_singleton_eq_none : cut [x] s = none ↔ x ∉ s := by
  constructor
  · intro missing mem
    obtain ⟨a, b, rfl⟩ := List.append_of_mem mem
    exact @cut_ne_none α _ [x] a b missing
  · exact cut_eq_none

/-- More behind the list does not move the first occurrence. -/
theorem cut_append_right (found : cut pat s = some (a, b)) :
    cut pat (s ++ t) = some (a, b ++ t) := by
  induction s generalizing a with
  | nil =>
      obtain ⟨empty, found⟩ := Option.ite_none_right_eq_some.mp found
      cases found
      rw [empty]
      exact cut_at_start List.nil_prefix
  | cons x s ih =>
      by_cases here : pat <+: x :: s
      · rw [cut_at_start here] at found
        cases found
        rw [cut_at_start (here.trans (List.prefix_append _ _)),
          List.drop_append_of_le_length here.length_le]
      · have short := found
        rw [cut_cons here] at found
        obtain ⟨⟨a', b'⟩, inner, same⟩ := Option.map_eq_some_iff.mp found
        cases same
        have later : ¬ pat <+: x :: (s ++ t) := by
          intro early
          refine here ?_
          have fits : pat.length ≤ (x :: s).length := by
            rw [length_of_cut short]
            omega
          rw [← List.cons_append] at early
          exact List.prefix_of_prefix_length_le early (List.prefix_append _ _) fits
        rw [List.cons_append, cut_cons later, ih inner]
        rfl

/-- An occurrence that ends outside a prefix is not found in it. -/
theorem cut_eq_none_of_short (found : cut pat (s ++ t) = some (a, b))
    (short : s.length < a.length + pat.length) : cut pat s = none := by
  cases early : cut pat s with
  | none => rfl
  | some r =>
      obtain ⟨a', b'⟩ := r
      rw [cut_append_right early] at found
      cases found
      have whole := length_of_cut early
      omega

/-- An occurrence that ends inside a prefix is found in it. -/
theorem cut_of_long (found : cut pat (s ++ t) = some (a, b))
    (long : a.length + pat.length ≤ s.length) :
    ∃ early, b = early ++ t ∧ cut pat s = some (a, early) := by
  cases first : cut pat s with
  | some r =>
      obtain ⟨a', b'⟩ := r
      rw [cut_append_right first] at found
      cases found
      exact ⟨b', rfl, rfl⟩
  | none =>
      have whole := eq_of_cut found
      have inside : a ++ pat <+: s := by
        refine @List.prefix_of_prefix_length_le _ _ _ (s ++ t) ?_ (List.prefix_append _ _) ?_
        · rw [whole]
          exact List.prefix_append _ _
        · rw [List.length_append]
          exact long
      obtain ⟨rest, rfl⟩ := inside
      rw [List.append_assoc] at first
      exact absurd first (cut_ne_none a rest)

theorem cut_eq_none_of_append (missing : cut pat (s ++ t) = none) : cut pat s = none := by
  cases early : cut pat s with
  | none => rfl
  | some r =>
      rw [cut_append_right early] at missing
      cases missing

/-- A pattern that does not contain its first element again is found behind a list that does not
contain it: an occurrence that starts in the list would have to end there. -/
theorem cut_behind {p : List α} (once : x ∉ p) (missing : cut (x :: p) a = none) :
    cut (x :: p) (a ++ (x :: p ++ s)) = some (a, s) := by
  have elsewhere : ∀ i < a.length, ¬ x :: p <+: (a ++ (x :: p ++ s)).drop i := by
    intro i inside here
    rw [List.drop_append_of_le_length (by omega)] at here
    by_cases fits : (x :: p).length ≤ (a.drop i).length
    · obtain ⟨rest, early⟩ :=
        List.prefix_of_prefix_length_le here (List.prefix_append _ _) fits
      have whole : a = a.take i ++ (x :: p ++ rest) := by
        rw [early, List.take_append_drop]
      exact cut_ne_none (a.take i) rest (whole ▸ missing)
    · -- The first element of the pattern stands again where the list ends.
      obtain ⟨rest, same⟩ := here
      have next : (x :: p ++ rest)[(a.drop i).length]? = some x := by
        rw [same, List.getElem?_append_right (Nat.le_refl _), Nat.sub_self]
        rfl
      have size : (a.drop i).length = a.length - i := List.length_drop
      rw [List.getElem?_append_left (by omega)] at next
      obtain ⟨k, last⟩ := Nat.exists_eq_succ_of_ne_zero (show (a.drop i).length ≠ 0 by omega)
      rw [last, List.getElem?_cons_succ] at next
      exact once (List.mem_of_getElem? next)
  rw [cut_append elsewhere, cut_at_start (List.prefix_append _ _)]
  simp

theorem cut_eq_none_of_suffix (missing : cut pat (a ++ s) = none) : cut pat s = none := by
  cases found : cut pat s with
  | none => rfl
  | some r =>
      rw [eq_of_cut found, List.append_assoc, ← List.append_assoc a] at missing
      exact absurd missing (cut_ne_none _ _)

/-- What stands before, between and behind the occurrences of a pattern. -/
def split (pat s : List α) : List (List α) :=
  match _found : cut pat s with
  | none => [s]
  | some (a, b) => if pat = [] then [s] else a :: split pat b
termination_by s.length
decreasing_by
  have size := length_of_cut _found
  have some : pat.length ≠ 0 := by rwa [Ne, List.length_eq_zero_iff]
  omega

theorem split_of_none (missing : cut pat s = none) : split pat s = [s] := by
  rw [split]
  split
  · rfl
  · rename_i found
    rw [missing] at found
    cases found

theorem split_of_some (nonempty : pat ≠ []) (found : cut pat s = some (a, b)) :
    split pat s = a :: split pat b := by
  rw [split]
  split
  · rename_i missing
    rw [found] at missing
    cases missing
  · rename_i found'
    rw [found] at found'
    cases found'
    exact if_neg nonempty

end Cut

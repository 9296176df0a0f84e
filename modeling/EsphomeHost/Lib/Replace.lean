import EsphomeHost.Lib.Cut

/-!
# Replacing a pattern

`replaceAll` replaces the occurrences of a pattern from the left, and goes on behind each of them;
`replaceFirst` replaces the first one.

* `replaceAll_of_cut`: the first occurrence, and what is done behind it.
* `occurrences_induction`: an induction that goes from one occurrence to the next.
-/

namespace Replace

open Cut

variable {α : Type} [DecidableEq α]

def contains (pat s : List α) : Bool := (cut pat s).isSome

theorem contains_iff {pat s : List α} : contains pat s = true ↔ pat <:+: s := cut_isSome_iff

/-- The scan; the first `skip` elements belong to an occurrence that has been replaced. -/
def replaceFrom (old new : List α) : Nat → List α → List α
  | _, [] => []
  | skip + 1, _ :: s => replaceFrom old new skip s
  | 0, x :: s =>
      if old <+: x :: s then new ++ replaceFrom old new (old.length - 1) s
      else x :: replaceFrom old new 0 s

/-- Every occurrence of a pattern that is not empty. -/
def replaceAll (old new s : List α) : List α := replaceFrom old new 0 s

def replaceFirst (old new s : List α) : List α :=
  match cut old s with
  | some (a, b) => a ++ new ++ b
  | none => s

variable {old new s a b : List α}

theorem replaceFrom_skip (skip : Nat) :
    replaceFrom old new skip s = replaceAll old new (s.drop skip) := by
  induction skip generalizing s with
  | zero => rfl
  | succ skip ih =>
      cases s with
      | nil => rfl
      | cons x s => exact ih

theorem replaceAll_nil : replaceAll old new [] = [] := rfl

theorem replaceAll_cons {x : α} (elsewhere : ¬ old <+: x :: s) :
    replaceAll old new (x :: s) = x :: replaceAll old new s := if_neg elsewhere

theorem replaceAll_here (nonempty : old ≠ []) (here : old <+: s) :
    replaceAll old new s = new ++ replaceAll old new (s.drop old.length) := by
  cases s with
  | nil => exact absurd (List.prefix_nil.mp here) nonempty
  | cons x s =>
      obtain ⟨n, size⟩ := Nat.exists_eq_succ_of_ne_zero
        (mt List.length_eq_zero_iff.mp nonempty)
      have first : replaceAll old new (x :: s) =
          new ++ replaceFrom old new (old.length - 1) s := if_pos here
      rw [first, replaceFrom_skip, size]
      rfl

/-- Where the pattern does not occur nothing is replaced. -/
theorem replaceAll_of_cut_none (missing : cut old s = none) : replaceAll old new s = s := by
  induction s with
  | nil => rfl
  | cons x s ih =>
      by_cases here : old <+: x :: s
      · rw [cut_at_start here] at missing
        cases missing
      · rw [cut_cons here, Option.map_eq_none_iff] at missing
        rw [replaceAll_cons here, ih missing]

/-- The first occurrence is replaced, and what stands behind it is treated alike. -/
theorem replaceAll_of_cut (nonempty : old ≠ []) (found : cut old s = some (a, b)) :
    replaceAll old new s = a ++ new ++ replaceAll old new b := by
  induction s generalizing a with
  | nil => exact absurd (Option.ite_none_right_eq_some.mp found).1 nonempty
  | cons x s ih =>
      by_cases here : old <+: x :: s
      · rw [cut_at_start here] at found
        cases found
        exact replaceAll_here nonempty here
      · rw [cut_cons here] at found
        obtain ⟨⟨a', b'⟩, inner, same⟩ := Option.map_eq_some_iff.mp found
        cases same
        rw [replaceAll_cons here, ih inner]
        rfl

/-- An induction over the occurrences. -/
theorem occurrences_induction {P : List α → Prop} (nonempty : old ≠ [])
    (none : ∀ s, cut old s = none → P s)
    (some : ∀ s a b, cut old s = some (a, b) → (∀ r, r <:+ b → P r) → P s) (s : List α) :
    P s := by
  induction size : s.length using Nat.strongRecOn generalizing s with
  | _ n ih =>
      cases found : cut old s with
      | none => exact none s found
      | some r =>
          obtain ⟨a, b⟩ := r
          have shorter := length_of_cut found
          have long := List.length_pos_iff.mpr nonempty
          refine some s a b found fun r behind => ih r.length ?_ r rfl
          have inside := behind.length_le
          omega

/-- What is in neither the text nor the new pattern is not in the result. -/
theorem not_mem_replaceAll (nonempty : old ≠ []) {x : α} (fresh : x ∉ new) (s : List α) :
    x ∉ s → x ∉ replaceAll old new s := by
  induction s using occurrences_induction nonempty with
  | none s missing =>
      rw [replaceAll_of_cut_none missing]
      exact id
  | some s a b found ih =>
      rw [replaceAll_of_cut nonempty found, eq_of_cut found]
      simp only [List.mem_append, not_or]
      rintro ⟨⟨before, -⟩, behind⟩
      exact ⟨⟨before, fresh⟩, ih b List.suffix_rfl behind⟩

theorem not_mem_replaceFirst {x : α} (fresh : x ∉ new) (absent : x ∉ s) :
    x ∉ replaceFirst old new s := by
  unfold replaceFirst
  split
  · next found =>
      rw [eq_of_cut found] at absent
      simp only [List.mem_append, not_or] at absent ⊢
      exact ⟨⟨absent.1.1, fresh⟩, absent.2⟩
  · exact absent

/-- The new pattern is in the result. -/
theorem contains_replaceFirst (here : contains old s = true) {part : List α}
    (inside : part <:+: new) : contains part (replaceFirst old new s) = true := by
  obtain ⟨⟨a, b⟩, found⟩ := Option.isSome_iff_exists.mp here
  rw [contains_iff, replaceFirst, found]
  exact inside.trans ⟨a, b, rfl⟩

end Replace

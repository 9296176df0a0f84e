import Mathlib.Data.List.Nodup

/-!
# Stable sorting

`StablySorted key l sorted`: `sorted` has the elements of `l` in ascending order of `key`, and those
of one key in the order they have in `l`.  Merge sort computes it (`stablySorted_mergeSort`),
elements may be left out of both (`filter`), and where no key occurs twice the order of `l` does not
matter (`eq_of_perm`).
-/

namespace StableSort

universe u v

variable {α : Type u} {κ : Type v} [LE κ] [DecidableEq κ]

structure StablySorted (key : α → κ) (l sorted : List α) : Prop where
  perm : sorted.Perm l
  ascending : sorted.Pairwise fun a b => key a ≤ key b
  stable : ∀ k, sorted.filter (fun a => key a = k) = l.filter fun a => key a = k

variable {key : α → κ} {l l' sorted sorted' : List α}

theorem StablySorted.filter (stably : StablySorted key l sorted) (p : α → Bool) :
    StablySorted key (l.filter p) (sorted.filter p) where
  perm := stably.perm.filter p
  ascending := stably.ascending.filter p
  stable k := by
    have kept := congrArg (List.filter p) (stably.stable k)
    rwa [List.filter_comm _ _ sorted, List.filter_comm _ _ l] at kept

variable [Std.IsLinearOrder κ]

/-- Where no key occurs twice, sorting forgets the order. -/
theorem eq_of_perm (distinct : (l.map key).Nodup) (perm : l.Perm l')
    (stably : StablySorted key l sorted) (stably' : StablySorted key l' sorted') :
    sorted = sorted' := by
  have nodup : (sorted.map key).Nodup := (stably.perm.map key).nodup_iff.mpr distinct
  refine List.Perm.eq_of_pairwise (fun a b first second le ge => ?_) stably.ascending
    stably'.ascending (stably.perm.trans (perm.trans stably'.perm.symm))
  have listed : b ∈ sorted := stably.perm.mem_iff.mpr (perm.mem_iff.mpr
    (stably'.perm.mem_iff.mp second))
  exact List.inj_on_of_nodup_map nodup first listed (Std.le_antisymm le ge)

variable [DecidableLE κ]

/-- **Merge sort is stable.** -/
theorem stablySorted_mergeSort (key : α → κ) (l : List α) :
    StablySorted key l (l.mergeSort fun a b => decide (key a ≤ key b)) := by
  have trans : ∀ a b c : α, decide (key a ≤ key b) = true → decide (key b ≤ key c) = true →
      decide (key a ≤ key c) = true := fun a b c first second =>
    decide_eq_true (Std.le_trans (of_decide_eq_true first) (of_decide_eq_true second))
  have total : ∀ a b : α, (decide (key a ≤ key b) || decide (key b ≤ key a)) = true := by
    intro a b
    simpa using Std.le_total
  refine ⟨List.mergeSort_perm l _, ?_, fun k => ?_⟩
  · exact (List.pairwise_mergeSort trans total l).imp of_decide_eq_true
  · have same : (l.filter fun a => key a = k).Pairwise
        fun a b => decide (key a ≤ key b) = true := by
      refine List.pairwise_of_forall_mem_list fun a first b second => decide_eq_true ?_
      rw [of_decide_eq_true (List.mem_filter.mp first).2,
        of_decide_eq_true (List.mem_filter.mp second).2]
      exact Std.le_refl k
    have kept := (List.sublist_mergeSort trans total same List.filter_sublist).filter
      fun a => decide (key a = k)
    rw [List.filter_filter, List.filter_congr (q := fun a => decide (key a = k))
      fun a _ => Bool.and_self _] at kept
    exact (kept.eq_of_length ((List.mergeSort_perm l _).filter _).length_eq.symm).symm

end StableSort

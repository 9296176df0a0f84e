import Mathlib.Data.List.Nodup
import Mathlib.Data.List.Perm.Basic
import Mathlib.Logic.Function.Basic

/-!
# Lists with distinct keys

A registry kept as a list: entries are found by scanning for the first one with a key, and a table
from keys to values is filled from it entry by entry.  When keys do not repeat, first means only.

* `modify_first`: changing the first entry with a key changes the entry with that key.
* `toList_find?`: there is no other entry with the key of the first.
* `find?_eq_some_iff`: looking a key up is looking for an entry that has it, in any order.
* `swapRemove_perm`: removing the first entry with a key by moving the last one there removes the
  entry with that key.
* `foldl_update`: a filled table has the value of each entry under its key.
-/

namespace Keyed

variable {α κ β : Type} [DecidableEq κ] {key : α → κ} {l : List α}

/-- Where no entry has the key there is nothing to change. -/
theorem map_of_fresh {k : κ} (f : α → α) (fresh : k ∉ l.map key) :
    (l.map fun a => if key a = k then f a else a) = l := by
  induction l with
  | nil => rfl
  | cons a l ih =>
      obtain ⟨ne, fresh⟩ := List.ne_and_not_mem_of_not_mem_cons fresh
      rw [List.map_cons, if_neg ne.symm, ih fresh]

theorem fresh_of_not_found {k : κ} (missing : l.findIdx? (fun a => decide (key a = k)) = none) :
    k ∉ l.map key := by
  intro mem
  obtain ⟨a, mem, same⟩ := List.mem_map.mp mem
  have differs := List.findIdx?_eq_none_iff.mp missing a mem
  exact absurd same (of_decide_eq_false differs)

/-- Changing the first entry with a key changes every entry that has it. -/
theorem modify_first (distinct : (l.map key).Nodup) {k : κ} {i : Nat} (f : α → α)
    (found : l.findIdx? (fun a => decide (key a = k)) = some i) :
    l.modify i f = l.map fun a => if key a = k then f a else a := by
  induction l generalizing i with
  | nil => cases found
  | cons a l ih =>
      obtain ⟨fresh, distinct⟩ := List.nodup_cons.mp distinct
      rw [List.findIdx?_cons] at found
      by_cases here : key a = k
      · rw [if_pos (decide_eq_true here)] at found
        cases found
        rw [List.modify_zero_cons, List.map_cons, if_pos here, map_of_fresh f (here ▸ fresh)]
      · rw [if_neg (by simpa using here)] at found
        obtain ⟨j, later, rfl⟩ := Option.map_eq_some_iff.mp found
        rw [List.modify_succ_cons, List.map_cons, if_neg here, ih distinct later]

/-- The entries with a key are the first one that has it. -/
theorem toList_find? (distinct : (l.map key).Nodup) (k : κ) :
    (l.find? fun a => decide (key a = k)).toList = l.filter fun a => decide (key a = k) := by
  induction l with
  | nil => rfl
  | cons a l ih =>
      obtain ⟨fresh, distinct⟩ := List.nodup_cons.mp distinct
      by_cases here : key a = k
      · have others : l.filter (fun a => decide (key a = k)) = [] := by
          refine List.filter_eq_nil_iff.mpr fun b inside same => fresh ?_
          rw [here, ← of_decide_eq_true same]
          exact List.mem_map_of_mem inside
        rw [List.find?_cons_of_pos (by simpa using here),
          List.filter_cons_of_pos (by simpa using here), others]
        rfl
      · rw [List.find?_cons_of_neg (by simpa using here),
          List.filter_cons_of_neg (by simpa using here), ih distinct]

theorem find?_eq_some_iff (distinct : (l.map key).Nodup) {k : κ} {a : α} :
    (l.find? fun a => decide (key a = k)) = some a ↔ a ∈ l ∧ key a = k := by
  rw [← Option.mem_toList, toList_find? distinct, List.mem_filter, decide_eq_true_iff]

/-- The first entry with the key `k`, overwritten with the last one and dropped from the end. -/
def swapRemove (key : α → κ) (k : κ) (l : List α) : List α :=
  match l.findIdx? (fun a => decide (key a = k)), l.getLast? with
  | some i, some back => (l.set i back).dropLast
  | _, _ => l

theorem swap_perm_eraseIdx {i : Nat} (inside : i < l.length) {back : α}
    (last : l.getLast? = some back) : (l.set i back).dropLast.Perm (l.eraseIdx i) := by
  obtain ⟨front, rfl⟩ := List.getLast?_eq_some_iff.mp last
  rw [List.length_append, List.length_singleton] at inside
  rcases Nat.lt_succ_iff_lt_or_eq.mp inside with early | rfl
  · rw [List.set_append_left _ _ early, List.dropLast_concat,
      List.eraseIdx_append_of_lt_length early]
    exact (List.set_perm_cons_eraseIdx early back).trans (List.perm_append_singleton _ _).symm
  · rw [List.set_append_right _ _ (Nat.le_refl _), Nat.sub_self, List.set_cons_zero,
      List.dropLast_concat, List.eraseIdx_append_of_length_le (Nat.le_refl _), Nat.sub_self]
    exact .of_eq (List.append_nil _).symm

theorem eraseP_eq_filter (distinct : (l.map key).Nodup) (k : κ) :
    l.eraseP (fun a => decide (key a = k)) = l.filter fun a => !decide (key a = k) := by
  induction l with
  | nil => rfl
  | cons a l ih =>
      obtain ⟨fresh, distinct⟩ := List.nodup_cons.mp distinct
      by_cases here : key a = k
      · have others : l.filter (fun a => !decide (key a = k)) = l := by
          refine List.filter_eq_self.mpr fun b inside => ?_
          have differs : key b ≠ k := fun same =>
            fresh (here.trans same.symm ▸ List.mem_map_of_mem inside)
          simpa using differs
        rw [List.eraseP_cons_of_pos (by simpa using here),
          List.filter_cons_of_neg (by simpa using here), others]
      · rw [List.eraseP_cons_of_neg (by simpa using here),
          List.filter_cons_of_pos (by simpa using here), ih distinct]

/-- A swap removal takes the entry with the key out, if there is one. -/
theorem swapRemove_perm (distinct : (l.map key).Nodup) (k : κ) :
    (swapRemove key k l).Perm (l.filter fun a => !decide (key a = k)) := by
  rw [← eraseP_eq_filter distinct, List.eraseP_eq_eraseIdx, swapRemove]
  cases found : l.findIdx? (fun a => decide (key a = k)) with
  | none => exact .refl _
  | some i =>
      have inside : i < l.length := (List.findIdx?_eq_some_iff_findIdx_eq.mp found).1
      cases last : l.getLast? with
      | none =>
          obtain rfl := List.getLast?_eq_none_iff.mp last
          cases inside
      | some back => exact swap_perm_eraseIdx inside last

/-- A table filled entry by entry keeps what no entry overwrites. -/
theorem foldl_update_of_not_mem (value : α → β) (table : κ → β) {k : κ} (fresh : k ∉ l.map key) :
    l.foldl (fun t a => Function.update t (key a) (value a)) table k = table k := by
  induction l generalizing table with
  | nil => rfl
  | cons a l ih =>
      obtain ⟨ne, fresh⟩ := List.ne_and_not_mem_of_not_mem_cons fresh
      rw [List.foldl_cons, ih _ fresh, Function.update_of_ne ne]

/-- A filled table has the value of each entry under its key. -/
theorem foldl_update (distinct : (l.map key).Nodup) (value : α → β) (table : κ → β) {a : α}
    (mem : a ∈ l) :
    l.foldl (fun t a => Function.update t (key a) (value a)) table (key a) = value a := by
  induction l generalizing table with
  | nil => cases mem
  | cons b l ih =>
      obtain ⟨fresh, distinct⟩ := List.nodup_cons.mp distinct
      rw [List.foldl_cons]
      rcases List.mem_cons.mp mem with rfl | mem
      · rw [foldl_update_of_not_mem value _ fresh, Function.update_self]
      · exact ih distinct _ mem

end Keyed

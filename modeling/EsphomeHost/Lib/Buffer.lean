import Mathlib.Data.List.Infix

/-!
# Arrays of a fixed size, filled from the front

* `copy` copies part of a source into an array and fails if it would read or write past an end;
  `put` writes one element.
* `Holds buf done`: what was written so far is at the front of the array.  The rest is whatever was
  there before.
* `Holds.copy`: a copy behind what was written, with room for it, succeeds and extends it.
-/

namespace Buffer

variable {α : Type} {capacity : Nat}

/-- Copy the first `n` elements of `src` to position `pos`. -/
def copy (buf : Vector α capacity) (pos : Nat) (src : List α) (n : Nat) :
    Option (Vector α capacity) :=
  if n ≤ src.length ∧ pos + n ≤ capacity then
    some (Vector.ofFn fun i : Fin capacity =>
      if pos ≤ i ∧ i < pos + n then (src[i - pos]?).getD buf[i] else buf[i])
  else none

/-- Write one element. -/
def put (buf : Vector α capacity) (pos : Nat) (x : α) : Option (Vector α capacity) :=
  copy buf pos [x] 1

/-- The front of the array is `done`. -/
def Holds (buf : Vector α capacity) (done : List α) : Prop := done <+: buf.toList

theorem holds_nil (buf : Vector α capacity) : Holds buf [] := List.nil_prefix

theorem Holds.length {buf : Vector α capacity} {done : List α} (holds : Holds buf done) :
    done.length ≤ capacity := by
  have short := List.IsPrefix.length_le holds
  rwa [Vector.length_toList] at short

/-- What was written is read back. -/
theorem Holds.take {buf : Vector α capacity} {done : List α} (holds : Holds buf done) :
    buf.toList.take done.length = done := (List.prefix_iff_eq_take.mp holds).symm

/-- **A copy behind what was written, with room for it, succeeds and extends it.** -/
theorem Holds.copy {buf : Vector α capacity} {done s : List α} {n : Nat}
    (holds : Holds buf done) (reads : n ≤ s.length) (room : done.length + n ≤ capacity) :
    ∃ buf', Buffer.copy buf done.length s n = some buf' ∧ Holds buf' (done ++ s.take n) := by
  refine ⟨_, if_pos ⟨reads, room⟩, List.prefix_iff_getElem?.mpr fun i inside => ?_⟩
  rw [List.length_append, List.length_take, Nat.min_eq_left reads] at inside
  have bound : i < capacity := by omega
  rw [Vector.getElem?_toList, Vector.getElem?_eq_getElem bound, Vector.getElem_ofFn]
  by_cases old : i < done.length
  · have kept := List.prefix_iff_getElem?.mp holds i old
    rw [Vector.getElem?_toList, Vector.getElem?_eq_getElem bound] at kept
    rw [if_neg fun h => absurd h.1 (Nat.not_le.mpr old), List.getElem_append_left old]
    exact kept
  · have read : i - done.length < s.length := by omega
    have written : done.length ≤ i ∧ i < done.length + n := by omega
    rw [if_pos written, List.getElem?_eq_getElem read, List.getElem_append_right written.1,
      List.getElem_take]
    rfl

theorem Holds.put {buf : Vector α capacity} {done : List α} (holds : Holds buf done) (x : α)
    (room : done.length < capacity) :
    ∃ buf', Buffer.put buf done.length x = some buf' ∧ Holds buf' (done ++ [x]) :=
  holds.copy (s := [x]) (Nat.le_refl 1) room

end Buffer

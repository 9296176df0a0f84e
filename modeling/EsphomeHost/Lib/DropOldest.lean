import Mathlib.Data.List.DropRight

/-!
# Bounded queues that drop their oldest element

A queue of at most `limit` elements that makes room for a new one by dropping its first.  A queue
that holds the last `limit` elements that were pushed since it was empty goes on to hold them
(`push_rtake`).
-/

namespace DropOldest

variable {α : Type}

/-- Append an element; a full queue loses its first. -/
def push (limit : Nat) (queue : List α) (a : α) : List α :=
  (if queue.length ≥ limit then queue.drop 1 else queue) ++ [a]

/-- **A push keeps the last elements that were pushed.** -/
theorem push_rtake {limit : Nat} (positive : 0 < limit) (pushed : List α) (a : α) :
    push limit (pushed.rtake limit) a = (pushed ++ [a]).rtake limit := by
  have size : (pushed.rtake limit).length = min limit pushed.length := by
    rw [List.rtake, List.length_drop]
    omega
  rw [push, size, List.rtake, List.rtake, List.length_append, List.length_singleton]
  split
  · rename_i full
    rw [List.drop_drop, List.drop_append_of_le_length (by omega)]
    congr 2
    omega
  · rename_i room
    rw [List.drop_append_of_le_length (by omega)]
    congr 2
    omega

end DropOldest

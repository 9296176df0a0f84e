import Mathlib.Data.BitVec

/-!
# Fields of a word

A word that holds a masked value and other bits: what is read with the mask (`field_and`), what is
read with another (`and_of_apart`), and what is read with the mask of one bit (`ite_of_and_bit`).
-/

namespace Mask

theorem or_and (x y m : UInt32) : (x ||| y) &&& m = (x &&& m) ||| (y &&& m) :=
  UInt32.toBitVec_inj.mp BitVec.and_or_distrib_right

theorem and_or (x m n : UInt32) : x &&& (m ||| n) = (x &&& m) ||| (x &&& n) :=
  UInt32.toBitVec_inj.mp BitVec.and_or_distrib_left

/-- What is outside of a field is masked off. -/
theorem field_and {x m y : UInt32} (apart : y &&& m = 0) : ((x &&& m) ||| y) &&& m = x &&& m := by
  rw [or_and, apart, UInt32.or_zero, UInt32.and_assoc, UInt32.and_self]

/-- A field has no bits of the others. -/
theorem and_of_apart {x m y n : UInt32} (apart : m &&& n = 0) :
    ((x &&& m) ||| y) &&& n = y &&& n := by
  rw [or_and, UInt32.and_assoc, apart, UInt32.and_zero, UInt32.zero_or]

/-- A bit is set or not. -/
theorem and_bit {b : UInt32} {i : Nat} (bit : b.toBitVec = BitVec.twoPow 32 i) (x : UInt32) :
    x &&& b = 0 ∨ x &&& b = b := by
  rw [← UInt32.toBitVec_inj, ← UInt32.toBitVec_inj, UInt32.toBitVec_and, bit, BitVec.and_twoPow]
  split
  · exact .inr rfl
  · exact .inl rfl

theorem ite_of_and_bit {b : UInt32} {i : Nat} (bit : b.toBitVec = BitVec.twoPow 32 i)
    (x : UInt32) : x &&& b = if x &&& b != 0 then b else 0 := by
  rcases and_bit bit x with clear | set
  · rw [clear]
    rfl
  · rw [set]
    split
    · rfl
    · rename_i zero
      exact bne_eq_false_iff_eq.mp (eq_false_of_ne_true zero)

end Mask

import Mathlib.Algebra.Group.Nat.Defs
import Mathlib.Data.List.Basic
import Mathlib.Data.Nat.Digits.Defs

/-!
# Little-endian words

Bytes shifted and or-ed into a 16- or 32-bit word, the bytes masked back out of it, and the two
directions of the correspondence.  Both reduce to base-256 digits over `Nat` (`le16_toNat`,
`le32_toNat`), where the bounds of the bytes decide everything; so does a loop that shifts bytes
into a 64-bit word (`shiftIn_toNat`).  `number` and `bytesLE` are for words of any size, also of
numbers below zero (`cast_number_bytesLE`).
-/

namespace LittleEndian

/-- The word whose low byte is `a` and whose high byte is `b`. -/
def le16 (a b : UInt8) : UInt16 := a.toUInt16 ||| (b.toUInt16 <<< 8)

/-- The word whose bytes are `a`, `b`, `c`, `d`, least significant first. -/
def le32 (a b c d : UInt8) : UInt32 :=
  a.toUInt32 ||| (b.toUInt32 <<< 8) ||| (c.toUInt32 <<< 16) ||| (d.toUInt32 <<< 24)

/-- Byte `k` of a 16-bit word. -/
def byte16 (v : UInt16) (k : UInt16) : UInt8 := ((v >>> (8 * k)) &&& 0xff).toUInt8

/-- Byte `k` of a 32-bit word. -/
def byte32 (v : UInt32) (k : UInt32) : UInt8 := ((v >>> (8 * k)) &&& 0xff).toUInt8

theorem or_shiftLeft {a b i : Nat} (h : a < 2 ^ i) : a ||| (b <<< i) = a + 2 ^ i * b := by
  rw [Nat.or_comm, ← Nat.shiftLeft_add_eq_or_of_lt h, Nat.shiftLeft_eq, Nat.mul_comm, Nat.add_comm]

/-- A byte shifted by at most 24 does not overflow 32 bits. -/
theorem shiftLeft_mod {b : UInt8} {i w : Nat} (fits : i + 8 ≤ w) :
    (b.toNat <<< i) % 2 ^ w = b.toNat <<< i := by
  have hb : b.toNat < 2 ^ 8 := b.toNat_lt
  rw [Nat.shiftLeft_eq]
  apply Nat.mod_eq_of_lt
  calc b.toNat * 2 ^ i < 2 ^ 8 * 2 ^ i := Nat.mul_lt_mul_of_pos_right hb (Nat.two_pow_pos i)
    _ = 2 ^ (8 + i) := (Nat.pow_add 2 8 i).symm
    _ ≤ 2 ^ w := Nat.pow_le_pow_right (by decide) (by omega)

/-- A byte is shifted in. -/
theorem shift_or_toNat {v : UInt64} (small : v.toNat < 2 ^ 56) (b : UInt8) :
    ((v <<< 8) ||| b.toUInt64).toNat = 256 * v.toNat + b.toNat := by
  have byte := b.toNat_lt
  have shift : (v.toNat <<< ((8 : UInt64).toNat % 64)) % 2 ^ 64 = v.toNat <<< 8 := by
    have amount : (8 : UInt64).toNat % 64 = 8 := rfl
    rw [amount, Nat.shiftLeft_eq]
    exact Nat.mod_eq_of_lt (by omega)
  simp only [UInt64.toNat_or, UInt64.toNat_shiftLeft, UInt8.toNat_toUInt64, shift]
  rw [Nat.or_comm, or_shiftLeft byte]
  omega

theorem ofDigits_small {l : List UInt8} (short : l.length < 8) :
    Nat.ofDigits 256 (l.map UInt8.toNat) < 2 ^ 56 := by
  have bound := Nat.ofDigits_lt_base_pow_length (b := 256) (l := l.map UInt8.toNat) (by decide)
    (by simpa using fun b _ => b.toNat_lt)
  refine Nat.lt_of_lt_of_le bound ?_
  rw [show (256 : Nat) = 2 ^ 8 from rfl, ← Nat.pow_mul, List.length_map]
  exact Nat.pow_le_pow_right (by decide) (by omega)

/-- The bytes that are shifted in, most significant first, are the digits of the word. -/
theorem shiftIn_toNat {l : List UInt8} (short : l.length ≤ 8) :
    (l.reverse.foldl (fun (v : UInt64) b => (v <<< 8) ||| b.toUInt64) 0).toNat =
      Nat.ofDigits 256 (l.map UInt8.toNat) := by
  induction l with
  | nil => rfl
  | cons b l ih =>
      have rest := ih (Nat.le_of_succ_le short)
      have small := ofDigits_small short
      rw [List.reverse_cons, List.foldl_append, List.foldl_cons, List.foldl_nil,
        shift_or_toNat (rest ▸ small), rest, List.map_cons, Nat.ofDigits_cons]
      exact Nat.add_comm _ _

theorem le16_toNat (a b : UInt8) : (le16 a b).toNat = a.toNat + 256 * b.toNat := by
  simp only [le16, UInt16.toNat_or, UInt8.toNat_toUInt16, UInt16.toNat_shiftLeft]
  have shift : (b.toNat <<< ((8 : UInt16).toNat % 16)) % 2 ^ 16 = b.toNat <<< 8 :=
    shiftLeft_mod (by decide)
  rw [shift]
  exact or_shiftLeft a.toNat_lt

theorem le32_toNat (a b c d : UInt8) :
    (le32 a b c d).toNat =
      a.toNat + 256 * b.toNat + 65536 * c.toNat + 16777216 * d.toNat := by
  have ha := a.toNat_lt
  have hb := b.toNat_lt
  have hc := c.toNat_lt
  simp only [le32, UInt32.toNat_or, UInt8.toNat_toUInt32, UInt32.toNat_shiftLeft]
  have shift8 : (b.toNat <<< ((8 : UInt32).toNat % 32)) % 2 ^ 32 = b.toNat <<< 8 :=
    shiftLeft_mod (by decide)
  have shift16 : (c.toNat <<< ((16 : UInt32).toNat % 32)) % 2 ^ 32 = c.toNat <<< 16 :=
    shiftLeft_mod (by decide)
  have shift24 : (d.toNat <<< ((24 : UInt32).toNat % 32)) % 2 ^ 32 = d.toNat <<< 24 :=
    shiftLeft_mod (by decide)
  rw [shift8, shift16, shift24, or_shiftLeft ha, or_shiftLeft (i := 16) (by omega)]
  exact or_shiftLeft (i := 24) (by omega)

/-! ## Masked bytes -/

theorem and_mask_toNat (n : Nat) : (n &&& 255) % 256 = n % 256 := by
  rw [show (255 : Nat) = 2 ^ 8 - 1 from rfl, Nat.and_two_pow_sub_one_eq_mod, Nat.mod_mod]

theorem byte16_zero_toNat (v : UInt16) : (byte16 v 0).toNat = v.toNat % 256 := by
  have shift : v.toNat >>> ((8 * 0 : UInt16).toNat % 16) = v.toNat := rfl
  simp only [byte16, UInt16.toNat_toUInt8, UInt16.toNat_and, UInt16.toNat_shiftRight, shift]
  exact and_mask_toNat _

theorem byte16_one_toNat (v : UInt16) : (byte16 v 1).toNat = v.toNat / 256 % 256 := by
  have shift : v.toNat >>> ((8 * 1 : UInt16).toNat % 16) = v.toNat / 256 :=
    Nat.shiftRight_eq_div_pow _ _
  simp only [byte16, UInt16.toNat_toUInt8, UInt16.toNat_and, UInt16.toNat_shiftRight, shift]
  exact and_mask_toNat _

theorem byte32_toNat (v : UInt32) (k : UInt32) {i : Nat} (hk : (8 * k).toNat % 32 = i) :
    (byte32 v k).toNat = v.toNat / 2 ^ i % 256 := by
  simp only [byte32, UInt32.toNat_toUInt8, UInt32.toNat_and, UInt32.toNat_shiftRight, hk,
    Nat.shiftRight_eq_div_pow]
  exact and_mask_toNat _

theorem byte32_zero_toNat (v : UInt32) : (byte32 v 0).toNat = v.toNat % 256 := by
  simpa using byte32_toNat v 0 (i := 0) rfl

theorem byte32_one_toNat (v : UInt32) : (byte32 v 1).toNat = v.toNat / 256 % 256 :=
  byte32_toNat v 1 (i := 8) rfl

theorem byte32_two_toNat (v : UInt32) : (byte32 v 2).toNat = v.toNat / 65536 % 256 :=
  byte32_toNat v 2 (i := 16) rfl

theorem byte32_three_toNat (v : UInt32) : (byte32 v 3).toNat = v.toNat / 16777216 % 256 :=
  byte32_toNat v 3 (i := 24) rfl

/-! ## Splitting and joining -/

@[simp] theorem le16_bytes (v : UInt16) : le16 (byte16 v 0) (byte16 v 1) = v := by
  apply UInt16.toNat_inj.mp
  have hv := v.toNat_lt
  rw [le16_toNat, byte16_zero_toNat, byte16_one_toNat]
  omega

@[simp] theorem byte16_zero_le16 (a b : UInt8) : byte16 (le16 a b) 0 = a := by
  apply UInt8.toNat_inj.mp
  have ha := a.toNat_lt
  rw [byte16_zero_toNat, le16_toNat]
  omega

@[simp] theorem byte16_one_le16 (a b : UInt8) : byte16 (le16 a b) 1 = b := by
  apply UInt8.toNat_inj.mp
  have ha := a.toNat_lt
  have hb := b.toNat_lt
  rw [byte16_one_toNat, le16_toNat]
  omega

@[simp] theorem le32_bytes (v : UInt32) :
    le32 (byte32 v 0) (byte32 v 1) (byte32 v 2) (byte32 v 3) = v := by
  apply UInt32.toNat_inj.mp
  have hv := v.toNat_lt
  rw [le32_toNat, byte32_zero_toNat, byte32_one_toNat, byte32_two_toNat, byte32_three_toNat]
  omega

section Bytes

variable (a b c d : UInt8)

@[simp] theorem byte32_zero_le32 : byte32 (le32 a b c d) 0 = a := by
  apply UInt8.toNat_inj.mp
  have ha := a.toNat_lt
  rw [byte32_zero_toNat, le32_toNat]
  omega

@[simp] theorem byte32_one_le32 : byte32 (le32 a b c d) 1 = b := by
  apply UInt8.toNat_inj.mp
  have ha := a.toNat_lt
  have hb := b.toNat_lt
  rw [byte32_one_toNat, le32_toNat]
  omega

@[simp] theorem byte32_two_le32 : byte32 (le32 a b c d) 2 = c := by
  apply UInt8.toNat_inj.mp
  have ha := a.toNat_lt
  have hb := b.toNat_lt
  have hc := c.toNat_lt
  rw [byte32_two_toNat, le32_toNat]
  omega

@[simp] theorem byte32_three_le32 : byte32 (le32 a b c d) 3 = d := by
  apply UInt8.toNat_inj.mp
  have ha := a.toNat_lt
  have hb := b.toNat_lt
  have hc := c.toNat_lt
  have hd := d.toNat_lt
  rw [byte32_three_toNat, le32_toNat]
  omega

end Bytes

/-! ## Words of any size -/

/-- The number whose bytes these are, least significant first. -/
def number (bytes : List UInt8) : Nat := Nat.ofDigits 256 (bytes.map UInt8.toNat)

/-- The lowest bytes of a number, masked out one after another. -/
def bytesLE (size n : Nat) : List UInt8 :=
  (List.range size).map fun i => UInt8.ofNat ((n >>> (8 * i)) &&& 0xff)

@[simp] theorem length_bytesLE (size n : Nat) : (bytesLE size n).length = size := by
  rw [bytesLE, List.length_map, List.length_range]

theorem number_bytesLE (size n : Nat) : number (bytesLE size n) = n % 256 ^ size := by
  induction size with
  | zero => exact (Nat.mod_one n).symm
  | succ k ih =>
      have split : bytesLE (k + 1) n = bytesLE k n ++ [UInt8.ofNat ((n >>> (8 * k)) &&& 0xff)] := by
        rw [bytesLE, List.range_succ, List.map_append]
        rfl
      have byte : (UInt8.ofNat ((n >>> (8 * k)) &&& 0xff)).toNat = n / 256 ^ k % 256 := by
        rw [UInt8.toNat_ofNat', and_mask_toNat, Nat.shiftRight_eq_div_pow, Nat.pow_mul]
      rw [split, number, List.map_append, Nat.ofDigits_append, List.length_map, length_bytesLE,
        List.map_singleton, Nat.ofDigits_singleton, byte, Nat.mod_pow_succ]
      exact congrArg (· + _) ih

/-- The bytes of the residue of a number, modulo a word that is long enough. -/
theorem cast_number_bytesLE {size w : Nat} (word : 8 * size ≤ w) (z : Int) :
    (number (bytesLE size (z % (2 ^ w : Nat)).toNat) : Int) = z % (2 ^ (8 * size) : Nat) := by
  have residue : (((z % (2 ^ w : Nat)).toNat : Nat) : Int) = z % (2 ^ w : Nat) :=
    Int.toNat_of_nonneg (Int.emod_nonneg z (by exact_mod_cast (Nat.two_pow_pos w).ne'))
  rw [number_bytesLE, show 256 ^ size = 2 ^ (8 * size) from (Nat.pow_mul 2 8 size).symm,
    Int.natCast_emod, residue]
  exact Int.emod_emod_of_dvd z (Int.natCast_dvd_natCast.mpr (Nat.pow_dvd_pow 2 word))

theorem le16_toUInt32 (a b : UInt8) : (le16 a b).toUInt32 = le32 a b 0 0 := by
  apply UInt32.toNat_inj.mp
  rw [UInt16.toNat_toUInt32, le16_toNat, le32_toNat]
  rfl

/-- A 16-bit word widened to 32 bits has the same two low bytes and zero above. -/
theorem byte32_toUInt32_zero (v : UInt16) : byte32 v.toUInt32 0 = byte16 v 0 := by
  apply UInt8.toNat_inj.mp
  rw [byte32_zero_toNat, byte16_zero_toNat, UInt16.toNat_toUInt32]

theorem byte32_toUInt32_one (v : UInt16) : byte32 v.toUInt32 1 = byte16 v 1 := by
  apply UInt8.toNat_inj.mp
  rw [byte32_one_toNat, byte16_one_toNat, UInt16.toNat_toUInt32]

end LittleEndian

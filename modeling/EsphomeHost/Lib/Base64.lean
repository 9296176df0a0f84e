import Mathlib.Algebra.Group.Nat.Defs
import Mathlib.Data.List.Basic

/-!
# Base64

Three bytes are written as four letters of the alphabet, and a last group of one or two bytes is
padded.  A group is read and written as one number.

* `decode_encode`: what is encoded is decoded again.
-/

namespace Base64

def PAD : UInt8 := 61

/-- The letter for six bits. -/
def letter (n : Nat) : UInt8 :=
  UInt8.ofNat (if n < 26 then 65 + n else if n < 52 then 71 + n else if n < 62 then n - 4
    else if n = 62 then 43 else 47)

/-- The six bits of a letter. -/
def value (c : UInt8) : Option Nat :=
  if 65 ≤ c ∧ c ≤ 90 then some (c.toNat - 65)
  else if 97 ≤ c ∧ c ≤ 122 then some (c.toNat - 71)
  else if 48 ≤ c ∧ c ≤ 57 then some (c.toNat + 4)
  else if c = 43 then some 62
  else if c = 47 then some 63
  else none

/-- The number of a full group. -/
def number (a b c : UInt8) : Nat := 65536 * a.toNat + 256 * b.toNat + c.toNat

/-- The letter of a number's bits from `6 * i` on. -/
def digit (n i : Nat) : UInt8 := letter (n / 64 ^ i % 64)

def encode : List UInt8 → List UInt8
  | a :: b :: c :: rest =>
      digit (number a b c) 3 :: digit (number a b c) 2 :: digit (number a b c) 1 ::
        digit (number a b c) 0 :: encode rest
  | [a, b] => [digit (number a b 0) 3, digit (number a b 0) 2, digit (number a b 0) 1, PAD]
  | [a] => [digit (number a 0 0) 3, digit (number a 0 0) 2, PAD, PAD]
  | [] => []

/-- The bytes of a number. -/
def bytes (n : Nat) : List UInt8 := [UInt8.ofNat (n / 65536), UInt8.ofNat (n / 256), UInt8.ofNat n]

/-- The number of four letters. -/
def group (p q r s : UInt8) : Option Nat :=
  match value p, value q, value r, value s with
  | some p, some q, some r, some s => some (262144 * p + 4096 * q + 64 * r + s)
  | _, _, _, _ => none

/-- Only the last group may be padded, by one letter or two. -/
def decode : List UInt8 → Option (List UInt8)
  | [] => some []
  | p :: q :: r :: s :: rest =>
      if s = PAD ∧ rest = [] then
        if r = PAD then (group p q 65 65).map fun n => (bytes n).take 1
        else (group p q r 65).map fun n => (bytes n).take 2
      else
        match group p q r s, decode rest with
        | some n, some tail => some (bytes n ++ tail)
        | _, _ => none
  | _ => none

theorem value_letter {n : Nat} (small : n < 64) : value (letter n) = some n := by
  revert n
  decide

theorem letter_ne_pad {n : Nat} (small : n < 64) : letter n ≠ PAD := by
  revert n
  decide

variable {n : Nat}

theorem value_digit (n i : Nat) : value (digit n i) = some (n / 64 ^ i % 64) :=
  value_letter (Nat.mod_lt _ (by decide))

theorem digit_ne_pad (n i : Nat) : digit n i ≠ PAD := letter_ne_pad (Nat.mod_lt _ (by decide))

theorem group_digits (small : n < 16777216) :
    group (digit n 3) (digit n 2) (digit n 1) (digit n 0) = some n := by
  simp only [group, value_digit]
  exact congrArg some (by omega)

theorem number_lt (a b c : UInt8) : number a b c < 16777216 := by
  have ha := a.toNat_lt
  have hb := b.toNat_lt
  have hc := c.toNat_lt
  unfold number
  omega

theorem bytes_number (a b c : UInt8) : bytes (number a b c) = [a, b, c] := by
  have ha := a.toNat_lt
  have hb := b.toNat_lt
  have hc := c.toNat_lt
  have byte (m : Nat) (x : UInt8) (same : m % 256 = x.toNat) : UInt8.ofNat m = x := by
    apply UInt8.toNat_inj.mp
    rw [UInt8.toNat_ofNat']
    exact same
  unfold bytes number
  rw [byte _ a (by omega), byte _ b (by omega), byte _ c (by omega)]

/-- Bits that are zero have the letter the padding stands for. -/
theorem digit_zero (a b : UInt8) : digit (number a b 0) 0 = 65 ∧ digit (number a 0 0) 1 = 65 := by
  constructor
  · have zero : number a b 0 / 64 ^ 0 % 64 = 0 := by
      simp only [number, UInt8.toNat_zero]
      omega
    rw [digit, zero]
    rfl
  · have zero : number a 0 0 / 64 ^ 1 % 64 = 0 := by
      simp only [number, UInt8.toNat_zero]
      omega
    rw [digit, zero]
    rfl

/-- **What is encoded is decoded again.** -/
theorem decode_encode (l : List UInt8) : decode (encode l) = some l := by
  induction l using encode.induct with
  | case1 a b c rest ih =>
      rw [encode, decode, if_neg (fun last => digit_ne_pad _ 0 last.1),
        group_digits (number_lt a b c), ih]
      exact congrArg (fun l => some (l ++ rest)) (bytes_number a b c)
  | case2 a b =>
      have read := group_digits (number_lt a b 0)
      rw [(digit_zero a b).1] at read
      rw [encode, decode, if_pos ⟨rfl, rfl⟩, if_neg (digit_ne_pad _ 1), read, Option.map_some,
        bytes_number]
      rfl
  | case3 a =>
      have read := group_digits (number_lt a 0 0)
      rw [(digit_zero a 0).1, (digit_zero a 0).2] at read
      rw [encode, decode, if_pos ⟨rfl, rfl⟩, if_pos rfl, read, Option.map_some, bytes_number]
      rfl
  | case4 => rfl

end Base64

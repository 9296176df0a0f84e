import Mathlib.Data.List.Basic
import Mathlib.Tactic.IntervalCases

/-!
# Two-digit hexadecimal bytes

`printf`'s `%02x` and `%02X` of a byte, and the value of a hexadecimal digit in either case.
`value_digit` and `join_nibbles` are the two halves of every hexadecimal round trip: a printed
digit has its value, and the two nibbles of a byte make the byte again.
-/

namespace Hex

/-- The digit of a nibble, with the letters starting at code `letters`. -/
def digitFrom (letters : Nat) (n : UInt8) : Char :=
  if n < 10 then Char.ofNat (48 + n.toNat) else Char.ofNat (letters - 10 + n.toNat)

def lower (n : UInt8) : Char := digitFrom 97 n
def upper (n : UInt8) : Char := digitFrom 65 n

/-- `%02x`. -/
def byteLower (b : UInt8) : List Char := [lower (b >>> 4), lower (b &&& 15)]

/-- `%02X`. -/
def byteUpper (b : UInt8) : List Char := [upper (b >>> 4), upper (b &&& 15)]

/-- The value of a hexadecimal digit, upper or lower case. -/
def value (c : Char) : Option UInt8 :=
  if '0' ≤ c ∧ c ≤ '9' then some (UInt8.ofNat (c.toNat - '0'.toNat))
  else if 'a' ≤ c ∧ c ≤ 'f' then some (UInt8.ofNat (c.toNat - 'a'.toNat + 10))
  else if 'A' ≤ c ∧ c ≤ 'F' then some (UInt8.ofNat (c.toNat - 'A'.toNat + 10))
  else none

/-- A property of all nibbles is checked on the sixteen of them. -/
theorem forall_nibble {p : UInt8 → Prop} (h : ∀ k : Fin 16, p (UInt8.ofNat k)) {n : UInt8}
    (hn : n.toNat < 16) : p n := by
  have hp := h ⟨n.toNat, hn⟩
  rwa [show UInt8.ofNat n.toNat = n from UInt8.ofNat_toNat] at hp

theorem value_lower {n : UInt8} (hn : n.toNat < 16) : value (lower n) = some n :=
  forall_nibble (p := fun n => value (lower n) = some n) (by decide) hn

theorem value_upper {n : UInt8} (hn : n.toNat < 16) : value (upper n) = some n :=
  forall_nibble (p := fun n => value (upper n) = some n) (by decide) hn

theorem lower_ne_dash {n : UInt8} (hn : n.toNat < 16) : lower n ≠ '-' :=
  forall_nibble (p := fun n => lower n ≠ '-') (by decide) hn

theorem toLower_lower {n : UInt8} (hn : n.toNat < 16) : (lower n).toLower = lower n :=
  forall_nibble (p := fun n => (lower n).toLower = lower n) (by decide) hn

theorem toLower_upper {n : UInt8} (hn : n.toNat < 16) : (upper n).toLower = lower n :=
  forall_nibble (p := fun n => (upper n).toLower = lower n) (by decide) hn

theorem high_toNat (b : UInt8) : (b >>> 4).toNat = b.toNat / 16 := by
  rw [UInt8.toNat_shiftRight]
  exact Nat.shiftRight_eq_div_pow _ _

theorem low_toNat (b : UInt8) : (b &&& 15).toNat = b.toNat % 16 := by
  rw [UInt8.toNat_and]
  exact Nat.and_two_pow_sub_one_eq_mod b.toNat 4

theorem high_lt (b : UInt8) : (b >>> 4).toNat < 16 := by
  have hb := b.toNat_lt
  rw [high_toNat]
  omega

theorem low_lt (b : UInt8) : (b &&& 15).toNat < 16 := by
  rw [low_toNat]
  omega

/-- The two nibbles of a byte make the byte. -/
theorem join_nibbles (b : UInt8) : ((b >>> 4) <<< 4) ||| (b &&& 15) = b := by
  apply UInt8.toNat_inj.mp
  have hb := b.toNat_lt
  have shift : ((b >>> 4) <<< 4).toNat = (b.toNat / 16) <<< 4 := by
    rw [UInt8.toNat_shiftLeft, high_toNat, show (4 : UInt8).toNat % 8 = 4 from rfl,
      Nat.shiftLeft_eq]
    omega
  rw [UInt8.toNat_or, shift, low_toNat, Nat.or_comm, Nat.or_comm,
    ← Nat.shiftLeft_add_eq_or_of_lt (i := 4) (by omega), Nat.shiftLeft_eq]
  omega

theorem byteLower_injective : Function.Injective byteLower := by
  intro b c same
  obtain ⟨high, low⟩ : lower (b >>> 4) = lower (c >>> 4) ∧ lower (b &&& 15) = lower (c &&& 15) := by
    simpa [byteLower] using same
  have highValue := congrArg value high
  have lowValue := congrArg value low
  rw [value_lower (high_lt b), value_lower (high_lt c)] at highValue
  rw [value_lower (low_lt b), value_lower (low_lt c)] at lowValue
  rw [← join_nibbles b, ← join_nibbles c, Option.some.inj highValue, Option.some.inj lowValue]

theorem byteUpper_injective : Function.Injective byteUpper := by
  intro b c same
  apply byteLower_injective
  have lowered := congrArg (·.map Char.toLower) same
  simpa only [byteLower, byteUpper, List.map_cons, List.map_nil, toLower_upper (high_lt _),
    toLower_upper (low_lt _)] using lowered

/-- Two nibbles are those of the byte they make. -/
theorem exists_byte {high low : UInt8} (hh : high.toNat < 16) (hl : low.toNat < 16) :
    ∃ b : UInt8, b >>> 4 = high ∧ b &&& 15 = low := by
  have made : (UInt8.ofNat (16 * high.toNat + low.toNat)).toNat = 16 * high.toNat + low.toNat := by
    rw [UInt8.toNat_ofNat']
    omega
  refine ⟨UInt8.ofNat (16 * high.toNat + low.toNat), ?_, ?_⟩ <;> apply UInt8.toNat_inj.mp
  · rw [high_toNat, made]
    omega
  · rw [low_toNat, made]
    omega

/-- A letter from A to F or a digit is what `%X` prints for some nibble. -/
theorem exists_upper {c : Char} (digit : 'A' ≤ c ∧ c ≤ 'F' ∨ '0' ≤ c ∧ c ≤ '9') :
    ∃ n : UInt8, n.toNat < 16 ∧ upper n = c := by
  rcases digit with ⟨above, below⟩ | ⟨above, below⟩
  · have least : 65 ≤ c.toNat := above
    have most : c.toNat ≤ 70 := below
    refine ⟨UInt8.ofNat (c.toNat - 55), ?_⟩
    have coded : Char.ofNat c.toNat = c := Char.ofNat_toNat c
    generalize c.toNat = code at least most coded ⊢
    subst coded
    interval_cases code <;> decide
  · have least : 48 ≤ c.toNat := above
    have most : c.toNat ≤ 57 := below
    refine ⟨UInt8.ofNat (c.toNat - 48), ?_⟩
    have coded : Char.ofNat c.toNat = c := Char.ofNat_toNat c
    generalize c.toNat = code at least most coded ⊢
    subst coded
    interval_cases code <;> decide

/-- A property of the characters of a range of codes is checked on the codes. -/
theorem forall_code {p : Char → Prop} (l : Nat) {n : Nat}
    (h : ∀ k : Fin n, p (Char.ofNat (l + k))) {c : Char} (least : l ≤ c.toNat)
    (most : c.toNat < l + n) : p c := by
  have hp := h ⟨c.toNat - l, by omega⟩
  rwa [show l + (c.toNat - l) = c.toNat by omega, Char.ofNat_toNat] at hp

/-- A digit of either case is one of a nibble. -/
theorem of_value {c : Char} {n : UInt8} (digit : value c = some n) :
    n.toNat < 16 ∧ c.toLower = lower n ∧ c ≠ '-' := by
  unfold value at digit
  split at digit
  · rename_i range
    obtain rfl := Option.some.inj digit
    exact forall_code (p := fun c => (UInt8.ofNat (c.toNat - '0'.toNat)).toNat < 16 ∧
      c.toLower = lower (UInt8.ofNat (c.toNat - '0'.toNat)) ∧ c ≠ '-') 48 (n := 10) (by decide)
      range.1 (Nat.lt_succ_of_le range.2)
  · split at digit
    · rename_i range
      obtain rfl := Option.some.inj digit
      exact forall_code (p := fun c => (UInt8.ofNat (c.toNat - 'a'.toNat + 10)).toNat < 16 ∧
        c.toLower = lower (UInt8.ofNat (c.toNat - 'a'.toNat + 10)) ∧ c ≠ '-') 97 (n := 6)
        (by decide) range.1 (Nat.lt_succ_of_le range.2)
    · split at digit
      · rename_i range
        obtain rfl := Option.some.inj digit
        exact forall_code (p := fun c => (UInt8.ofNat (c.toNat - 'A'.toNat + 10)).toNat < 16 ∧
          c.toLower = lower (UInt8.ofNat (c.toNat - 'A'.toNat + 10)) ∧ c ≠ '-') 65 (n := 6)
          (by decide) range.1 (Nat.lt_succ_of_le range.2)
      · cases digit

end Hex

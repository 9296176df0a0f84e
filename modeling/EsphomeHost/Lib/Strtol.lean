import Mathlib.Data.List.TakeWhile
import Mathlib.Data.Nat.Digits.Lemmas

/-!
# Integers at the start of a text

`strtol` in base ten, on the bytes of a C string: blanks, a sign, as many digits as there are.  A
NUL is none of these, so the end of the string needs no case of its own.

* `Numeral s v`: `s` starts with a numeral for `v`; at most one such `v`.
* `strtol_ok_iff`: a call converts to `v` if and only if there is a numeral for `v` and it fits.
* `numeral_print`: what `%d` prints, in front of anything but a digit, is a numeral of its number.
-/

namespace EsphomeHost.Strtol

/-- `isspace` in the C locale. -/
def isSpace (c : UInt8) : Bool := c == 0x20 || (0x09 ≤ c && c ≤ 0x0d)

def isDigit (c : UInt8) : Bool := 0x30 ≤ c && c ≤ 0x39

/-- The value of digits, the first of them the most significant. -/
def decimal (digits : List UInt8) : Nat :=
  digits.foldl (fun n c => 10 * n + (c.toNat - 0x30)) 0

/-- Whether there is a minus sign, and what is behind the sign. -/
def splitSign : List UInt8 → Bool × List UInt8
  | 0x2d :: s => (true, s)
  | 0x2b :: s => (false, s)
  | s => (false, s)

def signed (negative : Bool) (n : Nat) : Int := if negative then -n else n

/-- What a call returns, how far `endptr` is behind the start, and whether `errno` is `ERANGE`. -/
structure Conversion where
  value : Int
  endptr : Nat
  erange : Bool
  deriving DecidableEq, Repr

/-- `strtol` of a `long` from `lo` to `hi`. -/
def strtol (lo hi : Int) (s : List UInt8) : Conversion :=
  let body := splitSign (s.dropWhile isSpace)
  let digits := body.2.takeWhile isDigit
  if digits = [] then ⟨0, 0, false⟩
  else
    let value := signed body.1 (decimal digits)
    let endptr := s.length - (body.2.length - digits.length)
    if value < lo then ⟨lo, endptr, true⟩
    else if hi < value then ⟨hi, endptr, true⟩
    else ⟨value, endptr, false⟩

/-- A sign, or none. -/
def signs : Bool → List (List UInt8)
  | true => [[0x2d]]
  | false => [[], [0x2b]]

/-- `s` starts with a numeral for `v`. -/
def Numeral (s : List UInt8) (v : Int) : Prop :=
  ∃ spaces negative sign digits rest,
    s = spaces ++ sign ++ digits ++ rest ∧ (∀ c ∈ spaces, isSpace c = true) ∧
    sign ∈ signs negative ∧ digits ≠ [] ∧ (∀ c ∈ digits, isDigit c = true) ∧
    (∀ c ∈ rest.head?, isDigit c = false) ∧ v = signed negative (decimal digits)

variable {s rest : List UInt8} {v w lo hi : Int}

/-! ## The parts of a text -/

theorem lt_of_isDigit {c : UInt8} (digit : isDigit c = true) : 0x30 ≤ c.toNat ∧ c.toNat ≤ 0x39 := by
  simpa only [isDigit, Bool.and_eq_true, decide_eq_true_eq, UInt8.le_iff_toNat_le,
    UInt8.reduceToNat] using digit

theorem not_isSpace_of_isDigit {c : UInt8} (digit : isDigit c = true) : isSpace c = false := by
  have bounds := lt_of_isDigit digit
  simp only [isSpace, Bool.or_eq_false_iff, Bool.and_eq_false_iff, decide_eq_false_iff_not,
    UInt8.le_iff_toNat_le, beq_eq_false_iff_ne, ne_eq, ← UInt8.toNat_inj, UInt8.reduceToNat]
  omega

theorem splitSign_digits {digits : List UInt8} (some : digits ≠ [])
    (all : ∀ c ∈ digits, isDigit c = true) :
    splitSign (digits ++ rest) = (false, digits ++ rest) := by
  obtain ⟨c, digits, rfl⟩ := List.exists_cons_of_ne_nil some
  have bounds := lt_of_isDigit (all c List.mem_cons_self)
  rw [List.cons_append, splitSign]
  · intro _ same
    cases List.head_eq_of_cons_eq same
    exact absurd bounds (by decide)
  · intro _ same
    cases List.head_eq_of_cons_eq same
    exact absurd bounds (by decide)

theorem splitSign_append {negative : Bool} {sign digits : List UInt8}
    (mem : sign ∈ signs negative) (some : digits ≠ []) (all : ∀ c ∈ digits, isDigit c = true) :
    splitSign (sign ++ (digits ++ rest)) = (negative, digits ++ rest) := by
  cases negative with
  | true =>
      cases List.mem_singleton.mp mem
      rfl
  | false =>
      rcases List.mem_cons.mp mem with none | mem
      · rw [none, List.nil_append]
        exact splitSign_digits some all
      · cases List.mem_singleton.mp mem
        rfl

theorem not_isSpace_head {negative : Bool} {sign digits : List UInt8}
    (mem : sign ∈ signs negative) (some : digits ≠ []) (all : ∀ c ∈ digits, isDigit c = true) :
    ∀ c ∈ (sign ++ (digits ++ rest)).head?, isSpace c = false := by
  obtain ⟨d, digits, rfl⟩ := List.exists_cons_of_ne_nil some
  intro c first
  cases negative with
  | true =>
      cases List.mem_singleton.mp mem
      cases Option.some.inj first
      rfl
  | false =>
      rcases List.mem_cons.mp mem with none | mem
      · rw [none] at first
        cases Option.some.inj first
        exact not_isSpace_of_isDigit (all _ List.mem_cons_self)
      · cases List.mem_singleton.mp mem
        cases Option.some.inj first
        rfl

/-- A sign is cut off a text, or none is there. -/
theorem exists_sign (s : List UInt8) :
    ∃ sign ∈ signs (splitSign s).1, s = sign ++ (splitSign s).2 := by
  unfold splitSign
  split
  · exact ⟨[0x2d], .head _, rfl⟩
  · exact ⟨[0x2b], .tail _ (.head _), rfl⟩
  · exact ⟨[], .head _, rfl⟩

/-- A text behind its longest front with a property. -/
theorem dropWhile_eq {p : UInt8 → Bool} {front : List UInt8} (all : ∀ c ∈ front, p c = true)
    (stops : ∀ c ∈ rest.head?, p c = false) : (front ++ rest).dropWhile p = rest := by
  rw [List.dropWhile_append_of_pos all]
  refine List.dropWhile_eq_self_iff.mpr fun inside => ?_
  rw [stops _ (List.getElem_zero_eq_head inside ▸ List.head_mem_head? _)]
  exact Bool.false_ne_true

theorem takeWhile_eq {p : UInt8 → Bool} {front : List UInt8} (all : ∀ c ∈ front, p c = true)
    (stops : ∀ c ∈ rest.head?, p c = false) : (front ++ rest).takeWhile p = front := by
  have whole := List.takeWhile_append_dropWhile (p := p) (l := front ++ rest)
  rw [dropWhile_eq all stops] at whole
  exact List.append_cancel_right whole

/-- `Numeral`, by the parts that `strtol` finds. -/
theorem numeral_iff : Numeral s v ↔
    (splitSign (s.dropWhile isSpace)).2.takeWhile isDigit ≠ [] ∧
      v = signed (splitSign (s.dropWhile isSpace)).1
        (decimal ((splitSign (s.dropWhile isSpace)).2.takeWhile isDigit)) := by
  constructor
  · rintro ⟨spaces, negative, sign, digits, rest, rfl, blank, mem, some, all, stops, rfl⟩
    have body : (spaces ++ sign ++ digits ++ rest).dropWhile isSpace =
        sign ++ (digits ++ rest) := by
      rw [List.append_assoc, List.append_assoc]
      exact dropWhile_eq blank (not_isSpace_head mem some all)
    rw [body, splitSign_append mem some all, takeWhile_eq all stops]
    exact ⟨some, rfl⟩
  · rintro ⟨some, rfl⟩
    obtain ⟨sign, mem, cut⟩ := exists_sign (s.dropWhile isSpace)
    refine ⟨s.takeWhile isSpace, _, sign, _, (splitSign (s.dropWhile isSpace)).2.dropWhile isDigit,
      ?_, fun c => List.mem_takeWhile_imp, mem, some, fun c => List.mem_takeWhile_imp, ?_, rfl⟩
    · rw [List.append_assoc, List.append_assoc, List.takeWhile_append_dropWhile, ← cut,
        List.takeWhile_append_dropWhile]
    · intro c first
      have stops := List.head?_dropWhile_not isDigit (splitSign (s.dropWhile isSpace)).2
      rw [Option.mem_def.mp first] at stops
      exact stops

/-- A text starts with one numeral at most. -/
theorem Numeral.unique (first : Numeral s v) (second : Numeral s w) : v = w :=
  (numeral_iff.mp first).2.trans (numeral_iff.mp second).2.symm

/-! ## The outcomes of a call -/

theorem length_splitSign_le (s : List UInt8) : (splitSign s).2.length ≤ s.length := by
  obtain ⟨sign, -, cut⟩ := exists_sign s
  have parts := congrArg List.length cut
  rw [List.length_append] at parts
  omega

/-- What a call makes of a numeral. -/
def converted (lo hi v : Int) (endptr : Nat) : Conversion :=
  if v < lo then ⟨lo, endptr, true⟩
  else if hi < v then ⟨hi, endptr, true⟩
  else ⟨v, endptr, false⟩

theorem strtol_of_numeral (lo hi : Int) (reads : Numeral s v) :
    ∃ endptr, endptr ≠ 0 ∧ strtol lo hi s = converted lo hi v endptr := by
  obtain ⟨some, rfl⟩ := numeral_iff.mp reads
  refine ⟨_, ?_, if_neg some⟩
  have front := (List.takeWhile_prefix isDigit (l := (splitSign (s.dropWhile isSpace)).2)).length_le
  have within : (splitSign (s.dropWhile isSpace)).2.length ≤ s.length :=
    (length_splitSign_le _).trans (List.dropWhile_suffix isSpace).length_le
  have positive := List.length_pos_iff.mpr some
  omega

theorem strtol_of_not_numeral (lo hi : Int) (none : ∀ v, ¬Numeral s v) :
    strtol lo hi s = ⟨0, 0, false⟩ := by
  refine if_pos (not_not.mp fun some => none _ (numeral_iff.mpr ⟨some, rfl⟩))

/-- The text starts with a numeral that fits. -/
theorem strtol_ok_iff : ((strtol lo hi s).endptr ≠ 0 ∧ (strtol lo hi s).erange = false ∧
    (strtol lo hi s).value = v) ↔ Numeral s v ∧ lo ≤ v ∧ v ≤ hi := by
  by_cases some : ∃ w, Numeral s w
  · obtain ⟨w, reads⟩ := some
    obtain ⟨endptr, moved, outcome⟩ := strtol_of_numeral lo hi reads
    rw [outcome, converted]
    split
    case isTrue below =>
      refine iff_of_false (fun ok => Bool.noConfusion ok.2.1) fun fits => ?_
      exact absurd fits.2.1 (Int.not_le.mpr (fits.1.unique reads ▸ below))
    case isFalse above =>
      split
      case isTrue beyond =>
        refine iff_of_false (fun ok => Bool.noConfusion ok.2.1) fun fits => ?_
        exact absurd fits.2.2 (Int.not_le.mpr (fits.1.unique reads ▸ beyond))
      case isFalse within =>
        constructor
        · rintro ⟨-, -, rfl⟩
          exact ⟨reads, Int.not_lt.mp above, Int.not_lt.mp within⟩
        · rintro ⟨same, -, -⟩
          exact ⟨moved, rfl, reads.unique same⟩
  · rw [strtol_of_not_numeral lo hi fun w reads => some ⟨w, reads⟩]
    exact iff_of_false (fun ok => ok.1 rfl) fun fits => some ⟨v, fits.1⟩

/-! ## What is printed -/

/-- The digits of a number. -/
def printDigits (n : Nat) : List UInt8 :=
  if n = 0 then [0x30] else (Nat.digits 10 n).reverse.map fun d => UInt8.ofNat (0x30 + d)

/-- `%d`. -/
def print (v : Int) : List UInt8 := (if v < 0 then [0x2d] else []) ++ printDigits v.natAbs

theorem toNat_digit {d : Nat} (small : d < 10) : (UInt8.ofNat (0x30 + d)).toNat = 0x30 + d :=
  UInt8.toNat_ofNat_of_lt' (Nat.lt_of_lt_of_le (Nat.add_lt_add_left small _) (by decide))

theorem decimal_printDigits (n : Nat) : decimal (printDigits n) = n := by
  rw [printDigits]
  split
  case isTrue zero => exact zero.symm
  case isFalse =>
    have small : ∀ d ∈ Nat.digits 10 n, d < 10 := fun d => Nat.digits_lt_base (by decide)
    rw [decimal, List.map_reverse, List.foldl_reverse, List.foldr_map]
    refine Eq.trans ?_ (Nat.ofDigits_digits 10 n)
    generalize Nat.digits 10 n = ds at small
    induction ds with
    | nil => rfl
    | cons d ds ih =>
        obtain ⟨here, later⟩ := List.forall_mem_cons.mp small
        rw [List.foldr_cons, ih later, toNat_digit here, Nat.ofDigits_cons]
        omega

theorem isDigit_printDigits {n : Nat} : ∀ c ∈ printDigits n, isDigit c = true := by
  rw [printDigits]
  split
  · exact List.forall_mem_singleton.mpr rfl
  · intro c mem
    obtain ⟨d, inside, rfl⟩ := List.mem_map.mp mem
    have small := Nat.digits_lt_base (by decide) (List.mem_reverse.mp inside)
    simp only [isDigit, Bool.and_eq_true, decide_eq_true_eq, UInt8.le_iff_toNat_le,
      toNat_digit small, UInt8.reduceToNat]
    omega

theorem printDigits_ne_nil {n : Nat} : printDigits n ≠ [] := by
  rw [printDigits]
  split
  · exact List.cons_ne_nil _ _
  case isFalse some =>
    rw [ne_eq, List.map_eq_nil_iff, List.reverse_eq_nil_iff, Nat.digits_eq_nil_iff_eq_zero]
    exact some

theorem length_printDigits_le {n k : Nat} (small : n < 10 ^ k) :
    (printDigits n).length ≤ k + 1 := by
  rw [printDigits]
  split
  · exact Nat.le_add_left 1 k
  · rw [List.length_map, List.length_reverse]
    exact ((Nat.digits_length_le_iff (by decide) n).mpr small).trans (Nat.le_succ k)

theorem length_print_le {k : Nat} (small : v.natAbs < 10 ^ k) : (print v).length ≤ k + 2 := by
  have digits := length_printDigits_le small
  have sign : (if v < 0 then [0x2d] else [] : List UInt8).length ≤ 1 := by
    split
    · exact Nat.le_refl 1
    · exact Nat.zero_le 1
  rw [print, List.length_append]
  omega

/-- Nothing that is printed ends a line. -/
theorem ne_newline_of_mem_print {c : UInt8} (mem : c ∈ print v) : c ≠ 0x0a := by
  rintro rfl
  rcases List.mem_append.mp mem with sign | digit
  · split at sign
    · exact absurd (List.mem_singleton.mp sign) (by decide)
    · exact absurd sign List.not_mem_nil
  · exact absurd (isDigit_printDigits _ digit) (by decide)

/-- **A printed number in front of anything but a digit is read as that number.** -/
theorem numeral_print (v : Int) (stops : ∀ c ∈ rest.head?, isDigit c = false) :
    Numeral (print v ++ rest) v := by
  refine ⟨[], decide (v < 0), if v < 0 then [0x2d] else [], printDigits v.natAbs, rest, rfl, nofun,
    ?_, printDigits_ne_nil, isDigit_printDigits, stops, ?_⟩
  · by_cases below : v < 0
    · rw [if_pos below, decide_eq_true below]
      exact .head _
    · rw [if_neg below, decide_eq_false below]
      exact .head _
  · rw [decimal_printDigits, signed]
    by_cases below : v < 0
    · rw [decide_eq_true below, if_pos rfl]
      omega
    · rw [decide_eq_false below, if_neg Bool.false_ne_true]
      omega

end EsphomeHost.Strtol

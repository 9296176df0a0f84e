import EsphomeHost.Tracker.Device1
import Mathlib.Tactic.IntervalCases

/-!
# What is taken for an address

`parse_bdaddr` leaves it to `sscanf` what a byte in hexadecimal is.  `%02x` wants two digits, but
is content with one behind a blank or a sign, or with a bare prefix, and at the end of the text
with one digit whatever follows.

* `scanHex_pair`: what one conversion makes of two characters.
* `scanFields_isSome`: the texts that are taken, pair by pair.
* `parseBdaddr_joined`: two digits in each place are read as the bytes they denote.
* `parseBdaddr_addressStr`: the printed form of an address is read back.
-/

namespace EsphomeHost

/-! ## One conversion -/

/-- What `%02x` may skip or take before the digits. -/
def isLead (c : Char) : Bool := isSpace c || c = '-' || c = '+'

/-- Two characters that `%02x` takes up whole: two digits, a digit behind a blank or a sign, or
the prefix. -/
def Taken (a b : Char) : Prop :=
  ((Hex.value a).isSome ∨ isLead a) ∧ (Hex.value b).isSome ∨ a = '0' ∧ (b = 'x' ∨ b = 'X')

/-- At the end of the text one digit is enough, whatever is left unread. -/
def TakenLast (a b : Char) : Prop := (Hex.value a).isSome ∨ isLead a ∧ (Hex.value b).isSome

/-- No digit comes next. -/
def Stops (t : List Char) : Prop := t = [] ∨ ∃ u, t = ':' :: u

theorem scanSign_plain {c : Char} (rest : List Char) (minus : c ≠ '-') (plus : c ≠ '+') :
    scanSign (c :: rest) = (false, 2, c :: rest) := by
  unfold scanSign
  split
  · rename_i h
    exact absurd (List.cons.inj h).1 minus
  · rename_i h
    exact absurd (List.cons.inj h).1 plus
  · rfl

/-- Without a prefix the digits come at once. -/
theorem scanDigits_plain {c x : Char} (width : Nat) (rest : List Char)
    (noPrefix : ¬ (c = '0' ∧ (x = 'x' ∨ x = 'X'))) :
    scanDigits width (c :: x :: rest) = takeHex width (c :: x :: rest) := by
  unfold scanDigits
  split
  · rename_i same
    obtain ⟨rfl, tail⟩ := List.cons.inj same
    obtain ⟨rfl, rfl⟩ := List.cons.inj tail
    rw [if_neg fun both => noPrefix ⟨rfl, both.2⟩]
  · rfl

section Scan

variable {a b c : Char} {s t : List Char} {v : UInt8} {width : Nat}

theorem isLead_iff : isLead c = true ↔ isSpace c = true ∨ c = '-' ∨ c = '+' := by
  simp only [isLead, Bool.or_eq_true, decide_eq_true_eq, or_assoc]

theorem value_of_lead (lead : isLead c = true) : Hex.value c = none := by
  simp only [isLead_iff, isSpace, decide_eq_true_eq] at lead
  rcases lead with (rfl | rfl | rfl | rfl | rfl | rfl) | rfl | rfl <;> rfl

theorem not_lead_of_value (digit : Hex.value c = some v) : isLead c = false := by
  refine Bool.eq_false_iff.mpr fun lead => ?_
  rw [value_of_lead lead] at digit
  cases digit

theorem scanHex_space (space : isSpace c = true) : scanHex (c :: s) = scanHex s := by
  rw [scanHex, List.dropWhile_cons_of_pos space, ← scanHex]

/-- Without a blank or a sign the digits come at once. -/
theorem scanHex_plain (plain : isLead c = false) {digits : List UInt8}
    (read : scanDigits 2 (c :: s) = (digits, t)) :
    scanHex (c :: s) = if digits = [] then none else some (hexNumber digits, t) := by
  simp only [isLead, Bool.or_eq_false_iff, decide_eq_false_iff_not] at plain
  obtain ⟨⟨space, minus⟩, plus⟩ := plain
  have start : (c :: s).dropWhile isSpace = c :: s :=
    List.dropWhile_cons_of_neg (by simp [space])
  simp [scanHex, start, scanSign_plain s minus plus, read]

theorem scanHex_digits (digit : Hex.value c = some v) {digits : List UInt8}
    (nonempty : digits ≠ []) (read : scanDigits 2 (c :: s) = (digits, t)) :
    scanHex (c :: s) = some (hexNumber digits, t) := by
  rw [scanHex_plain (not_lead_of_value digit) read, if_neg nonempty]

theorem takeHex_stops (stops : Stops t) : takeHex width t = ([], t) := by
  rcases stops with rfl | ⟨u, rfl⟩ <;> cases width <;> rfl

theorem takeHex_none (value : Hex.value c = none) : takeHex width (c :: s) = ([], c :: s) := by
  cases width with
  | zero => rfl
  | succ width => simp only [takeHex, value]

/-- One character in front of a stop: there is no room for a prefix. -/
theorem scanDigits_single (stops : Stops t) :
    scanDigits width (b :: t) = takeHex width (b :: t) := by
  rcases stops with rfl | ⟨u, rfl⟩
  · unfold scanDigits
    split
    · rename_i same
      cases (List.cons.inj same).2
    · rfl
  · exact scanDigits_plain width u fun both => absurd both.2 (by decide)

theorem scanDigits_none (value : Hex.value c = none) :
    scanDigits width (c :: s) = ([], c :: s) := by
  unfold scanDigits
  split
  · rename_i same
    rw [(List.cons.inj same).1] at value
    cases value
  · exact takeHex_none value

theorem scanDigits_stops (stops : Stops t) : scanDigits width t = ([], t) := by
  rcases stops with rfl | ⟨u, rfl⟩
  · cases width <;> rfl
  · exact scanDigits_none rfl

theorem takeHex_single (stops : Stops t) (value : Hex.value b = some v) :
    takeHex (width + 1) (b :: t) = ([v], t) := by
  simp only [takeHex, value, takeHex_stops stops]

/-- A sign takes up one of the two characters. -/
theorem scanHex_sign (sign : c = '-' ∨ c = '+') {digits : List UInt8}
    (read : scanDigits 1 s = (digits, t)) :
    (digits = [] → scanHex (c :: s) = none) ∧
      (digits ≠ [] → ∃ n, scanHex (c :: s) = some (n, t)) := by
  obtain ⟨negative, first⟩ : ∃ negative, scanSign (c :: s) = (negative, 1, s) := by
    rcases sign with rfl | rfl
    · exact ⟨true, rfl⟩
    · exact ⟨false, rfl⟩
  have start : (c :: s).dropWhile isSpace = c :: s := by
    rcases sign with rfl | rfl <;> rfl
  constructor
  · intro empty
    simp [scanHex, start, first, read, empty]
  · intro nonempty
    refine ⟨if negative then -hexNumber digits else hexNumber digits, ?_⟩
    simp [scanHex, start, first, read, nonempty]

/-- Neither a digit nor what may come before one. -/
theorem scanHex_none (value : Hex.value c = none) (plain : isLead c = false) :
    scanHex (c :: s) = none := by
  rw [scanHex_plain plain (scanDigits_none value), if_pos rfl]

theorem scanHex_stops (stops : Stops t) : scanHex t = none := by
  rcases stops with rfl | ⟨u, rfl⟩
  · rfl
  · exact scanHex_none rfl rfl

/-- One character in front of a stop is taken if it is a digit. -/
theorem scanHex_single (stops : Stops t) :
    ((Hex.value b).isSome → ∃ n, scanHex (b :: t) = some (n, t)) ∧
      (Hex.value b = none → scanHex (b :: t) = none) := by
  constructor
  · intro digit
    obtain ⟨v, value⟩ := Option.isSome_iff_exists.mp digit
    refine ⟨hexNumber [v], scanHex_digits value (List.cons_ne_nil v []) ?_⟩
    rw [scanDigits_single stops, takeHex_single stops value]
  · intro value
    by_cases lead : isLead b = true
    · rcases isLead_iff.mp lead with space | sign
      · rw [scanHex_space space, scanHex_stops stops]
      · exact (scanHex_sign sign (scanDigits_stops stops)).1 rfl
    · exact scanHex_none value (by simpa using lead)

/-- Behind a blank or a sign there is room for one digit. -/
theorem scanHex_lead (lead : isLead a = true) (stops : Stops t) :
    ((Hex.value b).isSome → ∃ n, scanHex (a :: b :: t) = some (n, t)) ∧
      (Hex.value b = none → scanHex (a :: b :: t) = none) := by
  rcases isLead_iff.mp lead with space | sign
  · rw [scanHex_space space]
    exact scanHex_single stops
  · constructor
    · intro digit
      obtain ⟨v, value⟩ := Option.isSome_iff_exists.mp digit
      refine (scanHex_sign sign ?_).2 (List.cons_ne_nil v [])
      rw [scanDigits_single stops, takeHex_single stops value]
    · intro value
      exact (scanHex_sign sign (scanDigits_none value)).1 rfl

theorem taken_of_lead (lead : isLead a = true) : Taken a b ↔ (Hex.value b).isSome := by
  refine ⟨?_, fun digit => .inl ⟨.inr lead, digit⟩⟩
  rintro (⟨-, digit⟩ | ⟨rfl, -⟩)
  · exact digit
  · cases value_of_lead lead

theorem Taken.first (taken : Taken a b) : (Hex.value a).isSome ∨ isLead a := by
  rcases taken with ⟨first, -⟩ | ⟨rfl, -⟩
  · exact first
  · exact .inl rfl

/-- A digit comes first. -/
theorem scanHex_digit (value : Hex.value a = some v) (stops : Stops t) :
    (Taken a b → ∃ n, scanHex (a :: b :: t) = some (n, t)) ∧
      (¬ Taken a b → scanHex (a :: b :: t) = some (hexNumber [v], b :: t)) := by
  have digit : (Hex.value a).isSome := Option.isSome_of_eq_some value
  by_cases hexPrefix : a = '0' ∧ (b = 'x' ∨ b = 'X')
  · refine ⟨fun _ => ?_, fun left => absurd (.inr hexPrefix) left⟩
    obtain ⟨rfl, x⟩ := hexPrefix
    exact ⟨_, scanHex_digits value (List.cons_ne_nil 0 []) (if_pos ⟨rfl, x⟩)⟩
  · have read := scanDigits_plain 2 t hexPrefix
    have step : takeHex 2 (a :: b :: t) =
        (v :: (takeHex 1 (b :: t)).1, (takeHex 1 (b :: t)).2) := by
      rw [takeHex, value]
    constructor
    · rintro (⟨-, second⟩ | both)
      · obtain ⟨w, second⟩ := Option.isSome_iff_exists.mp second
        refine ⟨_, scanHex_digits value (List.cons_ne_nil v [w]) (read.trans ?_)⟩
        rw [step, takeHex_single stops second]
      · exact absurd both hexPrefix
    · intro left
      have second : Hex.value b = none :=
        Option.not_isSome_iff_eq_none.mp fun second => left (.inl ⟨.inl digit, second⟩)
      refine scanHex_digits value (List.cons_ne_nil v []) (read.trans ?_)
      rw [step, takeHex_none second]

/-- **What a conversion makes of two characters in front of a stop**: it takes both, or a digit
only, or nothing. -/
theorem scanHex_pair (stops : Stops t) :
    (Taken a b ∧ ∃ n, scanHex (a :: b :: t) = some (n, t)) ∨
      (¬ Taken a b ∧ (Hex.value a).isSome ∧ ∃ n, scanHex (a :: b :: t) = some (n, b :: t)) ∨
        (¬ Taken a b ∧ Hex.value a = none ∧ scanHex (a :: b :: t) = none) := by
  cases value : Hex.value a with
  | some v =>
      by_cases taken : Taken a b
      · exact .inl ⟨taken, (scanHex_digit value stops).1 taken⟩
      · exact .inr (.inl ⟨taken, rfl, _, (scanHex_digit value stops).2 taken⟩)
  | none =>
      by_cases lead : isLead a = true
      · rw [taken_of_lead lead]
        cases second : Hex.value b with
        | some w => exact .inl ⟨rfl, (scanHex_lead lead stops).1 (Option.isSome_of_eq_some second)⟩
        | none => exact .inr (.inr ⟨nofun, rfl, (scanHex_lead lead stops).2 second⟩)
      · refine .inr (.inr ⟨fun taken => ?_, rfl, scanHex_none value (by simpa using lead)⟩)
        rcases taken.first with digit | first
        · rw [value] at digit
          cases digit
        · exact lead first

end Scan

/-! ## The six of them -/

/-- A conversion and as many more behind colons: the loop that the format of `parse_bdaddr` is. -/
def scanFields : Nat → List Char → Option (List UInt32)
  | 0, s => (scanHex s).map fun r => [r.1]
  | n + 1, s =>
      (scanHex s).bind fun r => ((scanColon r.2).bind (scanFields n)).map (r.1 :: ·)

theorem scanFields_zero_map {β : Type} (s : List Char) (f : List UInt32 → β) :
    (scanFields 0 s).map f = (scanHex s).bind fun r => some (f [r.1]) := by
  rw [scanFields, Option.map_map, Option.map_eq_bind]
  rfl

theorem scanFields_succ_map {β : Type} (n : Nat) (s : List Char) (f : List UInt32 → β) :
    (scanFields (n + 1) s).map f = (scanHex s).bind fun r =>
      (scanColon r.2).bind fun s => (scanFields n s).map fun vs => f (r.1 :: vs) := by
  simp only [scanFields, Option.map_bind, Option.map_map, Function.comp_def]

theorem parseBdaddr_eq (str : List Char) :
    parseBdaddr str = (scanFields 5 str).map fun vs => (vs.map UInt32.toUInt8).reverse := by
  simp only [scanFields_succ_map, scanFields_zero_map]
  rfl

/-- Pairs of characters and what stands between two of them. -/
def joined (sep : Char) : List (Char × Char) → Char × Char → List Char
  | [], last => [last.1, last.2]
  | p :: pairs, last => p.1 :: p.2 :: sep :: joined sep pairs last

theorem scanFields_stops {t : List Char} (stops : Stops t) (n : Nat) : scanFields n t = none := by
  cases n <;> simp [scanFields, scanHex_stops stops]

/-- Two colons cannot stand side by side. -/
theorem scanFields_open (c : Char) {t : List Char} (stops : Stops t) (n : Nat) :
    (scanColon (c :: t)).bind (scanFields n) = none := by
  by_cases colon : c = ':'
  · subst colon
    exact scanFields_stops stops n
  · have other : scanColon (c :: t) = none := by
      unfold scanColon
      split
      · rename_i same
        exact absurd (List.cons.inj same).1 colon
      · rfl
    rw [other]
    rfl

theorem takenLast_iff {a b : Char} (noDigit : Hex.value a = none) :
    TakenLast a b ↔ Taken a b := by
  simp only [TakenLast, Taken, noDigit, Option.isSome_none, Bool.false_eq_true, false_or]
  refine ⟨.inl, ?_⟩
  rintro (behind | ⟨rfl, -⟩)
  · exact behind
  · cases noDigit

theorem takenLast_of_taken {a b : Char} (taken : Taken a b) : TakenLast a b := by
  rcases taken with ⟨digit | lead, second⟩ | ⟨rfl, -⟩
  · exact .inl digit
  · exact .inr ⟨lead, second⟩
  · exact .inl rfl

/-- **What is taken for bytes in hexadecimal.** -/
theorem scanFields_isSome (pairs : List (Char × Char)) (last : Char × Char) :
    (scanFields pairs.length (joined ':' pairs last)).isSome ↔
      (∀ p ∈ pairs, Taken p.1 p.2) ∧ TakenLast last.1 last.2 := by
  induction pairs with
  | nil =>
      simp only [List.not_mem_nil, false_implies, implies_true, true_and]
      rcases scanHex_pair (a := last.1) (b := last.2) (.inl rfl) with
        ⟨taken, n, read⟩ | ⟨-, digit, n, read⟩ | ⟨left, noDigit, read⟩
      · simp [scanFields, joined, read, takenLast_of_taken taken]
      · simp [scanFields, joined, read, TakenLast, digit]
      · simp [scanFields, joined, read, takenLast_iff noDigit, left]
  | cons p pairs ih =>
      have stops : Stops (':' :: joined ':' pairs last) := .inr ⟨_, rfl⟩
      rw [List.forall_mem_cons, and_assoc, ← ih]
      rcases scanHex_pair (a := p.1) (b := p.2) stops with
        ⟨taken, n, read⟩ | ⟨left, -, n, read⟩ | ⟨left, -, read⟩
      · simp [scanFields, joined, read, scanColon, taken]
      · have ends := scanFields_open p.2 stops pairs.length
        simp only [List.length_cons, scanFields, joined, read, Option.bind_some, ends, left]
        exact iff_of_false Bool.false_ne_true fun both => both.1
      · simp [scanFields, joined, read, left]

theorem scanFields_length {n : Nat} {s : List Char} {vs : List UInt32}
    (read : scanFields n s = some vs) : vs.length = n + 1 := by
  induction n generalizing s vs with
  | zero =>
      obtain ⟨r, -, rfl⟩ := Option.map_eq_some_iff.mp read
      rfl
  | succ n ih =>
      obtain ⟨r, -, rest⟩ := Option.bind_eq_some_iff.mp read
      obtain ⟨ws, behind, rfl⟩ := Option.map_eq_some_iff.mp rest
      obtain ⟨t, -, fields⟩ := Option.bind_eq_some_iff.mp behind
      rw [List.length_cons, ih fields]

theorem length_of_parseBdaddr {str : List Char} {bd : List UInt8}
    (read : parseBdaddr str = some bd) : bd.length = 6 := by
  rw [parseBdaddr_eq] at read
  obtain ⟨vs, fields, rfl⟩ := Option.map_eq_some_iff.mp read
  rw [List.length_reverse, List.length_map, scanFields_length fields]

/-! ## Two digits in each place -/

/-- Two digits of either case, and the byte they denote. -/
structure Spells (p : Char × Char) (b : UInt8) : Prop where
  high : Hex.value p.1 = some (b >>> 4)
  low : Hex.value p.2 = some (b &&& 15)

/-- A byte as it is printed. -/
def hexPair (b : UInt8) : Char × Char := (Hex.upper (b >>> 4), Hex.upper (b &&& 15))

theorem spells_hexPair (bytes : List UInt8) : List.Forall₂ Spells (bytes.map hexPair) bytes := by
  induction bytes with
  | nil => exact .nil
  | cons b bytes ih =>
      exact .cons ⟨Hex.value_upper (Hex.high_lt b), Hex.value_upper (Hex.low_lt b)⟩ ih

theorem Spells.ne {p : Char × Char} {b : UInt8} (spelled : Spells p b) {x : Char}
    (noDigit : Hex.value x = none) : p.1 ≠ x ∧ p.2 ≠ x := by
  constructor
  · rintro rfl
    rw [spelled.high] at noDigit
    cases noDigit
  · rintro rfl
    rw [spelled.low] at noDigit
    cases noDigit

theorem ne_of_mem_joined {pairs : List (Char × Char)} {last : Char × Char} {bytes : List UInt8}
    (spelled : List.Forall₂ Spells (pairs ++ [last]) bytes) {sep c x : Char}
    (noDigit : Hex.value x = none) (other : sep ≠ x) (mem : c ∈ joined sep pairs last) :
    c ≠ x := by
  induction pairs generalizing bytes with
  | nil =>
      cases spelled with
      | cons one _ =>
          simp only [joined, List.mem_cons, List.not_mem_nil, or_false] at mem
          rcases mem with rfl | rfl
          · exact (one.ne noDigit).1
          · exact (one.ne noDigit).2
  | cons p pairs ih =>
      cases spelled with
      | cons one rest =>
          simp only [joined, List.mem_cons] at mem
          rcases mem with rfl | rfl | rfl | mem
          · exact (one.ne noDigit).1
          · exact (one.ne noDigit).2
          · exact other
          · exact ih rest mem

theorem scanHex_spelled {p : Char × Char} {b : UInt8} (spelled : Spells p b) (rest : List Char) :
    scanHex (p.1 :: p.2 :: rest) = some (hexNumber [b >>> 4, b &&& 15], rest) := by
  refine scanHex_digits spelled.high (List.cons_ne_nil _ _) ?_
  rw [scanDigits_plain 2 rest fun both => both.2.elim (spelled.ne rfl).2 (spelled.ne rfl).2]
  simp only [takeHex, spelled.high, spelled.low]

theorem hexNumber_nibbles (b : UInt8) : (hexNumber [b >>> 4, b &&& 15]).toUInt8 = b := by
  apply UInt8.toNat_inj.mp
  have hb := b.toNat_lt
  simp only [hexNumber, List.foldl_cons, List.foldl_nil, UInt32.toNat_toUInt8, UInt32.toNat_add,
    UInt32.toNat_mul, UInt8.toNat_toUInt32, Hex.high_toNat, Hex.low_toNat, UInt32.toNat_zero,
    UInt32.reduceToNat]
  omega

theorem scanFields_spelled {pairs : List (Char × Char)} {last : Char × Char} {bytes : List UInt8}
    (spelled : List.Forall₂ Spells (pairs ++ [last]) bytes) :
    (scanFields pairs.length (joined ':' pairs last)).map (List.map UInt32.toUInt8) =
      some bytes := by
  induction pairs generalizing bytes with
  | nil =>
      cases spelled with
      | cons one none =>
          cases none
          simp [scanFields, joined, scanHex_spelled one, hexNumber_nibbles]
  | cons p pairs ih =>
      cases spelled with
      | cons one rest =>
          obtain ⟨vs, read, same⟩ := Option.map_eq_some_iff.mp (ih rest)
          simp [scanFields, joined, scanHex_spelled one, scanColon, read, same, hexNumber_nibbles]

/-- **Six spelled bytes are read as the address**, least significant byte first. -/
theorem parseBdaddr_joined {pairs : List (Char × Char)} {last : Char × Char} {bytes : List UInt8}
    (five : pairs.length = 5) (spelled : List.Forall₂ Spells (pairs ++ [last]) bytes) :
    parseBdaddr (joined ':' pairs last) = some bytes.reverse := by
  obtain ⟨vs, read, same⟩ := Option.map_eq_some_iff.mp (scanFields_spelled spelled)
  rw [five] at read
  rw [parseBdaddr_eq, read]
  exact congrArg (fun bytes => some bytes.reverse) same

/-- Six printed bytes are read back in the other order. -/
theorem parseBdaddr_bytes (b0 b1 b2 b3 b4 b5 : UInt8) :
    parseBdaddr (Hex.byteUpper b5 ++ ':' :: (Hex.byteUpper b4 ++ ':' ::
      (Hex.byteUpper b3 ++ ':' :: (Hex.byteUpper b2 ++ ':' ::
        (Hex.byteUpper b1 ++ ':' :: (Hex.byteUpper b0 ++ [])))))) =
          some [b0, b1, b2, b3, b4, b5] := by
  have spelled : List.Forall₂ Spells ([b5, b4, b3, b2, b1].map hexPair ++ [hexPair b0])
      [b5, b4, b3, b2, b1, b0] := spells_hexPair [b5, b4, b3, b2, b1, b0]
  have read := parseBdaddr_joined rfl spelled
  simp only [List.map_cons, List.map_nil, joined, hexPair] at read
  exact read

/-- **A printed address is read back**, least significant byte first. -/
theorem parseBdaddr_addressStr (d : ESPBTDevice) :
    parseBdaddr d.addressStr = some d.address.toList := by
  have bytes : d.address.toList =
      [d.address[0], d.address[1], d.address[2], d.address[3], d.address[4], d.address[5]] := by
    apply List.ext_getElem
    · simp
    · intro i hi hi'
      simp only [List.length_cons, List.length_nil] at hi'
      interval_cases i <;> simp
  rw [bytes, ← parseBdaddr_bytes, List.append_nil]
  rfl

end EsphomeHost

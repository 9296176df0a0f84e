import EsphomeHost.Ble.Uuid

/-!
# Round trips of UUIDs

A UUID is printed and parsed as a string, expanded to 128 bits, and passed on as the tagged union
`esp_bt_uuid_t`.

* `IsCanonical`: the strings of the form `xxxxxxxx-xxxx-xxxx-xxxx-xxxxxxxxxxxx`, in any letter case.
* `uuid_round_trips`: **printing and parsing a UUID expands it, expanding is idempotent and tells
  UUIDs of one length apart, and the union gives the UUID back; parsing and printing a canonical
  string puts it in lower case, and what is parsed are the bytes it spells, in reverse**.
-/

namespace EsphomeHost

open LittleEndian

/-! ## The union -/

/-- `esp_bt_uuid_t`; the members of the union are read from its bytes in the order of the host, the
least significant first. -/
structure EspBtUuid where
  len : UInt16
  uuid : Vector UInt8 16

namespace EspBtUuid

variable (u : EspBtUuid)

def uuid16 : UInt16 := le16 (u.uuid.get 0) (u.uuid.get 1)

def uuid32 : UInt32 := le32 (u.uuid.get 0) (u.uuid.get 1) (u.uuid.get 2) (u.uuid.get 3)

end EspBtUuid

namespace ESPBTUUID

variable {u v : ESPBTUUID}

def fromUuid (uuid : EspBtUuid) : ESPBTUUID :=
  if uuid.len = 2 then fromUint16 uuid.uuid16
  else if uuid.len = 4 then fromUint32 uuid.uuid32
  else fromRaw uuid.uuid.toList

def getUuid (u : ESPBTUUID) : EspBtUuid where
  len := u.len.toUInt16
  uuid :=
    if u.len = 2 then copyBytes [byte16 u.get16bit 0, byte16 u.get16bit 1]
    else if u.len = 4 then
      copyBytes [byte32 u.get32bit 0, byte32 u.get32bit 1, byte32 u.get32bit 2,
        byte32 u.get32bit 3]
    else u.raw

/-- What goes through the union is the value that counts. -/
theorem fromUuid_getUuid_eq (u : ESPBTUUID) : fromUuid u.getUuid =
    if u.len = 2 then fromUint16 u.get16bit
    else if u.len = 4 then fromUint32 u.get32bit
    else fromRaw u.raw.toList := by
  have tag (n : UInt8) : u.getUuid.len = n.toUInt16 ↔ u.len = n := UInt8.toUInt16_inj
  rw [fromUuid, show (2 : UInt16) = (2 : UInt8).toUInt16 from rfl,
    show (4 : UInt16) = (4 : UInt8).toUInt16 from rfl]
  simp only [tag]
  split
  · rename_i short
    simp only [getUuid, EspBtUuid.uuid16, if_pos short, get_copyBytes]
    exact congrArg fromUint16 (le16_bytes u.get16bit)
  · split
    · rename_i other middle
      simp only [getUuid, EspBtUuid.uuid32, if_neg other, if_pos middle, get_copyBytes]
      exact congrArg fromUint32 (le32_bytes u.get32bit)
    · rename_i other long
      simp [getUuid, other, long]

/-- **The union gives the UUID back.** -/
theorem fromUuid_getUuid (sized : u.Sized) : (fromUuid u.getUuid == u) = true := by
  rw [beq_iff_denotes sized, fromUuid_getUuid_eq, denotes, decide_eq_true_iff]
  rcases sized with short | middle | long
  · rw [if_pos short, as128bit_fromUint16, as128bit_of_len2 short]
    exact ⟨rfl, short.symm⟩
  · rw [if_neg (by rw [middle]; decide), if_pos middle, as128bit_fromUint32,
      as128bit_of_len4 middle]
    exact ⟨rfl, middle.symm⟩
  · rw [if_neg (by rw [long]; decide), if_neg (by rw [long]; decide), fromRaw, copyBytes_toList,
      ← long]
    exact ⟨rfl, rfl⟩

/-- **Expanding tells UUIDs of one length apart.** -/
theorem as128bit_injective (sized : u.Sized) (same : v.len = u.len)
    (expanded : (v.as128bit == u.as128bit) = true) : (v == u) = true := by
  rw [beq_iff_of_len16 (as128bit_len v) (as128bit_len u)] at expanded
  exact (beq_iff_denotes sized).mpr ⟨decide_eq_true expanded, same⟩

/-! ## Canonical strings -/

/-- A hexadecimal digit of either case. -/
def isHexDigit (c : Char) : Bool := (Hex.value c).isSome

def IsCanonical (s : List Char) : Prop :=
  ∃ a b c d e : List Char, s = a ++ '-' :: (b ++ '-' :: (c ++ '-' :: (d ++ '-' :: e))) ∧
    [a, b, c, d, e].map List.length = [8, 4, 4, 4, 12] ∧
    ∀ group ∈ [a, b, c, d, e], group.all isHexDigit = true

/-- The bytes that digits spell, two a byte. -/
def spelledBytes : List Char → List UInt8
  | high :: low :: digits =>
      (((Hex.value high).getD 0 <<< 4) ||| (Hex.value low).getD 0) :: spelledBytes digits
  | _ => []

/-- The bytes of a string in the order they are written, most significant first. -/
def bigEndianBytes (s : List Char) : List UInt8 := spelledBytes (s.filter (· ≠ '-'))

/-- The nibble loop does not tell the cases apart. -/
theorem uuidStrLoop_toLower {cs : List Char} (digits : ∀ c ∈ cs, isHexDigit c = true ∨ c = '-')
    (bytes : List UInt8) (hi : Option UInt8) :
    uuidStrLoop (cs.map Char.toLower) bytes hi = uuidStrLoop cs bytes hi := by
  induction cs generalizing bytes hi with
  | nil => rfl
  | cons c cs ih =>
      have rest := ih fun d below => digits d (List.mem_cons_of_mem _ below)
      rw [List.map_cons, uuidStrLoop, uuidStrLoop]
      rcases digits c List.mem_cons_self with digit | rfl
      · obtain ⟨n, value⟩ := Option.isSome_iff_exists.mp digit
        obtain ⟨small, lowered, other⟩ := Hex.of_value value
        rw [lowered, if_neg (Hex.lower_ne_dash small), if_neg other, Hex.value_lower small, value]
        simp only [rest]
      · rw [show Char.toLower '-' = '-' from rfl, if_pos rfl, if_pos rfl, rest]

/-- An even number of digits, in lower case, is what their bytes are printed as. -/
theorem hexBytes_spelled (k : Nat) {digits : List Char} (length : digits.length = 2 * k)
    (all : digits.all isHexDigit = true) :
    hexBytes (spelledBytes digits) = digits.map Char.toLower ∧
      (spelledBytes digits).length = k := by
  induction k generalizing digits with
  | zero =>
      obtain rfl := List.length_eq_zero_iff.mp length
      exact ⟨rfl, rfl⟩
  | succ k ih =>
      rcases digits with _ | ⟨high, _ | ⟨low, digits⟩⟩
      · simp at length
      · simp at length
        omega
      · simp only [List.all_cons, Bool.and_eq_true] at all
        obtain ⟨h, highValue⟩ := Option.isSome_iff_exists.mp all.1
        obtain ⟨l, lowValue⟩ := Option.isSome_iff_exists.mp all.2.1
        obtain ⟨smallHigh, highLower, -⟩ := Hex.of_value highValue
        obtain ⟨smallLow, lowLower, -⟩ := Hex.of_value lowValue
        obtain ⟨spelled, count⟩ := ih (by simp at length; omega) all.2.2
        obtain ⟨b, rfl, rfl⟩ := Hex.exists_byte smallHigh smallLow
        have byte : spelledBytes (high :: low :: digits) = b :: spelledBytes digits := by
          rw [spelledBytes, highValue, lowValue]
          exact congrArg (· :: _) (Hex.join_nibbles b)
        rw [byte, List.length_cons, count, List.map_cons, List.map_cons, highLower, lowLower,
          ← spelled]
        exact ⟨rfl, rfl⟩

theorem spelledBytes_append (k : Nat) {digits : List Char} (length : digits.length = 2 * k)
    (rest : List Char) :
    spelledBytes (digits ++ rest) = spelledBytes digits ++ spelledBytes rest := by
  induction k generalizing digits with
  | zero =>
      obtain rfl := List.length_eq_zero_iff.mp length
      rfl
  | succ k ih =>
      rcases digits with _ | ⟨high, _ | ⟨low, digits⟩⟩
      · simp at length
      · simp at length
        omega
      · rw [List.cons_append, List.cons_append, spelledBytes, spelledBytes,
          ih (by simp at length; omega), List.cons_append]

theorem filter_digits {digits : List Char} (all : digits.all isHexDigit = true) :
    digits.filter (· ≠ '-') = digits := by
  refine List.filter_eq_self.mpr fun c mem => decide_eq_true ?_
  obtain ⟨n, value⟩ := Option.isSome_iff_exists.mp (List.all_eq_true.mp all c mem)
  exact (Hex.of_value value).2.2

/-- A group of digits, as the bytes it spells. -/
theorem exists_group (k : Nat) {digits : List Char} (length : digits.length = 2 * k)
    (all : digits.all isHexDigit = true) : ∃ bytes : List UInt8, bytes.length = k ∧
      digits.map Char.toLower = hexBytes bytes ∧
      ∀ rest, bigEndianBytes (digits ++ rest) = bytes ++ bigEndianBytes rest := by
  obtain ⟨printed, count⟩ := hexBytes_spelled k length all
  refine ⟨spelledBytes digits, count, printed.symm, fun rest => ?_⟩
  rw [bigEndianBytes, List.filter_append, filter_digits all, spelledBytes_append k length,
    bigEndianBytes]

theorem bigEndianBytes_dash (rest : List Char) :
    bigEndianBytes ('-' :: rest) = bigEndianBytes rest := rfl

/-- **A canonical string spells the sixteen bytes that its lower-case form prints.** -/
theorem exists_spelled {s : List Char} (form : IsCanonical s) :
    ∃ r : Vector UInt8 16, s.map Char.toLower = canonical r ∧
      bigEndianBytes s = r.toList.reverse := by
  obtain ⟨a, b, c, d, e, rfl, lengths, digits⟩ := form
  simp only [List.map_cons, List.map_nil, List.cons.injEq, and_true] at lengths
  simp only [List.forall_mem_cons] at digits
  obtain ⟨ofA, ofB, ofC, ofD, ofE, -⟩ := digits
  obtain ⟨A, countA, lowerA, readA⟩ := exists_group 4 lengths.1 ofA
  obtain ⟨B, countB, lowerB, readB⟩ := exists_group 2 lengths.2.1 ofB
  obtain ⟨C, countC, lowerC, readC⟩ := exists_group 2 lengths.2.2.1 ofC
  obtain ⟨D, countD, lowerD, readD⟩ := exists_group 2 lengths.2.2.2.1 ofD
  obtain ⟨E, countE, lowerE, readE⟩ := exists_group 6 lengths.2.2.2.2 ofE
  have last : bigEndianBytes e = E := by
    have whole := readE []
    rwa [List.append_nil, show bigEndianBytes [] = [] from rfl, List.append_nil] at whole
  simp only [List.map_append, List.map_cons, lowerA, lowerB, lowerC, lowerD, lowerE, readA,
    bigEndianBytes_dash, readB, readC, readD, last]
  obtain ⟨a₀, a₁, a₂, a₃, rfl⟩ := List.length_eq_four.mp countA
  obtain ⟨b₀, b₁, rfl⟩ := List.length_eq_two.mp countB
  obtain ⟨c₀, c₁, rfl⟩ := List.length_eq_two.mp countC
  obtain ⟨d₀, d₁, rfl⟩ := List.length_eq_two.mp countD
  obtain ⟨e₀, e₁, e₂, e₃, e₄, e₅, rfl⟩ : ∃ e₀ e₁ e₂ e₃ e₄ e₅, E = [e₀, e₁, e₂, e₃, e₄, e₅] := by
    match E, countE with
    | [e₀, e₁, e₂, e₃, e₄, e₅], _ => exact ⟨e₀, e₁, e₂, e₃, e₄, e₅, rfl⟩
  refine ⟨copyBytes [e₅, e₄, e₃, e₂, e₁, e₀, d₁, d₀, c₁, c₀, b₁, b₀, a₃, a₂, a₁, a₀], ?_, ?_⟩
  · rw [canonical]
    simp only [getElem_copyBytes, List.getD_cons_succ, List.getD_cons_zero]
    rfl
  · rw [toList_vector16]
    simp only [getElem_copyBytes, List.getD_cons_succ, List.getD_cons_zero]
    rfl

/-- What holds in all the groups holds between the dashes. -/
theorem mem_groups {p : Char → Prop} {a b c d e : List Char}
    (all : ∀ group ∈ [a, b, c, d, e], ∀ x ∈ group, p x) {x : Char}
    (mem : x ∈ a ++ '-' :: (b ++ '-' :: (c ++ '-' :: (d ++ '-' :: e)))) : p x ∨ x = '-' := by
  simp only [List.forall_mem_cons] at all
  obtain ⟨ofA, ofB, ofC, ofD, ofE, -⟩ := all
  simp only [List.mem_append, List.mem_cons] at mem
  rcases mem with mem | dash | mem | dash | mem | dash | mem | dash | mem
  · exact .inl (ofA x mem)
  · exact .inr dash
  · exact .inl (ofB x mem)
  · exact .inr dash
  · exact .inl (ofC x mem)
  · exact .inr dash
  · exact .inl (ofD x mem)
  · exact .inr dash
  · exact .inl (ofE x mem)

theorem mem_canonical {s : List Char} (form : IsCanonical s) {c : Char} (mem : c ∈ s) :
    isHexDigit c = true ∨ c = '-' := by
  obtain ⟨_, _, _, _, _, rfl, -, digits⟩ := form
  exact mem_groups (fun group listed => List.all_eq_true.mp (digits group listed)) mem

/-- **Parsing a canonical string** stores the bytes it spells in reverse. -/
theorem fromUuidStr_of_canonical {s : List Char} (form : IsCanonical s) :
    ∃ r : Vector UInt8 16, s.map Char.toLower = canonical r ∧ fromUuidStr s = ⟨r, 16⟩ ∧
      fromRawReversed (bigEndianBytes s) = ⟨r, 16⟩ := by
  obtain ⟨r, lowered, spelled⟩ := exists_spelled form
  have printed : toStr ⟨r, 16⟩ = canonical r := by rw [toStr, as128bit_of_len rfl]
  refine ⟨r, lowered, ?_, ?_⟩
  · rw [fromUuidStr, ← uuidStrLoop_toLower fun c => mem_canonical form, lowered, ← printed,
      ← fromUuidStr, fromUuidStr_toStr, as128bit_of_len rfl]
  · rw [spelled, fromRawReversed, List.take_of_length_le (by simp), List.reverse_reverse,
      copyBytes_toList]

/-- **The round trips.** -/
theorem uuid_round_trips {u v : ESPBTUUID} {s : List Char} (sized : u.Sized) (same : v.len = u.len)
    (form : IsCanonical s) :
    (fromUuidStr u.toStr = u.as128bit ∧ u.as128bit.as128bit = u.as128bit ∧
      ((v.as128bit == u.as128bit) = true → (v == u) = true) ∧
      (fromUuid u.getUuid == u) = true) ∧
    (fromUuidStr s).toStr = s.map Char.toLower ∧
      fromRawReversed (bigEndianBytes s) = fromUuidStr s := by
  obtain ⟨r, lowered, parsed, spelled⟩ := fromUuidStr_of_canonical form
  refine ⟨⟨fromUuidStr_toStr u, as128bit_idem u, as128bit_injective sized same,
    fromUuid_getUuid sized⟩, ?_, spelled.trans parsed.symm⟩
  rw [parsed, lowered, toStr, as128bit_of_len rfl]

/-- A 16-bit UUID, and a string in both cases. -/
theorem uuid_round_trips_mixed :
    (fromUuid (fromUint16 0xABCD).getUuid == fromUint16 0xABCD) = true ∧
      (fromUuidStr "A1b2C3d4-0001-1000-8000-00805F9B34FB".toList).toStr =
        "a1b2c3d4-0001-1000-8000-00805f9b34fb".toList := by
  have form : IsCanonical "A1b2C3d4-0001-1000-8000-00805F9B34FB".toList :=
    ⟨"A1b2C3d4".toList, "0001".toList, "1000".toList, "8000".toList, "00805F9B34FB".toList,
      by decide +kernel⟩
  obtain ⟨⟨-, -, -, union⟩, printed, -⟩ :=
    uuid_round_trips (sized_fromUint16 0xABCD) (v := fromUint16 0xABCD) rfl form
  exact ⟨union, printed.trans (by decide +kernel)⟩

end ESPBTUUID

end EsphomeHost

import EsphomeHost.Ble.UuidRoundTrip
import EsphomeHost.Server.State

/-!
# UUIDs of a server configuration

`bt_uuid` accepts texts of 4, 8 and 36 characters and the schema a 32-bit integer besides.
`parse_uuid` hands the integer to `from_uint32` and the text to `from_uuid_str`.

* `ConfUuid`: what the schema lets through, with what was checked (`btUuid_ok_iff`).
* `ConfUuid.printed`: the string of the stored UUID, for each of the four kinds.
* `ConfUuid.exported_iff`: **that string is the canonical form exactly if the UUID is a number, a
  text of 36 characters, or a short text whose bytes read the same from either end**;
  `from_uuid_str` stores the bytes of a short text in the order they are written.
* `not_exported_device_information`: 180A is exported as 0A18.
-/

namespace EsphomeHost

open LittleEndian ESPBTUUID

/-! ## `bt_uuid` -/

/-- `[A-F0-9]`. -/
def isUpperDigit (c : Char) : Bool := ('A' ≤ c && c ≤ 'F') || ('0' ≤ c && c ≤ '9')

/-- `[A-F0-9]{n,}`. -/
def hexRun (n : Nat) (cs : List Char) : Bool := n ≤ cs.length && cs.all isUpperDigit

/-- The five runs between the dashes of the 128-bit format. -/
def hexGroups (value : List Char) : Bool :=
  match value.splitOn '-' with
  | [a, b, c, d, e] => hexRun 8 a && hexRun 4 b && hexRun 4 c && hexRun 4 d && hexRun 12 e
  | _ => false

/-- `bt_uuid`, over `str.upper`.  Its `$` could also stand before a final newline, for which the
lengths leave no room. -/
def btUuid (upper : List Char → List Char) (inValue : List Char) : Except String (List Char) :=
  let value := upper inValue
  if value.length = 4 then
    if hexRun 4 value then .ok value
    else .error ("Invalid hexadecimal value for 16 bit UUID format: '" ++ String.ofList inValue
      ++ "'")
  else if value.length = 8 then
    if hexRun 8 value then .ok value
    else .error ("Invalid hexadecimal value for 32 bit UUID format: '" ++ String.ofList inValue
      ++ "'")
  else if value.length = 36 then
    if hexGroups value then .ok value
    else .error ("Invalid hexadecimal value for 128 UUID format: '" ++ String.ofList inValue
      ++ "'")
  else .error ("Bluetooth UUID must be in 16 bit 'XXXX', 32 bit 'XXXXXXXX', or 128 bit " ++
    "'XXXXXXXX-XXXX-XXXX-XXXX-XXXXXXXXXXXX' format")

/-- What `bt_uuid` checked of a text it returned. -/
def IsUuidText (value : List Char) : Prop :=
  value.length = 4 ∧ hexRun 4 value = true ∨ value.length = 8 ∧ hexRun 8 value = true ∨
    value.length = 36 ∧ hexGroups value = true

instance (value : List Char) : Decidable (IsUuidText value) :=
  inferInstanceAs (Decidable (_ ∨ _ ∨ _))

theorem btUuid_ok_iff {upper : List Char → List Char} {inValue value : List Char} :
    btUuid upper inValue = .ok value ↔ upper inValue = value ∧ IsUuidText value := by
  unfold btUuid IsUuidText
  constructor
  · intro accepted
    dsimp only at accepted
    split at accepted <;> rename_i length₁
    · split at accepted <;> rename_i checked
      · obtain rfl := Except.ok.inj accepted
        exact ⟨rfl, .inl ⟨length₁, checked⟩⟩
      · cases accepted
    · split at accepted <;> rename_i length₂
      · split at accepted <;> rename_i checked
        · obtain rfl := Except.ok.inj accepted
          exact ⟨rfl, .inr (.inl ⟨length₂, checked⟩)⟩
        · cases accepted
      · split at accepted <;> rename_i length₃
        · split at accepted <;> rename_i checked
          · obtain rfl := Except.ok.inj accepted
            exact ⟨rfl, .inr (.inr ⟨length₃, checked⟩)⟩
          · cases accepted
        · cases accepted
  · rintro ⟨rfl, ⟨length, checked⟩ | ⟨length, checked⟩ | ⟨length, checked⟩⟩ <;>
      simp [length, checked]

/-! ## What the configuration holds -/

/-- A UUID of a validated configuration: `cv.Any(bt_uuid, cv.hex_uint32_t)`. -/
inductive ConfUuid
  | text (value : List Char) (accepted : IsUuidText value)
  | number (value : UInt32)

/-- `parse_uuid`, with the constructor that the generated code calls. -/
def ConfUuid.parseUuid : ConfUuid → ESPBTUUID
  | .text value _ => fromUuidStr value
  | .number value => fromUint32 value

/-- What follows the 32 high bits in a Bluetooth-Base expansion. -/
def baseSuffix : List Char := "-0000-1000-8000-00805f9b34fb".toList

/-- The canonical form of what was configured. -/
def ConfUuid.canonicalForm : ConfUuid → List Char
  | .text value _ =>
      if value.length = 36 then value.map Char.toLower
      else if value.length = 8 then value.map Char.toLower ++ baseSuffix
      else "0000".toList ++ (value.map Char.toLower ++ baseSuffix)
  | .number value =>
      hexBytes [byte32 value 3, byte32 value 2, byte32 value 1, byte32 value 0] ++ baseSuffix

/-- The digits of a text two by two. -/
def digitPairs : List Char → List (Char × Char)
  | high :: low :: rest => (high, low) :: digitPairs rest
  | _ => []

/-- The condition: bytes in the order written are bytes in the order stored. -/
def ConfUuid.OrderFree : ConfUuid → Prop
  | .text value _ => value.length = 36 ∨ (digitPairs value).reverse = digitPairs value
  | .number _ => True

/-! ## Upper-case digits -/

/-- `%02X` of each byte. -/
def hexUpper (bytes : List UInt8) : List Char := bytes.flatMap Hex.byteUpper

@[simp] theorem hexUpper_nil : hexUpper [] = [] := rfl

@[simp] theorem hexUpper_cons (b : UInt8) (bytes : List UInt8) :
    hexUpper (b :: bytes) = Hex.upper (b >>> 4) :: Hex.upper (b &&& 15) :: hexUpper bytes := rfl

theorem exists_upper_of_isUpperDigit {c : Char} (digit : isUpperDigit c = true) :
    ∃ n : UInt8, n.toNat < 16 ∧ Hex.upper n = c := by
  apply Hex.exists_upper
  simpa [isUpperDigit] using digit

/-- An even number of digits spells bytes. -/
theorem exists_bytes (k : Nat) {cs : List Char} (digits : cs.all isUpperDigit = true)
    (length : cs.length = 2 * k) :
    ∃ bytes : List UInt8, bytes.length = k ∧ cs = hexUpper bytes := by
  induction k generalizing cs with
  | zero => exact ⟨[], rfl, List.length_eq_zero_iff.mp length⟩
  | succ k ih =>
      rcases cs with _ | ⟨high, _ | ⟨low, rest⟩⟩
      · simp at length
      · simp at length
        omega
      · simp only [List.all_cons, Bool.and_eq_true] at digits
        obtain ⟨highDigit, lowDigit, restDigits⟩ := digits
        obtain ⟨h, hh, rfl⟩ := exists_upper_of_isUpperDigit highDigit
        obtain ⟨l, hl, rfl⟩ := exists_upper_of_isUpperDigit lowDigit
        obtain ⟨b, rfl, rfl⟩ := Hex.exists_byte hh hl
        obtain ⟨bytes, count, rfl⟩ := ih restDigits (by simp at length; omega)
        exact ⟨b :: bytes, by simp [count], by simp⟩

theorem exists_bytes_of_hexRun {n k : Nat} {cs : List Char} (run : hexRun n cs = true)
    (length : cs.length = 2 * k) :
    ∃ bytes : List UInt8, bytes.length = k ∧ cs = hexUpper bytes := by
  rw [hexRun, Bool.and_eq_true] at run
  exact exists_bytes k run.2 length

theorem map_toLower_hexUpper (bytes : List UInt8) :
    (hexUpper bytes).map Char.toLower = hexBytes bytes := by
  induction bytes with
  | nil => rfl
  | cons b bytes ih =>
      rw [hexUpper_cons, List.map_cons, List.map_cons, ih, Hex.toLower_upper (Hex.high_lt b),
        Hex.toLower_upper (Hex.low_lt b)]
      rfl

theorem length_hexUpper (bytes : List UInt8) : (hexUpper bytes).length = 2 * bytes.length := by
  induction bytes with
  | nil => rfl
  | cons b bytes ih =>
      simp only [hexUpper_cons, List.length_cons, ih]
      omega

theorem digitPairs_hexUpper (bytes : List UInt8) :
    digitPairs (hexUpper bytes) =
      bytes.map fun b : UInt8 => (Hex.upper (b >>> 4), Hex.upper (b &&& 15)) := by
  induction bytes with
  | nil => rfl
  | cons b bytes ih => rw [hexUpper_cons, digitPairs, ih, List.map_cons]

/-- The pairs of digits read the same from either end as the bytes do. -/
theorem digitPairs_symm_iff (bytes : List UInt8) :
    (digitPairs (hexUpper bytes)).reverse = digitPairs (hexUpper bytes) ↔
      bytes.reverse = bytes := by
  rw [digitPairs_hexUpper, ← List.map_reverse]
  refine ⟨fun same => ?_, fun same => by rw [same]⟩
  apply List.map_injective_iff.mpr _ same
  intro b c pair
  obtain ⟨high, low⟩ := Prod.mk.inj pair
  apply Hex.byteUpper_injective
  rw [Hex.byteUpper, Hex.byteUpper, high, low]

/-- Different bytes are spelled differently, also with a common rest behind them. -/
theorem hexBytes_append_inj {xs ys : List UInt8} {rest : List Char}
    (length : xs.length = ys.length) (same : hexBytes xs ++ rest = hexBytes ys ++ rest) :
    xs = ys := by
  have spelled : hexBytes xs = hexBytes ys := List.append_cancel_right same
  clear same
  induction xs generalizing ys with
  | nil => exact (List.length_eq_zero_iff.mp length.symm).symm
  | cons x xs ih =>
      rcases ys with _ | ⟨y, ys⟩
      · simp at length
      · obtain ⟨head, tail⟩ := List.append_inj
          (show Hex.byteLower x ++ hexBytes xs = Hex.byteLower y ++ hexBytes ys from spelled) rfl
        rw [Hex.byteLower_injective head, ih (by simpa using length) tail]

/-! ## What `from_uuid_str` makes of a text -/

theorem isHexDigit_of_isUpperDigit {c : Char} (digit : isUpperDigit c = true) :
    isHexDigit c = true := by
  obtain ⟨n, small, rfl⟩ := exists_upper_of_isUpperDigit digit
  rw [isHexDigit, Hex.value_upper small]
  rfl

theorem fromUuidStr_map_toLower {cs : List Char}
    (digits : ∀ c ∈ cs, isUpperDigit c = true ∨ c = '-') :
    fromUuidStr (cs.map Char.toLower) = fromUuidStr cs := by
  rw [fromUuidStr, uuidStrLoop_toLower fun c mem => (digits c mem).imp_left
    isHexDigit_of_isUpperDigit, fromUuidStr]

theorem isUpperDigit_hexUpper {bytes : List UInt8} {c : Char} (member : c ∈ hexUpper bytes) :
    isUpperDigit c = true := by
  have upper {n : UInt8} (hn : n.toNat < 16) : isUpperDigit (Hex.upper n) = true :=
    Hex.forall_nibble (p := fun n => isUpperDigit (Hex.upper n) = true) (by decide) hn
  obtain ⟨b, -, digit⟩ := List.mem_flatMap.mp member
  rcases List.mem_pair.mp digit with rfl | rfl
  · exact upper (Hex.high_lt b)
  · exact upper (Hex.low_lt b)

/-- The bytes of a short text are stored in the order they are written. -/
theorem fromUuidStr_hexUpper {bytes : List UInt8} (short : bytes.length < 16) :
    fromUuidStr (hexUpper bytes) = ⟨copyBytes bytes, UInt8.ofNat bytes.length⟩ := by
  rw [← fromUuidStr_map_toLower fun c member => .inl (isUpperDigit_hexUpper member),
    map_toLower_hexUpper, fromUuidStr, ← List.append_nil (hexBytes bytes),
    uuidStrLoop_bytes _ _ (by simp; omega), uuidStrLoop, List.nil_append]
  exact if_neg (by omega)

theorem baseSuffix_eq :
    baseSuffix = '-' :: (hexBytes [0x00, 0x00] ++ '-' :: (hexBytes [0x10, 0x00] ++
      '-' :: (hexBytes [0x80, 0x00] ++ '-' :: hexBytes [0x00, 0x80, 0x5F, 0x9B, 0x34, 0xFB]))) := by
  decide +kernel

theorem toStr_expand (v : UInt32) :
    (expand v).toStr = hexBytes [byte32 v 3, byte32 v 2, byte32 v 1, byte32 v 0] ++ baseSuffix := by
  rw [toStr, as128bit_of_len (expand_len v), canonical, baseSuffix_eq]
  simp only [expand, getElem_copyBytes, baseLsb, List.cons_append, List.nil_append,
    List.getD_cons_succ, List.getD_cons_zero]

/-- The string depends on what is denoted only. -/
theorem toStr_as128bit (u : ESPBTUUID) : u.as128bit.toStr = u.toStr := by
  rw [toStr, as128bit_idem, toStr]

theorem bluez_number (v : UInt32) :
    uuidToBluezStr (fromUint32 v) =
      hexBytes [byte32 v 3, byte32 v 2, byte32 v 1, byte32 v 0] ++ baseSuffix := by
  rw [uuidToBluezStr_eq, ← toStr_as128bit, as128bit_fromUint32, toStr_expand]

theorem bluez_text16 (a b : UInt8) :
    uuidToBluezStr (fromUuidStr (hexUpper [a, b])) = hexBytes [0, 0, b, a] ++ baseSuffix := by
  rw [uuidToBluezStr_eq, fromUuidStr_hexUpper (by simp), ← toStr_as128bit, as128bit_of_len2 rfl]
  have stored : get16bit ⟨copyBytes [a, b], 2⟩ = le16 a b := by simp [get16bit]
  rw [show UInt8.ofNat [a, b].length = 2 from rfl, stored, le16_toUInt32, toStr_expand]
  simp only [byte32_zero_le32, byte32_one_le32, byte32_two_le32, byte32_three_le32]

theorem bluez_text32 (a b c d : UInt8) :
    uuidToBluezStr (fromUuidStr (hexUpper [a, b, c, d])) = hexBytes [d, c, b, a] ++ baseSuffix := by
  rw [uuidToBluezStr_eq, fromUuidStr_hexUpper (by simp), ← toStr_as128bit, as128bit_of_len4 rfl]
  have stored : get32bit ⟨copyBytes [a, b, c, d], 4⟩ = le32 a b c d := by simp [get32bit]
  rw [show UInt8.ofNat [a, b, c, d].length = 4 from rfl, stored, toStr_expand]
  simp only [byte32_zero_le32, byte32_one_le32, byte32_two_le32, byte32_three_le32]

/-- The runs of the 128-bit format are not longer than they have to be. -/
theorem exists_groups {value : List Char} (length : value.length = 36)
    (checked : hexGroups value = true) :
    ∃ a b c d e : List Char, value = a ++ '-' :: (b ++ '-' :: (c ++ '-' :: (d ++ '-' :: e))) ∧
      [a, b, c, d, e].map List.length = [8, 4, 4, 4, 12] ∧
      ∀ group ∈ [a, b, c, d, e], group.all isUpperDigit = true := by
  have whole : ['-'].intercalate (value.splitOn '-') = value := List.intercalate_splitOn '-'
  unfold hexGroups at checked
  split at checked
  · rename_i a b c d e split
    simp only [Bool.and_eq_true, hexRun, decide_eq_true_eq] at checked
    obtain ⟨⟨⟨⟨⟨longA, allA⟩, longB, allB⟩, longC, allC⟩, longD, allD⟩, longE, allE⟩ := checked
    rw [split] at whole
    replace whole : value = a ++ '-' :: (b ++ '-' :: (c ++ '-' :: (d ++ '-' :: e))) := by
      rw [← whole]
      simp [List.intercalate]
    have sum := congrArg List.length whole
    simp only [length, List.length_append, List.length_cons] at sum
    refine ⟨a, b, c, d, e, whole, ?_, ?_⟩
    · simp only [List.map_cons, List.map_nil, List.cons.injEq, and_true]
      omega
    · simp only [List.forall_mem_cons]
      exact ⟨allA, allB, allC, allD, allE, fun _ mem => absurd mem List.not_mem_nil⟩
  · cases checked

theorem isCanonical_of_hexGroups {value : List Char} (length : value.length = 36)
    (checked : hexGroups value = true) : IsCanonical value := by
  obtain ⟨a, b, c, d, e, whole, lengths, digits⟩ := exists_groups length checked
  refine ⟨a, b, c, d, e, whole, lengths, fun group listed => List.all_eq_true.mpr ?_⟩
  intro x inside
  exact isHexDigit_of_isUpperDigit (List.all_eq_true.mp (digits group listed) x inside)

theorem upperDigit_or_dash {value : List Char} (length : value.length = 36)
    (checked : hexGroups value = true) : ∀ c ∈ value, isUpperDigit c = true ∨ c = '-' := by
  obtain ⟨_, _, _, _, _, rfl, -, digits⟩ := exists_groups length checked
  exact fun c => mem_groups fun group listed => List.all_eq_true.mp (digits group listed)

theorem bluez_text128 {value : List Char} (length : value.length = 36)
    (checked : hexGroups value = true) :
    uuidToBluezStr (fromUuidStr value) = value.map Char.toLower := by
  obtain ⟨r, printed, parsed, -⟩ :=
    fromUuidStr_of_canonical (isCanonical_of_hexGroups length checked)
  rw [uuidToBluezStr_eq, parsed, printed, toStr, as128bit_of_len rfl]

/-! ## The exported string -/

namespace ConfUuid

/-- A configured UUID is a text of one of three shapes, or a number. -/
theorem shapes (u : ConfUuid) :
    (∃ a b accepted, u = .text (hexUpper [a, b]) accepted) ∨
      (∃ a b c d accepted, u = .text (hexUpper [a, b, c, d]) accepted) ∨
      (∃ value accepted, u = .text value accepted ∧ value.length = 36 ∧ hexGroups value = true) ∨
      ∃ value, u = .number value := by
  cases u with
  | number value => exact .inr (.inr (.inr ⟨value, rfl⟩))
  | text value accepted =>
      rcases id accepted with ⟨length, checked⟩ | ⟨length, checked⟩ | ⟨length, checked⟩
      · obtain ⟨bytes, count, rfl⟩ := exists_bytes_of_hexRun (k := 2) checked (by omega)
        obtain ⟨a, b, rfl⟩ := List.length_eq_two.mp count
        exact .inl ⟨a, b, accepted, rfl⟩
      · obtain ⟨bytes, count, rfl⟩ := exists_bytes_of_hexRun (k := 4) checked (by omega)
        obtain ⟨a, b, c, d, rfl⟩ := List.length_eq_four.mp count
        exact .inr (.inl ⟨a, b, c, d, accepted, rfl⟩)
      · exact .inr (.inr (.inl ⟨value, accepted, rfl, length, checked⟩))

theorem canonicalForm_text16 {a b : UInt8} (accepted : IsUuidText (hexUpper [a, b])) :
    (text (hexUpper [a, b]) accepted).canonicalForm = hexBytes [0, 0, a, b] ++ baseSuffix := by
  have length : (hexUpper [a, b]).length = 4 := length_hexUpper _
  rw [canonicalForm, length, if_neg (by decide), if_neg (by decide), map_toLower_hexUpper]
  rfl

theorem canonicalForm_text32 {a b c d : UInt8} (accepted : IsUuidText (hexUpper [a, b, c, d])) :
    (text (hexUpper [a, b, c, d]) accepted).canonicalForm =
      hexBytes [a, b, c, d] ++ baseSuffix := by
  have length : (hexUpper [a, b, c, d]).length = 8 := length_hexUpper _
  rw [canonicalForm, length, if_neg (by decide), if_pos rfl, map_toLower_hexUpper]

theorem orderFree_hexUpper {bytes : List UInt8} (short : bytes.length < 18)
    (accepted : IsUuidText (hexUpper bytes)) :
    (text (hexUpper bytes) accepted).OrderFree ↔ bytes.reverse = bytes := by
  rw [OrderFree, digitPairs_symm_iff, length_hexUpper]
  exact or_iff_right (by omega)

/-- **The canonical form is exported exactly if the order of the bytes makes no difference.** -/
theorem exported_iff (u : ConfUuid) :
    uuidToBluezStr u.parseUuid = u.canonicalForm ↔ u.OrderFree := by
  rcases u.shapes with ⟨a, b, accepted, rfl⟩ | ⟨a, b, c, d, accepted, rfl⟩ |
    ⟨value, accepted, rfl, length, checked⟩ | ⟨value, rfl⟩
  · rw [parseUuid, bluez_text16, canonicalForm_text16, orderFree_hexUpper (by simp)]
    constructor
    · intro same
      have bytes := hexBytes_append_inj (by rfl) same
      simpa using bytes
    · intro same
      simp only [List.reverse_cons, List.reverse_nil, List.nil_append, List.cons_append,
        List.cons.injEq] at same
      rw [same.1]
  · rw [parseUuid, bluez_text32, canonicalForm_text32, orderFree_hexUpper (by simp)]
    constructor
    · intro same
      exact hexBytes_append_inj (by rfl) same
    · intro same
      rw [show [d, c, b, a] = [a, b, c, d] from same]
  · rw [parseUuid, bluez_text128 length checked, canonicalForm, if_pos length]
    exact iff_of_true rfl (.inl length)
  · rw [parseUuid, bluez_number, canonicalForm]
    exact iff_of_true rfl trivial

/-- The Device Information Service, configured as 180A, is exported as 0A18. -/
theorem not_exported_device_information :
    ¬ ∀ u : ConfUuid, uuidToBluezStr u.parseUuid = u.canonicalForm := by
  intro all
  have exported := all (.text "180A".toList (by decide +kernel))
  exact absurd exported (by decide +kernel)

end ConfUuid

end EsphomeHost

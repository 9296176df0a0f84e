import EsphomeHost.Lib.Hex
import EsphomeHost.Lib.LittleEndian
import Mathlib.Tactic.IntervalCases

/-!
# `ESPBTUUID`

A Bluetooth UUID of 16, 32 or 128 bits, stored least significant byte first together with its
length in bytes.  `==` is the source's `operator==`: it compares the lengths and then that many
bytes, so a 16-bit UUID and its 128-bit expansion are different values.

* `as128bit` expands over the Bluetooth Base UUID.
* `fromUuidStr_toStr`: parsing the canonical string of a UUID yields its 128-bit expansion; the
  D-Bus scanner therefore never sees a short UUID.
* `get16bit_expand`: the two low stored bytes of an expansion are those of the Base UUID, not the
  16-bit value.
* `beq_iff_denotes`: `operator==` compares the lengths and what is denoted.
-/

namespace EsphomeHost

open LittleEndian

/-- Raw bytes are stored least significant first; `len` says how many of them count. -/
structure ESPBTUUID where
  raw : Vector UInt8 16
  len : UInt8
deriving DecidableEq

namespace ESPBTUUID

/-- The zeroed `raw_` of the constructor with `bytes` copied to its front. -/
def copyBytes (bytes : List UInt8) : Vector UInt8 16 := Vector.ofFn fun i => bytes.getD i 0

@[simp] theorem getElem_copyBytes (bytes : List UInt8) {i : Nat} (h : i < 16) :
    (copyBytes bytes)[i] = bytes.getD i 0 := by
  simp [copyBytes]

@[simp] theorem get_copyBytes (bytes : List UInt8) (i : Fin 16) :
    (copyBytes bytes).get i = bytes.getD i 0 :=
  getElem_copyBytes bytes i.isLt

@[simp] theorem copyBytes_toList (v : Vector UInt8 16) : copyBytes v.toList = v := by
  ext i hi
  simp [hi]

def fromUint16 (v : UInt16) : ESPBTUUID := ⟨copyBytes [byte16 v 0, byte16 v 1], 2⟩

def fromUint32 (v : UInt32) : ESPBTUUID :=
  ⟨copyBytes [byte32 v 0, byte32 v 1, byte32 v 2, byte32 v 3], 4⟩

/-- `from_raw(const uint8_t *)`: the sixteen bytes at the pointer. -/
def fromRaw (data : List UInt8) : ESPBTUUID := ⟨copyBytes data, 16⟩

def fromRawReversed (data : List UInt8) : ESPBTUUID := ⟨copyBytes (data.take 16).reverse, 16⟩

def get16bit (u : ESPBTUUID) : UInt16 := le16 u.raw[0] u.raw[1]

def get32bit (u : ESPBTUUID) : UInt32 := le32 u.raw[0] u.raw[1] u.raw[2] u.raw[3]

/-- The Base UUID least significant byte first, without its four high bytes. -/
def baseLsb : List UInt8 := [0xFB, 0x34, 0x9B, 0x5F, 0x80, 0x00, 0x00, 0x80, 0x00, 0x10, 0x00, 0x00]

/-- The Base UUID with the 32-bit value `v` in its high word. -/
def expand (v : UInt32) : ESPBTUUID :=
  ⟨copyBytes (baseLsb ++ [byte32 v 0, byte32 v 1, byte32 v 2, byte32 v 3]), 16⟩

def as128bit (u : ESPBTUUID) : ESPBTUUID :=
  if u.len = 16 then u
  else expand (if u.len = 2 then u.get16bit.toUInt32 else u.get32bit)

/-- `%02x` of each byte. -/
def hexBytes (bytes : List UInt8) : List Char := bytes.flatMap Hex.byteLower

/-- The canonical lowercase form of the sixteen bytes, most significant first. -/
def canonical (r : Vector UInt8 16) : List Char :=
  hexBytes [r[15], r[14], r[13], r[12]] ++ '-' :: (hexBytes [r[11], r[10]] ++
    '-' :: (hexBytes [r[9], r[8]] ++ '-' :: (hexBytes [r[7], r[6]] ++
      '-' :: hexBytes [r[5], r[4], r[3], r[2], r[1], r[0]])))

def toStr (u : ESPBTUUID) : List Char := canonical u.as128bit.raw

/-- `operator==`. -/
def eq (u v : ESPBTUUID) : Bool :=
  if u.len ≠ v.len then false
  else u.raw.toList.take u.len.toNat == v.raw.toList.take u.len.toNat

instance : BEq ESPBTUUID := ⟨eq⟩

/-- The nibble loop of `from_uuid_str`: the bytes collected so far and a pending high nibble. -/
def uuidStrLoop : List Char → List UInt8 → Option UInt8 → List UInt8
  | [], bytes, _ => bytes
  | c :: cs, bytes, hi =>
      if 16 ≤ bytes.length then bytes
      else if c = '-' then uuidStrLoop cs bytes hi
      else
        match Hex.value c with
        | none => bytes
        | some nib =>
            match hi with
            | none => uuidStrLoop cs bytes (some nib)
            | some h => uuidStrLoop cs (bytes ++ [(h <<< 4) ||| nib]) none

def fromUuidStr (s : List Char) : ESPBTUUID :=
  let bytes := uuidStrLoop s [] none
  if bytes.length = 16 then fromRawReversed bytes
  else ⟨copyBytes bytes, UInt8.ofNat bytes.length⟩

/-! ## Lengths -/

@[simp] theorem fromUint16_len (v : UInt16) : (fromUint16 v).len = 2 := rfl
@[simp] theorem fromUint32_len (v : UInt32) : (fromUint32 v).len = 4 := rfl
@[simp] theorem fromRaw_len (data : List UInt8) : (fromRaw data).len = 16 := rfl
@[simp] theorem expand_len (v : UInt32) : (expand v).len = 16 := rfl

@[simp] theorem as128bit_len (u : ESPBTUUID) : u.as128bit.len = 16 := by
  unfold as128bit
  split
  · assumption
  · rfl

theorem as128bit_of_len {u : ESPBTUUID} (h : u.len = 16) : u.as128bit = u := if_pos h

@[simp] theorem as128bit_idem (u : ESPBTUUID) : u.as128bit.as128bit = u.as128bit :=
  as128bit_of_len u.as128bit_len

@[simp] theorem get16bit_fromUint16 (v : UInt16) : (fromUint16 v).get16bit = v := by
  simp [get16bit, fromUint16]

@[simp] theorem get32bit_fromUint32 (v : UInt32) : (fromUint32 v).get32bit = v := by
  simp [get32bit, fromUint32]

theorem as128bit_fromUint16 (v : UInt16) : (fromUint16 v).as128bit = expand v.toUInt32 := by
  rw [as128bit, fromUint16_len, if_neg (by decide), if_pos rfl, get16bit_fromUint16]

theorem as128bit_fromUint32 (v : UInt32) : (fromUint32 v).as128bit = expand v := by
  rw [as128bit, fromUint32_len, if_neg (by decide), if_neg (by decide), get32bit_fromUint32]

/-- An expansion determines the value it expands. -/
theorem expand_inj {v w : UInt32} (h : expand v = expand w) : v = w := by
  have raw := congrArg ESPBTUUID.raw h
  have b0 : (expand v).raw[12] = (expand w).raw[12] := by rw [h]
  have b1 : (expand v).raw[13] = (expand w).raw[13] := by rw [h]
  have b2 : (expand v).raw[14] = (expand w).raw[14] := by rw [h]
  have b3 : (expand v).raw[15] = (expand w).raw[15] := by rw [h]
  simp only [expand, getElem_copyBytes, baseLsb, List.cons_append, List.nil_append,
    List.getD_cons_succ, List.getD_cons_zero] at b0 b1 b2 b3
  rw [← le32_bytes v, ← le32_bytes w, b0, b1, b2, b3]

/-- The two low stored bytes of every expansion are `FB 34`. -/
theorem get16bit_expand (v : UInt32) : (expand v).get16bit = 0x34FB := by
  simp only [get16bit, expand, getElem_copyBytes, baseLsb, List.cons_append, List.getD_cons_zero,
    List.getD_cons_succ]
  decide

/-! ## Canonical strings -/

/-- A printed byte contributes itself. -/
theorem uuidStrLoop_byte (b : UInt8) (cs : List Char) {bytes : List UInt8}
    (h : bytes.length < 16) :
    uuidStrLoop (Hex.byteLower b ++ cs) bytes none = uuidStrLoop cs (bytes ++ [b]) none := by
  have hfuel : ¬ 16 ≤ bytes.length := by omega
  simp only [Hex.byteLower, List.cons_append, List.nil_append]
  rw [uuidStrLoop, if_neg hfuel, if_neg (Hex.lower_ne_dash (Hex.high_lt b)),
    Hex.value_lower (Hex.high_lt b)]
  simp only
  rw [uuidStrLoop, if_neg hfuel, if_neg (Hex.lower_ne_dash (Hex.low_lt b)),
    Hex.value_lower (Hex.low_lt b)]
  simp only
  rw [Hex.join_nibbles]

/-- Printed bytes contribute themselves, in order, as long as there is room for them. -/
theorem uuidStrLoop_bytes (new : List UInt8) (cs : List Char) {bytes : List UInt8}
    (h : bytes.length + new.length ≤ 16) :
    uuidStrLoop (hexBytes new ++ cs) bytes none = uuidStrLoop cs (bytes ++ new) none := by
  induction new generalizing bytes with
  | nil => simp [hexBytes]
  | cons b new ih =>
      have room : bytes.length < 16 := by simp at h; omega
      rw [show hexBytes (b :: new) ++ cs = Hex.byteLower b ++ (hexBytes new ++ cs) by
        simp [hexBytes], uuidStrLoop_byte b _ room, ih (by simp at h ⊢; omega)]
      simp

/-- Dashes are skipped. -/
theorem uuidStrLoop_dash (cs : List Char) {bytes : List UInt8} (h : bytes.length < 16) :
    uuidStrLoop ('-' :: cs) bytes none = uuidStrLoop cs bytes none := by
  rw [uuidStrLoop, if_neg (by omega), if_pos rfl]

theorem uuidStrLoop_canonical (r : Vector UInt8 16) :
    uuidStrLoop (canonical r) [] none =
      [r[15], r[14], r[13], r[12], r[11], r[10], r[9], r[8], r[7], r[6], r[5], r[4], r[3], r[2],
        r[1], r[0]] := by
  rw [canonical, uuidStrLoop_bytes _ _ (by simp), uuidStrLoop_dash _ (by simp),
    uuidStrLoop_bytes _ _ (by simp), uuidStrLoop_dash _ (by simp),
    uuidStrLoop_bytes _ _ (by simp), uuidStrLoop_dash _ (by simp),
    uuidStrLoop_bytes _ _ (by simp), uuidStrLoop_dash _ (by simp),
    ← List.append_nil (hexBytes [r[5], r[4], r[3], r[2], r[1], r[0]]),
    uuidStrLoop_bytes _ _ (by simp)]
  rfl

theorem vector16_eq (r : Vector UInt8 16) :
    copyBytes [r[0], r[1], r[2], r[3], r[4], r[5], r[6], r[7], r[8], r[9], r[10], r[11], r[12],
      r[13], r[14], r[15]] = r := by
  ext i hi
  rw [getElem_copyBytes]
  interval_cases i <;> rfl

theorem toList_vector16 (u : Vector UInt8 16) :
    u.toList = [u[0], u[1], u[2], u[3], u[4], u[5], u[6], u[7], u[8], u[9], u[10], u[11], u[12],
      u[13], u[14], u[15]] := by
  apply List.ext_getElem
  · rw [Vector.length_toList]
    rfl
  · intro i hi _
    rw [Vector.length_toList] at hi
    rw [Vector.getElem_toList]
    interval_cases i <;> rfl

/-- **Parsing the canonical string of a UUID yields its 128-bit expansion.** -/
theorem fromUuidStr_toStr (u : ESPBTUUID) : fromUuidStr u.toStr = u.as128bit := by
  have bytes := uuidStrLoop_canonical u.as128bit.raw
  simp only [fromUuidStr, toStr, bytes, List.length_cons, List.length_nil, Nat.reduceAdd,
    ↓reduceIte, fromRawReversed, List.take_succ_cons, List.take_nil, List.reverse_cons,
    List.reverse_nil, List.nil_append, List.cons_append, vector16_eq]
  exact congrArg (ESPBTUUID.mk _) u.as128bit_len.symm

theorem map_toLower_hexBytes (bytes : List UInt8) :
    (hexBytes bytes).map Char.toLower = hexBytes bytes := by
  rw [hexBytes, List.map_flatMap]
  refine congrArg (bytes.flatMap ·) (funext fun b => ?_)
  rw [Hex.byteLower, List.map_cons, List.map_cons, List.map_nil, Hex.toLower_lower (Hex.high_lt b),
    Hex.toLower_lower (Hex.low_lt b)]

/-! ## Equality and expansion -/

/-- UUIDs of different lengths are never equal. -/
theorem beq_of_len_ne {u v : ESPBTUUID} (h : u.len ≠ v.len) : (u == v) = false := if_pos h

/-- The length, and that many bytes. -/
theorem beq_iff {u v : ESPBTUUID} :
    (u == v) = true ↔ u.len = v.len ∧
      u.raw.toList.take u.len.toNat = v.raw.toList.take v.len.toNat := by
  show eq u v = true ↔ _
  rw [eq]
  by_cases same : u.len = v.len
  · rw [if_neg (not_not.mpr same), beq_iff_eq, same]
    exact (and_iff_right rfl).symm
  · rw [if_pos same]
    exact iff_of_false Bool.false_ne_true fun both => same both.1

/-- `operator==` does not tell equal UUIDs apart. -/
theorem beq_congr {u v : ESPBTUUID} (same : (u == v) = true) (w : ESPBTUUID) :
    (w == u) = (w == v) := by
  obtain ⟨lens, bytes⟩ := beq_iff.mp same
  rw [Bool.eq_iff_iff, beq_iff, beq_iff, bytes, lens]

/-- On 128-bit UUIDs `operator==` is equality. -/
theorem beq_iff_of_len16 {u v : ESPBTUUID} (hu : u.len = 16) (hv : v.len = 16) :
    (u == v) = true ↔ u = v := by
  rw [beq_iff, and_iff_right (hu.trans hv.symm), hu, hv, List.take_of_length_le (by simp),
    List.take_of_length_le (by simp)]
  constructor
  · intro raw
    obtain ⟨uraw, ulen⟩ := u
    obtain ⟨vraw, vlen⟩ := v
    have rawEq : uraw = vraw := Vector.toList_inj.mp raw
    rw [rawEq, show ulen = vlen from hu.trans hv.symm]
  · rintro rfl
    rfl

/-! ## UUIDs that denote the same -/

/-- Both stand for the same 128-bit UUID. -/
def denotes (u v : ESPBTUUID) : Bool := u.as128bit = v.as128bit

/-- A UUID of one of the three lengths. -/
def Sized (u : ESPBTUUID) : Prop := u.len = 2 ∨ u.len = 4 ∨ u.len = 16

variable {u v : ESPBTUUID}

theorem sized_fromUint16 (n : UInt16) : (fromUint16 n).Sized := .inl rfl

theorem sized_of_len16 (long : u.len = 16) : u.Sized := .inr (.inr long)

theorem take_raw_eq_iff {n : Nat} (bound : n ≤ 16) :
    u.raw.toList.take n = v.raw.toList.take n ↔
      ∀ i (h : i < 16), i < n → u.raw[i] = v.raw[i] := by
  constructor
  · intro same i h less
    have here := congrArg (·[i]?) same
    simpa [List.getElem?_take, less, h] using here
  · intro each
    refine List.ext_getElem (by simp) fun i left right => ?_
    have less : i < n := by simp at left; omega
    simpa using each i (by omega) less

theorem get16bit_eq_iff :
    u.get16bit = v.get16bit ↔ ∀ i (h : i < 16), i < 2 → u.raw[i] = v.raw[i] := by
  constructor
  · intro same
    have low := congrArg (byte16 · 0) same
    have high := congrArg (byte16 · 1) same
    simp only [get16bit, byte16_zero_le16, byte16_one_le16] at low high
    intro i bound less
    interval_cases i
    · exact low
    · exact high
  · intro each
    rw [get16bit, each 0 (by decide) (by decide), each 1 (by decide) (by decide)]
    rfl

theorem get32bit_eq_iff :
    u.get32bit = v.get32bit ↔ ∀ i (h : i < 16), i < 4 → u.raw[i] = v.raw[i] := by
  constructor
  · intro same
    have b0 := congrArg (byte32 · 0) same
    have b1 := congrArg (byte32 · 1) same
    have b2 := congrArg (byte32 · 2) same
    have b3 := congrArg (byte32 · 3) same
    simp only [get32bit, byte32_zero_le32, byte32_one_le32, byte32_two_le32,
      byte32_three_le32] at b0 b1 b2 b3
    intro i bound less
    interval_cases i
    · exact b0
    · exact b1
    · exact b2
    · exact b3
  · intro each
    rw [get32bit, each 0 (by decide) (by decide), each 1 (by decide) (by decide),
      each 2 (by decide) (by decide), each 3 (by decide) (by decide)]
    rfl

theorem as128bit_of_len2 (short : u.len = 2) : u.as128bit = expand u.get16bit.toUInt32 := by
  rw [as128bit, if_neg (by rw [short]; decide), if_pos short]

theorem as128bit_of_len4 (middle : u.len = 4) : u.as128bit = expand u.get32bit := by
  rw [as128bit, if_neg (by rw [middle]; decide), if_neg (by rw [middle]; decide)]

/-- **`operator==` compares the lengths and what is denoted.** -/
theorem beq_iff_denotes (sized : v.Sized) :
    (u == v) = true ↔ u.denotes v = true ∧ u.len = v.len := by
  by_cases same : u.len = v.len
  · rcases sized with short | middle | long
    · rw [beq_iff, and_iff_right same, denotes, decide_eq_true_iff, and_iff_left same, same, short,
        show (2 : UInt8).toNat = 2 from rfl, take_raw_eq_iff (by decide), ← get16bit_eq_iff,
        as128bit_of_len2 (same.trans short), as128bit_of_len2 short]
      constructor
      · intro value
        rw [value]
      · intro expanded
        exact UInt16.toUInt32_inj.mp (expand_inj expanded)
    · rw [beq_iff, and_iff_right same, denotes, decide_eq_true_iff, and_iff_left same, same, middle,
        show (4 : UInt8).toNat = 4 from rfl, take_raw_eq_iff (by decide), ← get32bit_eq_iff,
        as128bit_of_len4 (same.trans middle), as128bit_of_len4 middle]
      constructor
      · intro value
        rw [value]
      · exact expand_inj
    · rw [beq_iff_of_len16 (same.trans long) long, denotes, decide_eq_true_iff, and_iff_left same,
        as128bit_of_len (same.trans long), as128bit_of_len long]
  · rw [beq_of_len_ne same]
    exact ⟨fun wrong => absurd wrong Bool.false_ne_true, fun both => absurd both.2 same⟩

end ESPBTUUID

end EsphomeHost

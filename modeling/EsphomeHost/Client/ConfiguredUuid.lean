import EsphomeHost.Client.Sensors
import EsphomeHost.Server.UuidText
import Mathlib.Data.List.Find

/-!
# UUIDs of a client configuration

A sensor is configured with texts that `bt_uuid` accepts.  Code generation writes them as literals
and calls the setter for their length, so that the sensor looks for UUIDs of the lengths they are
written in.

* `setUuid`: the UUID that a setter stores.
* `toStr_setUuid`: it prints as the canonical form of the text.
* `configured_target`: **the sensor of an entry finds in a discovered tree what BlueZ lists under
  the canonical forms if the texts have 36 characters, and otherwise at most a characteristic of the
  synthetic GAP service**.
-/

namespace EsphomeHost

open LittleEndian ESPBTUUID

/-! ## Code generation -/

def hexDigit (c : Char) : Nat := ((Hex.value c).map UInt8.toNat).getD 0

/-- `as_hex`: the value of the literal. -/
def asHex (value : List Char) : Nat := value.foldl (fun n c => 16 * n + hexDigit c) 0

/-- The slices of two characters; the last may have one. -/
def slices : List Char → List (List Char)
  | high :: low :: rest => [high, low] :: slices rest
  | [c] => [[c]]
  | [] => []

/-- `as_reversed_hex_array`: the elements of the array. -/
def asReversedHexArray (value : List Char) : List UInt8 :=
  ((slices (value.filter (· ≠ '-'))).map fun part => UInt8.ofNat (asHex part)).reverse

/-- `_set_uuid`, with the setter that is called; `u` is what was stored. -/
def setUuid (u : ESPBTUUID) (value : List Char) : ESPBTUUID :=
  if value.length = 4 then fromUint16 (UInt16.ofNat (asHex value))
  else if value.length = 8 then fromUint32 (UInt32.ofNat (asHex value))
  else if value.length = 36 then fromRaw (asReversedHexArray value)
  else u

/-- A text that `bt_uuid` has returned. -/
abbrev UuidText := { value : List Char // IsUuidText value }

/-- The entry of a `BLESensor` that reads a characteristic. -/
structure SensorEntry where
  serviceUuid : UuidText
  characteristicUuid : UuidText
  descriptorUuid : Option UuidText := none
  notify : Bool := false

/-- The default constructor of `ESPBTUUID`. -/
def unsetUuid : ESPBTUUID := ⟨copyBytes [], 0⟩

/-- `to_code`. -/
def SensorEntry.config (e : SensorEntry) : SensorConfig where
  serviceUuid := setUuid unsetUuid e.serviceUuid.1
  charUuid := setUuid unsetUuid e.characteristicUuid.1
  descrUuid := (e.descriptorUuid.map fun u => setUuid unsetUuid u.1).getD unsetUuid
  notify := e.notify

/-! ## What an entry names -/

namespace UuidText

variable (u : UuidText)

def canonicalForm : List Char := (ConfUuid.text u.1 u.2).canonicalForm

/-- The string that BlueZ lists is that of the text. -/
def names (v : ESPBTUUID) : Bool := v.toStr = u.canonicalForm

end UuidText

/-- The first descriptor that is named, if its text has 36 characters. -/
def SensorEntry.descriptor (e : SensorEntry) (chr : DiscoveredCharacteristic) :
    Option DiscoveredDescriptor :=
  e.descriptorUuid.bind fun u =>
    if u.1.length = 36 then chr.descriptors.find? (u.names ·.uuid) else none

/-- That descriptor, else the characteristic. -/
def SensorEntry.attribute (e : SensorEntry) (chr : DiscoveredCharacteristic) : UInt16 × Bool :=
  ((e.descriptor chr).map fun descr => (descr.handle, true)).getD (chr.handle, false)

/-- The first characteristic that is named in the first service that is. -/
def SensorEntry.named (e : SensorEntry) (tree : List DiscoveredService) : Option (UInt16 × Bool) :=
  ((tree.find? (e.serviceUuid.names ·.uuid)).bind fun svc =>
    svc.characteristics.find? (e.characteristicUuid.names ·.uuid)).map e.attribute

/-! ## What the setters store -/

theorem hexDigit_upper {n : UInt8} (small : n.toNat < 16) : hexDigit (Hex.upper n) = n.toNat := by
  rw [hexDigit, Hex.value_upper small]
  rfl

/-- The literal for printed bytes has their value, most significant first. -/
theorem foldl_hexUpper (bytes : List UInt8) (n : Nat) :
    (hexUpper bytes).foldl (fun n c => 16 * n + hexDigit c) n =
      bytes.foldl (fun n b => 256 * n + b.toNat) n := by
  induction bytes generalizing n with
  | nil => rfl
  | cons b bytes ih =>
      rw [hexUpper_cons, List.foldl_cons, List.foldl_cons, ih, List.foldl_cons,
        hexDigit_upper (Hex.high_lt b), hexDigit_upper (Hex.low_lt b), Hex.high_toNat,
        Hex.low_toNat]
      congr 1
      omega

theorem asHex_hexUpper (bytes : List UInt8) :
    asHex (hexUpper bytes) = bytes.foldl (fun n b => 256 * n + b.toNat) 0 :=
  foldl_hexUpper bytes 0

theorem ofNat_asHex16 (a b : UInt8) : UInt16.ofNat (asHex (hexUpper [a, b])) = le16 b a := by
  apply UInt16.toNat_inj.mp
  have high := a.toNat_lt
  have low := b.toNat_lt
  rw [asHex_hexUpper, le16_toNat, UInt16.toNat_ofNat']
  simp only [List.foldl_cons, List.foldl_nil]
  omega

theorem ofNat_asHex32 (a b c d : UInt8) :
    UInt32.ofNat (asHex (hexUpper [a, b, c, d])) = le32 d c b a := by
  apply UInt32.toNat_inj.mp
  have bounds := And.intro a.toNat_lt (And.intro b.toNat_lt (And.intro c.toNat_lt d.toNat_lt))
  rw [asHex_hexUpper, le32_toNat, UInt32.toNat_ofNat']
  simp only [List.foldl_cons, List.foldl_nil]
  omega

theorem slices_hexUpper (bytes : List UInt8) :
    (slices (hexUpper bytes)).map (fun part => UInt8.ofNat (asHex part)) = bytes := by
  induction bytes with
  | nil => rfl
  | cons b bytes ih =>
      have first : asHex [Hex.upper (b >>> 4), Hex.upper (b &&& 15)] = b.toNat :=
        (asHex_hexUpper [b]).trans (by simp)
      rw [hexUpper_cons, slices, List.map_cons, ih, first, UInt8.ofNat_toNat]

/-- Once there are sixteen bytes the nibble loop stops. -/
theorem uuidStrLoop_full {bytes : List UInt8} (full : 16 ≤ bytes.length) (cs : List Char)
    (hi : Option UInt8) : uuidStrLoop cs bytes hi = bytes := by
  cases cs with
  | nil => rfl
  | cons c cs => rw [uuidStrLoop, if_pos full]

/-- The nibble loop does not see dashes. -/
theorem uuidStrLoop_filter (cs : List Char) (bytes : List UInt8) (hi : Option UInt8) :
    uuidStrLoop (cs.filter (· ≠ '-')) bytes hi = uuidStrLoop cs bytes hi := by
  induction cs generalizing bytes hi with
  | nil => rfl
  | cons c cs ih =>
      by_cases full : 16 ≤ bytes.length
      · rw [uuidStrLoop_full full, uuidStrLoop_full full]
      · by_cases dash : c = '-'
        · rw [List.filter_cons_of_neg (by simpa using dash), ih, uuidStrLoop, if_neg full,
            if_pos dash]
        · rw [List.filter_cons_of_pos (by simpa using dash), uuidStrLoop, if_neg full,
            if_neg dash, uuidStrLoop, if_neg full, if_neg dash]
          simp only [ih]

/-- Without its dashes a text of 36 characters is sixteen bytes. -/
theorem filter_hexGroups {value : List Char} (length : value.length = 36)
    (checked : hexGroups value = true) :
    ∃ bytes : List UInt8, bytes.length = 16 ∧ value.filter (· ≠ '-') = hexUpper bytes := by
  obtain ⟨a, b, c, d, e, whole, lengths, digits⟩ := exists_groups length checked
  have kept : ∀ group ∈ [a, b, c, d, e], group.filter (· ≠ '-') = group := by
    intro group listed
    refine List.filter_eq_self.mpr fun x mem => decide_eq_true ?_
    intro dash
    have digit := List.all_eq_true.mp (digits group listed) x mem
    rw [dash] at digit
    cases digit
  have joined : value.filter (· ≠ '-') = a ++ (b ++ (c ++ (d ++ e))) := by
    simp only [List.forall_mem_cons] at kept
    rw [whole]
    simp only [List.filter_append, List.filter_cons, kept, ne_eq, not_true_eq_false, decide_false,
      Bool.false_eq_true, if_false]
  rw [joined]
  apply exists_bytes 16
  · simp only [List.forall_mem_cons] at digits
    simp [digits]
  · simp only [List.map_cons, List.map_nil, List.cons.injEq] at lengths
    simp only [List.length_append]
    omega

/-- The array for a text is what `from_uuid_str` reads from it. -/
theorem fromRaw_asReversedHexArray {value : List Char} (length : value.length = 36)
    (checked : hexGroups value = true) :
    fromRaw (asReversedHexArray value) = fromUuidStr value := by
  obtain ⟨bytes, count, spelled⟩ := filter_hexGroups length checked
  have same : fromUuidStr value = fromUuidStr (hexBytes bytes) := by
    rw [← map_toLower_hexUpper,
      fromUuidStr_map_toLower fun c mem => .inl (isUpperDigit_hexUpper mem), ← spelled,
      fromUuidStr, fromUuidStr, uuidStrLoop_filter]
  have loop : uuidStrLoop (hexBytes bytes) [] none = bytes := by
    have read : uuidStrLoop (hexBytes bytes ++ []) [] none = [] ++ bytes :=
      uuidStrLoop_bytes bytes [] (by simp [count])
    rwa [List.append_nil] at read
  rw [same, asReversedHexArray, spelled, slices_hexUpper, fromUuidStr, loop, if_pos count,
    fromRawReversed, List.take_of_length_le count.le, fromRaw]

/-- **A setter stores what prints as the canonical form of the text**, in the length it is written
in. -/
theorem toStr_setUuid (u : UuidText) (before : ESPBTUUID) :
    (setUuid before u.1).toStr = u.canonicalForm ∧
      (setUuid before u.1).len =
        if u.1.length = 4 then 2 else if u.1.length = 8 then 4 else 16 := by
  obtain ⟨value, accepted⟩ := u
  rcases (ConfUuid.text value accepted).shapes with ⟨a, b, _, same⟩ | ⟨a, b, c, d, _, same⟩ |
    ⟨value', _, same, length, checked⟩ | ⟨_, same⟩
  · cases same
    have length : (hexUpper [a, b]).length = 4 := length_hexUpper _
    rw [UuidText.canonicalForm, ConfUuid.canonicalForm_text16, setUuid, if_pos length,
      if_pos length, ofNat_asHex16, ← toStr_as128bit, as128bit_fromUint16, le16_toUInt32,
      toStr_expand]
    simp
  · cases same
    have length : (hexUpper [a, b, c, d]).length = 8 := length_hexUpper _
    rw [UuidText.canonicalForm, ConfUuid.canonicalForm_text32, setUuid, length, if_neg (by omega),
      if_pos rfl, if_neg (by omega), if_pos rfl, ofNat_asHex32, ← toStr_as128bit,
      as128bit_fromUint32, toStr_expand]
    simp
  · cases same
    have stored : setUuid before value = fromRaw (asReversedHexArray value) := by
      rw [setUuid, length, if_neg (by omega), if_neg (by omega), if_pos rfl]
    have lowered : UuidText.canonicalForm ⟨value, accepted⟩ = value.map Char.toLower :=
      if_pos length
    have printed := bluez_text128 length checked
    rw [uuidToBluezStr_eq] at printed
    rw [stored, lowered, length]
    exact ⟨by rw [fromRaw_asReversedHexArray length checked, printed], rfl⟩
  · cases same

/-! ## Lookups -/

section Lookup

theorem length_uuidText (u : UuidText) : u.1.length = 4 ∨ u.1.length = 8 ∨ u.1.length = 36 := by
  rcases u.2 with ⟨short, -⟩ | ⟨middle, -⟩ | ⟨long, -⟩
  · exact .inl short
  · exact .inr (.inl middle)
  · exact .inr (.inr long)

theorem len_setUuid (u : UuidText) (before : ESPBTUUID) :
    ((setUuid before u.1).len = 2 ↔ u.1.length = 4) ∧
      ((setUuid before u.1).len = 16 ↔ u.1.length = 36) := by
  rw [(toStr_setUuid u before).2]
  rcases length_uuidText u with length | length | length <;> rw [length] <;> decide

theorem sized_setUuid (u : UuidText) (before : ESPBTUUID) : (setUuid before u.1).Sized := by
  unfold ESPBTUUID.Sized
  rw [(toStr_setUuid u before).2]
  rcases length_uuidText u with length | length | length <;> rw [length] <;> decide

theorem denotes_iff_toStr {u v : ESPBTUUID} : u.denotes v = true ↔ u.toStr = v.toStr := by
  rw [ESPBTUUID.denotes, decide_eq_true_iff]
  constructor
  · intro same
    rw [toStr, toStr, same]
  · intro same
    rw [← fromUuidStr_toStr, same, fromUuidStr_toStr]

/-- `operator==` compares what is named, and the lengths. -/
theorem beq_setUuid (u : UuidText) (before v : ESPBTUUID) :
    (v == setUuid before u.1) = true ↔
      u.names v = true ∧ v.len = (setUuid before u.1).len := by
  rw [ESPBTUUID.beq_iff_denotes (sized_setUuid u before), denotes_iff_toStr,
    (toStr_setUuid u before).1, UuidText.names, decide_eq_true_iff]

/-- In a list of one length the first that is named is found, by a UUID of that length. -/
theorem find?_setUuid {α : Type} {uuid : α → ESPBTUUID} {l : List α} {n : UInt8}
    (stored : ∀ x ∈ l, (uuid x).len = n) (u : UuidText) (before : ESPBTUUID) :
    l.find? (fun x => uuid x == setUuid before u.1) =
      if (setUuid before u.1).len = n then l.find? (fun x => u.names (uuid x)) else none := by
  split
  case isTrue same =>
    refine List.find?_congr fun x mem => ?_
    rw [Bool.eq_iff_iff, beq_setUuid, stored x mem, same]
    exact and_iff_left rfl
  case isFalse other =>
    refine List.find?_eq_none.mpr fun x mem equal => other ?_
    rw [← ((beq_setUuid u before _).mp equal).2, stored x mem]

/-- The descriptor of a discovered characteristic. -/
theorem descriptor_config (e : SensorEntry) {chr : DiscoveredCharacteristic}
    (stored : ∀ d ∈ chr.descriptors, d.uuid.len = 16) :
    (if e.config.descrUuid.len > 0 then chr.getDescriptor e.config.descrUuid else none) =
      e.descriptor chr := by
  unfold SensorEntry.config SensorEntry.descriptor
  cases e.descriptorUuid with
  | none => rfl
  | some u =>
      have used : (setUuid unsetUuid u.1).len > 0 := by
        rcases sized_setUuid u unsetUuid with length | length | length <;> rw [length] <;> decide
      have found := find?_setUuid stored u unsetUuid
      simp only [(len_setUuid u unsetUuid).2] at found
      rw [Option.map_some, Option.getD_some, if_pos used, Option.bind_some]
      exact found

theorem attribute_config (e : SensorEntry) {chr : DiscoveredCharacteristic}
    (stored : ∀ d ∈ chr.descriptors, d.uuid.len = 16) :
    e.config.attribute chr = e.attribute chr := by
  rw [SensorEntry.attribute, ← descriptor_config e stored, SensorConfig.attribute]
  cases (if e.config.descrUuid.len > 0 then chr.getDescriptor e.config.descrUuid else none) with
  | none => rfl
  | some descr => rfl

/-- A tree of one length, with the descriptors of a discovered one. -/
theorem target_of_stored (e : SensorEntry) {tree : List DiscoveredService} {n : UInt8}
    (stored : ∀ svc ∈ tree, svc.uuid.len = n ∧ ∀ chr ∈ svc.characteristics, chr.uuid.len = n ∧
      ∀ d ∈ chr.descriptors, d.uuid.len = 16) :
    e.config.target tree =
      if e.config.serviceUuid.len = n ∧ e.config.charUuid.len = n then e.named tree else none := by
  have services : tree.find? (·.uuid == e.config.serviceUuid) =
      if e.config.serviceUuid.len = n then tree.find? (e.serviceUuid.names ·.uuid) else none :=
    find?_setUuid (fun svc mem => (stored svc mem).1) e.serviceUuid unsetUuid
  rw [SensorConfig.target, services]
  by_cases service : e.config.serviceUuid.len = n
  · rw [if_pos service, SensorEntry.named]
    cases found : tree.find? (e.serviceUuid.names ·.uuid) with
    | none => simp
    | some svc =>
        have below := (stored svc (List.mem_of_find?_eq_some found)).2
        have chars : svc.getCharacteristic e.config.charUuid =
            if e.config.charUuid.len = n then
              svc.characteristics.find? (e.characteristicUuid.names ·.uuid)
            else none :=
          find?_setUuid (fun chr mem => (below chr mem).1) e.characteristicUuid unsetUuid
        rw [Option.bind_some, Option.bind_some, chars]
        by_cases char : e.config.charUuid.len = n
        · rw [if_pos char, if_pos ⟨service, char⟩]
          refine Option.map_congr fun chr mem => ?_
          exact attribute_config e (below chr (List.mem_of_find?_eq_some mem)).2
        · rw [if_neg char, if_neg fun both => char both.2]
          rfl
  · rw [if_neg service, if_neg fun both => service both.1]
    rfl

theorem target_append_left (k : SensorConfig) {tree tree' : List DiscoveredService}
    (apart : ∀ svc ∈ tree', svc.uuid.len ≠ k.serviceUuid.len) :
    k.target (tree ++ tree') = k.target tree := by
  have missing : tree'.find? (·.uuid == k.serviceUuid) = none := by
    refine List.find?_eq_none.mpr fun svc mem => ?_
    rw [ESPBTUUID.beq_of_len_ne (apart svc mem)]
    exact Bool.false_ne_true
  rw [SensorConfig.target, List.find?_append, missing, Option.or_none, SensorConfig.target]

theorem target_append_right (k : SensorConfig) {tree tree' : List DiscoveredService}
    (apart : ∀ svc ∈ tree, svc.uuid.len ≠ k.serviceUuid.len) :
    k.target (tree ++ tree') = k.target tree' := by
  have missing : tree.find? (·.uuid == k.serviceUuid) = none := by
    refine List.find?_eq_none.mpr fun svc mem => ?_
    rw [ESPBTUUID.beq_of_len_ne (apart svc mem)]
    exact Bool.false_ne_true
  rw [SensorConfig.target, List.find?_append, missing, Option.none_or, SensorConfig.target]

variable {devicePath : List Char} {reply : List ManagedObject}

theorem len_serviceUuid (e : SensorEntry) :
    (e.config.serviceUuid.len = 2 ↔ e.serviceUuid.1.length = 4) ∧
      (e.config.serviceUuid.len = 16 ↔ e.serviceUuid.1.length = 36) :=
  len_setUuid e.serviceUuid unsetUuid

theorem len_charUuid (e : SensorEntry) :
    (e.config.charUuid.len = 2 ↔ e.characteristicUuid.1.length = 4) ∧
      (e.config.charUuid.len = 16 ↔ e.characteristicUuid.1.length = 36) :=
  len_setUuid e.characteristicUuid unsetUuid

/-- The synthetic service is not found by a text of 36 characters. -/
theorem target_long (e : SensorEntry) (canonical : CanonicalUuids reply)
    (long : e.serviceUuid.1.length = 36) : e.config.target (emittedTree devicePath reply) =
      if e.characteristicUuid.1.length = 36 then e.named (describedServices devicePath reply)
      else none := by
  have described := target_of_stored e (@discovered_len devicePath reply canonical)
  simp only [(len_serviceUuid e).2, (len_charUuid e).2, long, true_and] at described
  rw [emittedTree, exportsGap_discovered canonical, if_neg Bool.false_ne_true,
    target_append_left, described]
  intro svc mem
  rw [List.mem_singleton.mp mem, (len_serviceUuid e).2.mpr long]
  decide

/-- A shorter one finds nothing but that service. -/
theorem target_short (e : SensorEntry) (canonical : CanonicalUuids reply)
    (short : e.serviceUuid.1.length ≠ 36) : e.config.target (emittedTree devicePath reply) =
      if e.serviceUuid.1.length = 4 ∧ e.characteristicUuid.1.length = 4 then e.named [gapService]
      else none := by
  have synthetic : e.config.target [gapService] = _ := target_of_stored e (n := 2) (by decide)
  simp only [(len_serviceUuid e).1, (len_charUuid e).1] at synthetic
  rw [emittedTree, exportsGap_discovered canonical, if_neg Bool.false_ne_true,
    target_append_right, synthetic]
  intro svc mem same
  rw [(discovered_len canonical svc mem).1] at same
  exact short ((len_serviceUuid e).2.mp same.symm)

/-- **What the sensor of an entry finds in a discovered tree.** -/
theorem configured_target (e : SensorEntry) (canonical : CanonicalUuids reply) :
    e.config.target (emittedTree devicePath reply) =
      if e.serviceUuid.1.length = 36 ∧ e.characteristicUuid.1.length = 36 then
        e.named (describedServices devicePath reply)
      else if e.serviceUuid.1.length = 4 ∧ e.characteristicUuid.1.length = 4 then
        e.named [gapService]
      else none := by
  by_cases long : e.serviceUuid.1.length = 36
  · have other : ¬ (e.serviceUuid.1.length = 4 ∧ e.characteristicUuid.1.length = 4) := by omega
    rw [target_long e canonical long, if_neg other]
    simp only [long, true_and]
  · have other : ¬ (e.serviceUuid.1.length = 36 ∧ e.characteristicUuid.1.length = 36) :=
      fun both => long both.1
    rw [target_short e canonical long, if_neg other]

end Lookup

/-- The level of a battery, by the texts of its UUIDs. -/
def batteryEntry : SensorEntry where
  serviceUuid := ⟨"0000180F-0000-1000-8000-00805F9B34FB".toList, by decide +kernel⟩
  characteristicUuid := ⟨"00002A19-0000-1000-8000-00805F9B34FB".toList, by decide +kernel⟩

theorem canonicalUuids_of_len {reply : List ManagedObject}
    (long : ∀ o ∈ reply, o.kind ≠ .other → o.uuid.len = 16) : CanonicalUuids reply := by
  intro o mem gatt
  refine ⟨o.uuid, ?_⟩
  rw [fromUuidStr_toStr, as128bit_of_len (long o mem gatt)]

theorem configured_target_battery :
    batteryEntry.config.target (emittedTree "/d".toList batteryReply) = some (2, false) := by
  have canonical : CanonicalUuids batteryReply := canonicalUuids_of_len (by decide)
  rw [configured_target batteryEntry canonical]
  decide +kernel

end EsphomeHost

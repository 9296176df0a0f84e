import EsphomeHost.Tracker.AdPayload
import EsphomeHost.Tracker.Signals

/-!
# iBeacons

`ESP32BLEBeacon` writes its payload byte by byte, most significant first.  The scanner lays a packed
structure over it, swaps the two 16-bit fields and reverses the UUID; what it looks at starts with
the company id, which both of its backends leave in front.

* `fromManufacturerData_beacon`: the decoder undoes the encoder.
* `beacon_received`: **a beacon is received as it is configured**, from a dictionary or off the air.
-/

namespace EsphomeHost

open LittleEndian

/-! ## The beacon -/

def APPLE_COMPANY_ID : UInt16 := 0x004C

structure ESP32BLEBeacon where
  uuid : Vector UInt8 16
  major : UInt16 := 10167
  minor : UInt16 := 61958
  measuredPower : Int8 := -59

namespace ESP32BLEBeacon

variable (b : ESP32BLEBeacon)

/-- `build_ibeacon_payload_`. -/
def buildIbeaconPayload : List UInt8 :=
  0x02 :: 0x15 :: (b.uuid.toList ++
    [(b.major >>> 8).toUInt8, (b.major &&& 0xFF).toUInt8,
      (b.minor >>> 8).toUInt8, (b.minor &&& 0xFF).toUInt8, b.measuredPower.toUInt8])

/-- `adv_get_manufacturer_data_`. -/
def manufacturerData : List (UInt16 × List UInt8) := [(APPLE_COMPANY_ID, b.buildIbeaconPayload)]

/-- The UUID as `dump_config` prints it. -/
def uuidText : List Char :=
  let part (first count : Nat) := ESPBTUUID.hexBytes ((b.uuid.toList.drop first).take count)
  part 0 4 ++ '-' :: (part 4 2 ++ '-' :: (part 6 2 ++ '-' :: (part 8 2 ++ '-' :: part 10 6)))

end ESP32BLEBeacon

/-! ## The decoder -/

/-- `beacon_data_`: the packed structure, its 16-bit fields in the byte order of the host. -/
structure ESPBLEiBeacon where
  subType : UInt8
  length : UInt8
  proximityUuid : List UInt8
  major : UInt16
  minor : UInt16
  signalPower : Int8

namespace ESPBLEiBeacon

/-- The constructor: the structure is laid over the bytes. -/
def ofData (data : List UInt8) : ESPBLEiBeacon where
  subType := data.getD 0 0
  length := data.getD 1 0
  proximityUuid := (data.drop 2).take 16
  major := le16 (data.getD 18 0) (data.getD 19 0)
  minor := le16 (data.getD 20 0) (data.getD 21 0)
  signalPower := (data.getD 22 0).toInt8

def fromManufacturerData (sd : ServiceData) : Option ESPBLEiBeacon :=
  if sd.data.length < 2 + 23 then none
  else if sd.data.getD 0 0 ≠ 0x4c ∨ sd.data.getD 1 0 ≠ 0x00 then none
  else if sd.data.getD 2 0 ≠ 0x02 ∨ sd.data.getD 3 0 ≠ 0x15 then none
  else some (ofData (sd.data.drop 2))

variable (i : ESPBLEiBeacon)

def getMajor : UInt16 := (i.major >>> 8) ||| ((i.major &&& 0xff) <<< 8)
def getMinor : UInt16 := (i.minor >>> 8) ||| ((i.minor &&& 0xff) <<< 8)
def getSignalPower : Int8 := i.signalPower
def getUuid : ESPBTUUID := .fromRawReversed i.proximityUuid

end ESPBLEiBeacon

/-- `get_ibeacon`: the first manufacturer data that are one. -/
def ESPBTDevice.getIbeacon (d : ESPBTDevice) : Option ESPBLEiBeacon :=
  d.manufacturerDatas.findSome? ESPBLEiBeacon.fromManufacturerData

/-- The device is seen as the beacon that is configured. -/
structure ESP32BLEBeacon.SeenIn (b : ESP32BLEBeacon) (i : ESPBLEiBeacon) : Prop where
  uuid : i.getUuid.toStr = b.uuidText
  major : i.getMajor = b.major
  minor : i.getMinor = b.minor
  power : i.getSignalPower = b.measuredPower

/-! ## The round trip -/

section RoundTrip

variable (b : ESP32BLEBeacon)

/-- A word that is written most significant byte first and read the other way is swapped. -/
theorem swap_le16 (v : UInt16) :
    (le16 (v >>> 8).toUInt8 (v &&& 0xFF).toUInt8 >>> 8) |||
      ((le16 (v >>> 8).toUInt8 (v &&& 0xFF).toUInt8 &&& 0xff) <<< 8) = v := by
  have bound := v.toNat_lt
  have high : ((v >>> 8).toUInt8).toNat = v.toNat / 256 := by
    rw [UInt16.toNat_toUInt8, UInt16.toNat_shiftRight, Nat.shiftRight_eq_div_pow]
    show v.toNat / 256 % 256 = _
    omega
  have low : ((v &&& 0xFF).toUInt8).toNat = v.toNat % 256 := by
    rw [UInt16.toNat_toUInt8, UInt16.toNat_and]
    exact and_mask_toNat _
  have word := le16_toNat (v >>> 8).toUInt8 (v &&& 0xFF).toUInt8
  rw [high, low] at word
  generalize le16 (v >>> 8).toUInt8 (v &&& 0xFF).toUInt8 = w at word
  have up : (w >>> 8).toNat = v.toNat % 256 := by
    rw [UInt16.toNat_shiftRight, word, Nat.shiftRight_eq_div_pow]
    show (v.toNat / 256 + 256 * (v.toNat % 256)) / 256 = _
    omega
  have down : ((w &&& 0xff) <<< 8).toNat = (v.toNat / 256) <<< 8 := by
    have masked : (w &&& 0xff).toNat = v.toNat / 256 := by
      have mask := and_mask_toNat w.toNat
      rw [UInt16.toNat_and]
      show w.toNat &&& 255 = _
      have small : w.toNat &&& 255 ≤ 255 := Nat.and_le_right
      omega
    rw [UInt16.toNat_shiftLeft, masked]
    show (v.toNat / 256) <<< 8 % 2 ^ 16 = _
    rw [Nat.shiftLeft_eq]
    exact Nat.mod_eq_of_lt (by omega)
  apply UInt16.toNat_inj.mp
  rw [UInt16.toNat_or, up, down, or_shiftLeft (by omega)]
  omega

/-- The configured UUID is printed with its bytes in the order they are configured. -/
theorem toStr_fromRawReversed (u : Vector UInt8 16) :
    (ESPBTUUID.fromRawReversed u.toList).toStr = ESP32BLEBeacon.uuidText ⟨u, 0, 0, 0⟩ := by
  have raw : (ESPBTUUID.fromRawReversed u.toList).as128bit.raw =
      ESPBTUUID.copyBytes [u[15], u[14], u[13], u[12], u[11], u[10], u[9], u[8], u[7], u[6], u[5],
        u[4], u[3], u[2], u[1], u[0]] := by
    rw [ESPBTUUID.as128bit_of_len rfl, ESPBTUUID.toList_vector16]
    rfl
  rw [ESPBTUUID.toStr, raw, ESPBTUUID.canonical]
  simp only [ESPBTUUID.getElem_copyBytes, List.getD_cons_succ, List.getD_cons_zero]
  rw [ESP32BLEBeacon.uuidText, ESPBTUUID.toList_vector16]
  rfl

/-- **The decoder undoes the encoder.** -/
theorem fromManufacturerData_beacon :
    ∃ i, ESPBLEiBeacon.fromManufacturerData
        (manufacturerEntry APPLE_COMPANY_ID b.buildIbeaconPayload) = some i ∧ b.SeenIn i := by
  have bytes : b.buildIbeaconPayload = (0x02 : UInt8) :: 0x15 :: (b.uuid.toList ++
    [(b.major >>> 8).toUInt8, (b.major &&& 0xFF).toUInt8,
      (b.minor >>> 8).toUInt8, (b.minor &&& 0xFF).toUInt8, b.measuredPower.toUInt8]) := rfl
  have uuid : (b.buildIbeaconPayload.drop 2).take 16 = b.uuid.toList := by
    rw [bytes]
    exact List.take_left' (Vector.length_toList)
  rw [ESPBTUUID.toList_vector16] at bytes
  refine ⟨.ofData b.buildIbeaconPayload, ?_, ?_, ?_, ?_, ?_⟩
  · rw [bytes]
    rfl
  · show (ESPBTUUID.fromRawReversed ((b.buildIbeaconPayload.drop 2).take 16)).toStr = _
    rw [uuid]
    exact toStr_fromRawReversed b.uuid
  · rw [bytes]
    exact swap_le16 b.major
  · rw [bytes]
    exact swap_le16 b.minor
  · rw [bytes]
    exact Int8.toInt8_toUInt8 b.measuredPower

/-! ## The two backends -/

/-- Manufacturer data of another company are no iBeacon. -/
theorem company_of_ibeacon {company : UInt16} {payload : List UInt8} {i : ESPBLEiBeacon}
    (found : ESPBLEiBeacon.fromManufacturerData (manufacturerEntry company payload) = some i) :
    company = APPLE_COMPANY_ID := by
  obtain ⟨-, found⟩ := Option.ite_none_left_eq_some.mp found
  obtain ⟨prefixed, -⟩ := Option.ite_none_left_eq_some.mp found
  obtain ⟨low, high⟩ := not_or.mp prefixed
  have low : byte16 company 0 = 0x4c := not_not.mp low
  have high : byte16 company 1 = 0x00 := not_not.mp high
  rw [← le16_bytes company, low, high]
  rfl

/-- The manufacturer data of one entry of a dictionary. -/
def Device1Prop.manufacturerDatas : Device1Prop → List (UInt16 × List UInt8)
  | .manufacturerData value => value
  | _ => []

theorem device1Prop_manufacturerDatas (acc : Bool × ESPBTDevice) (p : Device1Prop) :
    (device1Prop acc p).2.manufacturerDatas = acc.2.manufacturerDatas ++
      p.manufacturerDatas.map fun e => manufacturerEntry e.1 e.2 := by
  cases p with
  | uuids value => rw [device1Prop_uuids]; exact (List.append_nil _).symm
  | manufacturerData value => rw [device1Prop_manufacturerData]; rfl
  | serviceData value => rw [device1Prop_serviceData]; exact (List.append_nil _).symm
  | address value => rw [device1Prop_address]; exact (List.append_nil _).symm
  | _ => exact (List.append_nil _).symm

theorem parseDevice1Props_manufacturerDatas (props : List Device1Prop) (device : ESPBTDevice) :
    (parseDevice1Props props device).2.manufacturerDatas = device.manufacturerDatas ++
      (props.flatMap Device1Prop.manufacturerDatas).map fun e => manufacturerEntry e.1 e.2 := by
  induction props using List.reverseRecOn with
  | nil => exact (List.append_nil _).symm
  | append_singleton props p ih =>
      rw [parseDevice1Props_concat, device1Prop_manufacturerDatas, ih, List.append_assoc,
        ← List.map_append, List.flatMap_append, List.flatMap_singleton]

/-- Structures of the other types leave the manufacturer data alone. -/
theorem adFrame_manufacturerDatas_of_ne {f : Ltv.Frame} (other : f.type ≠ 0xff) (d : ESPBTDevice) :
    (adFrame d f).manufacturerDatas = d.manufacturerDatas := by
  obtain ⟨type, data⟩ := f
  show (parseAdStructure type data d).manufacturerDatas = _
  unfold parseAdStructure
  split
  case h_15 => exact absurd rfl other
  all_goals first
    | rfl
    | rw [ESPBTDevice.addServiceUuids_eq]
    | split <;> rfl

/-- The manufacturer data of one structure. -/
def frameManufacturerDatas (f : Ltv.Frame) : List ServiceData :=
  if f.type = 0xff ∧ f.data.length ≥ 2 then [⟨.fromUint16 (word16 f.data), f.data⟩] else []

/-- One structure adds manufacturer data or leaves them alone. -/
theorem adFrame_manufacturerDatas (d : ESPBTDevice) (f : Ltv.Frame) :
    (adFrame d f).manufacturerDatas = d.manufacturerDatas ++ frameManufacturerDatas f := by
  unfold frameManufacturerDatas
  by_cases manufacturer : f.type = 0xff
  · obtain ⟨type, data⟩ := f
    obtain rfl : type = 0xff := manufacturer
    show (if data.length ≥ 2 then d.addManufacturerData ⟨.fromUint16 (word16 data), data⟩
      else d).manufacturerDatas = _
    by_cases long : data.length ≥ 2
    · rw [if_pos long, if_pos ⟨rfl, long⟩]
      rfl
    · rw [if_neg long, if_neg fun both => long both.2, List.append_nil]
  · rw [adFrame_manufacturerDatas_of_ne manufacturer, if_neg fun both => manufacturer both.1,
      List.append_nil]

/-- A dictionary with what BlueZ decodes of the advertisement; keys are unique, and so are the
companies of the manufacturer data. -/
structure ESP32BLEBeacon.InDictionary (props : List Device1Prop) : Prop where
  keys : (props.map Device1Prop.key).Nodup
  entry : ∃ entries, .manufacturerData entries ∈ props ∧ (entries.map Prod.fst).Nodup ∧
    b.manufacturerData ⊆ entries

/-- The manufacturer-specific structure of the advertisement. -/
def ESP32BLEBeacon.frame : Ltv.Frame :=
  ⟨0xff, [byte16 APPLE_COMPANY_ID 0, byte16 APPLE_COMPANY_ID 1] ++ b.buildIbeaconPayload⟩

/-- An advertising payload with that structure, before which there is no other iBeacon. -/
structure ESP32BLEBeacon.OnAir (payload : List UInt8) (len : UInt8) : Prop where
  frames : ∃ before after rest, payload = Ltv.encode (before ++ b.frame :: after) ++ rest ∧
    (∀ f ∈ before ++ b.frame :: after, f.Fits) ∧
      (Ltv.encode (before ++ b.frame :: after)).length = len.toNat ∧
        ∀ f ∈ before, ∀ sd ∈ frameManufacturerDatas f,
          ESPBLEiBeacon.fromManufacturerData sd = none

theorem findSome?_of_unique {α β : Type} {f : α → Option β} {l : List α} {a : α} {x : β}
    (mem : a ∈ l) (found : f a = some x) (unique : ∀ c ∈ l, ∀ y, f c = some y → y = x) :
    l.findSome? f = some x := by
  cases first : l.findSome? f with
  | none =>
      have missed := List.findSome?_eq_none_iff.mp first a mem
      exact nomatch missed.symm.trans found
  | some y =>
      obtain ⟨c, mem, some⟩ := List.exists_of_findSome?_eq_some first
      rw [unique c mem y some]

/-- Under the Apple company id there is one entry, whatever other companies' data look like. -/
theorem getIbeacon_inDictionary {props : List Device1Prop} {device : ESPBTDevice}
    (fresh : device.manufacturerDatas = []) (inDictionary : b.InDictionary props) :
    ∃ i, (parseDevice1Props props device).2.getIbeacon = some i ∧ b.SeenIn i := by
  obtain ⟨i, decoded, seen⟩ := fromManufacturerData_beacon b
  obtain ⟨keys, entries, mem, companies, ours⟩ := inDictionary
  refine ⟨i, ?_, seen⟩
  have ours := ours List.mem_cons_self
  rw [ESPBTDevice.getIbeacon, parseDevice1Props_manufacturerDatas, fresh, List.nil_append]
  refine findSome?_of_unique (List.mem_map_of_mem (List.mem_flatMap_of_mem mem ours)) decoded ?_
  intro sd mem' j found
  obtain ⟨⟨company, payload⟩, listed, rfl⟩ := List.mem_map.mp mem'
  obtain ⟨p, there, inside⟩ := List.mem_flatMap.mp listed
  obtain rfl := company_of_ibeacon found
  -- The entry is in the one dictionary of manufacturer data, and there under a key of its own.
  obtain rfl : p = .manufacturerData entries := by
    cases p with
    | manufacturerData value => exact List.inj_on_of_nodup_map keys there mem rfl
    | _ => cases inside
  have same := List.inj_on_of_nodup_map companies inside ours rfl
  rw [same] at found
  exact Option.some.inj (found.symm.trans decoded)

theorem frameManufacturerDatas_frame :
    frameManufacturerDatas b.frame =
      [manufacturerEntry APPLE_COMPANY_ID b.buildIbeaconPayload] := by
  have company : word16 b.frame.data = APPLE_COMPANY_ID := le16_bytes APPLE_COMPANY_ID
  have long : b.frame.data.length ≥ 2 := Nat.le_add_left 2 _
  rw [frameManufacturerDatas, if_pos ⟨rfl, long⟩, company]
  rfl

theorem foldl_adFrame_manufacturerDatas (fs : List Ltv.Frame) (d : ESPBTDevice) :
    (fs.foldl adFrame d).manufacturerDatas =
      d.manufacturerDatas ++ fs.flatMap frameManufacturerDatas := by
  induction fs generalizing d with
  | nil => exact (List.append_nil _).symm
  | cons f fs ih =>
      rw [List.foldl_cons, ih, adFrame_manufacturerDatas, List.append_assoc, List.flatMap_cons]

/-- The first structure that is an iBeacon is the beacon's. -/
theorem getIbeacon_onAir {payload : List UInt8} {len : UInt8} {device : ESPBTDevice}
    (fresh : device.manufacturerDatas = []) (onAir : b.OnAir payload len) :
    ∃ i, (parseAdPayload payload len device).getIbeacon = some i ∧ b.SeenIn i := by
  obtain ⟨i, decoded, seen⟩ := fromManufacturerData_beacon b
  obtain ⟨before, after, rest, rfl, fits, length, others⟩ := onAir
  refine ⟨i, ?_, seen⟩
  have none : (before.flatMap frameManufacturerDatas).findSome?
      ESPBLEiBeacon.fromManufacturerData = none := by
    refine List.findSome?_eq_none_iff.mpr fun sd mem => ?_
    obtain ⟨f, there, mem⟩ := List.mem_flatMap.mp mem
    exact others f there sd mem
  rw [parseAdPayload_encode device fits length rest, ESPBTDevice.getIbeacon,
    foldl_adFrame_manufacturerDatas, fresh, List.nil_append, List.flatMap_append,
    List.flatMap_cons, frameManufacturerDatas_frame, List.findSome?_append, none,
    List.singleton_append, List.findSome?_cons, decoded]
  rfl

/-- **A beacon is received as it is configured**, from a dictionary or off the air. -/
theorem beacon_received (b : ESP32BLEBeacon) {device : ESPBTDevice}
    (fresh : device.manufacturerDatas = []) :
    (∀ props, b.InDictionary props →
        ∃ i, (parseDevice1Props props device).2.getIbeacon = some i ∧ b.SeenIn i) ∧
      ∀ payload len, b.OnAir payload len →
        ∃ i, (parseAdPayload payload len device).getIbeacon = some i ∧ b.SeenIn i :=
  ⟨fun _ inDictionary => getIbeacon_inDictionary b fresh inDictionary,
    fun _ _ onAir => getIbeacon_onAir b fresh onAir⟩

end RoundTrip

/-- A beacon with the bytes 0 to 15 for its UUID. -/
def countingBeacon : ESP32BLEBeacon := { uuid := Vector.ofFn fun i => UInt8.ofNat i }

theorem beacon_received_counting :
    (∃ i, (parseDevice1Props [.address "AA:BB:CC:DD:EE:FF".toList, .rssi (-60),
        .manufacturerData ((0x0059, [1]) :: countingBeacon.manufacturerData)] {}).2.getIbeacon =
          some i ∧ countingBeacon.SeenIn i) ∧
      ∃ i, (parseAdPayload (Ltv.encode [⟨0x01, [0x06]⟩, countingBeacon.frame]) 30 {}).getIbeacon =
        some i ∧ countingBeacon.SeenIn i := by
  have received := @beacon_received countingBeacon {} rfl
  have length : (Ltv.encode [⟨0x01, [0x06]⟩, countingBeacon.frame]).length = 30 := by
    decide +kernel
  refine ⟨received.1 _ ⟨by decide +kernel, _, .tail _ (.tail _ (.head _)), by decide, ?_⟩,
    received.2 _ _ ⟨[⟨0x01, [0x06]⟩], [], [], ?_, ?_, length, ?_⟩⟩
  · exact List.subset_cons_self _ _
  · exact (List.append_nil _).symm
  · exact Ltv.fits_of_length (by rw [List.singleton_append, length]; decide)
  · intro f mem sd data
    obtain rfl := List.mem_singleton.mp mem
    rw [show frameManufacturerDatas ⟨0x01, [0x06]⟩ = [] by decide] at data
    cases data

end EsphomeHost

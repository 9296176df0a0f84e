import EsphomeHost.Tracker.Device
import Mathlib.Data.List.Nodup

/-!
# BlueZ device properties

The default scanner backend never sees raw advertising bytes: it reads the decoded
`org.bluez.Device1` properties.  A dictionary is the list of its entries in the order the message
carries them, each with the type BlueZ documents for its key.

* `parseBdaddr` follows `sscanf`'s `%02x`: leading blanks, a sign and a `0x` prefix are accepted,
  as the C library accepts them.
* `parseDevice1Props_perm`: the order of the entries does not matter.
-/

namespace EsphomeHost

/-! ## Address strings -/

/-- `isspace`. -/
def isSpace (c : Char) : Bool :=
  c = ' ' ∨ c = '\t' ∨ c = '\n' ∨ c = '\r' ∨ c = Char.ofNat 11 ∨ c = Char.ofNat 12

/-- At most `width` hexadecimal digits. -/
def takeHex : Nat → List Char → List UInt8 × List Char
  | 0, s => ([], s)
  | _ + 1, [] => ([], [])
  | width + 1, c :: cs =>
      match Hex.value c with
      | none => ([], c :: cs)
      | some v => (v :: (takeHex width cs).1, (takeHex width cs).2)

/-- The unsigned value of a digit string. -/
def hexNumber (digits : List UInt8) : UInt32 :=
  digits.foldl (fun v d => v * 16 + d.toUInt32) 0

/-- The optional sign of a conversion: whether it is `-`, and the width left for the digits. -/
def scanSign : List Char → Bool × Nat × List Char
  | '-' :: rest => (true, 1, rest)
  | '+' :: rest => (false, 1, rest)
  | s => (false, 2, s)

/-- The digits of a conversion.  A `0x` prefix takes up the whole width and leaves the zero. -/
def scanDigits (width : Nat) : List Char → List UInt8 × List Char
  | '0' :: x :: rest =>
      if width = 2 ∧ (x = 'x' ∨ x = 'X') then ([0], rest) else takeHex width ('0' :: x :: rest)
  | s => takeHex width s

/-- One `%02x` conversion: the value and the unread characters. -/
def scanHex (s : List Char) : Option (UInt32 × List Char) :=
  let (negative, width, s) := scanSign (s.dropWhile isSpace)
  let (digits, rest) := scanDigits width s
  if digits = [] then none
  else some (if negative then -hexNumber digits else hexNumber digits, rest)

/-- A literal `:` of the format. -/
def scanColon : List Char → Option (List Char)
  | ':' :: rest => some rest
  | _ => none

/-- `parse_bdaddr`: the string is most significant byte first, the result least significant. -/
def parseBdaddr (str : List Char) : Option (List UInt8) := do
  let (v0, s) ← scanHex str
  let (v1, s) ← scanHex (← scanColon s)
  let (v2, s) ← scanHex (← scanColon s)
  let (v3, s) ← scanHex (← scanColon s)
  let (v4, s) ← scanHex (← scanColon s)
  let (v5, _) ← scanHex (← scanColon s)
  return [v5.toUInt8, v4.toUInt8, v3.toUInt8, v2.toUInt8, v1.toUInt8, v0.toUInt8]

/-- `ESPBTDevice::address_str`. -/
def ESPBTDevice.addressStr (d : ESPBTDevice) : List Char :=
  Hex.byteUpper d.address[5] ++ ':' :: (Hex.byteUpper d.address[4] ++ ':' ::
    (Hex.byteUpper d.address[3] ++ ':' :: (Hex.byteUpper d.address[2] ++ ':' ::
      (Hex.byteUpper d.address[1] ++ ':' :: Hex.byteUpper d.address[0]))))

/-! ## The property dictionary -/

/-- One entry of a `Device1` dictionary; `other` is any key the parser skips. -/
inductive Device1Prop
  | address (value : List Char)
  | name (value : List UInt8)
  | rssi (value : Int16)
  | txPower (value : Int16)
  | appearance (value : UInt16)
  | uuids (value : List (List Char))
  | manufacturerData (value : List (UInt16 × List UInt8))
  | serviceData (value : List (List Char × List UInt8))
  | other (key : List Char)

/-- Manufacturer data is stored with the company id in front, as it is on the air. -/
def manufacturerEntry (company : UInt16) (payload : List UInt8) : ServiceData :=
  ⟨.fromUint16 company,
    [LittleEndian.byte16 company 0, LittleEndian.byte16 company 1] ++ payload⟩

/-- One pass of the loop of `parse_device1_props_`; the flag is `have_address`. -/
def device1Prop : Bool × ESPBTDevice → Device1Prop → Bool × ESPBTDevice
  | (haveAddress, device), .address value =>
      match parseBdaddr value with
      | some bd => (true, device.setAddress bd)
      | none => (haveAddress, device)
  | (haveAddress, device), .name value => (haveAddress, device.setName value)
  | (haveAddress, device), .rssi value => (haveAddress, device.setRssi value.toInt8)
  | (haveAddress, device), .txPower value => (haveAddress, device.addTxPower value.toInt8)
  | (haveAddress, device), .appearance value => (haveAddress, device.setAppearance value)
  | (haveAddress, device), .uuids value =>
      (haveAddress, device.addServiceUuids (value.map ESPBTUUID.fromUuidStr))
  | (haveAddress, device), .manufacturerData value =>
      (haveAddress,
        value.foldl (fun d e => d.addManufacturerData (manufacturerEntry e.1 e.2)) device)
  | (haveAddress, device), .serviceData value =>
      (haveAddress,
        value.foldl (fun d e => d.addServiceData ⟨ESPBTUUID.fromUuidStr e.1, e.2⟩) device)
  | (haveAddress, device), .other _ => (haveAddress, device)

/-- `parse_device1_props_`: whether an address was found, and the device. -/
def parseDevice1Props (props : List Device1Prop) (device : ESPBTDevice) : Bool × ESPBTDevice :=
  props.foldl device1Prop (false, device)

/-! ## The order of the entries -/

namespace Device1Prop

/-- The dictionary key of an entry. -/
def key : Device1Prop → List Char
  | .address _ => "Address".toList
  | .name _ => "Name".toList
  | .rssi _ => "RSSI".toList
  | .txPower _ => "TxPower".toList
  | .appearance _ => "Appearance".toList
  | .uuids _ => "UUIDs".toList
  | .manufacturerData _ => "ManufacturerData".toList
  | .serviceData _ => "ServiceData".toList
  | .other k => k

end Device1Prop

theorem foldl_addManufacturerData (entries : List (UInt16 × List UInt8)) (device : ESPBTDevice) :
    entries.foldl (fun d e => d.addManufacturerData (manufacturerEntry e.1 e.2)) device =
      { device with manufacturerDatas :=
          device.manufacturerDatas ++ (entries.map fun e => manufacturerEntry e.1 e.2) } := by
  induction entries generalizing device with
  | nil => simp
  | cons e entries ih =>
      rw [List.foldl_cons, ih]
      simp [ESPBTDevice.addManufacturerData]

theorem foldl_addServiceData (entries : List (List Char × List UInt8)) (device : ESPBTDevice) :
    entries.foldl (fun d e => d.addServiceData ⟨ESPBTUUID.fromUuidStr e.1, e.2⟩) device =
      { device with serviceDatas :=
          device.serviceDatas ++ (entries.map fun e => ⟨ESPBTUUID.fromUuidStr e.1, e.2⟩) } := by
  induction entries generalizing device with
  | nil => simp
  | cons e entries ih =>
      rw [List.foldl_cons, ih]
      simp [ESPBTDevice.addServiceData]

/-- What one entry does to the device, field by field. -/
theorem device1Prop_manufacturerData (acc : Bool × ESPBTDevice)
    (entries : List (UInt16 × List UInt8)) :
    device1Prop acc (.manufacturerData entries) =
      (acc.1, { acc.2 with manufacturerDatas :=
          acc.2.manufacturerDatas ++ (entries.map fun e => manufacturerEntry e.1 e.2) }) := by
  rw [← foldl_addManufacturerData]
  rfl

theorem device1Prop_serviceData (acc : Bool × ESPBTDevice)
    (entries : List (List Char × List UInt8)) :
    device1Prop acc (.serviceData entries) =
      (acc.1, { acc.2 with serviceDatas :=
          acc.2.serviceDatas ++ (entries.map fun e => ⟨ESPBTUUID.fromUuidStr e.1, e.2⟩) }) := by
  rw [← foldl_addServiceData]
  rfl

theorem device1Prop_uuids (acc : Bool × ESPBTDevice) (value : List (List Char)) :
    device1Prop acc (.uuids value) =
      (acc.1, { acc.2 with serviceUuids :=
          acc.2.serviceUuids ++ value.map ESPBTUUID.fromUuidStr }) := by
  rw [← ESPBTDevice.addServiceUuids_eq]
  rfl

theorem device1Prop_address (acc : Bool × ESPBTDevice) (value : List Char) :
    device1Prop acc (.address value) =
      ((parseBdaddr value).isSome || acc.1,
        { acc.2 with address := ((parseBdaddr value).map fun bd =>
          (acc.2.setAddress bd).address).getD acc.2.address }) := by
  simp only [device1Prop]
  split <;> simp [*, ESPBTDevice.setAddress]

/-- Entries under different keys set different fields, so their order does not matter. -/
theorem device1Prop_comm {p q : Device1Prop} (keys : p.key ≠ q.key) (acc : Bool × ESPBTDevice) :
    device1Prop (device1Prop acc p) q = device1Prop (device1Prop acc q) p := by
  cases p <;> cases q <;>
    first
    | rfl
    | simp only [device1Prop_address, device1Prop_uuids, device1Prop_manufacturerData,
        device1Prop_serviceData] <;> rfl
    | exact absurd rfl keys

/-- **The order of a dictionary's entries does not matter.** -/
theorem parseDevice1Props_perm {props props' : List Device1Prop} (perm : props.Perm props')
    (keys : (props.map Device1Prop.key).Nodup) (device : ESPBTDevice) :
    parseDevice1Props props device = parseDevice1Props props' device := by
  refine List.Perm.foldl_eq' perm ?_ (false, device)
  intro p hp q hq acc
  by_cases same : p.key = q.key
  · rw [List.inj_on_of_nodup_map keys hp hq same]
  · exact device1Prop_comm same acc

end EsphomeHost

import EsphomeHost.Tracker.AdPayload
import EsphomeHost.Tracker.Bdaddr

/-!
# The two scanner backends

An `Advertisement` is what a device broadcasts.  The raw backend sees it as one report of an HCI
event (`Advertisement.reportBytes`), the D-Bus backend as BlueZ's dictionary of decoded properties
(`Advertisement.Reported`).

* `handleLeMetaEvent_encode`, `parseDevice1Props_reported`: the device each backend builds, field
  by field.  They differ only in the length their UUIDs are stored with.
* `backends_agree_iff`: they agree for a configured UUID `u` exactly when no 16- or 32-bit UUID of
  the advertisement equals `u` or expands to it.
-/

namespace EsphomeHost

open LittleEndian

/-! ## Advertisements -/

/-- One advertising structure, by meaning. -/
inductive AdStructure
  | flags (f : UInt8)
  | uuids16 (complete : Bool) (values : List UInt16)
  | uuids32 (complete : Bool) (values : List UInt32)
  | uuids128 (complete : Bool) (values : List (Vector UInt8 16))
  | localName (complete : Bool) (name : List UInt8)
  | txPower (level : Int8)
  | appearance (value : UInt16)
  | serviceData16 (uuid : UInt16) (data : List UInt8)
  | serviceData32 (uuid : UInt32) (data : List UInt8)
  | serviceData128 (uuid : Vector UInt8 16) (data : List UInt8)
  | manufacturer (company : UInt16) (payload : List UInt8)

namespace AdStructure

def bytes16 (v : UInt16) : List UInt8 := [byte16 v 0, byte16 v 1]

def bytes32 (v : UInt32) : List UInt8 := [byte32 v 0, byte32 v 1, byte32 v 2, byte32 v 3]

/-- The structure on the air. -/
def frame : AdStructure → Ltv.Frame
  | flags f => ⟨0x01, [f]⟩
  | uuids16 complete values => ⟨if complete then 0x03 else 0x02, (values.map bytes16).flatten⟩
  | uuids32 complete values => ⟨if complete then 0x05 else 0x04, (values.map bytes32).flatten⟩
  | uuids128 complete values =>
      ⟨if complete then 0x07 else 0x06, (values.map Vector.toList).flatten⟩
  | localName complete name => ⟨if complete then 0x09 else 0x08, name⟩
  | txPower level => ⟨0x0a, [level.toUInt8]⟩
  | appearance value => ⟨0x19, bytes16 value⟩
  | serviceData16 uuid data => ⟨0x16, bytes16 uuid ++ data⟩
  | serviceData32 uuid data => ⟨0x20, bytes32 uuid ++ data⟩
  | serviceData128 uuid data => ⟨0x21, uuid.toList ++ data⟩
  | manufacturer company payload => ⟨0xff, bytes16 company ++ payload⟩

/-- The service UUIDs the structure lists, with the length they have on the air. -/
def serviceUuids : AdStructure → List ESPBTUUID
  | uuids16 _ values => values.map .fromUint16
  | uuids32 _ values => values.map .fromUint32
  | uuids128 _ values => values.map fun v => .fromRaw v.toList
  | _ => []

def serviceDatas : AdStructure → List ServiceData
  | serviceData16 uuid data => [⟨.fromUint16 uuid, data⟩]
  | serviceData32 uuid data => [⟨.fromUint32 uuid, data⟩]
  | serviceData128 uuid data => [⟨.fromRaw uuid.toList, data⟩]
  | _ => []

def names : AdStructure → List (List UInt8)
  | localName _ name => [name]
  | _ => []

def txPowers : AdStructure → List Int8
  | txPower level => [level]
  | _ => []

def appearances : AdStructure → List UInt16
  | appearance value => [value]
  | _ => []

def manufacturerDatas : AdStructure → List (UInt16 × List UInt8)
  | manufacturer company payload => [(company, payload)]
  | _ => []

end AdStructure

/-- What a device broadcasts, with the signal strength it is received at. -/
structure Advertisement where
  address : Vector UInt8 6
  rssi : Int8
  structures : List AdStructure

namespace Advertisement

variable (adv : Advertisement)

/-- The advertising data. -/
def payload : List UInt8 := Ltv.encode (adv.structures.map AdStructure.frame)

def serviceUuids : List ESPBTUUID := adv.structures.flatMap AdStructure.serviceUuids
def serviceDatas : List ServiceData := adv.structures.flatMap AdStructure.serviceDatas
def names : List (List UInt8) := adv.structures.flatMap AdStructure.names
def txPowers : List Int8 := adv.structures.flatMap AdStructure.txPowers
def appearances : List UInt16 := adv.structures.flatMap AdStructure.appearances

def manufacturerDatas : List (UInt16 × List UInt8) :=
  adv.structures.flatMap AdStructure.manufacturerDatas

/-- Every UUID of the advertisement, with the length it has on the air. -/
def uuids : List ESPBTUUID := adv.serviceUuids ++ adv.serviceDatas.map ServiceData.uuid

/-- The data fits its length byte, and a field that BlueZ decodes once occurs at most once. -/
structure WellFormed : Prop where
  fits : adv.payload.length ≤ 255
  oneName : adv.names.length ≤ 1
  terminated : ∀ name ∈ adv.names, (0 : UInt8) ∉ name
  oneTxPower : adv.txPowers.length ≤ 1
  oneAppearance : adv.appearances.length ≤ 1
  companies : (adv.manufacturerDatas.map Prod.fst).Nodup
  services : (adv.serviceDatas.map fun sd => sd.uuid.as128bit).Nodup
  listed : (adv.serviceUuids.map ESPBTUUID.as128bit).Nodup

/-- One report of an advertising event; event and address type are not looked at. -/
def reportBytes (eventType addressType : UInt8) : List UInt8 :=
  eventType :: addressType :: (adv.address.toList ++
    UInt8.ofNat adv.payload.length :: (adv.payload ++ [adv.rssi.toUInt8]))

/-- `bytes` as BlueZ prints an address. -/
def addressStr : List Char := ESPBTDevice.addressStr { address := adv.address }

/-- The entries BlueZ decodes. -/
def properties : List Device1Prop :=
  [.address adv.addressStr, .rssi adv.rssi.toInt16,
    .uuids (adv.serviceUuids.map ESPBTUUID.toStr),
    .manufacturerData adv.manufacturerDatas,
    .serviceData (adv.serviceDatas.map fun sd => (sd.uuid.toStr, sd.data))] ++
  (adv.names.map .name ++ (adv.txPowers.map (fun level => .txPower level.toInt16) ++
    adv.appearances.map .appearance))

/-- `props` is a dictionary BlueZ may send: the decoded entries in any order, among entries under
other keys. -/
def Reported (props : List Device1Prop) : Prop :=
  (props.map Device1Prop.key).Nodup ∧
    ∃ others : List (List Char), props.Perm (adv.properties ++ others.map .other)

end Advertisement

/-! ## The raw backend -/

/-- `d'` is `d` with the fields the structures add. -/
structure Accumulates (structures : List AdStructure) (d d' : ESPBTDevice) : Prop where
  address : d'.address = d.address
  rssi : d'.rssi = d.rssi
  name : d'.name = (structures.flatMap AdStructure.names).getLast?.getD d.name
  txPowers : d'.txPowers = d.txPowers ++ structures.flatMap AdStructure.txPowers
  serviceUuids : d'.serviceUuids = d.serviceUuids ++ structures.flatMap AdStructure.serviceUuids
  manufacturerDatas : d'.manufacturerDatas = d.manufacturerDatas ++
    (structures.flatMap AdStructure.manufacturerDatas).map fun e => manufacturerEntry e.1 e.2
  serviceDatas : d'.serviceDatas = d.serviceDatas ++ structures.flatMap AdStructure.serviceDatas

theorem Accumulates.trans {ss ts : List AdStructure} {d d' d'' : ESPBTDevice}
    (left : Accumulates ss d d') (right : Accumulates ts d' d'') :
    Accumulates (ss ++ ts) d d'' where
  address := right.address.trans left.address
  rssi := right.rssi.trans left.rssi
  name := by
    rw [right.name, left.name, List.flatMap_append, List.getLast?_append, Option.getD_or]
  txPowers := by rw [right.txPowers, left.txPowers, List.flatMap_append, List.append_assoc]
  serviceUuids := by
    rw [right.serviceUuids, left.serviceUuids, List.flatMap_append, List.append_assoc]
  manufacturerDatas := by
    rw [right.manufacturerDatas, left.manufacturerDatas, List.flatMap_append, List.map_append,
      List.append_assoc]
  serviceDatas := by
    rw [right.serviceDatas, left.serviceDatas, List.flatMap_append, List.append_assoc]

theorem word16_bytes16 (v : UInt16) (data : List UInt8) :
    word16 (AdStructure.bytes16 v ++ data) = v := by
  simp [AdStructure.bytes16, word16]

theorem word32_bytes32 (v : UInt32) (data : List UInt8) :
    word32 (AdStructure.bytes32 v ++ data) = v := by
  simp [AdStructure.bytes32, word32]

theorem fullChunks_bytes16 (values : List UInt16) :
    (Ltv.fullChunks 2 (values.map AdStructure.bytes16).flatten).map
      (fun c => ESPBTUUID.fromUint16 (word16 c)) = values.map .fromUint16 := by
  rw [Ltv.fullChunks_flatten (by decide) (by simp [AdStructure.bytes16]), List.map_map]
  refine List.map_congr_left fun v _ => ?_
  have word := word16_bytes16 v []
  rw [List.append_nil] at word
  simp [word]

theorem fullChunks_bytes32 (values : List UInt32) :
    (Ltv.fullChunks 4 (values.map AdStructure.bytes32).flatten).map
      (fun c => ESPBTUUID.fromUint32 (word32 c)) = values.map .fromUint32 := by
  rw [Ltv.fullChunks_flatten (by decide) (by simp [AdStructure.bytes32]), List.map_map]
  refine List.map_congr_left fun v _ => ?_
  have word := word32_bytes32 v []
  rw [List.append_nil] at word
  simp [word]

theorem fullChunks_bytes128 (values : List (Vector UInt8 16)) :
    (Ltv.fullChunks 16 (values.map Vector.toList).flatten).map ESPBTUUID.fromRaw =
      values.map fun v => .fromRaw v.toList := by
  rw [Ltv.fullChunks_flatten (by decide) (by simp), List.map_map]
  rfl

/-- What `parse_ad_payload` makes of one structure. -/
def AdStructure.apply (d : ESPBTDevice) : AdStructure → ESPBTDevice
  | flags f => d.setAdFlag f
  | localName _ name => d.setName name
  | txPower level => d.addTxPower level
  | appearance value => d.setAppearance value
  | manufacturer company payload => d.addManufacturerData (manufacturerEntry company payload)
  | serviceData16 uuid data => d.addServiceData ⟨.fromUint16 uuid, data⟩
  | serviceData32 uuid data => d.addServiceData ⟨.fromUint32 uuid, data⟩
  | serviceData128 uuid data => d.addServiceData ⟨.fromRaw uuid.toList, data⟩
  | uuids16 _ values => d.addServiceUuids (values.map .fromUint16)
  | uuids32 _ values => d.addServiceUuids (values.map .fromUint32)
  | uuids128 _ values => d.addServiceUuids (values.map fun v => .fromRaw v.toList)

/-- **One structure is parsed as what it means.** -/
theorem adFrame_frame (d : ESPBTDevice) (s : AdStructure) : adFrame d s.frame = s.apply d := by
  cases s with
  | flags f => rfl
  | localName complete name => cases complete <;> rfl
  | txPower level => simp [adFrame, AdStructure.frame, AdStructure.apply, parseAdStructure]
  | appearance value =>
      have word := word16_bytes16 value []
      rw [List.append_nil] at word
      show (if (AdStructure.bytes16 value).length ≥ 2 then
        d.setAppearance (word16 (AdStructure.bytes16 value)) else d) = _
      rw [word]
      rfl
  | uuids16 complete values =>
      show _ = d.addServiceUuids (values.map .fromUint16)
      rw [← fullChunks_bytes16]
      cases complete <;> rfl
  | uuids32 complete values =>
      show _ = d.addServiceUuids (values.map .fromUint32)
      rw [← fullChunks_bytes32]
      cases complete <;> rfl
  | uuids128 complete values =>
      show _ = d.addServiceUuids (values.map fun v => .fromRaw v.toList)
      rw [← fullChunks_bytes128]
      cases complete <;> rfl
  | serviceData16 uuid data =>
      show (if (AdStructure.bytes16 uuid ++ data).length ≥ 2 then d.addServiceData
        ⟨.fromUint16 (word16 (AdStructure.bytes16 uuid ++ data)),
          (AdStructure.bytes16 uuid ++ data).drop 2⟩ else d) = _
      rw [word16_bytes16, if_pos (by simp [AdStructure.bytes16])]
      rfl
  | serviceData32 uuid data =>
      show (if (AdStructure.bytes32 uuid ++ data).length ≥ 4 then d.addServiceData
        ⟨.fromUint32 (word32 (AdStructure.bytes32 uuid ++ data)),
          (AdStructure.bytes32 uuid ++ data).drop 4⟩ else d) = _
      rw [word32_bytes32, if_pos (by simp [AdStructure.bytes32])]
      rfl
  | serviceData128 uuid data =>
      show (if (uuid.toList ++ data).length ≥ 16 then d.addServiceData
        ⟨.fromRaw (uuid.toList ++ data), (uuid.toList ++ data).drop 16⟩ else d) = _
      have raw : ESPBTUUID.fromRaw (uuid.toList ++ data) = .fromRaw uuid.toList := by
        refine congrArg (ESPBTUUID.mk · 16) ?_
        ext i hi
        simp [List.getD, hi, List.getElem?_append_left]
      rw [raw, if_pos (by simp), List.drop_left' (by simp)]
      rfl
  | manufacturer company payload =>
      show (if (AdStructure.bytes16 company ++ payload).length ≥ 2 then d.addManufacturerData
        ⟨.fromUint16 (word16 (AdStructure.bytes16 company ++ payload)),
          AdStructure.bytes16 company ++ payload⟩ else d) = _
      rw [word16_bytes16, if_pos (by simp [AdStructure.bytes16])]
      rfl

/-- What a structure means adds the fields it carries. -/
theorem accumulates_apply (s : AdStructure) (d : ESPBTDevice) :
    Accumulates [s] d (s.apply d) := by
  cases s with
  | uuids16 | uuids32 | uuids128 =>
      constructor <;> simp [AdStructure.apply, ESPBTDevice.addServiceUuids_eq,
        AdStructure.names, AdStructure.txPowers, AdStructure.serviceUuids,
        AdStructure.manufacturerDatas, AdStructure.serviceDatas]
  | _ =>
      constructor <;> simp [AdStructure.apply, ESPBTDevice.setAdFlag, ESPBTDevice.setName,
        ESPBTDevice.addTxPower, ESPBTDevice.setAppearance, ESPBTDevice.addManufacturerData,
        ESPBTDevice.addServiceData, AdStructure.names, AdStructure.txPowers,
        AdStructure.serviceUuids, AdStructure.manufacturerDatas, AdStructure.serviceDatas]

theorem accumulates_frames (structures : List AdStructure) (d : ESPBTDevice) :
    Accumulates structures d ((structures.map AdStructure.frame).foldl adFrame d) := by
  induction structures generalizing d with
  | nil => constructor <;> simp
  | cons s structures ih =>
      rw [List.map_cons, List.foldl_cons, adFrame_frame]
      exact (accumulates_apply s d).trans (ih (s.apply d))

/-- The device the raw backend builds from one report. -/
def Advertisement.rawDevice (adv : Advertisement) : ESPBTDevice :=
  parseAdPayload adv.payload (UInt8.ofNat adv.payload.length)
    ((ESPBTDevice.setAddress {} adv.address.toList).setRssi adv.rssi)

/-- What follows the advertising data does not matter. -/
theorem parseAdPayload_payload {adv : Advertisement} (fits : adv.payload.length ≤ 255)
    (d : ESPBTDevice) (rest : List UInt8) :
    parseAdPayload (adv.payload ++ rest) (UInt8.ofNat adv.payload.length) d =
      (adv.structures.map AdStructure.frame).foldl adFrame d := by
  have frames : ∀ f ∈ adv.structures.map AdStructure.frame, f.Fits := by
    intro f mem
    have part : f.encode.length ≤ adv.payload.length :=
      (List.sublist_flatten_of_mem (List.mem_map_of_mem mem)).length_le
    rw [Ltv.Frame.length_encode] at part
    unfold Ltv.Frame.Fits
    omega
  refine parseAdPayload_encode d frames ?_ rest
  rw [UInt8.toNat_ofNat', Nat.mod_eq_of_lt (by omega)]
  rfl

theorem rawDevice_accumulates {adv : Advertisement} (fits : adv.payload.length ≤ 255) :
    Accumulates adv.structures ((ESPBTDevice.setAddress {} adv.address.toList).setRssi adv.rssi)
      adv.rawDevice := by
  have whole := parseAdPayload_payload fits
    ((ESPBTDevice.setAddress {} adv.address.toList).setRssi adv.rssi) []
  rw [List.append_nil] at whole
  rw [Advertisement.rawDevice, whole]
  exact accumulates_frames _ _

/-! ## Advertising reports -/

/-- A report as the event carries it: the event type, the address type and the advertisement. -/
structure LeReport where
  eventType : UInt8
  addressType : UInt8
  advertisement : Advertisement

def LeReport.bytes (r : LeReport) : List UInt8 :=
  r.advertisement.reportBytes r.eventType r.addressType

/-- An advertising-report event. -/
def leEvent (reports : List LeReport) : List UInt8 :=
  0x02 :: UInt8.ofNat reports.length :: reports.flatMap LeReport.bytes

/-- The report without the meaning of its data. -/
def LeReport.raw (r : LeReport) : RawReport :=
  ⟨r.eventType, r.addressType, r.advertisement.address, r.advertisement.payload,
    r.advertisement.rssi⟩

theorem LeReport.device_raw {r : LeReport} (fits : r.advertisement.payload.length ≤ 255) :
    r.raw.device = r.advertisement.rawDevice := by
  have size : (UInt8.ofNat r.advertisement.payload.length).toNat =
      r.advertisement.payload.length := by
    rw [UInt8.toNat_ofNat', Nat.mod_eq_of_lt (by omega)]
  rw [Advertisement.rawDevice, parseAdPayload_eq _ (by rw [size]), size, List.take_length]
  rfl

theorem leReports_eq {evt : List UInt8} {reports : List LeReport} {pos : Nat}
    (fits : ∀ r ∈ reports, r.advertisement.payload.length ≤ 255)
    (here : evt.drop pos = reports.flatMap LeReport.bytes) :
    leReports evt evt.length reports.length pos =
      reports.map fun r => r.advertisement.rawDevice := by
  have raw : evt.drop pos = (reports.map LeReport.raw).flatMap RawReport.bytes ++ [] := by
    rw [here, List.append_nil, List.flatMap_map]
    rfl
  have each : ∀ r ∈ reports.map LeReport.raw, r.Fits := by
    intro r mem
    obtain ⟨q, here, rfl⟩ := List.mem_map.mp mem
    exact fits q here
  have loop := leReports_eq_map (n := reports.length) each raw (by simp) (by simp)
  rw [loop, List.map_map]
  exact List.map_congr_left fun r mem => LeReport.device_raw (fits r mem)

/-- **Every report of an event is delivered as its own device**, in order. -/
theorem handleLeMetaEvent_encode {reports : List LeReport} (count : reports.length ≤ 255)
    (fits : ∀ r ∈ reports, r.advertisement.payload.length ≤ 255) :
    handleLeMetaEvent (leEvent reports) = reports.map fun r => r.advertisement.rawDevice := by
  have n : (UInt8.ofNat reports.length).toNat = reports.length := by
    rw [UInt8.toNat_ofNat', Nat.mod_eq_of_lt (by omega)]
  have loop := @leReports_eq (leEvent reports) reports 2 fits rfl
  rw [handleLeMetaEvent, if_neg (by simp [leEvent]), if_neg (by simp [leEvent]),
    if_neg (by simp [leEvent]), ← loop]
  simp [leEvent, n]

/-! ## The D-Bus backend -/

theorem foldl_names (names : List (List UInt8)) (acc : Bool × ESPBTDevice) :
    (names.map .name).foldl device1Prop acc =
      (acc.1, { acc.2 with name := names.getLast?.getD acc.2.name }) := by
  induction names generalizing acc with
  | nil => rfl
  | cons name names ih =>
      rw [List.map_cons, List.foldl_cons, ih, List.getLast?_cons]
      simp [device1Prop, ESPBTDevice.setName]

theorem foldl_txPowers (levels : List Int8) (acc : Bool × ESPBTDevice) :
    (levels.map fun level => .txPower level.toInt16).foldl device1Prop acc =
      (acc.1, { acc.2 with txPowers := acc.2.txPowers ++ levels }) := by
  induction levels generalizing acc with
  | nil => simp
  | cons level levels ih =>
      rw [List.map_cons, List.foldl_cons, ih]
      simp [device1Prop, ESPBTDevice.addTxPower]

theorem foldl_appearances (values : List UInt16) (acc : Bool × ESPBTDevice) :
    ∃ appearance, (values.map .appearance).foldl device1Prop acc =
      (acc.1, { acc.2 with appearance := appearance }) := by
  induction values generalizing acc with
  | nil => exact ⟨acc.2.appearance, rfl⟩
  | cons value values ih =>
      obtain ⟨appearance, rest⟩ := ih (device1Prop acc (.appearance value))
      refine ⟨appearance, ?_⟩
      rw [List.map_cons, List.foldl_cons, rest]
      rfl

theorem foldl_others (keys : List (List Char)) (acc : Bool × ESPBTDevice) :
    (keys.map .other).foldl device1Prop acc = acc := by
  induction keys with
  | nil => rfl
  | cons key keys ih => exact ih

/-- **BlueZ's dictionary of an advertisement is parsed as the advertisement**, every UUID at its
128-bit length. -/
theorem parseDevice1Props_reported {adv : Advertisement} {props : List Device1Prop}
    (reported : adv.Reported props) :
    ∃ appearance, parseDevice1Props props {} = (true,
      { address := adv.address
        rssi := adv.rssi.toInt
        name := adv.names.getLast?.getD []
        txPowers := adv.txPowers
        appearance := appearance
        serviceUuids := adv.serviceUuids.map ESPBTUUID.as128bit
        manufacturerDatas := adv.manufacturerDatas.map fun e => manufacturerEntry e.1 e.2
        serviceDatas := adv.serviceDatas.map fun sd => ⟨sd.uuid.as128bit, sd.data⟩ }) := by
  obtain ⟨keys, others, perm⟩ := reported
  rw [parseDevice1Props_perm perm keys, parseDevice1Props, List.foldl_append, foldl_others,
    Advertisement.properties, List.foldl_append, List.foldl_append, List.foldl_append]
  have head : [.address adv.addressStr, .rssi adv.rssi.toInt16,
      .uuids (adv.serviceUuids.map ESPBTUUID.toStr), .manufacturerData adv.manufacturerDatas,
      .serviceData (adv.serviceDatas.map fun sd => (sd.uuid.toStr, sd.data))].foldl device1Prop
        (false, ({} : ESPBTDevice)) =
      (true, { address := adv.address, rssi := adv.rssi.toInt
               serviceUuids := adv.serviceUuids.map ESPBTUUID.as128bit
               manufacturerDatas := adv.manufacturerDatas.map fun e => manufacturerEntry e.1 e.2
               serviceDatas := adv.serviceDatas.map fun sd => ⟨sd.uuid.as128bit, sd.data⟩ }) := by
    simp only [List.foldl_cons, List.foldl_nil, device1Prop_serviceData,
      device1Prop_manufacturerData, device1Prop_uuids, device1Prop_address]
    simp [Advertisement.addressStr, parseBdaddr_addressStr, device1Prop, ESPBTDevice.setRssi,
      ESPBTDevice.setAddress, ESPBTUUID.fromUuidStr_toStr, Function.comp_def]
  rw [head, foldl_names, foldl_txPowers]
  obtain ⟨appearance, last⟩ := foldl_appearances adv.appearances _
  exact ⟨appearance, last⟩

/-! ## Agreement -/

/-- What a listener configured with `u` can tell apart. -/
structure Agree (u : ESPBTUUID) (raw dbus : ESPBTDevice) : Prop where
  address : raw.address = dbus.address
  rssi : raw.rssi = dbus.rssi
  name : raw.name = dbus.name
  txPowers : raw.txPowers = dbus.txPowers
  manufacturerDatas : raw.manufacturerDatas = dbus.manufacturerDatas
  serviceUuids : raw.serviceUuids.map (· == u) = dbus.serviceUuids.map (· == u)
  serviceDatas : raw.serviceDatas.map (fun sd => (sd.uuid == u, sd.data)) =
    dbus.serviceDatas.map fun sd => (sd.uuid == u, sd.data)

/-- A stored UUID and its expansion compare alike with `u` exactly when the UUID is already
expanded or neither of them equals `u`. -/
theorem beq_expansion_iff (e u : ESPBTUUID) :
    (e == u) = (e.as128bit == u) ↔
      (e.len ≠ 16 → (e == u) = false ∧ (e.as128bit == u) = false) := by
  by_cases full : e.len = 16
  · rw [ESPBTUUID.as128bit_of_len full]
    exact iff_of_true rfl fun short => absurd full short
  · constructor
    · intro same _
      by_cases length : u.len = 16
      · have unequal : (e == u) = false := ESPBTUUID.beq_of_len_ne fun h => full (h.trans length)
        exact ⟨unequal, same ▸ unequal⟩
      · have unequal : (e.as128bit == u) = false :=
          ESPBTUUID.beq_of_len_ne fun h => length (h.symm.trans e.as128bit_len)
        exact ⟨same.trans unequal, unequal⟩
    · intro neither
      obtain ⟨left, right⟩ := neither full
      rw [left, right]

/-- **The backends agree exactly when no short UUID is involved**: no 16- or 32-bit UUID of the
advertisement equals the configured one or expands to it. -/
theorem backends_agree_iff {r : LeReport} {props : List Device1Prop}
    (wellFormed : r.advertisement.WellFormed) (reported : r.advertisement.Reported props)
    (u : ESPBTUUID) :
    handleLeMetaEvent (leEvent [r]) = [r.advertisement.rawDevice] ∧
      (Agree u r.advertisement.rawDevice (parseDevice1Props props {}).2 ↔
        ∀ e ∈ r.advertisement.uuids,
          e.len ≠ 16 → (e == u) = false ∧ (e.as128bit == u) = false) := by
  obtain ⟨eventType, addressType, adv⟩ := r
  have fits : adv.payload.length ≤ 255 := wellFormed.fits
  refine ⟨handleLeMetaEvent_encode (by simp) (by simpa using fits), ?_⟩
  have raw := rawDevice_accumulates fits
  obtain ⟨appearance, dbus⟩ := parseDevice1Props_reported reported
  simp only [dbus]
  have listed : adv.rawDevice.serviceUuids = adv.serviceUuids := raw.serviceUuids
  have service : adv.rawDevice.serviceDatas = adv.serviceDatas := raw.serviceDatas
  have uuids : adv.serviceUuids.map (· == u) =
      (adv.serviceUuids.map ESPBTUUID.as128bit).map (· == u) ↔
        ∀ e ∈ adv.serviceUuids, (e == u) = (e.as128bit == u) := by
    rw [List.map_map]
    exact List.map_inj_left
  have datas : adv.serviceDatas.map (fun sd => (sd.uuid == u, sd.data)) =
      (adv.serviceDatas.map fun sd => (⟨sd.uuid.as128bit, sd.data⟩ : ServiceData)).map
        (fun sd => (sd.uuid == u, sd.data)) ↔
      ∀ sd ∈ adv.serviceDatas, (sd.uuid == u) = (sd.uuid.as128bit == u) := by
    rw [List.map_map, List.map_inj_left]
    simp
  have entries : (∀ e ∈ adv.uuids, (e == u) = (e.as128bit == u)) ↔
      (∀ e ∈ adv.serviceUuids, (e == u) = (e.as128bit == u)) ∧
        ∀ sd ∈ adv.serviceDatas, (sd.uuid == u) = (sd.uuid.as128bit == u) := by
    simp only [Advertisement.uuids, List.mem_append, or_imp, forall_and, List.forall_mem_map]
  rw [← forall₂_congr fun e _ => beq_expansion_iff e u, entries, ← uuids, ← datas]
  constructor
  · intro agree
    have left := agree.serviceUuids
    have right := agree.serviceDatas
    rw [listed] at left
    rw [service] at right
    exact ⟨left, right⟩
  · rintro ⟨left, right⟩
    have address : (ESPBTDevice.setAddress {} adv.address.toList).address = adv.address := by
      ext i hi
      simp [ESPBTDevice.setAddress, List.getD]
    exact
      { address := raw.address.trans address
        rssi := raw.rssi
        name := raw.name
        txPowers := raw.txPowers
        manufacturerDatas := raw.manufacturerDatas
        serviceUuids := by rw [listed]; exact left
        serviceDatas := by rw [service]; exact right }

/-- A heart-rate strap: one 16-bit service UUID and a name. -/
def strap : LeReport :=
  { eventType := 0, addressType := 0
    advertisement :=
      { address := #v[1, 0, 0, 0xEE, 0xFF, 0xC0], rssi := -60
        structures := [.flags 6, .uuids16 true [0x180D], .localName true [0x68, 0x72, 0x6D]] } }

theorem strap_wellFormed : strap.advertisement.WellFormed :=
  ⟨by decide, by decide, by decide, by decide, by decide, by decide, by decide, by decide⟩

theorem strap_reported : strap.advertisement.Reported strap.advertisement.properties :=
  ⟨by decide, [], by simp⟩

theorem backends_agree_strap :
    Agree (ESPBTUUID.fromUint16 0x180F) strap.advertisement.rawDevice
      (parseDevice1Props strap.advertisement.properties {}).2 :=
  (backends_agree_iff strap_wellFormed strap_reported (.fromUint16 0x180F)).2.mpr (by decide)

/-- A listener configured with the 16-bit UUID the strap lists finds it in the raw form only. -/
theorem not_backends_agree_strap :
    strap.advertisement.WellFormed ∧
      strap.advertisement.Reported strap.advertisement.properties ∧
        handleLeMetaEvent (leEvent [strap]) = [strap.advertisement.rawDevice] ∧
          ¬ Agree (ESPBTUUID.fromUint16 0x180D) strap.advertisement.rawDevice
            (parseDevice1Props strap.advertisement.properties {}).2 := by
  refine ⟨strap_wellFormed, strap_reported, by decide, fun agree => ?_⟩
  exact absurd agree.serviceUuids (by decide)

end EsphomeHost

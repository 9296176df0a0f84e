import EsphomeHost.Tracker.AdPayload
import EsphomeHost.Tracker.Device1

/-!
# Re-serialized advertisements

BlueZ delivers parsed advertisements; `BluetoothProxy::parse_device` packs the parsed fields back
into advertising structures.  This module is about the bytes it forwards.

* `adBytes_eq_encode`: what fits 62 bytes is forwarded whole, as the frames `adFrames`.
* `roundTrip_iff`: parsing the forwarded bytes gives the manufacturer data, the service data and
  the name back exactly when no 128-bit service-data UUID is narrowed to a value it does not
  expand.  `get_16bit` ignores the stored length, so it reads the Base UUID's own low bytes.
-/

namespace EsphomeHost

open LittleEndian

namespace BluetoothProxy

/-! ## The bytes `parse_device` forwards -/

/-- `append_ad`: a structure that does not fit the 62-byte buffer is dropped. -/
def appendAd (buf : List UInt8) (type : UInt8) (data : List UInt8) : List UInt8 :=
  if buf.length + 2 + data.length > 62 then buf
  else buf ++ UInt8.ofNat (data.length + 1) :: type :: data

/-- `sbuf`: the 16-bit UUID, then as much payload as the 31 bytes hold. -/
def serviceDataAd (sd : ServiceData) : List UInt8 :=
  [(sd.uuid.get16bit &&& 0xff).toUInt8, ((sd.uuid.get16bit >>> 8) &&& 0xff).toUInt8] ++
    sd.data.take 29

/-- The buffer `parse_device` fills from the parsed fields. -/
def adBytes (device : ESPBTDevice) : List UInt8 :=
  let buf := match device.adFlag with
    | some f => appendAd [] 0x01 [f]
    | none => []
  let buf := device.manufacturerDatas.foldl (fun buf md => appendAd buf 0xff (md.data.take 30)) buf
  let buf := device.serviceDatas.foldl (fun buf sd => appendAd buf 0x16 (serviceDataAd sd)) buf
  if device.name ≠ [] then appendAd buf 0x09 (device.name.take 28) else buf

/-- `BluetoothLERawAdvertisement`. -/
structure BluetoothLERawAdvertisement where
  address : UInt64
  rssi : Int
  addressType : UInt32
  data : List UInt8
deriving DecidableEq

/-- The advertisement `parse_device` queues for the API client. -/
def rawAdvertisement (device : ESPBTDevice) : BluetoothLERawAdvertisement :=
  { address := device.addressUint64, rssi := device.rssi, addressType := 0,
    data := adBytes device }

/-! ## The structures of the buffer -/

def flagFrames (device : ESPBTDevice) : List Ltv.Frame :=
  device.adFlag.toList.map fun f => ⟨0x01, [f]⟩

def manufacturerFrame (md : ServiceData) : Ltv.Frame := ⟨0xff, md.data.take 30⟩

def serviceFrame (sd : ServiceData) : Ltv.Frame := ⟨0x16, serviceDataAd sd⟩

def nameFrames (device : ESPBTDevice) : List Ltv.Frame :=
  if device.name ≠ [] then [⟨0x09, device.name.take 28⟩] else []

/-- The structures `parse_device` appends, before the 62-byte limit. -/
def adFrames (device : ESPBTDevice) : List Ltv.Frame :=
  flagFrames device ++ (device.manufacturerDatas.map manufacturerFrame ++
    (device.serviceDatas.map serviceFrame ++ nameFrames device))

/-- The fields fit what `parse_device` copies of each and the buffer as a whole. -/
structure FitsCaps (device : ESPBTDevice) : Prop where
  manufacturer : ∀ md ∈ device.manufacturerDatas, md.data.length ≤ 30
  payload : ∀ sd ∈ device.serviceDatas, sd.data.length ≤ 29
  name : device.name.length ≤ 28
  total : (Ltv.encode (adFrames device)).length ≤ 62

theorem appendAd_eq {buf : List UInt8} {f : Ltv.Frame}
    (room : buf.length + f.encode.length ≤ 62) :
    appendAd buf f.type f.data = buf ++ f.encode := by
  rw [Ltv.Frame.length_encode] at room
  rw [appendAd, if_neg (by omega)]
  rfl

/-- Appending one structure for each item appends them all while there is room. -/
theorem foldl_appendAd {α : Type} (frame : α → Ltv.Frame) (items : List α) {buf : List UInt8}
    (room : buf.length + (Ltv.encode (items.map frame)).length ≤ 62) :
    items.foldl (fun buf a => appendAd buf (frame a).type (frame a).data) buf =
      buf ++ Ltv.encode (items.map frame) := by
  induction items generalizing buf with
  | nil => simp
  | cons a items ih =>
      simp only [List.map_cons, Ltv.encode_cons, List.length_append] at room
      rw [List.foldl_cons, appendAd_eq (by omega), ih (by simp only [List.length_append]; omega)]
      simp

/-- **Fields whose structures total at most 62 bytes are forwarded whole.** -/
theorem adBytes_eq_encode {device : ESPBTDevice}
    (total : (Ltv.encode (adFrames device)).length ≤ 62) :
    adBytes device = Ltv.encode (adFrames device) := by
  simp only [adFrames, Ltv.encode_append, List.length_append] at total
  have flag : (match device.adFlag with | some f => appendAd [] 0x01 [f] | none => []) =
      Ltv.encode (flagFrames device) := by
    unfold flagFrames
    cases device.adFlag <;> rfl
  have manufacturer : device.manufacturerDatas.foldl
      (fun buf md => appendAd buf 0xff (md.data.take 30)) (Ltv.encode (flagFrames device)) =
        Ltv.encode (flagFrames device) ++
          Ltv.encode (device.manufacturerDatas.map manufacturerFrame) :=
    foldl_appendAd manufacturerFrame _ (by omega)
  have service : device.serviceDatas.foldl (fun buf sd => appendAd buf 0x16 (serviceDataAd sd))
      (Ltv.encode (flagFrames device) ++
        Ltv.encode (device.manufacturerDatas.map manufacturerFrame)) =
      Ltv.encode (flagFrames device) ++
        Ltv.encode (device.manufacturerDatas.map manufacturerFrame) ++
          Ltv.encode (device.serviceDatas.map serviceFrame) :=
    foldl_appendAd serviceFrame _ (by simp only [List.length_append]; omega)
  simp only [adBytes, flag, manufacturer, service, adFrames, Ltv.encode_append]
  unfold nameFrames at total ⊢
  split
  · rename_i named
    rw [if_pos named] at total
    simp only [Ltv.encode_cons, Ltv.encode_nil, List.append_nil] at total ⊢
    have name := @appendAd_eq (Ltv.encode (flagFrames device) ++
      Ltv.encode (device.manufacturerDatas.map manufacturerFrame) ++
        Ltv.encode (device.serviceDatas.map serviceFrame)) ⟨0x09, device.name.take 28⟩
      (by simp only [List.length_append]; omega)
    rw [name]
    simp only [List.append_assoc]
  · simp only [Ltv.encode_nil, List.append_nil, List.append_assoc]

/-! ## What the tracker delivers -/

/-- Service data is keyed by canonical UUID strings, as BlueZ sends it. -/
def CanonicalKeys (props : List Device1Prop) : Prop :=
  ∀ entries, .serviceData entries ∈ props → ∀ e ∈ entries, ∃ u : ESPBTUUID, e.1 = u.toStr

/-- The devices the two scanner backends hand to their listeners. -/
inductive Delivered : ESPBTDevice → Prop
  /-- `on_interfaces_added_`: a new device whose dictionary has an address. -/
  | interfacesAdded (props : List Device1Prop) (canonical : CanonicalKeys props)
      (found : (parseDevice1Props props {}).1 = true) :
      Delivered (parseDevice1Props props {}).2
  /-- `on_properties_changed_`: the address is the one in the object path. -/
  | propertiesChanged (props : List Device1Prop) (canonical : CanonicalKeys props)
      (bd : List UInt8) : Delivered (parseDevice1Props props (ESPBTDevice.setAddress {} bd)).2
  /-- `handle_le_meta_event_`: one report. -/
  | raw (payload : List UInt8) (len : UInt8) (addr : List UInt8) (rssi : Int8) :
      Delivered (parseAdPayload payload len ((ESPBTDevice.setAddress {} addr).setRssi rssi))

/-- The company id is both the UUID of a manufacturer entry and the front of its data. -/
def ManufacturerFormed (device : ESPBTDevice) : Prop :=
  ∀ md ∈ device.manufacturerDatas, 2 ≤ md.data.length ∧ md.uuid = .fromUint16 (word16 md.data)

theorem ManufacturerFormed.add {device : ESPBTDevice} {md : ServiceData}
    (formed : ManufacturerFormed device) (long : 2 ≤ md.data.length)
    (uuid : md.uuid = .fromUint16 (word16 md.data)) :
    ManufacturerFormed (device.addManufacturerData md) := by
  intro md' mem
  rcases List.mem_append.mp mem with old | new
  · exact formed md' old
  · rw [List.mem_singleton.mp new]
    exact ⟨long, uuid⟩

theorem ManufacturerFormed.of_eq {device device' : ESPBTDevice}
    (formed : ManufacturerFormed device)
    (same : device'.manufacturerDatas = device.manufacturerDatas) :
    ManufacturerFormed device' := by
  unfold ManufacturerFormed
  rw [same]
  exact formed

theorem manufacturerFormed_parseAdStructure {device : ESPBTDevice}
    (formed : ManufacturerFormed device) (type : UInt8) (data : List UInt8) :
    ManufacturerFormed (parseAdStructure type data device) := by
  unfold parseAdStructure
  split
  case h_15 =>
    split
    · rename_i long
      exact formed.add long rfl
    · exact formed
  case h_2 | h_3 | h_4 | h_5 | h_6 | h_7 =>
    rw [ESPBTDevice.addServiceUuids_eq]
    exact formed.of_eq rfl
  all_goals
    first
    | exact formed.of_eq rfl
    | split
      · exact formed.of_eq rfl
      · exact formed

theorem manufacturerFormed_adLoop {device : ESPBTDevice} (formed : ManufacturerFormed device)
    (payload : List UInt8) (len fuel pos : Nat) :
    ManufacturerFormed (adLoop payload len fuel pos device) := by
  induction fuel generalizing pos device with
  | zero => exact formed
  | succ fuel ih =>
      rw [adLoop]
      split
      · dsimp only
        split
        · exact formed
        · exact ih (manufacturerFormed_parseAdStructure formed _ _) _
      · exact formed

theorem manufacturerFormed_entry (company : UInt16) (payload : List UInt8) :
    2 ≤ (manufacturerEntry company payload).data.length ∧
      (manufacturerEntry company payload).uuid =
        .fromUint16 (word16 (manufacturerEntry company payload).data) := by
  refine ⟨by simp [manufacturerEntry], ?_⟩
  simp [manufacturerEntry, word16]

theorem manufacturerFormed_device1Prop {acc : Bool × ESPBTDevice}
    (formed : ManufacturerFormed acc.2) (prop : Device1Prop) :
    ManufacturerFormed (device1Prop acc prop).2 := by
  obtain ⟨found, device⟩ := acc
  cases prop with
  | address value =>
      simp only [device1Prop]
      split
      · exact formed.of_eq rfl
      · exact formed
  | manufacturerData entries =>
      simp only [device1Prop]
      induction entries generalizing device with
      | nil => exact formed
      | cons e entries ih =>
          obtain ⟨long, uuid⟩ := manufacturerFormed_entry e.1 e.2
          exact ih _ (formed.add long uuid)
  | serviceData entries =>
      simp only [device1Prop]
      induction entries generalizing device with
      | nil => exact formed
      | cons e entries ih => exact ih _ (formed.of_eq rfl)
  | uuids value =>
      simp only [device1Prop, ESPBTDevice.addServiceUuids_eq]
      exact formed.of_eq rfl
  | name | rssi | txPower | appearance | other => exact formed.of_eq rfl

theorem manufacturerFormed_parseDevice1Props {start : ESPBTDevice}
    (formed : ManufacturerFormed start) (props : List Device1Prop) :
    ManufacturerFormed (parseDevice1Props props start).2 := by
  have loop : ∀ (props : List Device1Prop) (acc : Bool × ESPBTDevice),
      ManufacturerFormed acc.2 → ManufacturerFormed (props.foldl device1Prop acc).2 := by
    intro props
    induction props with
    | nil => exact fun _ formed => formed
    | cons p props ih => exact fun _ formed => ih _ (manufacturerFormed_device1Prop formed p)
  exact loop props (false, start) formed

theorem manufacturerFormed_of_none {device : ESPBTDevice}
    (none : device.manufacturerDatas = []) : ManufacturerFormed device := by
  intro md mem
  rw [none] at mem
  cases mem

/-- Every manufacturer entry of a delivered device is formed. -/
theorem Delivered.manufacturerFormed {device : ESPBTDevice} (delivered : Delivered device) :
    ManufacturerFormed device := by
  cases delivered with
  | interfacesAdded props =>
      exact manufacturerFormed_parseDevice1Props (manufacturerFormed_of_none rfl) props
  | propertiesChanged props =>
      exact manufacturerFormed_parseDevice1Props (manufacturerFormed_of_none rfl) props
  | raw => exact manufacturerFormed_adLoop (manufacturerFormed_of_none rfl) _ _ _ _

/-! ## The round trip -/

theorem adFrame_manufacturerFrame {md : ServiceData} (start : ESPBTDevice)
    (short : md.data.length ≤ 30) (long : 2 ≤ md.data.length)
    (uuid : md.uuid = .fromUint16 (word16 md.data)) :
    adFrame start (manufacturerFrame md) = start.addManufacturerData md := by
  have whole : md.data.take 30 = md.data := List.take_of_length_le short
  show (if (md.data.take 30).length ≥ 2 then
    start.addManufacturerData ⟨.fromUint16 (word16 (md.data.take 30)), md.data.take 30⟩
    else start) = _
  rw [whole, if_pos long, ← uuid]

theorem foldl_manufacturerFrame {mds : List ServiceData} (start : ESPBTDevice)
    (short : ∀ md ∈ mds, md.data.length ≤ 30)
    (formed : ∀ md ∈ mds, 2 ≤ md.data.length ∧ md.uuid = .fromUint16 (word16 md.data)) :
    (mds.map manufacturerFrame).foldl adFrame start =
      { start with manufacturerDatas := start.manufacturerDatas ++ mds } := by
  induction mds generalizing start with
  | nil => simp
  | cons md mds ih =>
      obtain ⟨long, uuid⟩ := formed md (by simp)
      rw [List.map_cons, List.foldl_cons,
        adFrame_manufacturerFrame start (short md (by simp)) long uuid,
        ih _ (fun m mem => short m (List.mem_cons_of_mem _ mem))
          (fun m mem => formed m (List.mem_cons_of_mem _ mem))]
      simp [ESPBTDevice.addManufacturerData]

/-- What `parse_device` makes of a UUID: the 16 low bits, as a 16-bit UUID. -/
def narrowed (sd : ServiceData) : ServiceData := ⟨.fromUint16 sd.uuid.get16bit, sd.data⟩

theorem adFrame_serviceFrame {sd : ServiceData} (start : ESPBTDevice)
    (short : sd.data.length ≤ 29) :
    adFrame start (serviceFrame sd) = start.addServiceData (narrowed sd) := by
  have whole : sd.data.take 29 = sd.data := List.take_of_length_le short
  have word : word16 (serviceDataAd sd) = sd.uuid.get16bit := by
    have join := le16_bytes sd.uuid.get16bit
    simpa [serviceDataAd, word16, byte16] using join
  show (if (serviceDataAd sd).length ≥ 2 then start.addServiceData
    ⟨.fromUint16 (word16 (serviceDataAd sd)), (serviceDataAd sd).drop 2⟩ else start) = _
  rw [word, if_pos (by simp [serviceDataAd])]
  simp [serviceDataAd, whole, narrowed]

theorem foldl_serviceFrame {sds : List ServiceData} (start : ESPBTDevice)
    (short : ∀ sd ∈ sds, sd.data.length ≤ 29) :
    (sds.map serviceFrame).foldl adFrame start =
      { start with serviceDatas := start.serviceDatas ++ sds.map narrowed } := by
  induction sds generalizing start with
  | nil => simp
  | cons sd sds ih =>
      rw [List.map_cons, List.foldl_cons, adFrame_serviceFrame start (short sd (by simp)),
        ih _ fun s mem => short s (List.mem_cons_of_mem _ mem)]
      simp [ESPBTDevice.addServiceData]

theorem foldl_nameFrames {device start : ESPBTDevice} (short : device.name.length ≤ 28)
    (unnamed : start.name = []) :
    (nameFrames device).foldl adFrame start = { start with name := device.name } := by
  unfold nameFrames
  split
  · rw [List.take_of_length_le short]
    rfl
  · rename_i empty
    rw [not_not.mp empty, ← unnamed]
    rfl

/-- What the structures `parse_device` appends decode to. -/
theorem foldl_adFrames {device : ESPBTDevice} (formed : ManufacturerFormed device)
    (caps : FitsCaps device) :
    (adFrames device).foldl adFrame {} =
      { adFlag := device.adFlag
        manufacturerDatas := device.manufacturerDatas
        serviceDatas := device.serviceDatas.map narrowed
        name := device.name } := by
  have flag : (flagFrames device).foldl adFrame {} = { adFlag := device.adFlag } := by
    unfold flagFrames
    cases device.adFlag <;> rfl
  rw [adFrames, List.foldl_append, List.foldl_append, List.foldl_append, flag,
    foldl_manufacturerFrame _ caps.manufacturer formed, foldl_serviceFrame _ caps.payload,
    foldl_nameFrames caps.name rfl]
  simp

/-- Parse the forwarded bytes. -/
def reparsed (device : ESPBTDevice) : ESPBTDevice :=
  parseAdPayload (adBytes device) (UInt8.ofNat (adBytes device).length) {}

theorem reparsed_eq {device : ESPBTDevice} (formed : ManufacturerFormed device)
    (caps : FitsCaps device) :
    reparsed device =
      { adFlag := device.adFlag
        manufacturerDatas := device.manufacturerDatas
        serviceDatas := device.serviceDatas.map narrowed
        name := device.name } := by
  have total := caps.total
  have whole := adBytes_eq_encode total
  have length : (Ltv.encode (adFrames device)).length =
      (UInt8.ofNat (adBytes device).length).toNat := by
    rw [whole, UInt8.toNat_ofNat', Nat.mod_eq_of_lt (by omega)]
  have fits : ∀ f ∈ adFrames device, f.Fits := Ltv.fits_of_length (by omega)
  have parsed := parseAdPayload_encode {} fits length []
  rw [List.append_nil, ← whole] at parsed
  rw [reparsed, parsed, foldl_adFrames formed caps]

/-- The UUID of an entry is, or is the 128-bit expansion of, a 16-bit value. -/
def SixteenBit (sd : ServiceData) : Prop :=
  ∃ v : UInt16, sd.uuid.as128bit = (ESPBTUUID.fromUint16 v).as128bit

/-- An entry up to the length its UUID is stored with. -/
def expanded (sd : ServiceData) : ESPBTUUID × List UInt8 := (sd.uuid.as128bit, sd.data)

/-- Manufacturer data, service data and name survive. -/
def RoundTrip (device : ESPBTDevice) : Prop :=
  (reparsed device).manufacturerDatas = device.manufacturerDatas ∧
    (reparsed device).serviceDatas.map expanded = device.serviceDatas.map expanded ∧
      (reparsed device).name = device.name

instance (device : ESPBTDevice) : Decidable (RoundTrip device) :=
  inferInstanceAs (Decidable (_ ∧ _ ∧ _))

theorem as128bit_fromUint16_inj {v w : UInt16} :
    (ESPBTUUID.fromUint16 v).as128bit = (ESPBTUUID.fromUint16 w).as128bit ↔ v = w := by
  rw [ESPBTUUID.as128bit_fromUint16, ESPBTUUID.as128bit_fromUint16]
  constructor
  · intro same
    exact UInt16.toUInt32_inj.mp (ESPBTUUID.expand_inj same)
  · rintro rfl
    rfl

/-- A short UUID that expands like the 16-bit value `v` holds `v` in its low bytes. -/
theorem get16bit_of_short {u : ESPBTUUID} {v : UInt16} (short : u.len ≠ 16)
    (expansion : u.as128bit = (ESPBTUUID.fromUint16 v).as128bit) : u.get16bit = v := by
  rw [ESPBTUUID.as128bit_fromUint16, ESPBTUUID.as128bit, if_neg short] at expansion
  have value := ESPBTUUID.expand_inj expansion
  split at value
  · exact UInt16.toUInt32_inj.mp value
  · have low : u.raw[0] = byte16 v 0 := by
      rw [← byte32_toUInt32_zero, ← value, ESPBTUUID.get32bit, byte32_zero_le32]
    have high : u.raw[1] = byte16 v 1 := by
      rw [← byte32_toUInt32_one, ← value, ESPBTUUID.get32bit, byte32_one_le32]
    rw [ESPBTUUID.get16bit, low, high, le16_bytes]

/-- Narrowing loses nothing but the expansions: their low bytes are the Base UUID's. -/
theorem expanded_narrowed_iff {sd : ServiceData} (sixteen : SixteenBit sd) :
    expanded (narrowed sd) = expanded sd ↔
      (sd.uuid.len = 16 → sd.uuid = (ESPBTUUID.fromUint16 0x34FB).as128bit) := by
  obtain ⟨v, expansion⟩ := sixteen
  have narrow : expanded (narrowed sd) = expanded sd ↔ sd.uuid.get16bit = v := by
    simp only [expanded, narrowed, Prod.mk.injEq, and_true, expansion, as128bit_fromUint16_inj]
  rw [narrow]
  by_cases full : sd.uuid.len = 16
  · rw [ESPBTUUID.as128bit_of_len full] at expansion
    have low : sd.uuid.get16bit = 0x34FB := by
      rw [expansion, ESPBTUUID.as128bit_fromUint16, ESPBTUUID.get16bit_expand]
    rw [low, expansion, as128bit_fromUint16_inj]
    exact ⟨fun h _ => h.symm, fun only => (only (ESPBTUUID.as128bit_len _)).symm⟩
  · exact iff_of_true (get16bit_of_short full expansion) fun h => absurd h full

/-- **The forwarded bytes of a delivered device decode to its fields exactly when** every 128-bit
service-data UUID is the expansion of `0x34FB`, the value the Base UUID's low bytes spell. -/
theorem roundTrip_iff {device : ESPBTDevice} (delivered : Delivered device)
    (sixteen : ∀ sd ∈ device.serviceDatas, SixteenBit sd) (caps : FitsCaps device) :
    RoundTrip device ↔ ∀ sd ∈ device.serviceDatas,
      sd.uuid.len = 16 → sd.uuid = (ESPBTUUID.fromUint16 0x34FB).as128bit := by
  have fields := reparsed_eq delivered.manufacturerFormed caps
  have service : (device.serviceDatas.map narrowed).map expanded =
      device.serviceDatas.map expanded ↔
        ∀ sd ∈ device.serviceDatas, expanded (narrowed sd) = expanded sd := by
    rw [List.map_map]
    exact List.map_inj_left
  unfold RoundTrip
  rw [fields]
  simp only [true_and, and_true]
  rw [service]
  exact forall₂_congr fun sd mem => expanded_narrowed_iff (sixteen sd mem)

/-- A battery-level advertisement as BlueZ reports it: the key is the canonical 128-bit string. -/
def batteryProps : List Device1Prop :=
  [.address "C0:FF:EE:00:00:01".toList, .name [0x74, 0x61, 0x67], .rssi (-60),
    .serviceData [((ESPBTUUID.fromUint16 0x180F).toStr, [0x64])]]

def batteryDevice : ESPBTDevice := (parseDevice1Props batteryProps {}).2

/-- The same advertisement as raw bytes. -/
def batteryRaw : ESPBTDevice :=
  parseAdPayload [4, 0x16, 0x0F, 0x18, 0x64, 4, 0x09, 0x74, 0x61, 0x67] 10
    ((ESPBTDevice.setAddress {} [1, 0, 0, 0xEE, 0xFF, 0xC0]).setRssi (-60))

theorem roundTrip_batteryRaw : RoundTrip batteryRaw := by
  have service : batteryRaw.serviceDatas = [⟨.fromUint16 0x180F, [0x64]⟩] := by decide
  have delivered : Delivered batteryRaw := .raw _ _ _ _
  refine (roundTrip_iff delivered ?_ ?_).mpr ?_
  · intro sd mem
    rw [service, List.mem_singleton] at mem
    exact ⟨0x180F, by rw [mem]⟩
  · exact ⟨by decide, by decide, by decide, by decide⟩
  · intro sd mem full
    rw [service, List.mem_singleton] at mem
    rw [mem] at full
    exact absurd full (by decide)

/-- The service data of the D-Bus form is forwarded under `0x34FB`. -/
theorem not_roundTrip_batteryDevice :
    Delivered batteryDevice ∧ (∀ sd ∈ batteryDevice.serviceDatas, SixteenBit sd) ∧
      FitsCaps batteryDevice ∧ ¬ RoundTrip batteryDevice := by
  have service : batteryDevice.serviceDatas =
      [⟨(ESPBTUUID.fromUint16 0x180F).as128bit, [0x64]⟩] := by decide
  refine ⟨.interfacesAdded _ ?_ (by decide), ?_,
    ⟨by decide, by decide, by decide, by decide⟩, by decide⟩
  · intro entries mem e he
    simp only [batteryProps, List.mem_cons, List.not_mem_nil, or_false, reduceCtorEq,
      Device1Prop.serviceData.injEq, false_or] at mem
    rw [mem, List.mem_singleton] at he
    exact ⟨.fromUint16 0x180F, by rw [he]⟩
  · intro sd mem
    rw [service, List.mem_singleton] at mem
    exact ⟨0x180F, by rw [mem, ESPBTUUID.as128bit_idem]⟩

end BluetoothProxy

end EsphomeHost

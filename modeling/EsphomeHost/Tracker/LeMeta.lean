import EsphomeHost.Tracker.Agreement

/-!
# Every byte that is read

`handle_le_meta_event_` again, with every access to the event made explicit: a read outside the
event's bytes is `none`.  The list loops and the loop over the payload are the source's own, by
index.

* `readLeMetaEvent_eq`: no read is outside, for any bytes, and what is delivered is
  `handleLeMetaEvent`.
* `readLeMetaEvent_decodes`: **encoded reports are delivered as what their structures mean, and of
  any other bytes the complete reports in front of the first truncated one**.
-/

namespace EsphomeHost

/-- `n` bytes from position `pos`. -/
def bytesAt (evt : List UInt8) (pos n : Nat) : Option (List UInt8) :=
  if pos + n ≤ evt.length then some ((evt.drop pos).take n) else none

/-- `for (i = 0; i + last < data_len; i += last + 1)` over the UUIDs of a list. -/
def readUuids (evt : List UInt8) (data dataLen last : Nat) (uuid : List UInt8 → ESPBTUUID)
    (i : Nat) (device : ESPBTDevice) : Option ESPBTDevice :=
  if i + last < dataLen then do
    let item ← bytesAt evt (data + i) (last + 1)
    readUuids evt data dataLen last uuid (i + (last + 1)) (device.addServiceUuid (uuid item))
  else some device
termination_by dataLen - i

/-- The `switch` of `parse_ad_payload`; the data of the structure starts at position `data`. -/
def readAdStructure (evt : List UInt8) (data dataLen : Nat) (type : UInt8) (device : ESPBTDevice) :
    Option ESPBTDevice :=
  match type with
  | 0x01 =>
      if dataLen > 0 then do
        let flags ← evt[data]?
        some (device.setAdFlag flags)
      else some device
  | 0x02 | 0x03 => readUuids evt data dataLen 1 (fun u => .fromUint16 (word16 u)) 0 device
  | 0x04 | 0x05 => readUuids evt data dataLen 3 (fun u => .fromUint32 (word32 u)) 0 device
  | 0x06 | 0x07 => readUuids evt data dataLen 15 .fromRaw 0 device
  | 0x08 | 0x09 => do
      let name ← bytesAt evt data dataLen
      some (device.setName name)
  | 0x0a =>
      if dataLen > 0 then do
        let level ← evt[data]?
        some (device.addTxPower level.toInt8)
      else some device
  | 0x19 =>
      if dataLen ≥ 2 then do
        let value ← bytesAt evt data 2
        some (device.setAppearance (word16 value))
      else some device
  | 0x16 =>
      if dataLen ≥ 2 then do
        let uuid ← bytesAt evt data 2
        let rest ← bytesAt evt (data + 2) (dataLen - 2)
        some (device.addServiceData ⟨.fromUint16 (word16 uuid), rest⟩)
      else some device
  | 0x20 =>
      if dataLen ≥ 4 then do
        let uuid ← bytesAt evt data 4
        let rest ← bytesAt evt (data + 4) (dataLen - 4)
        some (device.addServiceData ⟨.fromUint32 (word32 uuid), rest⟩)
      else some device
  | 0x21 =>
      if dataLen ≥ 16 then do
        let uuid ← bytesAt evt data 16
        let rest ← bytesAt evt (data + 16) (dataLen - 16)
        some (device.addServiceData ⟨.fromRaw uuid, rest⟩)
      else some device
  | 0xff =>
      if dataLen ≥ 2 then do
        let company ← bytesAt evt data 2
        let whole ← bytesAt evt data dataLen
        some (device.addManufacturerData ⟨.fromUint16 (word16 company), whole⟩)
      else some device
  | _ => some device

/-- The loop of `parse_ad_payload` over the `len` bytes at position `payload`. -/
def readAdPayload (evt : List UInt8) (payload len : Nat) (pos : Nat) (device : ESPBTDevice) :
    Option ESPBTDevice :=
  if pos + 1 < len then do
    let fieldLen ← evt[payload + pos]?
    if fieldLen = 0 ∨ pos + 1 + fieldLen.toNat > len then some device
    else
      let type ← evt[payload + pos + 1]?
      let device ← readAdStructure evt (payload + pos + 2) (fieldLen.toNat - 1) type device
      readAdPayload evt payload len (pos + 1 + fieldLen.toNat) device
  else some device
termination_by len - pos

/-- The loop over the reports, with the number of reports left. -/
def readLeReports (evt : List UInt8) : Nat → Nat → Option (List ESPBTDevice)
  | 0, _ => some []
  | reports + 1, pos =>
      if pos + 9 > evt.length then some []
      else do
        let _eventType ← evt[pos]?
        let _addressType ← evt[pos + 1]?
        let addr ← bytesAt evt (pos + 2) 6
        let dataLen ← evt[pos + 8]?
        if pos + 9 + dataLen.toNat + 1 > evt.length then some []
        else
          let rssi ← evt[pos + 9 + dataLen.toNat]?
          let device := (ESPBTDevice.setAddress {} addr).setRssi rssi.toInt8
          let device ← readAdPayload evt (pos + 9) dataLen.toNat 0 device
          let rest ← readLeReports evt reports (pos + 9 + dataLen.toNat + 1)
          some (device :: rest)

/-- `handle_le_meta_event_` on the bytes of the event. -/
def readLeMetaEvent (evt : List UInt8) : Option (List ESPBTDevice) :=
  if evt.length < 1 then some []
  else do
    let sub ← evt[0]?
    if sub ≠ 0x02 then some []
    else if evt.length < 2 then some []
    else
      let reports ← evt[1]?
      readLeReports evt reports.toNat 2

/-- One turn of the loop of `scanner_thread_main_` on the `n` bytes that `read` returned. -/
def readHciPacket (buf : List UInt8) : Option (List ESPBTDevice) :=
  if buf.length < 3 then some []
  else do
    let type ← buf[0]?
    if type ≠ 0x04 then some []
    else
      let code ← buf[1]?
      let plen ← buf[2]?
      if buf.length < 3 + plen.toNat then some []
      else if code = 0x3e then do
        let evt ← bytesAt buf 3 plen.toNat
        readLeMetaEvent evt
      else some []

/-! ## No read is outside -/

section Reads

variable {evt : List UInt8}

theorem bytesAt_of_le {pos n : Nat} (inside : pos + n ≤ evt.length) :
    bytesAt evt pos n = some ((evt.drop pos).take n) := if_pos inside

theorem getElem?_of_lt {i : Nat} (inside : i < evt.length) : evt[i]? = some (evt.getD i 0) := by
  rw [List.getD_eq_getElem _ _ inside, List.getElem?_eq_getElem inside]

/-- The bytes of a structure, cut out of the event. -/
theorem take_bytes (data dataLen : Nat) {i n : Nat} (inside : i + n ≤ dataLen) :
    (evt.drop (data + i)).take n = (((evt.drop data).take dataLen).drop i).take n := by
  rw [List.drop_take, List.take_take, List.drop_drop, Nat.min_eq_left (by omega)]

theorem length_bytes {data dataLen : Nat} (inside : data + dataLen ≤ evt.length) :
    ((evt.drop data).take dataLen).length = dataLen := by
  rw [List.length_take, List.length_drop]
  omega

theorem readUuids_eq {data dataLen : Nat} (last : Nat) (uuid : List UInt8 → ESPBTUUID)
    (inside : data + dataLen ≤ evt.length) {fuel i : Nat} (enough : dataLen ≤ i + fuel)
    (device : ESPBTDevice) :
    readUuids evt data dataLen last uuid i device =
      some (device.addServiceUuids ((Ltv.chunksUpTo (last + 1) fuel
        (((evt.drop data).take dataLen).drop i)).map uuid)) := by
  induction fuel generalizing i device with
  | zero =>
      rw [readUuids, if_neg (by omega)]
      rfl
  | succ fuel ih =>
      rw [readUuids, Ltv.chunksUpTo, List.length_drop, length_bytes inside]
      by_cases more : i + last < dataLen
      · have item : bytesAt evt (data + i) (last + 1) = some _ := bytesAt_of_le (by omega)
        rw [if_pos more, if_neg (by omega), item, List.drop_drop, List.map_cons]
        show readUuids evt data dataLen last uuid (i + (last + 1)) _ = _
        rw [ih (by omega), take_bytes data dataLen (by omega)]
        rfl
      · rw [if_neg more, if_pos (by omega)]
        rfl

/-- The first bytes of a structure determine its words. -/
theorem word16_take {data : List UInt8} {n : Nat} (enough : 2 ≤ n) :
    word16 (data.take n) = word16 data := by
  simp [word16, List.getD, show 0 < n by omega, show 1 < n by omega]

theorem word32_take {data : List UInt8} {n : Nat} (enough : 4 ≤ n) :
    word32 (data.take n) = word32 data := by
  simp [word32, List.getD, show 0 < n by omega, show 1 < n by omega,
    show 2 < n by omega, show 3 < n by omega]

theorem fromRaw_take {data : List UInt8} {n : Nat} (enough : 16 ≤ n) :
    ESPBTUUID.fromRaw (data.take n) = .fromRaw data := by
  refine congrArg (ESPBTUUID.mk · 16) ?_
  ext i hi
  simp [List.getD, show i < n by omega]

/-- **The reads of one structure.** -/
theorem readAdStructure_eq {data dataLen : Nat} (inside : data + dataLen ≤ evt.length)
    (type : UInt8) (device : ESPBTDevice) :
    readAdStructure evt data dataLen type device =
      some (parseAdStructure type ((evt.drop data).take dataLen) device) := by
  have size := length_bytes inside
  have first : 0 < dataLen → evt[data]? = some (((evt.drop data).take dataLen).getD 0 0) := by
    intro positive
    rw [getElem?_of_lt (by omega)]
    simp [List.getD, positive]
  have uuids : ∀ last uuid, readUuids evt data dataLen last uuid 0 device =
      some (device.addServiceUuids ((Ltv.fullChunks (last + 1)
        ((evt.drop data).take dataLen)).map uuid)) := by
    intro last uuid
    rw [readUuids_eq last uuid inside (Nat.le_add_left dataLen 0), Ltv.fullChunks, size,
      List.drop_zero]
  have front : ∀ n, n ≤ dataLen →
      bytesAt evt data n = some (((evt.drop data).take dataLen).take n) := by
    intro n fits
    rw [bytesAt_of_le (by omega), List.take_take, Nat.min_eq_left fits]
  have rest : ∀ n, n ≤ dataLen → bytesAt evt (data + n) (dataLen - n) =
      some (((evt.drop data).take dataLen).drop n) := by
    intro n fits
    rw [bytesAt_of_le (by omega), List.drop_take, List.drop_drop]
  have whole := front dataLen le_rfl
  rw [List.take_of_length_le size.le] at whole
  generalize (evt.drop data).take dataLen = bytes at *
  unfold readAdStructure parseAdStructure
  split <;> try simp only [size]
  · split
    · rename_i positive
      rw [first positive]
      rfl
    · rfl
  · exact uuids 1 _
  · exact uuids 1 _
  · exact uuids 3 _
  · exact uuids 3 _
  · exact uuids 15 _
  · exact uuids 15 _
  · rw [whole]
    rfl
  · rw [whole]
    rfl
  · split
    · rename_i positive
      rw [first positive]
      rfl
    · rfl
  · split
    · rename_i fits
      rw [front 2 fits]
      show some (device.setAppearance (word16 (bytes.take 2))) = _
      rw [word16_take le_rfl]
    · rfl
  · split
    · rename_i fits
      rw [front 2 fits, rest 2 fits]
      show some (device.addServiceData ⟨.fromUint16 (word16 (bytes.take 2)), _⟩) = _
      rw [word16_take le_rfl]
    · rfl
  · split
    · rename_i fits
      rw [front 4 fits, rest 4 fits]
      show some (device.addServiceData ⟨.fromUint32 (word32 (bytes.take 4)), _⟩) = _
      rw [word32_take le_rfl]
    · rfl
  · split
    · rename_i fits
      rw [front 16 fits, rest 16 fits]
      show some (device.addServiceData ⟨.fromRaw (bytes.take 16), _⟩) = _
      rw [fromRaw_take le_rfl]
    · rfl
  · split
    · rename_i fits
      rw [front 2 fits, whole]
      show some (device.addManufacturerData ⟨.fromUint16 (word16 (bytes.take 2)), _⟩) = _
      rw [word16_take le_rfl]
    · rfl

/-- **The reads of one payload.** -/
theorem readAdPayload_eq {payload len : Nat} (inside : payload + len ≤ evt.length) (fuel : Nat)
    {pos : Nat} (enough : len ≤ pos + fuel) (device : ESPBTDevice) :
    readAdPayload evt payload len pos device =
      some (adLoop (evt.drop payload) len fuel pos device) := by
  induction fuel generalizing pos device with
  | zero =>
      rw [readAdPayload, if_neg (by omega)]
      rfl
  | succ fuel ih =>
      rw [readAdPayload, adLoop]
      by_cases more : pos + 1 < len
      · rw [if_pos more, if_pos more, getElem?_of_lt (by omega), getElem?_of_lt (by omega),
          ← getD_drop, Nat.add_assoc payload pos 1, ← getD_drop]
        simp only [Option.bind_eq_bind, Option.bind_some]
        by_cases stop : (evt.drop payload).getD pos 0 = 0 ∨
            pos + 1 + ((evt.drop payload).getD pos 0).toNat > len
        · rw [if_pos stop, if_pos stop]
        · rw [if_neg stop, if_neg stop, readAdStructure_eq (by omega), Option.bind_some,
            ih (by omega), List.drop_drop, ← Nat.add_assoc]
      · rw [if_neg more, if_neg more]

theorem readLeReports_eq {reports : Nat} {pos : Nat} :
    readLeReports evt reports pos = some (leReports evt evt.length reports pos) := by
  induction reports generalizing pos with
  | zero => rfl
  | succ reports ih =>
      rw [readLeReports, leReports]
      by_cases short : pos + 9 > evt.length
      · rw [if_pos short, if_pos short]
      · rw [if_neg short, if_neg short, getElem?_of_lt (by omega), getElem?_of_lt (by omega),
          getElem?_of_lt (i := pos + 8) (by omega), bytesAt_of_le (by omega)]
        simp only [Option.bind_eq_bind, Option.bind_some]
        by_cases truncated : pos + 9 + (evt.getD (pos + 8) 0).toNat + 1 > evt.length
        · rw [if_pos truncated, if_pos truncated]
        · have address : ESPBTDevice.setAddress {} ((evt.drop (pos + 2)).take 6) =
              ESPBTDevice.setAddress {} (evt.drop (pos + 2)) := by
            refine congrArg (fun a => ({ address := a } : ESPBTDevice)) ?_
            ext i hi
            simp [List.getD]
          rw [if_neg truncated, if_neg truncated, getElem?_of_lt (by omega), Option.bind_some,
            readAdPayload_eq (by omega) (evt.getD (pos + 8) 0).toNat (by omega), ih,
            address]
          rfl

/-- **No byte outside the event is read**, and what is delivered is what the report loop gives. -/
theorem readLeMetaEvent_eq (evt : List UInt8) :
    readLeMetaEvent evt = some (handleLeMetaEvent evt) := by
  unfold readLeMetaEvent handleLeMetaEvent
  by_cases empty : evt.length < 1
  · rw [if_pos empty, if_pos empty]
  · rw [if_neg empty, if_neg empty, getElem?_of_lt (by omega)]
    simp only [Option.bind_eq_bind, Option.bind_some]
    by_cases other : evt.getD 0 0 ≠ 0x02
    · rw [if_pos other, if_pos other]
    · rw [if_neg other, if_neg other]
      by_cases short : evt.length < 2
      · rw [if_pos short, if_pos short]
      · rw [if_neg short, if_neg short, getElem?_of_lt (by omega), Option.bind_some,
          readLeReports_eq]

theorem readHciPacket_ne_none (buf : List UInt8) : readHciPacket buf ≠ none := by
  unfold readHciPacket
  by_cases short : buf.length < 3
  · rw [if_pos short]
    nofun
  · rw [if_neg short, getElem?_of_lt (by omega), getElem?_of_lt (by omega),
      getElem?_of_lt (by omega)]
    simp only [Option.bind_eq_bind, Option.bind_some]
    split
    · nofun
    · split
      · nofun
      · rename_i complete
        split
        · rw [bytesAt_of_le (by omega), Option.bind_some, readLeMetaEvent_eq]
          nofun
        · nofun

/-- A packet of the controller. -/
theorem readHciPacket_event (fits : evt.length ≤ 255) (rest : List UInt8) :
    readHciPacket (0x04 :: 0x3e :: UInt8.ofNat evt.length :: (evt ++ rest)) =
      readLeMetaEvent evt := by
  have size : (UInt8.ofNat evt.length).toNat = evt.length := by
    rw [UInt8.toNat_ofNat', Nat.mod_eq_of_lt (by omega)]
  have whole : bytesAt (0x04 :: 0x3e :: UInt8.ofNat evt.length :: (evt ++ rest)) 3 evt.length =
      some evt := by
    rw [bytesAt_of_le (by simp only [List.length_cons, List.length_append]; omega)]
    simp
  rw [readHciPacket, if_neg (by simp)]
  simp only [List.getElem?_cons_zero, List.getElem?_cons_succ, Option.bind_eq_bind,
    Option.bind_some]
  rw [if_neg (by simp), size, if_neg, if_pos trivial, whole]
  · rfl
  · simp only [List.length_cons, List.length_append]
    omega

end Reads

/-! ## Encoded reports -/

/-- A report and its advertising structures, each a type with its data. -/
structure AdReport where
  eventType : UInt8
  addressType : UInt8
  address : Vector UInt8 6
  structures : List Ltv.Frame
  rssi : Int8

namespace AdReport

def raw (r : AdReport) : RawReport :=
  ⟨r.eventType, r.addressType, r.address, Ltv.encode r.structures, r.rssi⟩

/-- The device that the structures make, one after the other. -/
def device (r : AdReport) : ESPBTDevice := r.structures.foldl adFrame r.raw.blank

/-- An advertising-report event. -/
def event (reports : List AdReport) : List UInt8 :=
  0x02 :: UInt8.ofNat reports.length :: (reports.map raw).flatMap RawReport.bytes

end AdReport

theorem device_raw {r : AdReport} (fits : r.raw.Fits) : r.raw.device = r.device := by
  have frames : ∀ f ∈ r.structures, f.Fits := by
    intro f mem
    have part : f.encode.length ≤ r.raw.data.length :=
      (List.sublist_flatten_of_mem (List.mem_map_of_mem mem)).length_le
    have whole : r.raw.data.length ≤ 255 := fits
    rw [Ltv.Frame.length_encode] at part
    unfold Ltv.Frame.Fits
    omega
  show (Ltv.decode (Ltv.encode r.structures)).foldl adFrame r.raw.blank = _
  rw [Ltv.decode_encode frames]
  rfl

/-- The parts of an event are no longer than the event. -/
theorem length_event (reports : List AdReport) :
    (∀ r ∈ reports, r.raw.data.length + 12 ≤ (AdReport.event reports).length) ∧
      reports.length ≤ (AdReport.event reports).length := by
  have length : (AdReport.event reports).length =
      ((reports.map AdReport.raw).flatMap RawReport.bytes).length + 2 := rfl
  constructor
  · intro r mem
    have part : r.raw.bytes.length ≤ ((reports.map AdReport.raw).flatMap RawReport.bytes).length :=
      (List.sublist_flatten_of_mem (List.mem_map_of_mem (List.mem_map_of_mem mem))).length_le
    rw [RawReport.length_bytes] at part
    omega
  · rw [length]
    clear length
    induction reports with
    | nil => exact Nat.zero_le _
    | cons r reports ih =>
        simp only [List.map_cons, List.flatMap_cons, List.length_append, List.length_cons,
          RawReport.length_bytes]
        omega

/-- **Encoded reports are delivered** as the devices their structures make. -/
theorem readLeMetaEvent_event {reports : List AdReport}
    (fits : (AdReport.event reports).length ≤ 255) :
    readLeMetaEvent (AdReport.event reports) = some (reports.map AdReport.device) := by
  obtain ⟨parts, count⟩ := length_event reports
  have n : (UInt8.ofNat reports.length).toNat = reports.length := by
    rw [UInt8.toNat_ofNat', Nat.mod_eq_of_lt (by omega)]
  have each : ∀ r ∈ reports, r.raw.Fits := by
    intro r mem
    have part := parts r mem
    unfold RawReport.Fits
    omega
  have loop : leReports (AdReport.event reports) (AdReport.event reports).length
      reports.length 2 = (reports.map AdReport.raw).map RawReport.device := by
    refine @leReports_eq_map _ [] _ _ _ ?_ ?_ (by simp) (by simp)
    · simpa using each
    · rw [List.append_nil]
      rfl
  rw [readLeMetaEvent_eq, handleLeMetaEvent, if_neg (by simp [AdReport.event]),
    if_neg (by simp [AdReport.event]), if_neg (by simp [AdReport.event])]
  show some (leReports _ _ (UInt8.ofNat reports.length).toNat 2) = _
  rw [n, loop, List.map_map]
  exact congrArg some (List.map_congr_left fun r mem => device_raw (each r mem))

/-- The types that `parse_ad_payload` knows. -/
def adTypes : List UInt8 :=
  [0x01, 0x02, 0x03, 0x04, 0x05, 0x06, 0x07, 0x08, 0x09, 0x0a, 0x19, 0x16, 0x20, 0x21, 0xff]

theorem parseAdStructure_unknown {type : UInt8} (unknown : type ∉ adTypes) (data : List UInt8)
    (d : ESPBTDevice) : parseAdStructure type data d = d := by
  unfold parseAdStructure
  split <;> first | rfl | exact absurd (by decide) unknown

theorem adFrame_unknown {f : Ltv.Frame} (unknown : f.type ∉ adTypes) (d : ESPBTDevice) :
    adFrame d f = d := parseAdStructure_unknown unknown f.data d

/-! ## Any bytes -/

/-- `d` is what the structures of the report in front of the first zero length byte or overrunning
structure make. -/
def RawReport.Parsed (r : RawReport) (d : ESPBTDevice) : Prop :=
  ∃ frames tail, (∀ f ∈ frames, f.Fits) ∧ r.data = Ltv.encode frames ++ tail ∧ Ltv.Stops tail ∧
    d = frames.foldl adFrame r.blank

theorem parsed_device (r : RawReport) : r.Parsed r.device := by
  obtain ⟨fits, tail, split, stops⟩ := Ltv.decode_prefix r.data
  exact ⟨_, tail, fits, split, stops, rfl⟩

/-- What an event of any bytes delivers: the complete reports in front of the first truncated one,
at most as many as it announces. -/
def Delivers : List UInt8 → List ESPBTDevice → Prop
  | 0x02 :: n :: body, devices =>
      ∃ (reports : List RawReport) (rest : List UInt8), (∀ r ∈ reports, r.Fits) ∧
        body = reports.flatMap RawReport.bytes ++ rest ∧ reports.length ≤ n.toNat ∧
          (reports.length < n.toNat → Truncated rest) ∧
            List.Forall₂ RawReport.Parsed reports devices
  | _, devices => devices = []

theorem delivers_handleLeMetaEvent (evt : List UInt8) : Delivers evt (handleLeMetaEvent evt) := by
  unfold Delivers
  split
  · rename_i n body
    obtain ⟨reports, rest, fits, split, count, stop⟩ := exists_reports body n.toNat
    refine ⟨reports, rest, fits, split, count, stop, ?_⟩
    have loop : leReports (0x02 :: n :: body) (0x02 :: n :: body).length n.toNat 2 =
        reports.map RawReport.device := leReports_eq_map fits split count stop
    rw [handleLeMetaEvent, if_neg (by simp), if_neg (by simp), if_neg (by simp)]
    show List.Forall₂ _ _ (leReports _ _ n.toNat 2)
    rw [loop, List.forall₂_map_right_iff]
    exact List.forall₂_same.mpr fun r _ => parsed_device r
  · rename_i evt _ _ other
    unfold handleLeMetaEvent
    by_cases empty : evt.length < 1
    · exact if_pos empty
    · rw [if_neg empty]
      by_cases sub : evt.getD 0 0 ≠ 0x02
      · exact if_pos sub
      · rw [if_neg sub]
        refine if_pos (Nat.lt_of_not_le fun long => ?_)
        rcases evt with _ | ⟨s, _ | ⟨n, body⟩⟩
        · exact empty Nat.one_pos
        · exact absurd long (Nat.not_succ_le_self 1)
        · obtain rfl : s = 0x02 := not_not.mp sub
          exact other n body rfl

/-- **Encoded reports are delivered in order, each as what its structures mean.  For any bytes, no
read is outside them, and the complete reports in front of the first truncated one are delivered,
each parsed up to its first zero-length or overrunning structure.** -/
theorem readLeMetaEvent_decodes :
    (∀ reports : List AdReport, (AdReport.event reports).length ≤ 255 →
      readLeMetaEvent (AdReport.event reports) = some (reports.map AdReport.device) ∧
        ∀ rest, readHciPacket (0x04 :: 0x3e :: UInt8.ofNat (AdReport.event reports).length ::
          (AdReport.event reports ++ rest)) = some (reports.map AdReport.device)) ∧
    (∀ d (s : AdStructure), adFrame d s.frame = s.apply d) ∧
    (∀ d (f : Ltv.Frame), f.type ∉ adTypes → adFrame d f = d) ∧
    (∀ evt, ∃ devices, readLeMetaEvent evt = some devices ∧ Delivers evt devices) ∧
    ∀ buf, readHciPacket buf ≠ none := by
  refine ⟨fun reports fits => ⟨readLeMetaEvent_event fits, fun rest => ?_⟩, adFrame_frame,
    fun d f unknown => adFrame_unknown unknown d, fun evt => ?_, readHciPacket_ne_none⟩
  · rw [readHciPacket_event fits, readLeMetaEvent_event fits]
  · exact ⟨_, readLeMetaEvent_eq evt, delivers_handleLeMetaEvent evt⟩

/-- Two reports: flags, a list of two UUIDs and a name; a structure of unknown type. -/
def twoReports : List AdReport :=
  [⟨0, 0, #v[1, 2, 3, 4, 5, 6], [⟨0x01, [0x06]⟩, ⟨0x03, [0x0f, 0x18, 0x0a, 0x18]⟩,
      ⟨0x09, [0x68, 0x69]⟩], -60⟩,
    ⟨4, 1, #v[6, 5, 4, 3, 2, 1], [⟨0x2a, [1, 2, 3]⟩], -70⟩]

theorem readLeMetaEvent_twoReports :
    readLeMetaEvent (AdReport.event twoReports) = some (twoReports.map AdReport.device) ∧
      (twoReports.map AdReport.device).map (fun d => (d.adFlag, d.name, d.serviceUuids, d.rssi)) =
        [(some 0x06, [0x68, 0x69], [.fromUint16 0x180f, .fromUint16 0x180a], -60),
          (none, [], [], -70)] :=
  ⟨(readLeMetaEvent_decodes.1 twoReports (by decide)).1, by decide⟩

end EsphomeHost

import EsphomeHost.Lib.Ltv
import EsphomeHost.Tracker.Device
import Mathlib.Data.List.GetD

/-!
# Raw advertisements

`parse_ad_payload` walks the advertising bytes by position and dispatches on the type of each
structure; `handle_le_meta_event_` walks the reports of an HCI LE meta event the same way.

* `parseAdPayload_eq`: the walk is a fold of `parseAdStructure` over the length-type-value frames
  of the payload, so what a payload means does not depend on positions.
* `parseAdPayload_encode`: on encoded frames it is the fold over those frames.
-/

namespace EsphomeHost

open LittleEndian

/-! ## One advertising structure -/

/-- The first two data bytes as a little-endian word. -/
def word16 (data : List UInt8) : UInt16 := le16 (data.getD 0 0) (data.getD 1 0)

/-- The first four data bytes as a little-endian word. -/
def word32 (data : List UInt8) : UInt32 :=
  le32 (data.getD 0 0) (data.getD 1 0) (data.getD 2 0) (data.getD 3 0)

/-- The `switch` of `parse_ad_payload` on one structure. -/
def parseAdStructure (type : UInt8) (data : List UInt8) (device : ESPBTDevice) : ESPBTDevice :=
  match type with
  | 0x01 => -- AD_FLAGS
      if data.length > 0 then device.setAdFlag (data.getD 0 0) else device
  | 0x02 | 0x03 => -- AD_INCOMPLETE_LIST_UUID16, AD_COMPLETE_LIST_UUID16
      device.addServiceUuids ((Ltv.fullChunks 2 data).map fun c => .fromUint16 (word16 c))
  | 0x04 | 0x05 => -- AD_INCOMPLETE_LIST_UUID32, AD_COMPLETE_LIST_UUID32
      device.addServiceUuids ((Ltv.fullChunks 4 data).map fun c => .fromUint32 (word32 c))
  | 0x06 | 0x07 => -- AD_INCOMPLETE_LIST_UUID128, AD_COMPLETE_LIST_UUID128
      device.addServiceUuids ((Ltv.fullChunks 16 data).map .fromRaw)
  | 0x08 | 0x09 => -- AD_SHORTENED_LOCAL_NAME, AD_COMPLETE_LOCAL_NAME
      device.setName data
  | 0x0a => -- AD_TX_POWER_LEVEL
      if data.length > 0 then device.addTxPower (data.getD 0 0).toInt8 else device
  | 0x19 => -- AD_APPEARANCE
      if data.length ≥ 2 then device.setAppearance (word16 data) else device
  | 0x16 => -- AD_SERVICE_DATA_UUID16
      if data.length ≥ 2 then
        device.addServiceData ⟨.fromUint16 (word16 data), data.drop 2⟩
      else device
  | 0x20 => -- AD_SERVICE_DATA_UUID32
      if data.length ≥ 4 then
        device.addServiceData ⟨.fromUint32 (word32 data), data.drop 4⟩
      else device
  | 0x21 => -- AD_SERVICE_DATA_UUID128
      if data.length ≥ 16 then device.addServiceData ⟨.fromRaw data, data.drop 16⟩ else device
  | 0xff => -- AD_MANUFACTURER_DATA, the company id stays in front of the data
      if data.length ≥ 2 then
        device.addManufacturerData ⟨.fromUint16 (word16 data), data⟩
      else device
  | _ => device

/-- The meaning of one frame. -/
def adFrame (device : ESPBTDevice) (f : Ltv.Frame) : ESPBTDevice :=
  parseAdStructure f.type f.data device

/-! ## The walk over the payload -/

/-- The `while` loop of `parse_ad_payload`; every pass advances `pos`, so `fuel` never runs out
when it starts at `len`. -/
def adLoop (payload : List UInt8) (len : Nat) : Nat → Nat → ESPBTDevice → ESPBTDevice
  | 0, _, device => device
  | fuel + 1, pos, device =>
      if pos + 1 < len then
        let fieldLen := payload.getD pos 0
        if fieldLen = 0 ∨ pos + 1 + fieldLen.toNat > len then device
        else
          let type := payload.getD (pos + 1) 0
          let data := (payload.drop (pos + 2)).take (fieldLen.toNat - 1)
          adLoop payload len fuel (pos + 1 + fieldLen.toNat) (parseAdStructure type data device)
      else device

def parseAdPayload (payload : List UInt8) (len : UInt8) (device : ESPBTDevice) : ESPBTDevice :=
  adLoop payload len.toNat len.toNat 0 device

theorem drop_eq_cons_cons {l : List UInt8} {pos : Nat} (h : pos + 1 < l.length) :
    l.drop pos = l.getD pos 0 :: l.getD (pos + 1) 0 :: l.drop (pos + 2) := by
  have h0 : pos < l.length := by omega
  rw [List.drop_eq_getElem_cons h0, List.drop_eq_getElem_cons h,
    List.getD_eq_getElem _ _ h0, List.getD_eq_getElem _ _ h]

theorem adLoop_eq (payload : List UInt8) {fuel pos : Nat} (device : ESPBTDevice)
    (enough : payload.length ≤ pos + fuel) :
    adLoop payload payload.length fuel pos device =
      (Ltv.decode (payload.drop pos)).foldl adFrame device := by
  induction fuel generalizing pos device with
  | zero => rw [List.drop_of_length_le (by omega), Ltv.decode_short (by simp)]; rfl
  | succ fuel ih =>
      rw [adLoop]
      split
      · rename_i more
        dsimp only
        rw [drop_eq_cons_cons more]
        have rest : (payload.drop (pos + 2)).length = payload.length - (pos + 2) :=
          List.length_drop
        split
        · rename_i stop
          rw [Ltv.decode_stop]
          · rfl
          · exact stop.imp id fun h => by omega
        · rename_i go
          obtain ⟨h0, h1⟩ := not_or.mp go
          rw [Ltv.decode_frame h0 (by omega), List.foldl_cons, List.drop_drop, ih _ (by omega)]
          have next : pos + 2 + ((payload.getD pos 0).toNat - 1) =
              pos + 1 + (payload.getD pos 0).toNat := by
            have : (payload.getD pos 0).toNat ≠ 0 := fun h => h0 (UInt8.toNat_inj.mp h)
            omega
          rw [next]
          rfl
      · rename_i done
        rw [Ltv.decode_short (by simp; omega)]
        rfl

/-- Bytes beyond `len` do not matter. -/
theorem adLoop_take (payload : List UInt8) {len : Nat} (fuel pos : Nat) (device : ESPBTDevice) :
    adLoop payload len fuel pos device = adLoop (payload.take len) len fuel pos device := by
  induction fuel generalizing pos device with
  | zero => rfl
  | succ fuel ih =>
      rw [adLoop, adLoop]
      split
      · rename_i more
        have get : ∀ i, i < len → (payload.take len).getD i 0 = payload.getD i 0 := by
          intro i hi
          simp [List.getD, hi]
        dsimp only
        rw [get pos (by omega), get (pos + 1) more]
        split
        · rfl
        · rename_i go
          have data : ((payload.take len).drop (pos + 2)).take ((payload.getD pos 0).toNat - 1) =
              (payload.drop (pos + 2)).take ((payload.getD pos 0).toNat - 1) := by
            rw [List.drop_take, List.take_take, Nat.min_eq_left (by omega)]
          simp only [data]
          exact ih _ _
      · rfl

/-- **The walk is a fold over frames.** -/
theorem parseAdPayload_eq {payload : List UInt8} {len : UInt8} (device : ESPBTDevice)
    (inside : len.toNat ≤ payload.length) :
    parseAdPayload payload len device =
      (Ltv.decode (payload.take len.toNat)).foldl adFrame device := by
  have length : (payload.take len.toNat).length = len.toNat := by simp [inside]
  have walk := @adLoop_eq (payload.take len.toNat) len.toNat 0 device (by simp)
  rw [length, List.drop_zero] at walk
  rw [parseAdPayload, adLoop_take, walk]

/-- On encoded frames the payload means the fold over the frames. -/
theorem parseAdPayload_encode {fs : List Ltv.Frame} {len : UInt8} (device : ESPBTDevice)
    (fits : ∀ f ∈ fs, f.Fits) (length : (Ltv.encode fs).length = len.toNat)
    (rest : List UInt8) :
    parseAdPayload (Ltv.encode fs ++ rest) len device = fs.foldl adFrame device := by
  rw [parseAdPayload_eq device (by simp [← length]), ← length, List.take_left',
    Ltv.decode_encode fits]
  rfl

/-! ## Advertising reports -/

/-- The report loop of `handle_le_meta_event_`: the devices delivered, in order. -/
def leReports (evt : List UInt8) (len : Nat) : Nat → Nat → List ESPBTDevice
  | 0, _ => []
  | reports + 1, pos =>
      if pos + 9 > len then []
      else
        let addr := evt.drop (pos + 2)
        let dataLen := evt.getD (pos + 8) 0
        if pos + 9 + dataLen.toNat + 1 > len then []
        else
          let data := evt.drop (pos + 9)
          let rssi := (evt.getD (pos + 9 + dataLen.toNat) 0).toInt8
          let device := ((ESPBTDevice.setAddress {} addr).setRssi rssi)
          parseAdPayload data dataLen device ::
            leReports evt len reports (pos + 9 + dataLen.toNat + 1)

/-- The devices `handle_le_meta_event_` delivers; only advertising reports (sub-event 2) count. -/
def handleLeMetaEvent (evt : List UInt8) : List ESPBTDevice :=
  if evt.length < 1 then []
  else if evt.getD 0 0 ≠ 0x02 then []
  else if evt.length < 2 then []
  else leReports evt evt.length (evt.getD 1 0).toNat 2

/-! ## Complete reports -/

/-- A report as it lies in an event. -/
structure RawReport where
  eventType : UInt8
  addressType : UInt8
  address : Vector UInt8 6
  data : List UInt8
  rssi : Int8

namespace RawReport

variable (r : RawReport)

def bytes : List UInt8 :=
  r.eventType :: r.addressType :: (r.address.toList ++
    UInt8.ofNat r.data.length :: (r.data ++ [r.rssi.toUInt8]))

/-- The data fits its length byte. -/
def Fits : Prop := r.data.length ≤ 255

/-- The device before the advertising data is parsed. -/
def blank : ESPBTDevice := (ESPBTDevice.setAddress {} r.address.toList).setRssi r.rssi

/-- The device that is delivered. -/
def device : ESPBTDevice := (Ltv.decode r.data).foldl adFrame r.blank

@[simp] theorem length_bytes : r.bytes.length = 10 + r.data.length := by
  simp [bytes]
  omega

end RawReport

theorem getD_drop (l : List UInt8) (pos k : Nat) : (l.drop pos).getD k 0 = l.getD (pos + k) 0 := by
  simp [List.getD]

/-- **A complete report is delivered.** -/
theorem leReports_bytes {evt rest : List UInt8} {pos : Nat} {r : RawReport} (n : Nat)
    (fits : r.Fits) (here : evt.drop pos = r.bytes ++ rest) :
    leReports evt evt.length (n + 1) pos =
      r.device :: leReports evt evt.length n (pos + r.bytes.length) := by
  unfold RawReport.Fits at fits
  have size : (UInt8.ofNat r.data.length).toNat = r.data.length := by
    rw [UInt8.toNat_ofNat', Nat.mod_eq_of_lt (by omega)]
  have length : evt.length = pos + (10 + r.data.length + rest.length) := by
    have dropped := congrArg List.length here
    rw [List.length_drop, List.length_append, r.length_bytes] at dropped
    omega
  have address : evt.drop (pos + 2) = r.address.toList ++
      (UInt8.ofNat r.data.length :: (r.data ++ r.rssi.toUInt8 :: rest)) := by
    rw [← List.drop_drop, here]
    simp [RawReport.bytes]
  have tail : evt.drop (pos + 8) =
      UInt8.ofNat r.data.length :: (r.data ++ r.rssi.toUInt8 :: rest) := by
    rw [show pos + 8 = pos + 2 + 6 from rfl, ← List.drop_drop, address,
      List.drop_left' (by simp)]
  have dataLen : evt.getD (pos + 8) 0 = UInt8.ofNat r.data.length := by
    have first := getD_drop evt (pos + 8) 0
    rw [tail] at first
    simpa using first.symm
  have data : evt.drop (pos + 9) = r.data ++ r.rssi.toUInt8 :: rest := by
    rw [show pos + 9 = pos + 8 + 1 from rfl, ← List.drop_drop, tail]
    rfl
  have rssi : evt.getD (pos + 9 + r.data.length) 0 = r.rssi.toUInt8 := by
    rw [← getD_drop, data]
    simp [List.getD]
  have addressed : ESPBTDevice.setAddress {} (evt.drop (pos + 2)) =
      ESPBTDevice.setAddress {} r.address.toList := by
    rw [address]
    refine congrArg (fun a => ({ address := a } : ESPBTDevice)) ?_
    ext i hi
    simp [List.getD, List.getElem?_append_left]
  have parsed : parseAdPayload (r.data ++ r.rssi.toUInt8 :: rest) (UInt8.ofNat r.data.length)
      r.blank = r.device := by
    rw [parseAdPayload_eq r.blank (by simp [size]), size, List.take_left]
    rfl
  rw [leReports, if_neg (by omega)]
  simp only [dataLen, size, data, rssi, addressed]
  rw [if_neg (by omega), Int8.toInt8_toUInt8, r.length_bytes, ← parsed,
    show pos + (10 + r.data.length) = pos + 9 + r.data.length + 1 by omega]
  rfl

/-- No complete report is in front. -/
def Truncated (rest : List UInt8) : Prop :=
  ∀ r : RawReport, r.Fits → ∀ tail, rest ≠ r.bytes ++ tail

/-- **The loop stops at a truncated report.** -/
theorem leReports_truncated {evt : List UInt8} {pos n : Nat}
    (truncated : Truncated (evt.drop pos)) : leReports evt evt.length n pos = [] := by
  cases n with
  | zero => rfl
  | succ n =>
      rw [leReports]
      by_cases short : pos + 9 > evt.length
      · rw [if_pos short]
      · rw [if_neg short]
        refine if_pos (Nat.lt_of_not_le fun complete => ?_)
        have length : (evt.drop pos).length = evt.length - pos := List.length_drop
        rw [← getD_drop evt pos 8] at complete
        match evt.drop pos, length, truncated, complete with
        | e :: t :: a0 :: a1 :: a2 :: a3 :: a4 :: a5 :: n :: rest, length, truncated, complete =>
            have inside : n.toNat < rest.length := by
              simp only [List.length_cons] at length
              have size : (e :: t :: a0 :: a1 :: a2 :: a3 :: a4 :: a5 :: n :: rest).getD 8 0 = n :=
                rfl
              rw [size] at complete
              omega
            refine truncated ⟨e, t, #v[a0, a1, a2, a3, a4, a5], rest.take n.toNat,
              (rest.getD n.toNat 0).toInt8⟩ ?_ (rest.drop (n.toNat + 1)) ?_
            · have bound := n.toNat_lt
              have taken := List.length_take_le n.toNat rest
              exact taken.trans (by omega)
            · have dataLen : UInt8.ofNat (rest.take n.toNat).length = n := by
                rw [List.length_take, Nat.min_eq_left inside.le, UInt8.ofNat_toNat]
              have split : rest = rest.take n.toNat ++ rest.getD n.toNat 0 ::
                  rest.drop (n.toNat + 1) := by
                rw [List.getD_eq_getElem _ _ inside, ← List.drop_eq_getElem_cons,
                  List.take_append_drop]
              simp only [RawReport.bytes, dataLen, UInt8.toUInt8_toInt8]
              nth_rewrite 1 [split]
              simp
        | [], length, _, _ | [_], length, _, _ | [_, _], length, _, _ | [_, _, _], length, _, _
        | [_, _, _, _], length, _, _ | [_, _, _, _, _], length, _, _
        | [_, _, _, _, _, _], length, _, _ | [_, _, _, _, _, _, _], length, _, _
        | [_, _, _, _, _, _, _, _], length, _, _ =>
            simp at length
            omega

/-- **The reports delivered**: complete ones, up to the number announced or the first truncated
one. -/
theorem leReports_eq_map {evt rest : List UInt8} {reports : List RawReport} {pos n : Nat}
    (fits : ∀ r ∈ reports, r.Fits) (here : evt.drop pos = reports.flatMap RawReport.bytes ++ rest)
    (count : reports.length ≤ n) (stop : reports.length < n → Truncated rest) :
    leReports evt evt.length n pos = reports.map RawReport.device := by
  induction reports generalizing pos n with
  | nil =>
      rcases Nat.eq_zero_or_pos n with rfl | more
      · rfl
      · exact leReports_truncated (here ▸ stop more)
  | cons r reports ih =>
      obtain ⟨n, rfl⟩ : ∃ k, n = k + 1 := ⟨n - 1, by simp only [List.length_cons] at count; omega⟩
      rw [List.flatMap_cons, List.append_assoc] at here
      rw [leReports_bytes n (fits r (by simp)) here, List.map_cons,
        ih (fun q mem => fits q (List.mem_cons_of_mem _ mem)) ?_ (by simpa using count)
          fun more => stop (by simpa using more)]
      rw [← List.drop_drop, here, List.drop_left]

/-- Every event splits that way. -/
theorem exists_reports (bytes : List UInt8) (n : Nat) :
    ∃ (reports : List RawReport) (rest : List UInt8), (∀ r ∈ reports, r.Fits) ∧
      bytes = reports.flatMap RawReport.bytes ++ rest ∧ reports.length ≤ n ∧
        (reports.length < n → Truncated rest) := by
  induction n generalizing bytes with
  | zero => exact ⟨[], bytes, nofun, rfl, le_rfl, nofun⟩
  | succ n ih =>
      by_cases truncated : Truncated bytes
      · exact ⟨[], bytes, nofun, rfl, Nat.zero_le _, fun _ => truncated⟩
      · unfold Truncated at truncated
        push Not at truncated
        obtain ⟨r, fits, tail, rfl⟩ := truncated
        obtain ⟨reports, rest, all, rfl, count, stop⟩ := ih tail
        refine ⟨r :: reports, rest, ?_, ?_, by simpa using count, fun more => stop ?_⟩
        · intro q mem
          rcases List.mem_cons.mp mem with rfl | mem
          · exact fits
          · exact all q mem
        · rw [List.flatMap_cons, List.append_assoc]
        · simpa using more

end EsphomeHost

import EsphomeHost.Lib.Buffer
import EsphomeHost.Proxy.Advertisement

/-!
# The payload buffer of `parse_device`

`parse_device` packs the fields of a device into an array of 62 bytes, the service data by way of an
array of 31, and counts in `uint8_t`.  Here the arrays have their sizes, what is in them at first is
arbitrary, and an access past an end fails.

* `AdBuffer.Packs.append`: `append_ad` stays in the array and packs what `appendAd` packs.
* `adBytes_eq_packed`: the bytes are the structures of the fields, without those that did not fit.
* `payload_complete`: **no access is past an end, and the payload is a sequence of complete
  structures**.
-/

namespace EsphomeHost

namespace BluetoothProxy

open Buffer

/-! ## The arrays -/

/-- `buf` and `len`. -/
structure AdBuffer where
  buf : Vector UInt8 62
  len : UInt8

/-- `append_ad`.  The comparison is one of `int`s. -/
def AdBuffer.append (b : AdBuffer) (type : UInt8) (data : List UInt8) (dlen : UInt8) :
    Option AdBuffer :=
  if b.len.toNat + 2 + dlen.toNat > 62 then some b
  else
    (put b.buf b.len.toNat (dlen + 1)).bind fun buf =>
      (put buf (b.len + 1).toNat type).bind fun buf =>
        (copy buf (b.len + 1 + 1).toNat data dlen.toNat).map fun buf =>
          ⟨buf, b.len + 1 + 1 + dlen⟩

/-- `sbuf` and `n`. -/
def packServiceData (sbuf : Vector UInt8 31) (sd : ServiceData) : Option (List UInt8 × UInt8) :=
  (put sbuf 0 (sd.uuid.get16bit &&& 0xff).toUInt8).bind fun sbuf =>
    (put sbuf 1 ((sd.uuid.get16bit >>> 8) &&& 0xff).toUInt8).bind fun sbuf =>
      let plen := UInt8.ofNat (min sd.data.length (31 - 2))
      (copy sbuf 2 sd.data plen.toNat).map fun sbuf => (sbuf.toList, 2 + plen)

/-- The buffer `parse_device` leaves; `buf` and `sbuf i` are what the arrays hold before they are
written, the second anew for each service data. -/
def packDevice (device : ESPBTDevice) (buf : Vector UInt8 62) (sbuf : Nat → Vector UInt8 31) :
    Option AdBuffer :=
  (match device.adFlag with
    | some f => AdBuffer.append ⟨buf, 0⟩ 0x01 [f] 1
    | none => some ⟨buf, 0⟩).bind fun b =>
  (device.manufacturerDatas.foldlM (fun (b : AdBuffer) (md : ServiceData) =>
    b.append 0xff md.data (UInt8.ofNat (min md.data.length 30))) b).bind fun b =>
  (device.serviceDatas.zipIdx.foldlM (fun (b : AdBuffer) (sd : ServiceData × Nat) =>
    (packServiceData (sbuf sd.2) sd.1).bind fun s => b.append 0x16 s.1 s.2) b).bind fun b =>
  if device.name ≠ [] then
    b.append 0x09 device.name (UInt8.ofNat (min device.name.length 28))
  else some b

/-- The first `len` bytes. -/
def AdBuffer.payload (b : AdBuffer) : List UInt8 := b.buf.toList.take b.len.toNat

/-! ## Staying inside them -/

/-- What is packed so far. -/
structure AdBuffer.Packs (b : AdBuffer) (bytes : List UInt8) : Prop where
  holds : Buffer.Holds b.buf bytes
  counted : b.len.toNat = bytes.length

theorem toNat_ofNat_min (n : Nat) {c : Nat} (small : c < 256) :
    (UInt8.ofNat (min n c)).toNat = min n c := by
  rw [UInt8.toNat_ofNat', Nat.mod_eq_of_lt]
  omega

/-- **`append_ad` stays in the array**, as long as its source is long enough. -/
theorem AdBuffer.Packs.append {b : AdBuffer} {bytes : List UInt8} (packs : b.Packs bytes)
    (type : UInt8) {data : List UInt8} {dlen : UInt8} (reads : dlen.toNat ≤ data.length) :
    ∃ b', b.append type data dlen = some b' ∧
      b'.Packs (appendAd bytes type (data.take dlen.toNat)) := by
  have size : (data.take dlen.toNat).length = dlen.toNat := by
    rw [List.length_take, Nat.min_eq_left reads]
  unfold AdBuffer.append appendAd
  rw [packs.counted, size]
  split
  · exact ⟨b, rfl, packs⟩
  · rename_i fits
    have one : (b.len + 1).toNat = bytes.length + 1 := by
      rw [UInt8.toNat_add, packs.counted, UInt8.toNat_one, Nat.mod_eq_of_lt (by omega)]
    have two : (b.len + 1 + 1).toNat = bytes.length + 2 := by
      rw [UInt8.toNat_add, one, UInt8.toNat_one, Nat.mod_eq_of_lt (by omega)]
    have total : (b.len + 1 + 1 + dlen).toNat = bytes.length + 2 + dlen.toNat := by
      rw [UInt8.toNat_add, two, Nat.mod_eq_of_lt (by omega)]
    have lengthByte : UInt8.ofNat (dlen.toNat + 1) = dlen + 1 := by
      refine UInt8.toNat_inj.mp ?_
      rw [UInt8.toNat_ofNat', UInt8.toNat_add, UInt8.toNat_one]
    obtain ⟨first, wrote, holds⟩ := packs.holds.put (dlen + 1) (by omega)
    obtain ⟨second, wrote', holds⟩ := holds.put type (by rw [List.length_append]; simp; omega)
    obtain ⟨third, wrote'', holds⟩ := holds.copy reads (by simp; omega)
    simp only [List.length_append, List.length_cons, List.length_nil] at wrote' wrote''
    refine ⟨⟨third, b.len + 1 + 1 + dlen⟩, ?_, ?_, ?_⟩
    · rw [wrote, Option.bind_some, one, wrote', Option.bind_some, two, wrote'']
      rfl
    · rw [lengthByte]
      simpa using holds
    · rw [total, List.length_append, List.length_cons, List.length_cons, size]
      omega

theorem take_min_length (n : Nat) (data : List UInt8) :
    data.take (min data.length n) = data.take n := by
  rw [List.take_eq_take_iff]
  omega

/-- **Nothing is written past the end of `sbuf`.** -/
theorem packServiceData_eq (sbuf : Vector UInt8 31) (sd : ServiceData) :
    ∃ data n, packServiceData sbuf sd = some (data, n) ∧ n.toNat ≤ data.length ∧
      data.take n.toNat = serviceDataAd sd := by
  have plen := toNat_ofNat_min sd.data.length (c := 31 - 2) (by omega)
  obtain ⟨first, wrote, holds⟩ := (holds_nil sbuf).put (sd.uuid.get16bit &&& 0xff).toUInt8
    (Nat.zero_lt_succ 30)
  obtain ⟨second, wrote', holds⟩ := holds.put ((sd.uuid.get16bit >>> 8) &&& 0xff).toUInt8
    (Nat.lt_of_sub_eq_succ rfl)
  have reads : (UInt8.ofNat (min sd.data.length (31 - 2))).toNat ≤ sd.data.length := by omega
  obtain ⟨third, wrote'', holds⟩ := holds.copy reads (by simp; omega)
  have total : (2 + UInt8.ofNat (min sd.data.length (31 - 2))).toNat =
      (serviceDataAd sd).length := by
    rw [UInt8.toNat_add, plen, serviceDataAd, List.length_append, List.length_take, Nat.min_comm]
    exact Nat.mod_eq_of_lt (by show 2 + _ < _; omega)
  rw [plen, take_min_length] at holds
  have filled : Buffer.Holds third (serviceDataAd sd) := holds
  refine ⟨third.toList, 2 + UInt8.ofNat (min sd.data.length (31 - 2)), ?_, ?_, ?_⟩
  · unfold packServiceData
    have copied : copy second 2 sd.data (UInt8.ofNat (min sd.data.length (31 - 2))).toNat =
        some third := wrote''
    simp only [List.length_append, List.length_cons, List.length_nil] at wrote wrote'
    rw [wrote, Option.bind_some, wrote', Option.bind_some]
    simp only [copied]
    rfl
  · rw [total]
    exact List.IsPrefix.length_le filled
  · rw [total]
    exact filled.take

/-! ## The whole payload -/

/-- A list of fields, each of which appends one structure. -/
theorem packs_foldlM {α : Type} (write : AdBuffer → α → Option AdBuffer) (frame : α → Ltv.Frame)
    (each : ∀ (b : AdBuffer) (bytes : List UInt8) (a : α), b.Packs bytes →
      ∃ b', write b a = some b' ∧ b'.Packs (appendAd bytes (frame a).type (frame a).data))
    (fields : List α) {b : AdBuffer} {bytes : List UInt8} (packs : b.Packs bytes) :
    ∃ b', fields.foldlM write b = some b' ∧
      b'.Packs (fields.foldl (fun buf a => appendAd buf (frame a).type (frame a).data) bytes) := by
  induction fields generalizing b bytes with
  | nil => exact ⟨b, rfl, packs⟩
  | cons a fields ih =>
      obtain ⟨next, wrote, packs⟩ := each b bytes a packs
      obtain ⟨last, rest, packs⟩ := ih packs
      refine ⟨last, ?_, packs⟩
      rw [List.foldlM_cons, wrote]
      exact rest

/-- **`parse_device` stays in its arrays**, and packs `adBytes`. -/
theorem packDevice_packs (device : ESPBTDevice) (buf : Vector UInt8 62)
    (sbuf : Nat → Vector UInt8 31) :
    ∃ b, packDevice device buf sbuf = some b ∧ b.Packs (adBytes device) := by
  have empty : (AdBuffer.mk buf 0).Packs [] := ⟨holds_nil buf, rfl⟩
  have flag : ∃ b, (match device.adFlag with
      | some f => AdBuffer.append ⟨buf, 0⟩ 0x01 [f] 1
      | none => some ⟨buf, 0⟩) = some b ∧ b.Packs (match device.adFlag with
        | some f => appendAd [] 0x01 [f]
        | none => []) := by
    cases device.adFlag with
    | none => exact ⟨_, rfl, empty⟩
    | some f => exact empty.append 0x01 (Nat.le_refl 1)
  obtain ⟨b₁, flagged, packs⟩ := flag
  obtain ⟨b₂, filled, packs⟩ := packs_foldlM
    (fun b md => b.append 0xff md.data (UInt8.ofNat (min md.data.length 30))) manufacturerFrame
    (fun b bytes md packs => by
      have dlen := toNat_ofNat_min md.data.length (c := 30) (by omega)
      have reads : (UInt8.ofNat (min md.data.length 30)).toNat ≤ md.data.length := by omega
      have appended := packs.append 0xff reads
      rwa [dlen, take_min_length] at appended) device.manufacturerDatas packs
  obtain ⟨b₃, served, packs⟩ := packs_foldlM
    (fun b (sd : ServiceData × Nat) =>
      (packServiceData (sbuf sd.2) sd.1).bind fun s => b.append 0x16 s.1 s.2)
    (fun sd => serviceFrame sd.1)
    (fun b bytes sd packs => by
      obtain ⟨data, n, packed, reads, filled⟩ := packServiceData_eq (sbuf sd.2) sd.1
      have appended := packs.append 0x16 reads
      rw [filled] at appended
      rw [packed]
      exact appended) device.serviceDatas.zipIdx packs
  have named : ∃ b, (if device.name ≠ [] then
      b₃.append 0x09 device.name (UInt8.ofNat (min device.name.length 28)) else some b₃) = some b ∧
        b.Packs (adBytes device) := by
    rw [← List.foldl_map (f := Prod.fst)
      (g := fun buf sd => appendAd buf (serviceFrame sd).type (serviceFrame sd).data),
      List.zipIdx_map_fst] at packs
    unfold adBytes
    split
    · have dlen := toNat_ofNat_min device.name.length (c := 28) (by omega)
      have reads : (UInt8.ofNat (min device.name.length 28)).toNat ≤ device.name.length := by omega
      have appended := packs.append 0x09 reads
      rwa [dlen, take_min_length] at appended
    · exact ⟨b₃, rfl, packs⟩
  obtain ⟨b, last, packs⟩ := named
  refine ⟨b, ?_, packs⟩
  rw [packDevice, flagged, Option.bind_some, filled, Option.bind_some, served, Option.bind_some]
  exact last

/-- The bytes are the structures of the fields, without those that did not fit. -/
theorem adBytes_eq_packed (device : ESPBTDevice) :
    adBytes device = Ltv.encode (Ltv.packed 62 0 (adFrames device)) := by
  have fold : ∀ (frames : List Ltv.Frame) (bytes : List UInt8),
      frames.foldl (fun buf f => appendAd buf f.type f.data) bytes =
        bytes ++ Ltv.encode (Ltv.packed 62 bytes.length frames) := by
    intro frames
    induction frames with
    | nil => simp [Ltv.packed]
    | cons f frames ih =>
        intro bytes
        rw [List.foldl_cons, ih, Ltv.packed]
        have size := f.length_encode
        unfold appendAd
        split
        · rw [if_neg (by omega)]
        · rw [if_pos (by omega), Ltv.encode_cons, ← List.append_assoc]
          have whole : bytes ++ UInt8.ofNat (f.data.length + 1) :: f.type :: f.data =
              bytes ++ f.encode := rfl
          rw [whole, List.length_append]
  have flag : (match device.adFlag with | some f => appendAd [] 0x01 [f] | none => []) =
      (flagFrames device).foldl (fun buf f => appendAd buf f.type f.data) [] := by
    unfold flagFrames
    cases device.adFlag <;> rfl
  have all := fold (adFrames device) []
  rw [List.nil_append, List.length_nil] at all
  rw [← all, adFrames, List.foldl_append, List.foldl_append, List.foldl_append, List.foldl_map,
    List.foldl_map, ← flag]
  by_cases named : device.name = []
  · rw [adBytes, nameFrames, if_neg (not_not.mpr named), if_neg (not_not.mpr named)]
    rfl
  · rw [adBytes, nameFrames, if_pos named, if_pos named]
    rfl

/-- **No access is past the end of an array, and the payload is a sequence of complete structures**:
those of the fields that fit behind the ones before them. -/
theorem payload_complete (device : ESPBTDevice) (buf : Vector UInt8 62)
    (sbuf : Nat → Vector UInt8 31) :
    ∃ b frames, packDevice device buf sbuf = some b ∧
      b.payload = (rawAdvertisement device).data ∧
      b.payload.length = b.len.toNat ∧ b.payload.length ≤ 62 ∧
      frames = Ltv.packed 62 0 (adFrames device) ∧ frames.Sublist (adFrames device) ∧
      (∀ f ∈ frames, f.Fits) ∧ b.payload = Ltv.encode frames ∧ Ltv.decode b.payload = frames := by
  obtain ⟨b, packed, packs⟩ := packDevice_packs device buf sbuf
  have payload : b.payload = adBytes device := by
    rw [AdBuffer.payload, packs.counted]
    exact packs.holds.take
  have encoded := adBytes_eq_packed device
  have room : (adBytes device).length ≤ 62 := packs.holds.length
  have fits : ∀ f ∈ Ltv.packed 62 0 (adFrames device), f.Fits :=
    Ltv.fits_of_length (encoded ▸ by omega)
  refine ⟨b, _, packed, payload, ?_, ?_, rfl, Ltv.packed_sublist _ _ _, fits, ?_, ?_⟩
  · rw [payload, packs.counted]
  · rwa [payload]
  · rw [payload, encoded]
  · rw [payload, encoded, Ltv.decode_encode fits]

end BluetoothProxy

end EsphomeHost

import EsphomeHost.Proxy.Effect
import Mathlib.Algebra.Group.Nat.Defs
import Mathlib.Data.List.Forall2
import Mathlib.Data.Nat.Digits.Defs

/-!
# What a services message says

* `wordBytes_packBytes`: `fill_128bit_uuid_array` packs the sixteen bytes without loss.
* `denoted_fillGattUuid`: what is sent for a UUID denotes that UUID, unless it is a short form of
  the value zero, which is what an absent short form looks like.
* `lists_gattServiceMessage`: the message of a service lists it exactly if it has no such UUID.
* `serviceBatch_eq`: a batch is a nonempty run of the services that remain.
-/

namespace EsphomeHost

/-! ## UUIDs -/

/-- The `n` low bytes of a word, least significant first. -/
def wordBytes : Nat → UInt64 → List UInt8
  | 0, _ => []
  | n + 1, w => w.toUInt8 :: wordBytes n (w >>> 8)

/-- The UUID a client reads: a short form if there is one, else the two words. -/
def GattUuid.denoted (g : GattUuid) : ESPBTUUID :=
  if g.shortUuid ≠ 0 then ESPBTUUID.expand g.shortUuid
  else ESPBTUUID.fromRaw (wordBytes 8 g.uuid.2 ++ wordBytes 8 g.uuid.1)

/-- The value of a 16- or 32-bit UUID. -/
def ESPBTUUID.shortValue (u : ESPBTUUID) : Option UInt32 :=
  if u.len = 2 then some u.get16bit.toUInt32
  else if u.len = 4 then some u.get32bit
  else none

theorem packBytes_reverse_cons (b : UInt8) (l : List UInt8) :
    packBytes (b :: l).reverse = (packBytes l.reverse <<< 8) ||| b.toUInt64 := by
  rw [List.reverse_cons, packBytes, List.foldl_append, ← packBytes]
  rfl

/-- Packing reads the bytes as digits. -/
theorem packBytes_toNat {l : List UInt8} (short : l.length ≤ 8) :
    (packBytes l.reverse).toNat = Nat.ofDigits 256 (l.map UInt8.toNat) :=
  LittleEndian.shiftIn_toNat short

/-- **Packing loses nothing.** -/
theorem wordBytes_packBytes {l : List UInt8} (short : l.length ≤ 8) :
    wordBytes l.length (packBytes l.reverse) = l := by
  induction l with
  | nil => rfl
  | cons b l ih =>
      have fits := Nat.le_of_succ_le short
      have small : (packBytes l.reverse).toNat < 2 ^ 56 :=
        packBytes_toNat fits ▸ LittleEndian.ofDigits_small short
      have value := LittleEndian.shift_or_toNat small b
      have byte := b.toNat_lt
      rw [List.length_cons, packBytes_reverse_cons, wordBytes]
      congr 1
      · apply UInt8.toNat_inj.mp
        rw [UInt64.toNat_toUInt8, value]
        omega
      · rw [← ih fits]
        congr 1
        · rw [ih fits]
        · apply UInt64.toNat_inj.mp
          rw [ih fits, UInt64.toNat_shiftRight, value]
          have shift : (8 : UInt64).toNat % 64 = 8 := rfl
          rw [shift, Nat.shiftRight_eq_div_pow]
          omega

/-- A short value is packed under the Base UUID. -/
theorem packBytes_base (v : UInt32) :
    (v.toUInt64 <<< 32) ||| 0x00001000 =
      packBytes [0, 0x10, 0, 0, LittleEndian.byte32 v 0, LittleEndian.byte32 v 1,
        LittleEndian.byte32 v 2, LittleEndian.byte32 v 3].reverse := by
  have value := v.toNat_lt
  have amount : (32 : UInt64).toNat % 64 = 32 := rfl
  have shift : (v.toNat <<< 32) % 2 ^ 64 = v.toNat <<< 32 := by
    rw [Nat.shiftLeft_eq]
    exact Nat.mod_eq_of_lt (by omega)
  apply UInt64.toNat_inj.mp
  rw [packBytes_toNat (l := [0, 0x10, 0, 0, LittleEndian.byte32 v 0, LittleEndian.byte32 v 1,
      LittleEndian.byte32 v 2, LittleEndian.byte32 v 3]) (Nat.le_refl 8),
    UInt64.toNat_or, UInt64.toNat_shiftLeft, UInt32.toNat_toUInt64, amount, shift, Nat.or_comm,
    LittleEndian.or_shiftLeft (by decide)]
  simp only [List.map_cons, List.map_nil, Nat.ofDigits_cons, Nat.ofDigits_nil,
    LittleEndian.byte32_zero_toNat, LittleEndian.byte32_one_toNat, LittleEndian.byte32_two_toNat,
    LittleEndian.byte32_three_toNat]
  have base : (0x00001000 : UInt64).toNat = 4096 := rfl
  have zero : (0 : UInt8).toNat = 0 := rfl
  have ten : (0x10 : UInt8).toNat = 16 := rfl
  rw [base, zero, ten]
  omega

/-- The words of a short UUID are those of its expansion. -/
theorem denoted_base (v : UInt32) :
    GattUuid.denoted { uuid := ((v.toUInt64 <<< 32) ||| 0x00001000, 0x800000805F9B34FB) } =
      ESPBTUUID.expand v := by
  have high := wordBytes_packBytes (l := [0, 0x10, 0, 0, LittleEndian.byte32 v 0,
    LittleEndian.byte32 v 1, LittleEndian.byte32 v 2, LittleEndian.byte32 v 3]) (Nat.le_refl 8)
  rw [← packBytes_base] at high
  have low : wordBytes 8 0x800000805F9B34FB = [0xFB, 0x34, 0x9B, 0x5F, 0x80, 0, 0, 0x80] := by
    decide
  rw [GattUuid.denoted, if_neg (not_not.mpr rfl), low]
  exact congrArg ESPBTUUID.fromRaw (congrArg _ high)

theorem denoted_fill128bitUuidArray {u : ESPBTUUID} (len : u.len = 2 ∨ u.len = 4 ∨ u.len = 16) :
    GattUuid.denoted { uuid := fill128bitUuidArray u } = u.as128bit := by
  rcases len with two | four | full
  · rw [fill128bitUuidArray, if_neg (by rw [two]; decide), if_pos two, ESPBTUUID.as128bit,
      if_neg (by rw [two]; decide), if_pos two, ← UInt16.toUInt64_toUInt32]
    exact denoted_base _
  · rw [fill128bitUuidArray, if_neg (by rw [four]; decide), if_neg (by rw [four]; decide),
      ESPBTUUID.as128bit, if_neg (by rw [four]; decide), if_neg (by rw [four]; decide)]
    exact denoted_base _
  · have high := wordBytes_packBytes (l := u.raw.toList.drop 8) (by simp)
    have low := wordBytes_packBytes (l := u.raw.toList.take 8) (by simp)
    rw [fill128bitUuidArray, if_pos full, ESPBTUUID.as128bit_of_len full, GattUuid.denoted,
      if_neg (not_not.mpr rfl)]
    simp only [List.length_drop, List.length_take, Vector.length_toList] at high low
    simp only [Nat.reduceSub, Nat.reduceLeDiff, inf_of_le_left] at high low
    rw [high, low, List.take_append_drop, ESPBTUUID.fromRaw, ESPBTUUID.copyBytes_toList, ← full]

/-- A client cannot tell the short form of zero from a form that is left out. -/
theorem denoted_short (v : UInt32) :
    GattUuid.denoted { shortUuid := v } = ESPBTUUID.expand v ↔ v ≠ 0 := by
  constructor
  · rintro denoted rfl
    have low := congrArg (fun u => u.raw[0]) denoted
    exact absurd low (by decide)
  · intro nonzero
    exact if_pos nonzero

/-- **What is sent denotes the UUID**, unless it is the short form of zero. -/
theorem denoted_fillGattUuid {u : ESPBTUUID} (efficient : Bool)
    (len : u.len = 2 ∨ u.len = 4 ∨ u.len = 16) :
    (fillGattUuid u efficient).denoted = u.as128bit ↔
      ¬ (efficient = true ∧ u.shortValue = some 0) := by
  cases efficient with
  | false =>
      rw [fillGattUuid, if_pos (.inl rfl)]
      exact ⟨fun _ zero => Bool.noConfusion zero.1, fun _ => denoted_fill128bitUuidArray len⟩
  | true =>
      rcases len with two | four | full
      · have other : ¬ (true = false ∨ u.len = 16) := by rw [two]; decide
        rw [fillGattUuid, if_neg other, if_pos two, ESPBTUUID.as128bit,
          if_neg (by rw [two]; decide), if_pos two, denoted_short, ESPBTUUID.shortValue, if_pos two]
        simp
      · have other : ¬ (true = false ∨ u.len = 16) := by rw [four]; decide
        have more : u.len ≠ 2 := by rw [four]; decide
        rw [fillGattUuid, if_neg other, if_neg more, if_pos four, ESPBTUUID.as128bit,
          if_neg (by rw [four]; decide), if_neg more, denoted_short, ESPBTUUID.shortValue,
          if_neg more, if_pos four]
        simp
      · have none : u.shortValue = none := by
          rw [ESPBTUUID.shortValue, if_neg (by rw [full]; decide), if_neg (by rw [full]; decide)]
        rw [fillGattUuid, if_pos (.inr full), none]
        exact ⟨fun _ zero => absurd zero.2 (by simp),
          fun _ => denoted_fill128bitUuidArray (.inr (.inr full))⟩

/-! ## Messages -/

/-- The message of a descriptor says what it is. -/
def GattDescriptorMessage.Lists (m : GattDescriptorMessage) (d : DiscoveredDescriptor) : Prop :=
  m.uuid.denoted = d.uuid.as128bit ∧ m.handle = d.handle

def GattCharacteristicMessage.Lists (m : GattCharacteristicMessage)
    (chr : DiscoveredCharacteristic) : Prop :=
  m.uuid.denoted = chr.uuid.as128bit ∧ m.handle = chr.handle ∧ m.properties = chr.properties ∧
    m.descriptors.Forall₂ GattDescriptorMessage.Lists chr.descriptors

/-- The message has exactly the characteristics of the service, in order, and exactly their
descriptors, handles and properties. -/
def GattServiceMessage.Lists (m : GattServiceMessage) (svc : DiscoveredService) : Prop :=
  m.uuid.denoted = svc.uuid.as128bit ∧ m.handle = svc.startHandle ∧
    m.characteristics.Forall₂ GattCharacteristicMessage.Lists svc.characteristics

/-- Every UUID of a service. -/
def DiscoveredService.uuids (svc : DiscoveredService) : List ESPBTUUID :=
  svc.uuid :: svc.characteristics.flatMap fun chr => chr.uuid :: chr.descriptors.map (·.uuid)

/-- A UUID that is sent as the short form of zero. -/
def SentAsZero (efficient : Bool) (u : ESPBTUUID) : Prop :=
  efficient = true ∧ u.shortValue = some 0

/-- **The message of a service lists it** exactly if none of its UUIDs is sent as zero. -/
theorem lists_gattServiceMessage {svc : DiscoveredService} (efficient : Bool)
    (lens : ∀ u ∈ svc.uuids, u.len = 2 ∨ u.len = 4 ∨ u.len = 16) :
    (gattServiceMessage efficient svc).Lists svc ↔ ∀ u ∈ svc.uuids, ¬ SentAsZero efficient u := by
  have each : ∀ u ∈ svc.uuids, (fillGattUuid u efficient).denoted = u.as128bit ↔
      ¬ SentAsZero efficient u := fun u mem => denoted_fillGattUuid efficient (lens u mem)
  simp only [DiscoveredService.uuids, List.forall_mem_cons, List.forall_mem_flatMap,
    List.forall_mem_map] at each ⊢
  obtain ⟨own, chrs⟩ := each
  simp only [GattServiceMessage.Lists, gattServiceMessage, List.forall₂_map_left_iff,
    List.forall₂_same, GattCharacteristicMessage.Lists, GattDescriptorMessage.Lists, own,
    true_and, and_true]
  refine and_congr_right fun _ => forall₂_congr fun chr mem => ?_
  refine and_congr (chrs chr mem).1 (forall₂_congr fun d inside => ?_)
  exact (chrs chr mem).2 d inside

/-! ## Batches -/

/-- **A batch is a run of the services that remain**, and not an empty one if there are any. -/
theorem serviceBatch_eq (cfg : ProxyConfig) (efficient : Bool) (rest : List DiscoveredService)
    (batch : List GattServiceMessage) (size : Nat) :
    ∃ k ≤ rest.length, serviceBatch cfg efficient rest batch size =
        batch ++ (rest.take k).map (gattServiceMessage efficient) ∧
      (batch = [] → rest ≠ [] → 0 < k) := by
  induction rest generalizing batch size with
  | nil => exact ⟨0, Nat.le_refl 0, by simp [serviceBatch], fun _ some => absurd rfl some⟩
  | cons svc rest ih =>
      rw [serviceBatch]
      split
      · rename_i full
        exact ⟨0, Nat.zero_le _, by simp, fun empty => absurd empty full.1⟩
      · obtain ⟨k, bound, batched, -⟩ := ih (batch ++ [gattServiceMessage efficient svc])
          (size + cfg.serviceSize (gattServiceMessage efficient svc) + 1)
        refine ⟨k + 1, Nat.succ_le_succ bound, ?_, fun _ _ => Nat.succ_pos k⟩
        rw [batched, List.take_succ_cons, List.map_cons, List.append_assoc]
        rfl

end EsphomeHost

import EsphomeHost.Lib.Mask

/-!
# Frames of the CAN socket

What `send_message` writes for a frame, and what `read_message` makes of what it reads.  The
identifier and the flags of a frame share a word of the kernel's.

* `outgoing`, `incoming`: the two translations.
* `Repeats`: a frame of the kernel's is another one, written again.
* `frames_round_trip`: **a frame that is sent is read back, but for the bits it has too many; and a
  frame that is read is written again when it is sent**.
-/

namespace EsphomeHost

/-! ## Frames -/

/-- Of `canbus`; the data has `CAN_MAX_DATA_LENGTH` bytes. -/
structure Canbus.CanFrame where
  useExtendedId : Bool := false
  remoteTransmissionRequest : Bool := false
  canId : UInt32
  canDataLengthCode : UInt8
  data : Fin 8 → UInt8

/-- `struct can_frame`. -/
structure Linux.CanFrame where
  canId : UInt32 := 0
  canDlc : UInt8 := 0
  data : Fin 8 → UInt8 := fun _ => 0

inductive Canbus.Error
  | ok
  | fail
  | allTxBusy
  | failInit
  | failTx
  | noMsg
deriving DecidableEq

inductive Linux.Errno
  | EAGAIN
  | EWOULDBLOCK
  | EINTR
  | ENETDOWN
  | ENOBUFS
  | other (errno : Nat)
deriving DecidableEq

namespace SocketCAN

open Linux (Errno)
open Canbus (Error)

def CAN_EFF_FLAG : UInt32 := 0x80000000
def CAN_RTR_FLAG : UInt32 := 0x40000000
def CAN_ERR_FLAG : UInt32 := 0x20000000
def CAN_SFF_MASK : UInt32 := 0x7FF
def CAN_EFF_MASK : UInt32 := 0x1FFFFFFF

/-- `sizeof(struct can_frame)`. -/
def CAN_MTU : Nat := 16

def memcpy (dst src : Fin 8 → UInt8) (len : UInt8) : Fin 8 → UInt8 :=
  fun i => if i.val < len.toNat then src i else dst i

/-- A length code is at most the size of the data. -/
def clamped (len : UInt8) : UInt8 := if len > 8 then 8 else len

/-- The `cf` of `send_message`. -/
def outgoing (frame : Canbus.CanFrame) : Linux.CanFrame :=
  let canId :=
    if frame.useExtendedId then frame.canId &&& CAN_EFF_MASK else frame.canId &&& CAN_SFF_MASK
  let canId := if frame.useExtendedId then canId ||| CAN_EFF_FLAG else canId
  let canId := if frame.remoteTransmissionRequest then canId ||| CAN_RTR_FLAG else canId
  let len := clamped frame.canDataLengthCode
  { canId, canDlc := len, data := memcpy (fun _ => 0) frame.data len }

/-- The result, and the frame that is written, given what `write` returns. -/
def sendMessage (socketFd : Int) (frame : Canbus.CanFrame) (ret : Except Errno Nat) :
    Error × Option Linux.CanFrame :=
  if socketFd < 0 then (.failInit, none)
  else
    match ret with
    | .error errno =>
        if errno = .ENOBUFS ∨ errno = .EAGAIN ∨ errno = .EWOULDBLOCK ∨ errno = .EINTR ∨
            errno = .ENETDOWN then (.allTxBusy, some (outgoing frame))
        else (.failTx, some (outgoing frame))
    | .ok _ => (.ok, some (outgoing frame))

/-- What `read_message` makes of a frame, over what was in `frame`. -/
def incoming (frame : Canbus.CanFrame) (cf : Linux.CanFrame) : Canbus.CanFrame :=
  let useExtendedId := cf.canId &&& CAN_EFF_FLAG != 0
  let remoteTransmissionRequest := cf.canId &&& CAN_RTR_FLAG != 0
  let canId := cf.canId &&& (if useExtendedId then CAN_EFF_MASK else CAN_SFF_MASK)
  let len := clamped cf.canDlc
  { useExtendedId, remoteTransmissionRequest, canId
    canDataLengthCode := len
    data := memcpy frame.data cf.data len }

/-- The result, and `frame`, given what `read` returns and puts into `cf`. -/
def readMessage (socketFd : Int) (frame : Canbus.CanFrame)
    (ret : Except Errno (Nat × Linux.CanFrame)) : Error × Canbus.CanFrame :=
  if socketFd < 0 then (.failInit, frame)
  else
    match ret with
    | .error errno =>
        if errno = .EAGAIN ∨ errno = .EWOULDBLOCK ∨ errno = .EINTR ∨ errno = .ENETDOWN then
          (.noMsg, frame)
        else (.fail, frame)
    | .ok (size, cf) =>
        if size ≠ CAN_MTU then (.noMsg, frame)
        else if cf.canId &&& CAN_ERR_FLAG ≠ 0 then (.noMsg, frame)
        else (.ok, incoming frame cf)

/-! ## What has to hold -/

/-- The bits of an identifier. -/
def idMask (extended : Bool) : UInt32 := if extended then CAN_EFF_MASK else CAN_SFF_MASK

/-- What can be sent of a frame: the bits of its identifier that its kind has, and of its data what
its length code tells; the rest is of another frame. -/
def trimmed (f rest : Canbus.CanFrame) : Canbus.CanFrame :=
  { f with
    canId := f.canId &&& idMask f.useExtendedId
    canDataLengthCode := if f.canDataLengthCode ≤ 8 then f.canDataLengthCode else 8
    data := fun i => if i.val < f.canDataLengthCode.toNat then f.data i else rest.data i }

/-- The length code is one of the data, and the identifier one of its kind. -/
structure WellFormed (f : Canbus.CanFrame) : Prop where
  length : f.canDataLengthCode ≤ 8
  id : f.canId ≤ idMask f.useExtendedId

namespace Word

/-- The parts of the word of the kernel's. -/
def isExtended (word : UInt32) : Bool := word &&& CAN_EFF_FLAG != 0

def identifier (word : UInt32) : UInt32 := word &&& idMask (isExtended word)

def flags (word : UInt32) : UInt32 := word &&& (CAN_EFF_FLAG ||| CAN_RTR_FLAG ||| CAN_ERR_FLAG)

end Word

open Word Mask

/-- The same frame: a word without other bits than those of its parts is the same.  The kernel
delivers lengths up to 8. -/
structure Repeats (cf sent : Linux.CanFrame) : Prop where
  identifier : identifier sent.canId = identifier cf.canId
  flags : flags sent.canId = flags cf.canId
  word : sent.canId = Word.identifier cf.canId ||| Word.flags cf.canId
  length : cf.canDlc ≤ 8 → sent.canDlc = cf.canDlc
  data : ∀ i : Fin 8, i.val < cf.canDlc.toNat → sent.data i = cf.data i

theorem incoming_eq (rest : Canbus.CanFrame) (cf : Linux.CanFrame) : incoming rest cf =
    { useExtendedId := isExtended cf.canId
      remoteTransmissionRequest := cf.canId &&& CAN_RTR_FLAG != 0
      canId := identifier cf.canId
      canDataLengthCode := clamped cf.canDlc
      data := memcpy rest.data cf.data (clamped cf.canDlc) } := rfl

/-! ## Words -/

/-- The flags of a frame. -/
def flagsOf (extended remote : Bool) : UInt32 :=
  (if extended then CAN_EFF_FLAG else 0) ||| (if remote then CAN_RTR_FLAG else 0)

theorem outgoing_canId (f : Canbus.CanFrame) : (outgoing f).canId =
    (f.canId &&& idMask f.useExtendedId) |||
      flagsOf f.useExtendedId f.remoteTransmissionRequest := by
  unfold outgoing idMask flagsOf
  cases f.useExtendedId <;> cases f.remoteTransmissionRequest <;> simp [UInt32.or_assoc]

/-- What the parts of a word that is put together are. -/
theorem parts_of_word (x : UInt32) (extended remote : Bool) :
    let word := (x &&& idMask extended) ||| flagsOf extended remote
    isExtended word = extended ∧ (word &&& CAN_RTR_FLAG != 0) = remote ∧
      word &&& CAN_ERR_FLAG = 0 ∧ word &&& idMask extended = x &&& idMask extended ∧
      flags word = flagsOf extended remote := by
  have apart : ∀ e r : Bool, flagsOf e r &&& idMask e = 0 ∧ idMask e &&& CAN_EFF_FLAG = 0 ∧
      idMask e &&& CAN_RTR_FLAG = 0 ∧ idMask e &&& CAN_ERR_FLAG = 0 ∧
      idMask e &&& (CAN_EFF_FLAG ||| CAN_RTR_FLAG ||| CAN_ERR_FLAG) = 0 := by decide
  have read : ∀ e r : Bool, (flagsOf e r &&& CAN_EFF_FLAG != 0) = e ∧
      (flagsOf e r &&& CAN_RTR_FLAG != 0) = r ∧ flagsOf e r &&& CAN_ERR_FLAG = 0 ∧
      flagsOf e r &&& (CAN_EFF_FLAG ||| CAN_RTR_FLAG ||| CAN_ERR_FLAG) = flagsOf e r := by decide
  obtain ⟨id, eff, rtr, err, all⟩ := apart extended remote
  obtain ⟨eff', rtr', err', all'⟩ := read extended remote
  refine ⟨?_, ?_, ?_, field_and id, ?_⟩
  · rw [isExtended, and_of_apart eff, eff']
  · rw [and_of_apart rtr, rtr']
  · rw [and_of_apart err, err']
  · rw [flags, and_of_apart all, all']

/-! ## Both ways -/

theorem clamped_eq (len : UInt8) : clamped len = if len ≤ 8 then len else 8 := by
  unfold clamped
  by_cases short : len ≤ 8
  · rw [if_pos short, if_neg (UInt8.not_lt.mpr short)]
  · rw [if_neg short, if_pos (UInt8.not_le.mp short)]

theorem toNat_clamped (len : UInt8) : (clamped len).toNat = min len.toNat 8 := by
  rw [clamped_eq]
  split <;> rename_i short <;> rw [UInt8.le_iff_toNat_le] at short
  · exact (min_eq_left short).symm
  · exact (min_eq_right (Nat.le_of_not_le short)).symm

theorem clamped_clamped (len : UInt8) : clamped (clamped len) = clamped len := by
  refine UInt8.toNat_inj.mp ?_
  rw [toNat_clamped, toNat_clamped]
  omega

/-- A copy of a copy. -/
theorem memcpy_memcpy (a b c : Fin 8 → UInt8) (len : UInt8) :
    memcpy a (memcpy b c len) len = memcpy a c len := by
  funext i
  unfold memcpy
  split <;> rfl

theorem memcpy_clamped (a b : Fin 8 → UInt8) (len : UInt8) :
    memcpy a b (clamped len) = memcpy a b len := by
  funext i
  unfold memcpy
  rw [toNat_clamped]
  exact if_congr (by omega) rfl rfl

/-- **A frame that is sent is read back.** -/
theorem incoming_outgoing (f rest : Canbus.CanFrame) :
    incoming rest (outgoing f) = trimmed f rest := by
  obtain ⟨extended, remote, -, id, -⟩ :=
    parts_of_word f.canId f.useExtendedId f.remoteTransmissionRequest
  rw [← outgoing_canId] at extended remote id
  have data : memcpy rest.data (outgoing f).data (clamped (outgoing f).canDlc) =
      memcpy rest.data f.data f.canDataLengthCode := by
    rw [outgoing, clamped_clamped, memcpy_memcpy, memcpy_clamped]
  have length : clamped (outgoing f).canDlc = clamped f.canDataLengthCode :=
    clamped_clamped f.canDataLengthCode
  rw [incoming_eq, identifier, extended, remote, id, data, length, clamped_eq]
  rfl

/-- **A frame that is read is written again.** -/
theorem outgoing_incoming (rest : Canbus.CanFrame) {cf : Linux.CanFrame}
    (noError : cf.canId &&& CAN_ERR_FLAG = 0) : Repeats cf (outgoing (incoming rest cf)) := by
  have extendedBit := ite_of_and_bit (b := CAN_EFF_FLAG) (i := 31) (by decide) cf.canId
  have remoteBit := ite_of_and_bit (b := CAN_RTR_FLAG) (i := 30) (by decide) cf.canId
  have bits : flagsOf (isExtended cf.canId) (cf.canId &&& CAN_RTR_FLAG != 0) = flags cf.canId := by
    unfold flagsOf flags isExtended
    rw [← extendedBit, ← remoteBit, and_or, and_or, noError, UInt32.or_zero]
  have twice : identifier cf.canId &&& idMask (isExtended cf.canId) = identifier cf.canId := by
    rw [identifier, UInt32.and_assoc, UInt32.and_self]
  have word : (outgoing (incoming rest cf)).canId = identifier cf.canId ||| flags cf.canId := by
    rw [outgoing_canId, incoming_eq, twice, bits]
  obtain ⟨extended, -, -, id, all⟩ :=
    parts_of_word cf.canId (isExtended cf.canId) (cf.canId &&& CAN_RTR_FLAG != 0)
  rw [bits, ← identifier] at extended id all
  refine ⟨?_, ?_, word, fun short => ?_, fun i inside => ?_⟩
  · rw [word, identifier, extended, id]
  · rw [word, all]
  · exact (clamped_clamped cf.canDlc).trans ((clamped_eq _).trans (if_pos short))
  · have data : (outgoing (incoming rest cf)).data = memcpy (fun _ => 0) cf.data cf.canDlc := by
      rw [incoming_eq, outgoing]
      dsimp only
      rw [clamped_clamped, memcpy_memcpy, memcpy_clamped]
    rw [data, memcpy, if_pos inside]

theorem wellFormed_incoming (rest : Canbus.CanFrame) (cf : Linux.CanFrame) :
    WellFormed (incoming rest cf) := by
  constructor
  · rw [UInt8.le_iff_toNat_le]
    exact (toNat_clamped cf.canDlc).trans_le (Nat.min_le_right _ _)
  · rw [UInt32.le_iff_toNat_le, incoming_eq, identifier, UInt32.toNat_and]
    exact Nat.and_le_right

/-! ## The socket -/

/-- A frame is written to a socket that is open, whatever comes of it. -/
theorem sendMessage_frame {socketFd : Int} (isOpen : 0 ≤ socketFd) (f : Canbus.CanFrame)
    (ret : Except Errno Nat) : (sendMessage socketFd f ret).2 = some (outgoing f) := by
  unfold sendMessage
  rw [if_neg (Int.not_lt.mpr isOpen)]
  cases ret with
  | ok n => rfl
  | error errno =>
      dsimp only
      split <;> rfl

theorem readMessage_frame {socketFd : Int} (isOpen : 0 ≤ socketFd) (rest : Canbus.CanFrame)
    {cf : Linux.CanFrame} (noError : cf.canId &&& CAN_ERR_FLAG = 0) :
    readMessage socketFd rest (.ok (CAN_MTU, cf)) = (.ok, incoming rest cf) := by
  unfold readMessage
  rw [if_neg (Int.not_lt.mpr isOpen)]
  dsimp only
  rw [if_neg (not_not_intro rfl), if_neg (not_not_intro noError)]

/-- Only a whole frame without an error is taken. -/
theorem frame_of_readMessage {socketFd : Int} {rest f : Canbus.CanFrame}
    {ret : Except Errno (Nat × Linux.CanFrame)} (read : readMessage socketFd rest ret = (.ok, f)) :
    ∃ cf, ret = .ok (CAN_MTU, cf) ∧ cf.canId &&& CAN_ERR_FLAG = 0 ∧ f = incoming rest cf := by
  unfold readMessage at read
  split at read
  · cases read
  · cases ret with
    | error errno =>
        dsimp only at read
        split at read <;> cases read
    | ok r =>
        obtain ⟨size, cf⟩ := r
        dsimp only at read
        split at read
        · cases read
        · rename_i whole
          split at read
          · cases read
          · rename_i noError
            exact ⟨cf, by rw [not_not.mp whole], not_not.mp noError, (Prod.mk.inj read).2.symm⟩

/-- **A frame that is sent is written, and read back but for the bits and bytes that it has too
many; what is read is a whole frame without an error, well formed, and written again when it is
sent.** -/
theorem frames_round_trip {socketFd peerFd : Int} (isOpen : 0 ≤ socketFd) (peerOpen : 0 ≤ peerFd)
    (rest : Canbus.CanFrame) :
    (∀ f ret, ∃ cf, (sendMessage socketFd f ret).2 = some cf ∧
      readMessage peerFd rest (.ok (CAN_MTU, cf)) = (.ok, trimmed f rest)) ∧
    ∀ ret f, readMessage peerFd rest ret = (.ok, f) →
      ∃ cf, ret = .ok (CAN_MTU, cf) ∧ cf.canId &&& CAN_ERR_FLAG = 0 ∧ WellFormed f ∧
        ∀ ret', ∃ sent, (sendMessage socketFd f ret').2 = some sent ∧ Repeats cf sent := by
  constructor
  · intro f ret
    have noError : (outgoing f).canId &&& CAN_ERR_FLAG = 0 := by
      rw [outgoing_canId]
      exact (parts_of_word f.canId f.useExtendedId f.remoteTransmissionRequest).2.2.1
    refine ⟨_, sendMessage_frame isOpen f ret, ?_⟩
    rw [readMessage_frame peerOpen rest noError, incoming_outgoing]
  · intro ret f read
    obtain ⟨cf, whole, noError, rfl⟩ := frame_of_readMessage read
    exact ⟨cf, whole, noError, wellFormed_incoming rest cf, fun ret' =>
      ⟨_, sendMessage_frame isOpen _ ret', outgoing_incoming rest noError⟩⟩

/-- A standard remote frame with bits and a length that it should not have. -/
def strayFrame : Canbus.CanFrame where
  remoteTransmissionRequest := true
  canId := 0xE0000123
  canDataLengthCode := 12
  data := fun i => 1 + i.val.toUInt8

theorem frames_round_trip_stray :
    (∃ cf, (sendMessage 3 strayFrame (.ok CAN_MTU)).2 = some cf ∧
      readMessage 4 strayFrame (.ok (CAN_MTU, cf)) = (.ok, trimmed strayFrame strayFrame)) ∧
    (trimmed strayFrame strayFrame).canId = 0x123 ∧
    (trimmed strayFrame strayFrame).canDataLengthCode = 8 :=
  ⟨(frames_round_trip (by decide) (by decide) strayFrame).1 strayFrame (.ok CAN_MTU), by decide,
    by decide⟩

end SocketCAN

end EsphomeHost

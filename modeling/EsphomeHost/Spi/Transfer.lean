import EsphomeHost.Lib.Memory

/-!
# Transfers on the SPI bus

`do_transfer_` exchanges a buffer with the device in messages of at most `SPI_CHUNK_MAX` bytes and
gives up at the first that is not performed.  Both buffers are memory of the caller, either may be
missing, and they may be the same.

* `exchangeMessages`: messages one after the other, as values.
* `doTransferFrom_eq`: the loop does to the memory what the messages do to their values, whatever of
  the buffers overlaps, as long as nothing is received into bytes that are still to be sent.
* `doTransfer_eq`: **for a device that does not see where a message ends a transfer is one exchange
  of the whole buffer**, up to the last message that was performed.
* `readArray_memory`: what `read_array`, which sends what it has zeroed, leaves in its buffer.
-/

namespace EsphomeHost.LinuxSpi

open Memory

/-- `spi::SPIBitOrder` -/
inductive BitOrder where
  | lsbFirst
  | msbFirst
deriving DecidableEq

/-- `spi::SPIMode` -/
inductive Mode where
  | mode0
  | mode1
  | mode2
  | mode3
deriving DecidableEq

/-- The members of `LinuxSPIDelegate` and of its base. -/
structure Delegate where
  fd : Int
  dataRate : UInt32
  bitOrder : BitOrder
  mode : Mode
  kernelMode : UInt8
  bitsPerWord : UInt8 := 8
deriving DecidableEq

/-- `struct spi_ioc_transfer` -/
structure IocTransfer where
  txBuf : Option Nat
  rxBuf : Option Nat
  len : UInt32
  speedHz : UInt32
  bitsPerWord : UInt8
  csChange : UInt8
deriving DecidableEq

variable {σ : Type}

/-- The device and its driver: what a byte does to the device, what the end of a message does, which
messages are performed, and what one that is not leaves of the device. -/
structure Driver (σ : Type) where
  exchange : σ → UInt8 → UInt8 × σ
  release : σ → σ
  performs : Nat → Bool
  spoil : σ → List UInt8 → σ

/-- The bytes received for the bytes of a message. -/
def Driver.exchangeAll (driver : Driver σ) : σ → List UInt8 → List UInt8 × σ
  | s, [] => ([], s)
  | s, b :: bs =>
      let first := driver.exchange s b
      let rest := driver.exchangeAll first.2 bs
      (first.1 :: rest.1, rest.2)

/-- The memory of the caller, the device, and the messages so far. -/
structure World (σ : Type) where
  memory : Nat → UInt8
  device : σ
  messages : List IocTransfer

/-- The bytes of a transmit buffer; without one zeros are sent. -/
def payload (memory : Nat → UInt8) (tx : Option Nat) (n : Nat) : List UInt8 :=
  match tx with
  | some p => load memory p n
  | none => List.replicate n 0

/-- What is received goes to the receive buffer, if there is one. -/
def received (memory : Nat → UInt8) (rx : Option Nat) (bytes : List UInt8) : Nat → UInt8 :=
  match rx with
  | some p => store memory p bytes
  | none => memory

/-- `SPI_IOC_MESSAGE(1)`: the number of bytes, or an error with nothing received. -/
def ioctlMessage (driver : Driver σ) (x : IocTransfer) (w : World σ) : Int × World σ :=
  let sent := payload w.memory x.txBuf x.len.toNat
  if driver.performs w.messages.length then
    let answer := driver.exchangeAll w.device sent
    (x.len.toNat, ⟨received w.memory x.rxBuf answer.1, driver.release answer.2, w.messages ++ [x]⟩)
  else (-1, ⟨w.memory, driver.spoil w.device sent, w.messages ++ [x]⟩)

def SPI_CHUNK_MAX : Nat := 4096

/-- The message of a chunk. -/
def chunkMessage (d : Delegate) (tx rx : Option Nat) (off chunk : Nat) : IocTransfer where
  txBuf := tx.map (· + off)
  rxBuf := rx.map (· + off)
  len := UInt32.ofNat chunk
  speedHz := d.dataRate
  bitsPerWord := d.bitsPerWord
  csChange := 0

/-- The loop of `do_transfer_` from an offset on. -/
def doTransferFrom (driver : Driver σ) (d : Delegate) (tx rx : Option Nat) (length off : Nat)
    (w : World σ) : World σ :=
  if off < length then
    let chunk := min SPI_CHUNK_MAX (length - off)
    let (rc, w) := ioctlMessage driver (chunkMessage d tx rx off chunk) w
    if rc < (chunk : Int) then w
    else doTransferFrom driver d tx rx length (off + SPI_CHUNK_MAX) w
  else w
termination_by length - off
decreasing_by
  rw [SPI_CHUNK_MAX]
  omega

def doTransfer (driver : Driver σ) (d : Delegate) (tx rx : Option Nat) (length : Nat)
    (w : World σ) : World σ :=
  if d.fd < 0 ∨ length = 0 then w else doTransferFrom driver d tx rx length 0 w

/-! ## Messages as values -/

/-- What the messages receive, the device behind them and how many of them there are. -/
def exchangeMessages (driver : Driver σ) : Nat → σ → List (List UInt8) → List UInt8 × σ × Nat
  | _, s, [] => ([], s, 0)
  | k, s, c :: cs =>
      if driver.performs k then
        let answer := driver.exchangeAll s c
        let rest := exchangeMessages driver (k + 1) (driver.release answer.2) cs
        (answer.1 ++ rest.1, rest.2.1, rest.2.2 + 1)
      else ([], driver.spoil s c, 1)

/-- A buffer in chunks. -/
def chunks (bytes : List UInt8) : List (List UInt8) :=
  if bytes = [] then [] else bytes.take SPI_CHUNK_MAX :: chunks (bytes.drop SPI_CHUNK_MAX)
termination_by bytes.length
decreasing_by
  rename_i some
  have long := List.length_pos_iff.mpr some
  rw [List.length_drop, SPI_CHUNK_MAX]
  omega

/-- The messages of a transfer, from an offset on. -/
def messagesFrom (d : Delegate) (tx rx : Option Nat) (length off : Nat) : List IocTransfer :=
  if off < length then
    chunkMessage d tx rx off (min SPI_CHUNK_MAX (length - off)) ::
      messagesFrom d tx rx length (off + SPI_CHUNK_MAX)
  else []
termination_by length - off
decreasing_by
  rw [SPI_CHUNK_MAX]
  omega

/-- Nothing is received into bytes that are still to be sent. -/
def Apart (tx rx : Option Nat) (length : Nat) : Prop :=
  ∀ p ∈ tx, ∀ q ∈ rx, q ≤ p ∨ p + length ≤ q

variable {driver : Driver σ} {d : Delegate} {tx rx : Option Nat} {length off : Nat}
variable {w : World σ} {s : σ} {bs cs : List UInt8}

@[simp] theorem length_exchangeAll : (driver.exchangeAll s bs).1.length = bs.length := by
  induction bs generalizing s with
  | nil => rfl
  | cons b bs ih => rw [Driver.exchangeAll, List.length_cons, ih, List.length_cons]

theorem exchangeAll_append : driver.exchangeAll s (bs ++ cs) =
    ((driver.exchangeAll s bs).1 ++ (driver.exchangeAll (driver.exchangeAll s bs).2 cs).1,
      (driver.exchangeAll (driver.exchangeAll s bs).2 cs).2) := by
  induction bs generalizing s with
  | nil => rfl
  | cons b bs ih =>
      rw [List.cons_append, Driver.exchangeAll, ih]
      rfl

@[simp] theorem length_payload {memory : Nat → UInt8} : (payload memory tx length).length =
    length := by
  cases tx with
  | none => exact List.length_replicate
  | some p => exact length_load

/-- The rest of a buffer behind a first part of it. -/
theorem payload_add {memory : Nat → UInt8} (n k : Nat) : payload memory (tx.map (· + off)) (n + k) =
    payload memory (tx.map (· + off)) n ++ payload memory (tx.map (· + (off + n))) k := by
  cases tx with
  | none => exact List.replicate_append_replicate.symm
  | some p =>
      rw [Option.map_some, Option.map_some, ← Nat.add_assoc]
      exact load_add

/-- What has been received is not sent. -/
theorem payload_received {memory : Nat → UInt8} (apart : Apart tx rx length) (n : Nat)
    (fits : off + bs.length + n ≤ length) :
    payload (received memory (rx.map (· + off)) bs) (tx.map (· + (off + bs.length))) n =
      payload memory (tx.map (· + (off + bs.length))) n := by
  cases rx with
  | none => rfl
  | some q =>
      cases tx with
      | none => rfl
      | some p =>
          rcases apart p rfl q rfl with before | behind
          · have low : q + off + bs.length ≤ p + (off + bs.length) := by omega
            exact load_store_before low
          · have high : p + (off + bs.length) + n ≤ q + off := by omega
            exact load_store_behind high

theorem received_received {memory : Nat → UInt8} :
    received (received memory (rx.map (· + off)) bs) (rx.map (· + (off + bs.length))) cs =
      received memory (rx.map (· + off)) (bs ++ cs) := by
  cases rx with
  | none => rfl
  | some q =>
      simp only [received, Option.map_some, ← Nat.add_assoc]
      exact store_append

theorem chunks_nil : chunks [] = [] := by
  rw [chunks, if_pos rfl]

theorem chunks_of_ne_nil (some : bs ≠ []) :
    chunks bs = bs.take SPI_CHUNK_MAX :: chunks (bs.drop SPI_CHUNK_MAX) := by
  rw [chunks, if_neg some]

theorem chunks_of_short (some : bs ≠ []) (short : bs.length ≤ SPI_CHUNK_MAX) :
    chunks bs = [bs] := by
  rw [chunks_of_ne_nil some, List.take_of_length_le short, List.drop_of_length_le short, chunks_nil]

theorem chunks_append (full : bs.length = SPI_CHUNK_MAX) : chunks (bs ++ cs) = bs :: chunks cs := by
  have some : bs ++ cs ≠ [] := by
    intro empty
    rw [(List.append_eq_nil_iff.mp empty).1] at full
    cases full
  rw [chunks_of_ne_nil some, List.take_left' full, List.drop_left' full]

theorem doTransferFrom_done (done : length ≤ off) :
    doTransferFrom driver d tx rx length off w = w := by
  rw [doTransferFrom, if_neg (by omega)]

/-- One message. -/
theorem ioctlMessage_chunk {chunk : Nat} (small : chunk ≤ SPI_CHUNK_MAX) :
    ioctlMessage driver (chunkMessage d tx rx off chunk) w =
      let sent := payload w.memory (tx.map (· + off)) chunk
      if driver.performs w.messages.length then
        ((chunk : Int), ⟨received w.memory (rx.map (· + off)) (driver.exchangeAll w.device sent).1,
          driver.release (driver.exchangeAll w.device sent).2,
          w.messages ++ [chunkMessage d tx rx off chunk]⟩)
      else (-1, ⟨w.memory, driver.spoil w.device sent,
        w.messages ++ [chunkMessage d tx rx off chunk]⟩) := by
  have size : (chunkMessage d tx rx off chunk).len.toNat = chunk := by
    rw [chunkMessage, UInt32.toNat_ofNat_of_lt']
    have word : UInt32.size = 4294967296 := rfl
    rw [SPI_CHUNK_MAX] at small
    omega
  rw [ioctlMessage, size]
  rfl

theorem doTransferFrom_step (inside : off < length) :
    doTransferFrom driver d tx rx length off w =
      let chunk := min SPI_CHUNK_MAX (length - off)
      let sent := payload w.memory (tx.map (· + off)) chunk
      let answer := driver.exchangeAll w.device sent
      if driver.performs w.messages.length then
        doTransferFrom driver d tx rx length (off + SPI_CHUNK_MAX)
          ⟨received w.memory (rx.map (· + off)) answer.1, driver.release answer.2,
            w.messages ++ [chunkMessage d tx rx off chunk]⟩
      else ⟨w.memory, driver.spoil w.device sent,
        w.messages ++ [chunkMessage d tx rx off chunk]⟩ := by
  rw [doTransferFrom, if_pos inside]
  simp only [ioctlMessage_chunk (Nat.min_le_left _ _)]
  cases driver.performs w.messages.length with
  | true => simp only [if_true, Int.lt_irrefl, if_false]
  | false =>
      have short : (-1 : Int) < (min SPI_CHUNK_MAX (length - off) : Nat) := by omega
      simp only [Bool.false_eq_true, if_false, short, if_true]

/-- Every message has the rate and the word size of the delegate. -/
theorem messages_doTransferFrom : ∃ xs, (doTransferFrom driver d tx rx length off w).messages =
      w.messages ++ xs ∧ ∀ x ∈ xs, x.speedHz = d.dataRate ∧ x.bitsPerWord = d.bitsPerWord := by
  induction rest : length - off using Nat.strongRecOn generalizing off w with
  | _ n ih =>
      by_cases inside : off < length
      · rw [doTransferFrom_step inside]
        cases driver.performs w.messages.length with
        | false =>
            simp only [Bool.false_eq_true, if_false]
            exact ⟨_, rfl, List.forall_mem_singleton.mpr ⟨rfl, rfl⟩⟩
        | true =>
            simp only [if_true]
            obtain ⟨xs, later, all⟩ := @ih (length - (off + SPI_CHUNK_MAX))
              (by rw [SPI_CHUNK_MAX]; omega) (off + SPI_CHUNK_MAX) _ rfl
            rw [later, List.append_assoc, List.singleton_append]
            exact ⟨_, rfl, List.forall_mem_cons.mpr ⟨⟨rfl, rfl⟩, all⟩⟩
      · rw [doTransferFrom_done (by omega)]
        exact ⟨[], (List.append_nil _).symm, nofun⟩

theorem messages_doTransfer : ∃ xs, (doTransfer driver d tx rx length w).messages =
    w.messages ++ xs ∧ ∀ x ∈ xs, x.speedHz = d.dataRate ∧ x.bitsPerWord = d.bitsPerWord := by
  rw [doTransfer]
  split
  · exact ⟨[], (List.append_nil _).symm, nofun⟩
  · exact messages_doTransferFrom

/-- What a transfer from an offset on makes of the world. -/
def afterMessages (driver : Driver σ) (d : Delegate) (tx rx : Option Nat) (length off : Nat)
    (w : World σ) : World σ :=
  let r := exchangeMessages driver w.messages.length w.device
    (chunks (payload w.memory (tx.map (· + off)) (length - off)))
  ⟨received w.memory (rx.map (· + off)) r.1, r.2.1,
    w.messages ++ (messagesFrom d tx rx length off).take r.2.2⟩

theorem chunks_payload {memory : Nat → UInt8} (inside : off < length) :
    chunks (payload memory (tx.map (· + off)) (length - off)) =
      payload memory (tx.map (· + off)) (min SPI_CHUNK_MAX (length - off)) ::
        chunks (payload memory (tx.map (· + (off + SPI_CHUNK_MAX)))
          (length - (off + SPI_CHUNK_MAX))) := by
  by_cases last : length - off ≤ SPI_CHUNK_MAX
  · have none : length - (off + SPI_CHUNK_MAX) = 0 := by omega
    have empty : payload memory (tx.map (· + (off + SPI_CHUNK_MAX))) 0 = [] :=
      List.length_eq_zero_iff.mp length_payload
    rw [Nat.min_eq_right last, none, empty, chunks_nil]
    refine chunks_of_short (List.ne_nil_of_length_pos ?_) ?_ <;> rw [length_payload] <;> omega
  · have split : length - off = SPI_CHUNK_MAX + (length - (off + SPI_CHUNK_MAX)) := by omega
    rw [Nat.min_eq_left (by omega), split, payload_add, chunks_append length_payload]

theorem received_nil {memory : Nat → UInt8} : received memory rx [] = memory := by
  cases rx with
  | none => rfl
  | some q => exact store_nil

/-- A chunk has its full size or is the last. -/
theorem payload_behind {memory : Nat → UInt8} (apart : Apart tx rx length) (inside : off < length)
    (size : bs.length = (payload memory (tx.map (· + off))
      (min SPI_CHUNK_MAX (length - off))).length) :
    payload (received memory (rx.map (· + off)) bs) (tx.map (· + (off + SPI_CHUNK_MAX)))
        (length - (off + SPI_CHUNK_MAX)) =
      payload memory (tx.map (· + (off + SPI_CHUNK_MAX))) (length - (off + SPI_CHUNK_MAX)) := by
  rw [length_payload] at size
  by_cases last : length - off ≤ SPI_CHUNK_MAX
  · have none : length - (off + SPI_CHUNK_MAX) = 0 := by omega
    rw [none, List.length_eq_zero_iff.mp length_payload, List.length_eq_zero_iff.mp length_payload]
  · have full : bs.length = SPI_CHUNK_MAX := by omega
    rw [← full]
    exact payload_received apart _ (by omega)

theorem received_behind {memory : Nat → UInt8}
    (size : bs.length = min SPI_CHUNK_MAX (length - off))
    (done : length ≤ off + SPI_CHUNK_MAX → cs = []) :
    received (received memory (rx.map (· + off)) bs) (rx.map (· + (off + SPI_CHUNK_MAX))) cs =
      received memory (rx.map (· + off)) (bs ++ cs) := by
  by_cases last : length ≤ off + SPI_CHUNK_MAX
  · rw [done last, List.append_nil, received_nil]
  · have full : bs.length = SPI_CHUNK_MAX := by omega
    rw [← full]
    exact received_received

theorem received_of_done {memory : Nat → UInt8} (k : Nat) (s : σ) (done : length ≤ off) :
    (exchangeMessages driver k s (chunks (payload memory tx (length - off)))).1 = [] := by
  have none : length - off = 0 := by omega
  rw [none, List.length_eq_zero_iff.mp length_payload, chunks_nil]
  rfl

theorem doTransferFrom_eq (apart : Apart tx rx length) :
    doTransferFrom driver d tx rx length off w = afterMessages driver d tx rx length off w := by
  induction rest : length - off using Nat.strongRecOn generalizing off w with
  | _ n ih =>
      by_cases inside : off < length
      · rw [doTransferFrom_step inside, afterMessages, chunks_payload inside, exchangeMessages,
          messagesFrom, if_pos inside]
        cases performed : driver.performs w.messages.length with
        | false =>
            simp only [Bool.false_eq_true, if_false, received_nil, List.take_succ_cons,
              List.take_zero]
        | true =>
            simp only [if_true]
            rw [ih (length - (off + SPI_CHUNK_MAX)) (by rw [SPI_CHUNK_MAX]; omega) rfl,
              afterMessages, payload_behind apart inside length_exchangeAll,
              received_behind (length_exchangeAll.trans length_payload) (received_of_done _ _),
              List.length_append, List.length_singleton, List.take_succ_cons, List.append_assoc,
              List.singleton_append]
      · have none : length - off = 0 := by omega
        have empty : payload w.memory (tx.map (· + off)) 0 = [] :=
          List.length_eq_zero_iff.mp length_payload
        rw [doTransferFrom_done (by omega), afterMessages, none, empty, chunks_nil,
          exchangeMessages, received_nil, List.take_zero, List.append_nil]

/-! ## A device that does not see the messages -/

/-- How many of the next `n` messages are performed before one is not. -/
def performed (driver : Driver σ) : Nat → Nat → Nat
  | _, 0 => 0
  | k, n + 1 => if driver.performs k then performed driver (k + 1) n + 1 else 0

theorem length_chunks (bs : List UInt8) :
    (chunks bs).length = (bs.length + SPI_CHUNK_MAX - 1) / SPI_CHUNK_MAX := by
  induction size : bs.length using Nat.strongRecOn generalizing bs with
  | _ n ih =>
      by_cases empty : bs = []
      · subst empty size
        rw [chunks_nil, SPI_CHUNK_MAX]
        rfl
      · have long := List.length_pos_iff.mpr empty
        have rest : (bs.drop SPI_CHUNK_MAX).length = n - SPI_CHUNK_MAX := by
          rw [List.length_drop, size]
        rw [chunks_of_ne_nil empty, List.length_cons,
          ih _ (by rw [SPI_CHUNK_MAX]; omega) _ rest, SPI_CHUNK_MAX]
        omega

/-- A part of full size, or the last one, and a number of others. -/
theorem take_mul_succ {n g : Nat} (size : bs.length ≤ n) (full : bs.length < n → cs = []) :
    (bs ++ cs).take (n * (g + 1)) = bs ++ cs.take (n * g) := by
  rw [List.take_append, List.take_of_length_le (by rw [Nat.mul_succ]; omega)]
  rcases Nat.lt_or_eq_of_le size with short | same
  · rw [full short, List.take_nil, List.take_nil]
  · rw [same, Nat.mul_succ, Nat.add_sub_cancel]

/-- Messages to such a device are parts of one exchange. -/
theorem exchangeMessages_eq (indifferent : ∀ s, driver.release s = s) (k : Nat) (s : σ)
    (bs : List UInt8) :
    (exchangeMessages driver k s (chunks bs)).1 =
        (driver.exchangeAll s bs).1.take (SPI_CHUNK_MAX * performed driver k (chunks bs).length) ∧
      (exchangeMessages driver k s (chunks bs)).2.2 =
        min (performed driver k (chunks bs).length + 1) (chunks bs).length := by
  induction size : bs.length using Nat.strongRecOn generalizing bs k s with
  | _ n ih =>
      by_cases empty : bs = []
      · subst empty
        rw [chunks_nil]
        exact ⟨rfl, rfl⟩
      · have long := List.length_pos_iff.mpr empty
        rw [chunks_of_ne_nil empty, exchangeMessages, List.length_cons, performed]
        cases good : driver.performs k with
        | false =>
            simp only [Bool.false_eq_true, if_false, Nat.mul_zero, List.take_zero, true_and]
            omega
        | true =>
            simp only [if_true]
            have shorter : (bs.drop SPI_CHUNK_MAX).length < n := by
              rw [List.length_drop, SPI_CHUNK_MAX]
              omega
            obtain ⟨bytes, count⟩ := ih _ shorter (k + 1)
              (driver.exchangeAll s (bs.take SPI_CHUNK_MAX)).2 (bs.drop SPI_CHUNK_MAX) rfl
            rw [indifferent, bytes, count]
            refine ⟨?_, by omega⟩
            have parts : driver.exchangeAll s bs =
                driver.exchangeAll s (bs.take SPI_CHUNK_MAX ++ bs.drop SPI_CHUNK_MAX) := by
              rw [List.take_append_drop]
            have first : (driver.exchangeAll s (bs.take SPI_CHUNK_MAX)).1.length =
                min SPI_CHUNK_MAX bs.length := by
              rw [length_exchangeAll, List.length_take]
            rw [parts, exchangeAll_append, take_mul_succ (by omega) fun short => ?_]
            rw [List.drop_of_length_le (by omega)]
            rfl

theorem doTransfer_of_open (opened : 0 ≤ d.fd) :
    doTransfer driver d tx rx length w = doTransferFrom driver d tx rx length 0 w := by
  rw [doTransfer]
  split
  case isTrue nothing =>
    have none : length ≤ 0 := by omega
    exact (doTransferFrom_done none).symm
  case isFalse some => rfl

theorem map_add_zero (p : Option Nat) : p.map (· + 0) = p := by
  cases p <;> rfl

theorem memory_afterMessages (indifferent : ∀ s, driver.release s = s) :
    (afterMessages driver d tx rx length 0 w).memory =
      received w.memory rx ((driver.exchangeAll w.device (payload w.memory tx length)).1.take
        (SPI_CHUNK_MAX * performed driver w.messages.length
          ((length + SPI_CHUNK_MAX - 1) / SPI_CHUNK_MAX))) := by
  have bytes := (exchangeMessages_eq indifferent w.messages.length w.device
    (payload w.memory tx length)).1
  rw [length_chunks, length_payload] at bytes
  rw [afterMessages, map_add_zero, map_add_zero, Nat.sub_zero, bytes]

theorem messages_afterMessages (indifferent : ∀ s, driver.release s = s) :
    (afterMessages driver d tx rx length 0 w).messages =
      w.messages ++ (messagesFrom d tx rx length 0).take
        (min (performed driver w.messages.length
          ((length + SPI_CHUNK_MAX - 1) / SPI_CHUNK_MAX) + 1)
            ((length + SPI_CHUNK_MAX - 1) / SPI_CHUNK_MAX)) := by
  have count := (exchangeMessages_eq indifferent w.messages.length w.device
    (payload w.memory tx length)).2
  rw [length_chunks, length_payload] at count
  rw [afterMessages, map_add_zero, map_add_zero, Nat.sub_zero, count]

/-- **A transfer is one exchange of the whole buffer**, as far as the messages are performed, with
nothing sent after the first that is not. -/
theorem doTransfer_eq (driver : Driver σ) (indifferent : ∀ s, driver.release s = s) (d : Delegate)
    (opened : 0 ≤ d.fd) (tx rx : Option Nat) (length : Nat) (apart : Apart tx rx length)
    (w : World σ) :
    let n := (length + SPI_CHUNK_MAX - 1) / SPI_CHUNK_MAX
    let good := performed driver w.messages.length n
    let answer := (driver.exchangeAll w.device (payload w.memory tx length)).1
    (doTransfer driver d tx rx length w).memory =
        received w.memory rx (answer.take (SPI_CHUNK_MAX * good)) ∧
      (doTransfer driver d tx rx length w).messages =
        w.messages ++ (messagesFrom d tx rx length 0).take (min (good + 1) n) := by
  intro n good answer
  rw [doTransfer_of_open opened, doTransferFrom_eq apart]
  exact ⟨memory_afterMessages indifferent, messages_afterMessages indifferent⟩

/-- A device that answers with what it is sent, and a buffer of two messages. -/
def echo : Driver Unit where
  exchange _ b := (b, ())
  release s := s
  performs _ := true
  spoil s _ := s

def echoDelegate : Delegate where
  fd := 3
  dataRate := 1000000
  bitOrder := .msbFirst
  mode := .mode0
  kernelMode := 0

def echoWorld : World Unit := ⟨fun a => UInt8.ofNat a, (), []⟩

theorem doTransfer_echo :
    let answer := (echo.exchangeAll () (payload echoWorld.memory (some 0) 5000)).1
    (doTransfer echo echoDelegate (some 0) (some 0) 5000 echoWorld).memory =
        received echoWorld.memory (some 0) (answer.take (SPI_CHUNK_MAX * performed echo 0 2)) ∧
      (doTransfer echo echoDelegate (some 0) (some 0) 5000 echoWorld).messages =
        echoWorld.messages ++ (messagesFrom echoDelegate (some 0) (some 0) 5000 0).take
          (min (performed echo 0 2 + 1) 2) := by
  refine doTransfer_eq echo (fun _ => rfl) echoDelegate (by decide) (some 0) (some 0) 5000 ?_
    echoWorld
  rintro p same q same'
  cases same
  cases same'
  exact .inl (Nat.le_refl _)

/-! ## The methods of a delegate -/

/-- `transfer(uint8_t)`, with its two variables at an address of the stack. -/
def transferByte (driver : Driver σ) (d : Delegate) (stack : Nat) (data : UInt8) (w : World σ) :
    UInt8 × World σ :=
  let w := doTransfer driver d (some stack) (some (stack + 1)) 1
    { w with memory := store w.memory stack [data, 0] }
  (w.memory (stack + 1), w)

def transferInPlace (driver : Driver σ) (d : Delegate) (ptr length : Nat) (w : World σ) : World σ :=
  doTransfer driver d (some ptr) (some ptr) length w

def transferBuffers (driver : Driver σ) (d : Delegate) (txbuf rxbuf : Option Nat) (length : Nat)
    (w : World σ) : World σ :=
  doTransfer driver d txbuf rxbuf length w

def writeArray (driver : Driver σ) (d : Delegate) (ptr length : Nat) (w : World σ) : World σ :=
  doTransfer driver d (some ptr) none length w

def readArray (driver : Driver σ) (d : Delegate) (ptr length : Nat) (w : World σ) : World σ :=
  doTransfer driver d (some ptr) (some ptr) length
    { w with memory := store w.memory ptr (List.replicate length 0) }

/-- The two bytes of `write16` in the order of the delegate. -/
def bytesOf16 (order : BitOrder) (data : UInt16) : List UInt8 :=
  match order with
  | .msbFirst => [(data >>> 8).toUInt8, data.toUInt8]
  | .lsbFirst => [data.toUInt8, (data >>> 8).toUInt8]

def write16 (driver : Driver σ) (d : Delegate) (stack : Nat) (data : UInt16) (w : World σ) :
    World σ :=
  doTransfer driver d (some stack) none 2
    { w with memory := store w.memory stack (bytesOf16 d.bitOrder data) }

/-- What is read is what the device answers to zeros, and zeros where it did not. -/
theorem readArray_memory (indifferent : ∀ s, driver.release s = s) (opened : 0 ≤ d.fd)
    (ptr length : Nat) (w : World σ) :
    let good := performed driver w.messages.length
      ((length + SPI_CHUNK_MAX - 1) / SPI_CHUNK_MAX)
    let answer := (driver.exchangeAll w.device (List.replicate length 0)).1.take
      (SPI_CHUNK_MAX * good)
    (readArray driver d ptr length w).memory =
      store w.memory ptr (answer ++ List.replicate (length - answer.length) 0) := by
  intro good answer
  have apart : Apart (some ptr) (some ptr) length := by
    rintro p same q same'
    cases same
    cases same'
    exact .inl (Nat.le_refl _)
  have zeros : load (store w.memory ptr (List.replicate length 0)) ptr length =
      List.replicate length 0 := by
    have loaded := @load_store_self _ w.memory ptr (List.replicate length 0)
    rwa [List.length_replicate] at loaded
  rw [readArray, doTransfer_of_open opened, doTransferFrom_eq apart,
    memory_afterMessages indifferent, payload, zeros]
  exact store_over.trans (by rw [List.drop_replicate])

end EsphomeHost.LinuxSpi

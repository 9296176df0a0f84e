import EsphomeHost.Lib.Machine
import EsphomeHost.Spi.Transfer

/-!
# The delegates of one SPI device file

All delegates of a bus share its file, and with it the mode that the kernel transfers in.  A
delegate programs its mode when its transaction begins; one that asks for LSB first of a controller
that has no such mode gives that up for good.  Where the controller does not have the clock mode
either, this is logged, and the transaction goes on in the mode that the file happens to have.

* `Modes`: what holds of the delegates, of the mode and of the messages in every run.
* `messages_in_mode`: **whatever transactions of whatever delegates follow each other, every message
  is sent in the mode of its delegate**, if the controller has that mode, and none gives up LSB
  first more than once.
-/

namespace EsphomeHost.LinuxSpi

open Memory

def SPI_CPHA : UInt8 := 1
def SPI_CPOL : UInt8 := 2
def SPI_LSB_FIRST : UInt8 := 8

def kernelModeFrom : Mode → UInt8
  | .mode0 => 0
  | .mode1 => SPI_CPHA
  | .mode2 => SPI_CPOL
  | .mode3 => SPI_CPOL ||| SPI_CPHA

/-- The mode that a delegate is made with. -/
def wantedMode (mode : Mode) (order : BitOrder) : UInt8 :=
  match order with
  | .lsbFirst => kernelModeFrom mode ||| SPI_LSB_FIRST
  | .msbFirst => kernelModeFrom mode

/-- `LinuxSPIDelegate::LinuxSPIDelegate` -/
def Delegate.make (fd : Int) (dataRate : UInt32) (order : BitOrder) (mode : Mode) : Delegate where
  fd := fd
  dataRate := dataRate
  bitOrder := order
  mode := mode
  kernelMode := wantedMode mode order

/-- `SPI_IOC_WR_MODE`: a mode that the controller has is set, another one is refused. -/
def ioctlWrMode (accepts : UInt8 → Bool) (mode fdMode : UInt8) : Int × UInt8 :=
  if accepts mode then (0, mode) else (-1, fdMode)

/-- What `begin_transaction` logs. -/
inductive Warning where
  /-- "Controller rejected LSB-first; falling back to MSB-first (data may need byte-reversal)" -/
  | fallingBack
  /-- "SPI_IOC_WR_MODE failed" -/
  | wrModeFailed
deriving DecidableEq

/-- What `begin_transaction` does: the delegate, the mode of the file, and the warnings. -/
def Delegate.beginTransaction (accepts : UInt8 → Bool) (d : Delegate) (fdMode : UInt8) :
    Delegate × UInt8 × List Warning :=
  let (rc, fdMode) := if 0 ≤ d.fd then ioctlWrMode accepts d.kernelMode fdMode else (0, fdMode)
  if 0 ≤ d.fd ∧ rc < 0 then
    if d.kernelMode &&& SPI_LSB_FIRST ≠ 0 then
      let d := { d with kernelMode := d.kernelMode &&& ~~~SPI_LSB_FIRST }
      let (rc, fdMode) := ioctlWrMode accepts d.kernelMode fdMode
      (d, fdMode, .fallingBack :: if rc < 0 then [.wrModeFailed] else [])
    else (d, fdMode, [.wrModeFailed])
  else (d, fdMode, [])

/-- A call of a method that transfers; `stack` is where it keeps its local variables. -/
inductive Transfer where
  | byte (stack : Nat) (data : UInt8)
  | inPlace (ptr length : Nat)
  | buffers (txbuf rxbuf : Option Nat) (length : Nat)
  | writeArray (ptr length : Nat)
  | readArray (ptr length : Nat)
  | write16 (stack : Nat) (data : UInt16)

variable {σ : Type}

def Delegate.perform (driver : Driver σ) (d : Delegate) (w : World σ) : Transfer → World σ
  | .byte stack data => (transferByte driver d stack data w).2
  | .inPlace ptr length => transferInPlace driver d ptr length w
  | .buffers txbuf rxbuf length => transferBuffers driver d txbuf rxbuf length w
  | .writeArray ptr length => writeArray driver d ptr length w
  | .readArray ptr length => readArray driver d ptr length w
  | .write16 stack data => write16 driver d stack data w

/-- A transaction: whose it is, the mode that the file had before it, and whether it is logged that
its mode could not be set. -/
structure Transaction where
  delegate : Nat
  before : UInt8
  refused : Bool

/-- A message as the device gets it, with the mode of the file. -/
structure WireMessage where
  transaction : Transaction
  mode : UInt8
  message : IocTransfer

/-- The component with its bus and delegates, and the mode of the file.  `last`, `warnings` and
`wire` are for the record: the transaction that began last, what each delegate has logged, and all
messages. -/
structure Spi (σ : Type) where
  fd : Int
  failed : Bool
  bus : Option Int
  delegates : List Delegate
  fdMode : UInt8
  world : World σ
  last : Option Transaction
  warnings : List (Nat × Warning)
  wire : List WireMessage

inductive Operation where
  | setup (opened : Int)
  | getDelegate (dataRate : UInt32) (order : BitOrder) (mode : Mode)
  | beginTransaction (i : Nat)
  | transfer (i : Nat) (call : Transfer)

/-- `setup` with the descriptor that `open` returns. -/
def Spi.setup (s : Spi σ) (opened : Int) : Spi σ :=
  if opened < 0 then { s with fd := opened, failed := true }
  else { s with fd := opened, bus := some opened }

def Spi.step (accepts : UInt8 → Bool) (driver : Driver σ) (s : Spi σ) : Operation → Option (Spi σ)
  | .setup opened => if s.failed = false ∧ s.bus = none then some (s.setup opened) else none
  | .getDelegate dataRate order mode =>
      s.bus.map fun fd => { s with delegates := s.delegates ++ [.make fd dataRate order mode] }
  | .beginTransaction i =>
      s.delegates[i]?.map fun d =>
        let (d, fdMode, warnings) := d.beginTransaction accepts s.fdMode
        { s with
          delegates := s.delegates.set i d
          fdMode := fdMode
          last := some ⟨i, s.fdMode, .wrModeFailed ∈ warnings⟩
          warnings := s.warnings ++ warnings.map (i, ·) }
  | .transfer i call =>
      s.delegates[i]?.map fun d =>
        let world := d.perform driver s.world call
        { s with
          world := world
          wire := s.wire ++ s.last.toList.flatMap fun transaction =>
            (world.messages.drop s.world.messages.length).map fun x => ⟨transaction, s.fdMode, x⟩ }

def machine (accepts : UInt8 → Bool) (driver : Driver σ) : Machine (Spi σ) Operation where
  init s := s.failed = false ∧ s.bus = none ∧ s.delegates = [] ∧ s.last = none ∧ s.warnings = [] ∧
    s.wire = []
  step := Spi.step accepts driver

/-! ## The mode of a delegate -/

/-- The mode that is left of the one a delegate asks for: without LSB first, where that is
refused. -/
def effectiveMode (accepts : UInt8 → Bool) (mode : Mode) (order : BitOrder) : UInt8 :=
  if accepts (wantedMode mode order) then wantedMode mode order else kernelModeFrom mode

/-- A transfer belongs to the transaction that began last. -/
def Orderly (s : Spi σ) : Operation → Prop
  | .transfer i _ => s.last.map (·.delegate) = some i
  | _ => True

instance : ∀ (s : Spi σ) (op : Operation), Decidable (Orderly s op)
  | _, .transfer _ _ => inferInstanceAs (Decidable (_ = _))
  | _, .getDelegate _ _ _ => inferInstanceAs (Decidable True)
  | _, .setup _ => inferInstanceAs (Decidable True)
  | _, .beginTransaction _ => inferInstanceAs (Decidable True)

/-- The mode that a transaction of the delegate is in: its own, if the controller has it; otherwise
the one there was, and that has been logged. -/
def InMode (accepts : UInt8 → Bool) (d : Delegate) (t : Transaction) (mode : UInt8) : Prop :=
  if accepts (effectiveMode accepts d.mode d.bitOrder) then
    mode = effectiveMode accepts d.mode d.bitOrder ∧ t.refused = false
  else mode = t.before ∧ t.refused = true

/-- The message goes out as its delegate wants it. -/
structure Sent (accepts : UInt8 → Bool) (d : Delegate) (e : WireMessage) : Prop where
  mode : InMode accepts d e.transaction e.mode
  speed : e.message.speedHz = d.dataRate
  bits : e.message.bitsPerWord = 8

/-- A delegate asks for its mode until its bit order is refused, once. -/
structure Settled (accepts : UInt8 → Bool) (fallbacks : Nat) (d : Delegate) : Prop where
  opened : 0 ≤ d.fd
  bits : d.bitsPerWord = 8
  asked : d.kernelMode = wantedMode d.mode d.bitOrder ∧ fallbacks = 0 ∨
    d.kernelMode = kernelModeFrom d.mode ∧ fallbacks = 1 ∧
      accepts (wantedMode d.mode d.bitOrder) = false

/-- How often a delegate has given up LSB first. -/
def Spi.fallbacks (s : Spi σ) (i : Nat) : Nat := s.warnings.count (i, .fallingBack)

structure Modes (accepts : UInt8 → Bool) (s : Spi σ) : Prop where
  opened : ∀ fd ∈ s.bus, 0 ≤ fd
  settled : ∀ i d, s.delegates[i]? = some d → Settled accepts (s.fallbacks i) d
  known : ∀ i, s.delegates.length ≤ i → s.fallbacks i = 0
  begun : ∀ t ∈ s.last, ∃ d, s.delegates[t.delegate]? = some d ∧ InMode accepts d t s.fdMode
  sent : ∀ e ∈ s.wire, ∃ d, s.delegates[e.transaction.delegate]? = some d ∧ Sent accepts d e

variable {accepts : UInt8 → Bool} {driver : Driver σ} {s t : Spi σ} {d : Delegate} {i : Nat}

theorem mask_wantedMode (mode : Mode) :
    wantedMode mode .lsbFirst &&& ~~~SPI_LSB_FIRST = kernelModeFrom mode := by
  cases mode <;> decide

theorem lsb_wantedMode (mode : Mode) : wantedMode mode .lsbFirst &&& SPI_LSB_FIRST ≠ 0 := by
  cases mode <;> decide

theorem lsb_kernelModeFrom (mode : Mode) : kernelModeFrom mode &&& SPI_LSB_FIRST = 0 := by
  cases mode <;> decide

theorem ioctlWrMode_accepted {mode : UInt8} (known : accepts mode = true) (fdMode : UInt8) :
    ioctlWrMode accepts mode fdMode = (0, mode) := if_pos known

theorem ioctlWrMode_refused {mode : UInt8} (unknown : accepts mode = false) (fdMode : UInt8) :
    ioctlWrMode accepts mode fdMode = (-1, fdMode) := if_neg (by rw [unknown]; exact nofun)

/-- A mode that the controller has is set. -/
theorem begin_accepted (opened : 0 ≤ d.fd) (known : accepts d.kernelMode = true) (fdMode : UInt8) :
    d.beginTransaction accepts fdMode = (d, d.kernelMode, []) := by
  simp only [Delegate.beginTransaction, opened, if_true, ioctlWrMode_accepted known, Int.lt_irrefl,
    and_false, if_false]

/-- A clock mode that it does not have is logged. -/
theorem begin_refused (opened : 0 ≤ d.fd) (unknown : accepts d.kernelMode = false)
    (clock : d.kernelMode &&& SPI_LSB_FIRST = 0) (fdMode : UInt8) :
    d.beginTransaction accepts fdMode = (d, fdMode, [.wrModeFailed]) := by
  have failed : (-1 : Int) < 0 := by decide
  simp only [Delegate.beginTransaction, opened, if_true, ioctlWrMode_refused unknown, failed, clock,
    and_self, ne_eq, not_true_eq_false, if_false]

/-- LSB first is given up where it is refused. -/
theorem begin_lsb (opened : 0 ≤ d.fd) (unknown : accepts d.kernelMode = false)
    (lsb : d.kernelMode &&& SPI_LSB_FIRST ≠ 0) (fdMode : UInt8) :
    d.beginTransaction accepts fdMode =
      ({ d with kernelMode := d.kernelMode &&& ~~~SPI_LSB_FIRST },
        if accepts (d.kernelMode &&& ~~~SPI_LSB_FIRST) then d.kernelMode &&& ~~~SPI_LSB_FIRST
        else fdMode,
        .fallingBack ::
          if accepts (d.kernelMode &&& ~~~SPI_LSB_FIRST) then [] else [.wrModeFailed]) := by
  have failed : (-1 : Int) < 0 := by decide
  cases known : accepts (d.kernelMode &&& ~~~SPI_LSB_FIRST) with
  | true =>
      simp only [Delegate.beginTransaction, opened, if_true, ioctlWrMode_refused unknown, failed,
        lsb, and_self, ne_eq, not_false_eq_true, ioctlWrMode_accepted known, Int.lt_irrefl,
        if_false]
  | false =>
      simp only [Delegate.beginTransaction, opened, if_true, ioctlWrMode_refused unknown, failed,
        lsb, and_self, ne_eq, not_false_eq_true, ioctlWrMode_refused known, Bool.false_eq_true,
        if_false]

/-- What `begin_transaction` makes of a delegate and of the mode. -/
structure Begins (accepts : UInt8 → Bool) (fallbacks : Nat) (d : Delegate) (i : Nat)
    (fdMode : UInt8) (r : Delegate × UInt8 × List Warning) : Prop where
  rate : r.1.dataRate = d.dataRate
  mode : r.1.mode = d.mode
  order : r.1.bitOrder = d.bitOrder
  settled : Settled accepts (fallbacks + r.2.2.count .fallingBack) r.1
  inMode : InMode accepts d ⟨i, fdMode, .wrModeFailed ∈ r.2.2⟩ r.2.1

theorem inMode_set {m : UInt8} (mode : effectiveMode accepts d.mode d.bitOrder = m)
    (known : accepts m = true) (before : UInt8) : InMode accepts d ⟨i, before, false⟩ m := by
  rw [InMode, mode, if_pos known]
  exact ⟨rfl, rfl⟩

theorem inMode_refused {m : UInt8} (mode : effectiveMode accepts d.mode d.bitOrder = m)
    (unknown : accepts m = false) (before : UInt8) :
    InMode accepts d ⟨i, before, true⟩ before := by
  rw [InMode, mode, if_neg (by rw [unknown]; exact nofun)]
  exact ⟨rfl, rfl⟩

/-- A clock mode is set, or this is logged. -/
theorem begin_clock {fallbacks : Nat} (settled : Settled accepts fallbacks d)
    (clock : d.kernelMode = kernelModeFrom d.mode)
    (mode : effectiveMode accepts d.mode d.bitOrder = d.kernelMode) (i : Nat) (fdMode : UInt8) :
    Begins accepts fallbacks d i fdMode (d.beginTransaction accepts fdMode) := by
  cases known : accepts d.kernelMode with
  | true =>
      rw [begin_accepted settled.opened known]
      exact ⟨rfl, rfl, rfl, settled, inMode_set mode known fdMode⟩
  | false =>
      rw [begin_refused settled.opened known (by rw [clock, lsb_kernelModeFrom])]
      exact ⟨rfl, rfl, rfl, settled, inMode_refused mode known fdMode⟩

theorem begin_settled {fallbacks : Nat} (settled : Settled accepts fallbacks d) (i : Nat)
    (fdMode : UInt8) : Begins accepts fallbacks d i fdMode (d.beginTransaction accepts fdMode) := by
  rcases settled.asked with ⟨wanted, fresh⟩ | ⟨base, -, refused⟩
  · cases known : accepts (wantedMode d.mode d.bitOrder) with
    | true =>
        have mode : effectiveMode accepts d.mode d.bitOrder = d.kernelMode := by
          rw [effectiveMode, if_pos known, wanted]
        rw [begin_accepted settled.opened (by rw [wanted, known])]
        exact ⟨rfl, rfl, rfl, settled, inMode_set mode (by rw [wanted, known]) fdMode⟩
    | false =>
        have mode : effectiveMode accepts d.mode d.bitOrder = kernelModeFrom d.mode := by
          rw [effectiveMode, if_neg (by rw [known]; exact nofun)]
        cases order : d.bitOrder with
        | msbFirst =>
            rw [order] at wanted
            exact begin_clock settled wanted (mode.trans wanted.symm) i fdMode
        | lsbFirst =>
            have masked : d.kernelMode &&& ~~~SPI_LSB_FIRST = kernelModeFrom d.mode := by
              rw [wanted, order, mask_wantedMode]
            have lsb : d.kernelMode &&& SPI_LSB_FIRST ≠ 0 := by
              rw [wanted, order]
              exact lsb_wantedMode _
            have gaveUp : Settled accepts (fallbacks + 1)
                { d with kernelMode := kernelModeFrom d.mode } :=
              ⟨settled.opened, settled.bits, .inr ⟨rfl, by rw [fresh], known⟩⟩
            rw [begin_lsb settled.opened (by rw [wanted, known]) lsb, masked]
            cases clock : accepts (kernelModeFrom d.mode) with
            | true => exact ⟨rfl, rfl, rfl, gaveUp, inMode_set mode clock fdMode⟩
            | false => exact ⟨rfl, rfl, rfl, gaveUp, inMode_refused mode clock fdMode⟩
  · refine begin_clock settled base ?_ i fdMode
    rw [effectiveMode, if_neg (by rw [refused]; exact nofun), base]

/-! ## Runs -/

/-- A delegate of the same kind is at the place of every one that was there. -/
def Kept (l l' : List Delegate) : Prop :=
  ∀ (j : Nat) (d : Delegate), l[j]? = some d → ∃ d' : Delegate, l'[j]? = some d' ∧
    d'.mode = d.mode ∧ d'.bitOrder = d.bitOrder ∧ d'.dataRate = d.dataRate

theorem kept_append (l : List Delegate) (d : Delegate) : Kept l (l ++ [d]) := by
  intro j d' here
  refine ⟨d', ?_, rfl, rfl, rfl⟩
  rw [List.getElem?_append_left (List.getElem?_eq_some_iff.mp here).1, here]

theorem kept_set {l : List Delegate} {d d' : Delegate} (here : l[i]? = some d)
    (mode : d'.mode = d.mode) (order : d'.bitOrder = d.bitOrder)
    (rate : d'.dataRate = d.dataRate) : Kept l (l.set i d') := by
  intro j e there
  by_cases same : i = j
  · subst same
    rw [here] at there
    cases there
    refine ⟨d', ?_, mode, order, rate⟩
    rw [List.getElem?_set_self (List.getElem?_eq_some_iff.mp here).1]
  · exact ⟨e, by rw [List.getElem?_set_ne same, there], rfl, rfl, rfl⟩

/-- A transaction and its messages keep their delegate. -/
theorem inMode_kept {d d' : Delegate} (mode : d'.mode = d.mode) (order : d'.bitOrder = d.bitOrder)
    {t : Transaction} {m : UInt8} (inMode : InMode accepts d t m) : InMode accepts d' t m := by
  rwa [InMode, mode, order]

theorem sent_kept {l l' : List Delegate} (kept : Kept l l') {wire : List WireMessage}
    (sent : ∀ e ∈ wire, ∃ d, l[e.transaction.delegate]? = some d ∧ Sent accepts d e) :
    ∀ e ∈ wire, ∃ d, l'[e.transaction.delegate]? = some d ∧ Sent accepts d e := by
  intro e mem
  obtain ⟨d, here, mode, speed, bits⟩ := sent e mem
  obtain ⟨d', there, same, order, rate⟩ := kept _ d here
  exact ⟨d', there, inMode_kept same order mode, by rw [speed, rate], bits⟩

/-- What one delegate logs is no fallback of another. -/
theorem count_warnings (warnings : List Warning) (i j : Nat) :
    (warnings.map (i, ·)).count (j, .fallingBack) =
      if i = j then warnings.count .fallingBack else 0 := by
  split
  case isTrue same =>
    rw [← same, List.count, List.countP_map, List.count]
    refine List.countP_congr fun x _ => ?_
    simp
  case isFalse other =>
    refine List.count_eq_zero.mpr fun mem => ?_
    obtain ⟨x, -, same⟩ := List.mem_map.mp mem
    exact other (Prod.mk.inj same).1

/-- Every method transfers with the rate and the word size of the delegate. -/
theorem messages_perform {w : World σ} (call : Transfer) :
    ∃ xs, (d.perform driver w call).messages = w.messages ++ xs ∧
      ∀ x ∈ xs, x.speedHz = d.dataRate ∧ x.bitsPerWord = d.bitsPerWord := by
  cases call with
  | inPlace | buffers | writeArray => exact messages_doTransfer
  | byte stack data =>
      exact messages_doTransfer (w := { w with memory := store w.memory stack [data, 0] })
  | readArray ptr length =>
      exact messages_doTransfer
        (w := { w with memory := store w.memory ptr (List.replicate length 0) })
  | write16 stack data =>
      exact messages_doTransfer
        (w := { w with memory := store w.memory stack (bytesOf16 d.bitOrder data) })

theorem modes_setup {fd : Int} (modes : Modes accepts s)
    (step : s.step accepts driver (.setup fd) = some t) : Modes accepts t := by
  obtain ⟨opened, settled, known, begun, sent⟩ := modes
  obtain ⟨-, same⟩ := Option.ite_none_right_eq_some.mp step
  cases same
  unfold Spi.setup
  split
  · exact ⟨opened, settled, known, begun, sent⟩
  · next high =>
      refine ⟨fun fd' same => ?_, settled, known, begun, sent⟩
      cases same
      exact Int.not_lt.mp high

theorem modes_getDelegate {dataRate : UInt32} {order : BitOrder} {mode : Mode}
    (modes : Modes accepts s)
    (step : s.step accepts driver (.getDelegate dataRate order mode) = some t) :
    Modes accepts t := by
  obtain ⟨opened, settled, known, begun, sent⟩ := modes
  obtain ⟨fd, bus, rfl⟩ := Option.map_eq_some_iff.mp step
  have kept := kept_append s.delegates (.make fd dataRate order mode)
  refine ⟨opened, fun j d here => ?_, fun j outside => known j ?_, fun t same => ?_,
    sent_kept kept sent⟩
  · by_cases old : j < s.delegates.length
    · rw [List.getElem?_append_left old] at here
      exact settled j d here
    · -- The new delegate has not been refused anything.
      rw [List.getElem?_append_right (Nat.le_of_not_lt old), List.getElem?_singleton] at here
      obtain ⟨-, same⟩ := Option.ite_none_right_eq_some.mp here
      cases same
      exact ⟨opened fd bus, rfl, .inl ⟨rfl, known j (Nat.le_of_not_lt old)⟩⟩
  · rw [List.length_append] at outside
    omega
  · obtain ⟨d, here, mode⟩ := begun t same
    obtain ⟨d', there, same, order, -⟩ := kept _ d here
    exact ⟨d', there, inMode_kept same order mode⟩

theorem modes_beginTransaction (modes : Modes accepts s)
    (step : s.step accepts driver (.beginTransaction i) = some t) : Modes accepts t := by
  obtain ⟨opened, settled, known, begun, sent⟩ := modes
  obtain ⟨d, here, rfl⟩ := Option.map_eq_some_iff.mp step
  obtain ⟨rate, mode, order, now, inMode⟩ := begin_settled (settled i d here) i s.fdMode
  have inside := (List.getElem?_eq_some_iff.mp here).1
  have fallbacks (j : Nat) : (s.warnings ++
      (d.beginTransaction accepts s.fdMode).2.2.map (i, ·)).count (j, .fallingBack) =
        s.fallbacks j + if i = j then
          (d.beginTransaction accepts s.fdMode).2.2.count .fallingBack else 0 := by
    rw [List.count_append, count_warnings]
    rfl
  refine ⟨opened, fun j e there => ?_, fun j outside => ?_, fun t same => ?_,
    sent_kept (kept_set here mode order rate) sent⟩
  · rw [Spi.fallbacks, fallbacks]
    by_cases same : i = j
    · subst same
      rw [List.getElem?_set_self inside] at there
      cases there
      rwa [if_pos rfl]
    · rw [List.getElem?_set_ne same] at there
      rw [if_neg same]
      exact settled j e there
  · rw [List.length_set] at outside
    rw [Spi.fallbacks, fallbacks, if_neg (by omega), known j outside]
  · cases same
    exact ⟨_, List.getElem?_set_self inside, inMode_kept mode order inMode⟩

theorem modes_transfer {call : Transfer} (modes : Modes accepts s)
    (orderly : Orderly s (.transfer i call))
    (step : s.step accepts driver (.transfer i call) = some t) : Modes accepts t := by
  obtain ⟨opened, settled, known, begun, sent⟩ := modes
  obtain ⟨d, here, rfl⟩ := Option.map_eq_some_iff.mp step
  obtain ⟨xs, appended, all⟩ :
      ∃ xs, (d.perform driver s.world call).messages = s.world.messages ++ xs ∧
        ∀ x ∈ xs, x.speedHz = d.dataRate ∧ x.bitsPerWord = d.bitsPerWord :=
    messages_perform call
  refine ⟨opened, settled, known, begun, fun e mem => ?_⟩
  rcases List.mem_append.mp mem with mem | mem
  · exact sent e mem
  · rw [appended, List.drop_left] at mem
    obtain ⟨t, last, mem⟩ := List.mem_flatMap.mp mem
    obtain ⟨x, inside, rfl⟩ := List.mem_map.mp mem
    obtain last : s.last = some t := Option.mem_toList.mp last
    obtain ⟨d', there, mode⟩ := begun t last
    have whose : t.delegate = i := by
      rw [Orderly, last] at orderly
      exact Option.some.inj orderly
    have same : d' = d := by
      rw [whose, here] at there
      exact (Option.some.inj there).symm
    obtain ⟨speed, bits⟩ := all x inside
    exact ⟨d', there, mode, by rw [speed, same], by rw [bits, (settled i d here).bits]⟩

/-- **A step keeps the invariant**, if a transfer belongs to the transaction that began last. -/
theorem modes_step (modes : Modes accepts s) {op : Operation} (orderly : Orderly s op)
    (step : s.step accepts driver op = some t) : Modes accepts t := by
  cases op with
  | setup fd => exact modes_setup modes step
  | getDelegate dataRate order mode => exact modes_getDelegate modes step
  | beginTransaction i => exact modes_beginTransaction modes step
  | transfer i call => exact modes_transfer modes orderly step

/-- **Every message is sent in the mode of its delegate**, at its rate, if the controller has that
mode; one that it has not has been logged for the transaction.  No delegate gives up LSB first
twice. -/
theorem messages_in_mode (accepts : UInt8 → Bool) (driver : Driver σ) (s : Spi σ)
    (reachable : (machine accepts driver).ReachableUnder Orderly s) :
    (∀ e ∈ s.wire, ∃ d, s.delegates[e.transaction.delegate]? = some d ∧ Sent accepts d e) ∧
      ∀ i, s.fallbacks i ≤ 1 := by
  have modes : Modes accepts s := by
    refine reachable.invariant (fun s start => ?_) fun s op t modes orderly step =>
      modes_step modes orderly step
    obtain ⟨-, bus, delegates, last, warnings, wire⟩ := start
    exact ⟨by simp [bus], by simp [delegates], by simp [Spi.fallbacks, warnings], by simp [last],
      by simp [wire]⟩
  refine ⟨modes.sent, fun i => ?_⟩
  by_cases inside : i < s.delegates.length
  · rcases (modes.settled i _ (List.getElem?_eq_getElem inside)).asked with
      ⟨-, none⟩ | ⟨-, once, -⟩
    · rw [none]
      exact Nat.zero_le 1
    · exact Nat.le_of_eq once
  · rw [modes.known i (Nat.le_of_not_lt inside)]
    exact Nat.zero_le 1

/-- A controller with neither LSB first nor the modes that sample late, and three delegates that
take turns. -/
def earlyOnly (mode : UInt8) : Bool := mode &&& (SPI_LSB_FIRST ||| SPI_CPHA) = 0

def sampleStart : Spi Unit where
  fd := -1
  failed := false
  bus := none
  delegates := []
  fdMode := 0
  world := echoWorld
  last := none
  warnings := []
  wire := []

def sampleOperations : List Operation :=
  [.setup 3, .getDelegate 1000000 .lsbFirst .mode2, .getDelegate 500000 .msbFirst .mode0,
    .getDelegate 500000 .msbFirst .mode1, .beginTransaction 0, .transfer 0 (.writeArray 0 5000),
    .beginTransaction 1, .transfer 1 (.readArray 0 4), .beginTransaction 2,
    .transfer 2 (.write16 100 0x1234)]

def sampleEnd : Spi Unit :=
  (((machine earlyOnly echo).guarded Orderly).run sampleStart sampleOperations).get
    (by decide +kernel)

theorem messages_in_mode_sample :
    (∀ e ∈ sampleEnd.wire, ∃ d, sampleEnd.delegates[e.transaction.delegate]? = some d ∧
      Sent earlyOnly d e) ∧ ∀ i, sampleEnd.fallbacks i ≤ 1 := by
  refine messages_in_mode earlyOnly echo sampleEnd ⟨sampleStart, ⟨rfl, rfl, rfl, rfl, rfl, rfl⟩, ?_⟩
  exact Machine.run_guarded_reach (Option.some_get _).symm

end EsphomeHost.LinuxSpi

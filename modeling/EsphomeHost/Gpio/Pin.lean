import EsphomeHost.Lib.Machine

/-!
# GPIO lines

`LinuxGPIOPin` on the character device: a pin opens its chip, requests its line as a descriptor and
configures it, and registers the descriptor with the alert thread while an interrupt is attached.
The kernel's answers are part of the steps.

* `claimLine`, `attachInterrupt`, `detachInterrupt`, `digitalWrite`: the operations.
* `ChipOpened`: all that opening the chip changes.
-/

namespace EsphomeHost.LinuxGpio

/-! ## Line configurations -/

/-- The bits of `gpio::Flags` that a line takes over. -/
structure Flags where
  input : Bool := false
  output : Bool := false
  openDrain : Bool := false
  pullup : Bool := false
  pulldown : Bool := false
deriving DecidableEq

/-- The bits `GPIO_V2_LINE_FLAG_*`. -/
structure LineFlags where
  input : Bool := false
  output : Bool := false
  edgeRising : Bool := false
  edgeFalling : Bool := false
  openDrain : Bool := false
  biasPullUp : Bool := false
  biasPullDown : Bool := false
deriving DecidableEq

inductive LineAttr
  | outputValues (value : Bool)
  | debounce (us : UInt32)
deriving DecidableEq

structure LineConfig where
  flags : LineFlags
  attrs : List LineAttr
deriving DecidableEq

def applyLineConfig (flags : LineFlags) (debounceUs : UInt32) (outputValue : Bool) :
    LineConfig where
  flags := flags
  attrs :=
    (if flags.output then [.outputValues outputValue] else []) ++
    if debounceUs > 0 then [.debounce debounceUs] else []

def buildLineFlags (flags : Flags) : LineFlags where
  input := flags.input
  output := flags.output
  biasPullUp := flags.pullup
  biasPullDown := flags.pulldown
  openDrain := flags.openDrain

inductive InterruptType
  | risingEdge
  | fallingEdge
  | anyEdge
  | lowLevel
  | highLevel
deriving DecidableEq

/-- The flags of a line with an interrupt: always an input, with both edges unless one is asked
for. -/
def edgeFlags (flags : Flags) (type : InterruptType) : LineFlags :=
  { buildLineFlags flags with
    output := false
    input := true
    edgeRising := type ≠ .fallingEdge
    edgeFalling := type ≠ .risingEdge }

structure LineRequest where
  offset : UInt8
  consumer : String
  eventBufferSize : Nat
  config : LineConfig
deriving DecidableEq

/-! ## Pins -/

/-- A descriptor is a number, which the kernel gives again once it is closed; `serial` tells the
descriptors of one number apart. -/
structure Descriptor where
  number : Nat
  serial : Nat
deriving DecidableEq

/-- `func` may be null.  The last two fields are not in the source: the pin that added the entry,
and which descriptor `line_fd` was. -/
structure AlertEntry where
  lineFd : Nat
  func : Option Nat
  arg : Nat
  pin : Nat := 0
  serial : Nat := 0
deriving DecidableEq

/-- The `remove_if` of `GPIOAlertThread::remove`. -/
def removeEntries (lineFd : Nat) (entries : List AlertEntry) : List AlertEntry :=
  entries.filter fun e => e.lineFd ≠ lineFd

/-- The last two fields are not in the source: the level that the last `digital_write` asked for,
and what the last `attach_interrupt` was called with. -/
structure LinuxGPIOPin where
  pin : UInt8
  chipPath : String
  chipFd : Option Nat := none
  line : Option Descriptor := none
  inverted : Bool
  flags : Flags
  debounceUs : UInt32
  outputValue : Bool := false
  asked : Option Bool := none
  attached : Option (Option Nat × Nat) := none

/-- A configuration that the kernel took, and the level that was asked for then. -/
structure Configured where
  pin : Nat
  config : LineConfig
  asked : Option Bool
deriving DecidableEq

/-- The pins, the chip cache, the alert thread's entries, and of the kernel the numbers of the open
descriptors and the configurations so far. -/
structure Gpio where
  pins : Nat → LinuxGPIOPin
  chipCache : List (String × Nat) := []
  entries : List AlertEntry := []
  openFds : List Nat := []
  serial : Nat := 0
  log : List Configured := []

/-- How the kernel answers: the number of the chip's descriptor if it can be opened, whether the
line takes a configuration, the number of the line's descriptor if it can be requested. -/
structure Answers where
  chip : Option Nat := none
  setConfig : Bool := false
  getLine : Option Nat := none
deriving DecidableEq

namespace Gpio

variable (s : Gpio)

def modify (p : Nat) (f : LinuxGPIOPin → LinuxGPIOPin) : Gpio :=
  { s with pins := fun q => if q = p then f (s.pins p) else s.pins q }

/-- A descriptor with a number that is not open. -/
def allocate (number : Nat) : Option (Descriptor × Gpio) :=
  if number ∈ s.openFds then none
  else some (⟨number, s.serial⟩,
    { s with openFds := number :: s.openFds, serial := s.serial + 1 })

def close (number : Nat) : Gpio := { s with openFds := s.openFds.filter fun n => n ≠ number }

/-- `chip_fd_` is opened unless it is; the result is `none` for an answer the kernel cannot give. -/
def ensureChip (p : Nat) (chip : Option Nat) : Option Gpio :=
  if (s.pins p).chipFd.isSome then some s
  else
    match s.chipCache.lookup (s.pins p).chipPath with
    | some fd => some (s.modify p fun a => { a with chipFd := some fd })
    | none =>
        match chip with
        | none => some s
        | some fd =>
            (s.allocate fd).map fun r =>
              { r.2.modify p fun a => { a with chipFd := some fd } with
                chipCache := s.chipCache ++ [((s.pins p).chipPath, fd)] }

/-- The kernel takes a configuration of the line. -/
def configured (p : Nat) (config : LineConfig) : Gpio :=
  { s with log := s.log ++ [⟨p, config, (s.pins p).asked⟩] }

def closeLine (p : Nat) : Gpio :=
  match (s.pins p).line with
  | none => s
  | some d => (s.close d.number).modify p fun a => { a with line := none }

/-- The line is requested as the descriptor `number`. -/
def getLine (p : Nat) (request : LineRequest) (number : Nat) : Option (Descriptor × Gpio) :=
  (s.allocate number).map fun r =>
    (r.1, (r.2.modify p fun a => { a with line := some r.1 }).configured p request.config)

def claimConfig (p : Nat) (flags : Flags) : LineConfig :=
  applyLineConfig (buildLineFlags flags) (s.pins p).debounceUs (s.pins p).outputValue

/-- The second half of `claim_line_`: the line is closed and is requested. -/
def requestLine (p : Nat) (flags : Flags) (answer : Option Nat) : Option Gpio :=
  match answer with
  | none => some s
  | some number =>
      (s.getLine p ⟨(s.pins p).pin, "esphome", 0, s.claimConfig p flags⟩ number).map fun r =>
        r.2.modify p fun a => { a with flags := flags }

def claimLine (p : Nat) (flags : Flags) (answers : Answers) : Option Gpio :=
  (s.ensureChip p answers.chip).bind fun s =>
    if (s.pins p).chipFd = none then some s
    else if (s.pins p).line ≠ none ∧ answers.setConfig then
      some ((s.modify p fun a => { a with flags := flags }).configured p (s.claimConfig p flags))
    else (s.closeLine p).requestLine p flags answers.getLine

def pinMode (p : Nat) (flags : Flags) (answers : Answers) : Option Gpio :=
  s.claimLine p flags answers

def setup (p : Nat) (answers : Answers) : Option Gpio := s.pinMode p (s.pins p).flags answers

/-- Whether the kernel then takes the level changes nothing here. -/
def digitalWrite (p : Nat) (value : Bool) : Gpio :=
  let s := s.modify p fun a => { a with asked := some (value != a.inverted) }
  if (s.pins p).line = none then s
  else s.modify p fun a => { a with outputValue := value != a.inverted }

/-- The line is deregistered and closed. -/
def releaseLine (p : Nat) : Gpio :=
  match (s.pins p).line with
  | none => s
  | some d => { s with entries := removeEntries d.number s.entries }.closeLine p

/-- `GPIOAlertThread::add`. -/
def add (p : Nat) (d : Descriptor) (func : Option Nat) (arg : Nat) : Gpio :=
  { s with entries := s.entries ++ [⟨d.number, func, arg, p, d.serial⟩] }

def edgeRequest (p : Nat) (type : InterruptType) : LineRequest where
  offset := (s.pins p).pin
  consumer := "esphome-irq"
  eventBufferSize := 1024
  config := applyLineConfig (edgeFlags (s.pins p).flags type) (s.pins p).debounceUs false

/-- The second half of `attach_interrupt`. -/
def requestEdges (p : Nat) (func : Option Nat) (arg : Nat) (type : InterruptType)
    (answer : Option Nat) : Option Gpio :=
  match answer with
  | none => some s
  | some number =>
      (s.getLine p (s.edgeRequest p type) number).map fun r => r.2.add p r.1 func arg

def attachInterrupt (p : Nat) (func : Option Nat) (arg : Nat) (type : InterruptType)
    (answers : Answers) : Option Gpio :=
  ((s.modify p fun a => { a with attached := some (func, arg) }).ensureChip p answers.chip).bind
    fun s =>
      if (s.pins p).chipFd = none then some s
      else (s.releaseLine p).requestEdges p func arg type answers.getLine

def detachInterrupt (p : Nat) : Gpio := s.releaseLine p

end Gpio

inductive Operation
  | setup (answers : Answers)
  | pinMode (flags : Flags) (answers : Answers)
  | digitalWrite (value : Bool)
  | attachInterrupt (func : Option Nat) (arg : Nat) (type : InterruptType) (answers : Answers)
  | detachInterrupt
deriving DecidableEq

/-- An operation on the pin `p`. -/
def step (s : Gpio) (act : Nat × Operation) : Option Gpio :=
  match act.2 with
  | .setup answers => s.setup act.1 answers
  | .pinMode flags answers => s.pinMode act.1 flags answers
  | .digitalWrite value => some (s.digitalWrite act.1 value)
  | .attachInterrupt func arg type answers => s.attachInterrupt act.1 func arg type answers
  | .detachInterrupt => some (s.detachInterrupt act.1)

/-- No pin has been used yet. -/
structure Unused (s : Gpio) : Prop where
  pins : ∀ p, (s.pins p).chipFd = none ∧ (s.pins p).line = none ∧ (s.pins p).outputValue = false ∧
    (s.pins p).asked = none ∧ (s.pins p).attached = none
  chipCache : s.chipCache = []
  entries : s.entries = []
  openFds : s.openFds = []
  serial : s.serial = 0
  log : s.log = []

def machine : Machine Gpio (Nat × Operation) where
  init := Unused
  step := step

/-! ## What the parts change -/

variable {s t : Gpio} {p q : Nat} {d : Descriptor}

theorem pins_modify_self (f : LinuxGPIOPin → LinuxGPIOPin) :
    (s.modify p f).pins p = f (s.pins p) := if_pos rfl

theorem pins_modify_of_ne {f : LinuxGPIOPin → LinuxGPIOPin} (other : q ≠ p) :
    (s.modify p f).pins q = s.pins q := if_neg other

/-- A field that `f` leaves alone is as it was on every pin. -/
theorem field_modify {α : Type} (field : LinuxGPIOPin → α) {f : LinuxGPIOPin → LinuxGPIOPin}
    (same : ∀ a, field (f a) = field a) (q : Nat) :
    field ((s.modify p f).pins q) = field (s.pins q) := by
  by_cases here : q = p
  · rw [here, pins_modify_self, same]
  · rw [pins_modify_of_ne here]

/-- What opening the chip of a pin leaves as it was. -/
structure ChipOpened (s t : Gpio) : Prop where
  chipFd : ∀ q, (s.pins q).chipFd ≠ none → (t.pins q).chipFd ≠ none
  line : ∀ q, (t.pins q).line = (s.pins q).line
  outputValue : ∀ q, (t.pins q).outputValue = (s.pins q).outputValue
  asked : ∀ q, (t.pins q).asked = (s.pins q).asked
  attached : ∀ q, (t.pins q).attached = (s.pins q).attached
  entries : t.entries = s.entries
  log : t.log = s.log
  openFds : s.openFds ⊆ t.openFds
  serial : s.serial ≤ t.serial

theorem allocate_eq_some {number : Nat} {r : Descriptor × Gpio}
    (taken : s.allocate number = some r) :
    number ∉ s.openFds ∧ r = (⟨number, s.serial⟩,
      { s with openFds := number :: s.openFds, serial := s.serial + 1 }) := by
  obtain ⟨fresh, same⟩ := Option.ite_none_left_eq_some.mp taken
  exact ⟨fresh, (Option.some.inj same).symm⟩

theorem chipOpened_ensureChip {chip : Option Nat} (opened : s.ensureChip p chip = some t) :
    ChipOpened s t := by
  have only (fd : Nat) : ChipOpened s (s.modify p fun a => { a with chipFd := some fd }) := by
    refine ⟨fun q known => ?_, field_modify _ fun _ => rfl, field_modify _ fun _ => rfl,
      field_modify _ fun _ => rfl, field_modify _ fun _ => rfl, rfl, rfl, List.Subset.refl _,
      Nat.le_refl _⟩
    by_cases here : q = p
    · rw [here, pins_modify_self]
      exact Option.some_ne_none fd
    · rw [pins_modify_of_ne here]
      exact known
  have refl : ChipOpened s s :=
    ⟨fun _ known => known, fun _ => rfl, fun _ => rfl, fun _ => rfl, fun _ => rfl, rfl, rfl,
      List.Subset.refl _, Nat.le_refl _⟩
  unfold Gpio.ensureChip at opened
  split at opened
  · cases opened
    exact refl
  · split at opened
    · cases opened
      exact only _
    · split at opened
      · cases opened
        exact refl
      · rename_i fd
        obtain ⟨r, taken, same⟩ := Option.map_eq_some_iff.mp opened
        obtain ⟨-, rfl⟩ := allocate_eq_some taken
        cases same
        have chip := only fd
        exact ⟨chip.chipFd, chip.line, chip.outputValue, chip.asked, chip.attached, rfl, rfl,
          List.subset_cons_self _ _, Nat.le_succ _⟩

end EsphomeHost.LinuxGpio

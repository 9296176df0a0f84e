import EsphomeHost.Lib.Strtol

/-!
# Sensors on attributes of the kernel

`LinuxW1Sensor` reads the first line of a file as thousandths of a degree, `LinuxSysfsSensor` the
first 127 bytes of one as a number to be scaled.  What is published is that number, or `none` for
`NAN`; dividing by 1000 and scaling are floating-point operations of the code.

* `LinuxW1Sensor.updates_publish`: **whatever the file holds at each update, the published states
  are the temperatures its first lines start with, and the warning is that of the last one**.
* `LinuxSysfsSensor.polls_publish`: the same for the other sensor.
* `sensors_publish_print`: a number the kernel prints on a line is what both sensors publish, but
  for the power-on default.
-/

namespace EsphomeHost

open Strtol

/-- `LONG_MIN` and `LONG_MAX`. -/
structure Long where
  min : Int
  max : Int

/-- `std::getline` at the start of a file: it fails at the end of the file. -/
def getline (content : List UInt8) : Option (List UInt8) :=
  if content = [] then none else some (content.takeWhile (· != 0x0a))

structure LinuxW1Sensor where
  address : List Char
  sysfsPath : List Char := []
  pathOk : Bool := false
  /-- The arguments of `publish_state`. -/
  published : List (Option Int) := []
  /-- `status_set_warning` and `status_clear_warning`. -/
  warning : Bool := false

namespace LinuxW1Sensor

/-- `setup`; whether the file can be opened. -/
def setup (probe : List Char → Bool) (s : LinuxW1Sensor) : LinuxW1Sensor :=
  let path := "/sys/bus/w1/devices/".toList ++ s.address ++ "/temperature".toList
  { s with sysfsPath := path, pathOk := probe path }

def publishState (state : Option Int) (s : LinuxW1Sensor) : LinuxW1Sensor :=
  { s with published := s.published ++ [state] }

def badRead (s : LinuxW1Sensor) : LinuxW1Sensor :=
  { s.publishState none with warning := true }

/-- `update` with the content of the file, or `none` when it cannot be opened. -/
def update (long : Long) (s : LinuxW1Sensor) (file : Option (List UInt8)) : LinuxW1Sensor :=
  match file with
  | none => s.badRead
  | some content =>
      match getline content with
      | none => s.badRead
      | some line =>
          if line = [] then s.badRead
          else
            let milli := strtol long.min long.max line
            if milli.erange ∨ milli.endptr = 0 then s.badRead
            else if milli.value = 85000 then s.badRead
            else { s.publishState (some milli.value) with warning := false }

end LinuxW1Sensor

/-- What opening an attribute and one `read` come to. -/
inductive SysfsAttribute
  | unopened
  | unread
  | data (bytes : List UInt8)

/-- `read(fd, buf, sizeof(buf) - 1)` of an attribute. -/
def SysfsAttribute.read (content : List UInt8) : SysfsAttribute := .data (content.take 127)

structure LinuxSysfsSensor where
  path : List Char
  failed : Bool := false
  /-- The arguments of `publish_state`, before they are scaled. -/
  published : List (Option Int) := []

namespace LinuxSysfsSensor

/-- `setup`; whether the file can be opened. -/
def setup (opens : List Char → Bool) (s : LinuxSysfsSensor) : LinuxSysfsSensor :=
  if opens s.path then s else { s with failed := true }

def publishState (state : Option Int) (s : LinuxSysfsSensor) : LinuxSysfsSensor :=
  { s with published := s.published ++ [state] }

def update (long : Long) (s : LinuxSysfsSensor) (attr : SysfsAttribute) : LinuxSysfsSensor :=
  match attr with
  | .unopened => s.publishState none
  | .unread => s.publishState none
  | .data bytes =>
      -- Nothing at all is the end of the file.
      if bytes = [] then s.publishState none
      else
        let raw := strtol long.min long.max bytes
        if raw.endptr = 0 ∨ raw.erange then s.publishState none
        else s.publishState (some raw.value)

end LinuxSysfsSensor

/-! ## What a text is read as -/

/-- A text starts with a numeral of a `long`. -/
def Long.Reads (long : Long) (s : List UInt8) (v : Int) : Prop :=
  Numeral s v ∧ long.min ≤ v ∧ v ≤ long.max

variable {long : Long} {s : List UInt8} {v w : Int}

theorem Long.Reads.unique (first : long.Reads s v) (second : long.Reads s w) : v = w :=
  first.1.unique second.1

theorem not_reads_nil : ¬long.Reads [] v := by
  rintro ⟨⟨spaces, negative, sign, digits, rest, parts, -, -, some, -⟩, -⟩
  exact some (List.append_eq_nil_iff.mp (List.append_eq_nil_iff.mp parts.symm).1).2

/-! ## A poll after another -/

section Polls

variable {σ α β γ : Type} {published : σ → List β} {poll : σ → α → σ} {R : α → β → Prop}

/-- What every poll publishes, the polls of a run publish, and what is shown is of the last one. -/
theorem foldl_publishes (shown : σ → γ) (of : β → γ)
    (one : ∀ s a, ∃ r, published (poll s a) = published s ++ [r] ∧ shown (poll s a) = of r ∧ R a r)
    (polls : List α) (s : σ) :
    ∃ rs, published (polls.foldl poll s) = published s ++ rs ∧
      shown (polls.foldl poll s) = (rs.getLast?.map of).getD (shown s) ∧
      List.Forall₂ R polls rs := by
  induction polls generalizing s with
  | nil => exact ⟨[], (List.append_nil _).symm, rfl, .nil⟩
  | cons a polls ih =>
      obtain ⟨r, here, last, reading⟩ := one s a
      obtain ⟨rs, later, final, readings⟩ := ih (poll s a)
      refine ⟨r :: rs, ?_, ?_, .cons reading readings⟩
      · rw [List.foldl_cons, later, here, List.append_assoc, List.singleton_append]
      · rw [List.foldl_cons, final, last, List.getLast?_cons, Option.map_some, Option.getD_some,
          Option.getD_map]

end Polls

/-! ## The 1-Wire sensor -/

namespace LinuxW1Sensor

/-- The first line of the file starts with a temperature that is not the power-on default. -/
def Measures (long : Long) (file : Option (List UInt8)) (m : Int) : Prop :=
  ∃ content, file = some content ∧ long.Reads (content.takeWhile (· != 0x0a)) m ∧ m ≠ 85000

/-- **One poll.** -/
theorem update_publishes (long : Long) (s : LinuxW1Sensor) (file : Option (List UInt8)) :
    ∃ r, (s.update long file).published = s.published ++ [r] ∧
      (s.update long file).warning = r.isNone ∧ ∀ m, r = some m ↔ Measures long file m := by
  have bad : (∀ m, ¬Measures long file m) → ∃ r, s.badRead.published = s.published ++ [r] ∧
      s.badRead.warning = r.isNone ∧ ∀ m, r = some m ↔ Measures long file m :=
    fun missing => ⟨none, rfl, rfl, fun m => iff_of_false nofun (missing m)⟩
  cases file with
  | none => exact bad fun m ⟨content, same, _⟩ => nomatch same
  | some content =>
      have only : ∀ m, Measures long (some content) m →
          long.Reads (content.takeWhile (· != 0x0a)) m ∧ m ≠ 85000 := by
        rintro m ⟨_, same, measured⟩
        cases same
        exact measured
      rw [update]
      by_cases empty : content = []
      · rw [getline, if_pos empty]
        exact bad fun m measured => not_reads_nil (empty ▸ (only m measured).1)
      · rw [getline, if_neg empty]
        dsimp only
        split
        case isTrue blank => exact bad fun m measured => not_reads_nil (blank ▸ (only m measured).1)
        case isFalse =>
          split
          case isTrue refused =>
            refine bad fun m measured => ?_
            obtain ⟨moved, fits, -⟩ := strtol_ok_iff.mpr (only m measured).1
            exact refused.elim (fun range => Bool.noConfusion (range.symm.trans fits)) moved
          case isFalse accepted =>
            have reads : long.Reads (content.takeWhile (· != 0x0a)) _ :=
              strtol_ok_iff.mp ⟨fun none => accepted (.inr none),
                Bool.eq_false_iff.mpr fun range => accepted (.inl range), rfl⟩
            split
            case isTrue default =>
              refine bad fun m measured => (only m measured).2 ?_
              exact ((only m measured).1.unique reads).trans default
            case isFalse real =>
              refine ⟨some _, rfl, rfl, fun m => ⟨fun same => ?_, fun measured => ?_⟩⟩
              · cases same
                exact ⟨content, rfl, reads, real⟩
              · exact congrArg some (reads.unique (only m measured).1)

/-- **Every poll of a run publishes the temperature its first line starts with, and the warning is
that of the last poll.** -/
theorem updates_publish (long : Long) (s : LinuxW1Sensor) (files : List (Option (List UInt8))) :
    ∃ rs, (files.foldl (update long) s).published = s.published ++ rs ∧
      (files.foldl (update long) s).warning = (rs.getLast?.map Option.isNone).getD s.warning ∧
      List.Forall₂ (fun file r => ∀ m, r = some m ↔ Measures long file m) files rs :=
  foldl_publishes warning Option.isNone (update_publishes long) files s

end LinuxW1Sensor

/-! ## The sensor of an attribute -/

namespace LinuxSysfsSensor

/-- The bytes that were read start with a number. -/
def Measures (long : Long) (attr : SysfsAttribute) (m : Int) : Prop :=
  ∃ bytes, attr = .data bytes ∧ long.Reads bytes m

theorem update_publishes (long : Long) (s : LinuxSysfsSensor) (attr : SysfsAttribute) :
    ∃ r, (s.update long attr).published = s.published ++ [r] ∧
      ∀ m, r = some m ↔ Measures long attr m := by
  have bad : (∀ m, ¬Measures long attr m) → ∃ r, (s.publishState none).published =
      s.published ++ [r] ∧ ∀ m, r = some m ↔ Measures long attr m :=
    fun missing => ⟨none, rfl, fun m => iff_of_false nofun (missing m)⟩
  cases attr with
  | unopened => exact bad fun m ⟨bytes, same, _⟩ => nomatch same
  | unread => exact bad fun m ⟨bytes, same, _⟩ => nomatch same
  | data bytes =>
      have only : ∀ m, Measures long (.data bytes) m → long.Reads bytes m := by
        rintro m ⟨_, same, measured⟩
        cases same
        exact measured
      rw [update]
      split
      case isTrue empty => exact bad fun m measured => not_reads_nil (empty ▸ only m measured)
      case isFalse =>
        dsimp only
        split
        case isTrue refused =>
          refine bad fun m measured => ?_
          obtain ⟨moved, fits, -⟩ := strtol_ok_iff.mpr (only m measured)
          exact refused.elim moved fun range => Bool.noConfusion (range.symm.trans fits)
        case isFalse accepted =>
          have reads : long.Reads bytes _ :=
            strtol_ok_iff.mp ⟨fun none => accepted (.inl none),
              Bool.eq_false_iff.mpr fun range => accepted (.inr range), rfl⟩
          refine ⟨some _, rfl, fun m => ⟨fun same => ?_, fun measured => ?_⟩⟩
          · cases same
            exact ⟨bytes, rfl, reads⟩
          · exact congrArg some (reads.unique (only m measured))

/-- **Every poll of a run publishes the number that the bytes it read start with.** -/
theorem polls_publish (long : Long) (s : LinuxSysfsSensor) (attrs : List SysfsAttribute) :
    ∃ rs, (attrs.foldl (update long) s).published = s.published ++ rs ∧
      List.Forall₂ (fun attr r => ∀ m, r = some m ↔ Measures long attr m) attrs rs := by
  obtain ⟨rs, all, -, readings⟩ := foldl_publishes (fun _ => ()) (fun _ => ())
    (fun s attr => (update_publishes long s attr).imp fun _ poll => ⟨poll.1, rfl, poll.2⟩) attrs s
  exact ⟨rs, all, readings⟩

end LinuxSysfsSensor

/-! ## What the kernel prints -/

/-- A number on a line of its own. -/
def printedLine (v : Int) : List UInt8 := print v ++ [0x0a]

theorem reads_print {rest : List UInt8} (within : long.min ≤ v ∧ v ≤ long.max)
    (stops : ∀ c ∈ rest.head?, isDigit c = false) : long.Reads (print v ++ rest) v :=
  ⟨numeral_print v stops, within⟩

/-- **Of a number on a line of its own, the sensor of an attribute publishes that number, and the
1-Wire sensor does so unless it is the power-on default.** -/
theorem sensors_publish_print (within : long.min ≤ v ∧ v ≤ long.max)
    (small : v.natAbs < 10 ^ 120) :
    LinuxSysfsSensor.Measures long (.read (printedLine v)) v ∧
      (LinuxW1Sensor.Measures long (some (printedLine v)) v ↔ v ≠ 85000) := by
  have short := length_print_le small
  have whole : (printedLine v).take 127 = printedLine v := by
    refine List.take_of_length_le ?_
    rw [printedLine, List.length_append, List.length_singleton]
    omega
  have first : (printedLine v).takeWhile (· != 0x0a) = print v ++ [] := by
    rw [List.append_nil]
    exact takeWhile_eq (fun c mem => bne_iff_ne.mpr (ne_newline_of_mem_print mem))
      (by rintro c ⟨⟩; rfl)
  constructor
  · refine ⟨printedLine v, congrArg SysfsAttribute.data whole, reads_print within ?_⟩
    rintro c ⟨⟩
    rfl
  · constructor
    · rintro ⟨_, -, -, real⟩
      exact real
    · exact fun real => ⟨printedLine v, rfl, first ▸ reads_print within nofun, real⟩

end EsphomeHost

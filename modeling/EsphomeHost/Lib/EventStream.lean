import Mathlib.Algebra.GroupWithZero.Nat
import EsphomeHost.Lib.Cut
import EsphomeHost.Lib.Strtol

/-!
# Event streams

The decoder of server-sent events, byte by byte.  A line ends at CR, LF or CRLF; a line is a field
with an optional value, one leading space of which is dropped; a blank line dispatches an event,
unless there is no data.

* `feed_plain` and `feed_field`: bytes without a line end extend the line, and a line that ends is a
  field.
* `weight` counts the data of the events dispatched and pending, and `potential` what it comes to
  if the line ends now: a byte adds one at most, a line end nothing.
-/

namespace EventStream

open Cut
open EsphomeHost.Strtol (isDigit decimal)

def LF : UInt8 := 10
def CR : UInt8 := 13
def SPACE : UInt8 := 32
def COLON : UInt8 := 58

/-- The names of the fields: `event`, `data`, `id` and `retry`. -/
def EVENT : List UInt8 := [101, 118, 101, 110, 116]
def DATA : List UInt8 := [100, 97, 116, 97]
def ID : List UInt8 := [105, 100]
def RETRY : List UInt8 := [114, 101, 116, 114, 121]

/-- The name of an event that is given none: `message`. -/
def MESSAGE : List UInt8 := [109, 101, 115, 115, 97, 103, 101]

/-- A dispatched event, with the last event id and the reconnection time when it was. -/
structure Event where
  name : List UInt8
  data : List UInt8
  lastEventId : List UInt8
  reconnectionTime : Option Nat
deriving DecidableEq

/-- `line` is the line so far, `afterCr` whether an LF would belong to the last line end. -/
structure Decoder where
  line : List UInt8 := []
  afterCr : Bool := false
  name : List UInt8 := []
  data : List UInt8 := []
  lastEventId : List UInt8 := []
  reconnectionTime : Option Nat := none
  events : List Event := []
deriving DecidableEq

/-- The name and the value of a field. -/
def parseField (line : List UInt8) : List UInt8 × List UInt8 :=
  match cut [COLON] line with
  | none => (line, [])
  | some (name, value) => (name, if value.head? = some SPACE then value.tail else value)

namespace Decoder

variable (d : Decoder)

/-- A comment has the empty name, and like every other unknown field it is ignored. -/
def setField (name value : List UInt8) : Decoder :=
  if name = EVENT then { d with name := value }
  else if name = DATA then { d with data := d.data ++ value ++ [LF] }
  else if name = ID then if 0 ∈ value then d else { d with lastEventId := value }
  else if name = RETRY then
    if value ≠ [] ∧ value.all isDigit then { d with reconnectionTime := some (decimal value) }
    else d
  else d

def dispatch : Decoder :=
  if d.data = [] then { d with name := [] }
  else
    { d with
      name := []
      data := []
      events := d.events ++
        [⟨if d.name = [] then MESSAGE else d.name, d.data.dropLast, d.lastEventId,
          d.reconnectionTime⟩] }

def endLine : Decoder :=
  if d.line = [] then d.dispatch
  else { d with line := [] }.setField (parseField d.line).1 (parseField d.line).2

def feedByte (b : UInt8) : Decoder :=
  if b = LF then
    if d.afterCr then { d with afterCr := false } else d.endLine
  else if b = CR then { d.endLine with afterCr := true }
  else { d with line := d.line ++ [b], afterCr := false }

def feed (bytes : List UInt8) : Decoder := bytes.foldl feedByte d

/-- Between two lines. -/
structure Fresh : Prop where
  line : d.line = []
  afterCr : d.afterCr = false

/-- After a CR the line is empty. -/
def Aligned : Prop := d.afterCr = true → d.line = []

end Decoder

/-- The events of a stream. -/
def decode (bytes : List UInt8) : List Event := (Decoder.feed {} bytes).events

/-- A text with each of its line ends read as LF. -/
def normalise : List UInt8 → List UInt8
  | [] => []
  | b :: rest =>
      if b = CR then if rest.head? = some LF then normalise rest else LF :: normalise rest
      else b :: normalise rest

/-- Every CR stands directly before an LF. -/
def Paired : List UInt8 → Prop
  | [] => True
  | b :: rest => (b = CR → rest.head? = some LF) ∧ Paired rest

instance decidablePaired : (text : List UInt8) → Decidable (Paired text)
  | [] => isTrue trivial
  | b :: rest =>
      have := decidablePaired rest
      inferInstanceAs (Decidable ((b = CR → rest.head? = some LF) ∧ Paired rest))

section

variable {b : UInt8} {rest : List UInt8}

theorem normalise_plain (plain : b ≠ CR) : normalise (b :: rest) = b :: normalise rest :=
  if_neg plain

theorem normalise_cr (alone : rest.head? ≠ some LF) :
    normalise (CR :: rest) = LF :: normalise rest := by
  rw [normalise, if_pos rfl, if_neg alone]

end

namespace Decoder

variable {d : Decoder} {name value bytes : List UInt8}

theorem feed_nil : d.feed [] = d := rfl

theorem feed_cons (b : UInt8) : d.feed (b :: bytes) = (d.feedByte b).feed bytes := rfl

theorem feed_append (more : List UInt8) : d.feed (bytes ++ more) = (d.feed bytes).feed more :=
  List.foldl_append

/-! ## Lines -/

theorem setField_line (name value : List UInt8) :
    (d.setField name value).line = d.line ∧ (d.setField name value).afterCr = d.afterCr := by
  unfold setField
  repeat' split
  all_goals exact ⟨rfl, rfl⟩

theorem endLine_line (d : Decoder) : d.endLine.line = [] ∧ d.endLine.afterCr = d.afterCr := by
  unfold endLine
  split
  · rename_i blank
    unfold dispatch
    split <;> exact ⟨blank, rfl⟩
  · exact setField_line _ _

theorem feedByte_lf (joined : d.afterCr = false) : d.feedByte LF = d.endLine := by
  rw [feedByte, if_pos rfl, joined]
  exact if_neg Bool.false_ne_true

theorem feedByte_cr : d.feedByte CR = { d.endLine with afterCr := true } := rfl

/-- An LF after a CR belongs to the same line end. -/
theorem feed_crlf (joined : d.afterCr = false) (rest : List UInt8) :
    d.feed (CR :: LF :: rest) = d.endLine.feed rest := by
  have kept := (endLine_line d).2
  rw [joined] at kept
  rw [feed_cons, feedByte_cr, feed_cons]
  have once : ({ d.endLine with afterCr := true } : Decoder).feedByte LF = d.endLine := by
    rw [feedByte, if_pos rfl, if_pos rfl, ← kept]
  rw [once]

theorem feedByte_plain {b : UInt8} (plain : b ≠ LF ∧ b ≠ CR) :
    d.feedByte b = { d with line := d.line ++ [b], afterCr := false } := by
  rw [feedByte, if_neg plain.1, if_neg plain.2]

/-- Bytes without a line end extend the line. -/
theorem feed_plain (joined : d.afterCr = false) (plain : ∀ b ∈ bytes, b ≠ LF ∧ b ≠ CR) :
    d.feed bytes = { d with line := d.line ++ bytes } := by
  induction bytes generalizing d with
  | nil => rw [List.append_nil, feed_nil]
  | cons b bytes ih =>
      obtain ⟨first, rest⟩ := List.forall_mem_cons.mp plain
      rw [feed_cons, feedByte_plain first, ih rfl rest, List.append_assoc, ← joined]
      rfl

theorem parseField_of_colon (fresh : COLON ∉ name) :
    parseField (name ++ COLON :: SPACE :: value) = (name, value) := by
  have found : cut [COLON] (name ++ COLON :: SPACE :: value) = some (name, SPACE :: value) :=
    cut_here fresh
  rw [parseField, found]
  dsimp only
  rw [List.head?_cons, if_pos rfl, List.tail_cons]

theorem colon_not_mem_data : COLON ∉ DATA := by decide

/-- A line that ends is a field. -/
theorem endLine_field (between : d.Fresh) (fresh : COLON ∉ name) :
    { d with line := name ++ COLON :: SPACE :: value }.endLine = d.setField name value := by
  have more : name ++ COLON :: SPACE :: value ≠ [] := List.append_ne_nil_of_right_ne_nil _
    (List.cons_ne_nil _ _)
  rw [endLine, if_neg more, parseField_of_colon fresh, ← between.line]

/-- **A field that is written is read.** -/
theorem feed_field (between : d.Fresh) (fresh : COLON ∉ name)
    (names : ∀ b ∈ name, b ≠ LF ∧ b ≠ CR) (plain : ∀ b ∈ value, b ≠ LF ∧ b ≠ CR) :
    d.feed (name ++ COLON :: SPACE :: value ++ [LF]) = d.setField name value := by
  have written : ∀ b ∈ name ++ COLON :: SPACE :: value, b ≠ LF ∧ b ≠ CR := by
    intro b mem
    rcases List.mem_append.mp mem with inName | inRest
    · exact names b inName
    · rcases List.mem_cons.mp inRest with rfl | inRest
      · decide
      · rcases List.mem_cons.mp inRest with rfl | inValue
        · decide
        · exact plain b inValue
  have ended : ({ d with line := name ++ COLON :: SPACE :: value } : Decoder).feedByte LF =
      d.setField name value :=
    (feedByte_lf (d := { d with line := name ++ COLON :: SPACE :: value }) between.afterCr).trans
      (endLine_field between fresh)
  rw [feed_append, feed_plain between.afterCr written, between.line, List.nil_append, feed_cons,
    ended, feed_nil]

theorem Fresh.setField (between : d.Fresh) (name value : List UInt8) :
    (d.setField name value).Fresh :=
  ⟨(setField_line name value).1.trans between.line,
    (setField_line name value).2.trans between.afterCr⟩

/-! ## How much data there is -/

/-- The data dispatched and pending; an event counts one byte more than its data, for the LF that
was dropped. -/
def weight (d : Decoder) : Nat := (d.events.map fun e => e.data.length + 1).sum + d.data.length

theorem weight_dispatch (d : Decoder) : d.dispatch.weight = d.weight := by
  unfold dispatch
  split
  · rfl
  · rename_i some
    have positive := List.length_pos_of_ne_nil some
    simp only [weight, List.map_append, List.map_cons, List.map_nil, List.sum_append,
      List.sum_cons, List.sum_nil, List.length_dropLast, List.length_nil]
    omega

theorem weight_setField_data (value : List UInt8) :
    (d.setField DATA value).weight = d.weight + value.length + 1 := by
  have data : d.setField DATA value = { d with data := d.data ++ value ++ [LF] } := by
    rw [setField, if_neg (by decide), if_pos rfl]
  rw [data]
  simp only [weight, List.length_append, List.length_singleton]
  omega

theorem weight_setField_other (other : name ≠ DATA) :
    (d.setField name value).weight = d.weight := by
  unfold setField
  rw [if_neg other]
  repeat' split
  all_goals rfl

/-- A line adds less to the data than it has bytes, or nothing if it is blank. -/
theorem weight_endLine_le (d : Decoder) : d.endLine.weight ≤ d.weight + d.line.length := by
  unfold endLine
  split
  · rw [weight_dispatch]
    exact Nat.le_add_right _ _
  · have same : ({ d with line := [] } : Decoder).weight = d.weight := rfl
    by_cases data : (parseField d.line).1 = DATA
    · rw [data, weight_setField_data, same]
      have room : (parseField d.line).2.length + 1 ≤ d.line.length := by
        unfold parseField at data ⊢
        cases found : cut [COLON] d.line with
        | none =>
            rw [found] at data
            have whole : d.line = DATA := data
            rw [whole]
            decide
        | some parts =>
            obtain ⟨n, v⟩ := parts
            have length := length_of_cut found
            have tail : (if v.head? = some SPACE then v.tail else v).length ≤ v.length := by
              split
              · rw [List.length_tail]
                exact Nat.sub_le _ _
              · exact Nat.le_refl _
            rw [found] at data
            have named : n = DATA := data
            have size : DATA.length = 4 := rfl
            rw [named, size, List.length_singleton] at length
            dsimp only
            omega
      omega
    · rw [weight_setField_other data, same]
      exact Nat.le_add_right _ _

/-- The data if the line ends now, at most. -/
def potential (d : Decoder) : Nat :=
  d.weight + if DATA ++ [COLON, SPACE] <+: d.line then d.line.length - 5 else d.line.length

theorem potential_of_blank (blank : d.line = []) : d.potential = d.weight := by
  rw [potential, blank]
  rfl

/-- **A line end adds nothing.** -/
theorem potential_endLine_le (d : Decoder) : d.endLine.potential ≤ d.potential := by
  rw [potential_of_blank (endLine_line d).1]
  by_cases data : DATA ++ [COLON, SPACE] <+: d.line
  · obtain ⟨value, line⟩ := data
    have more : d.line ≠ [] := by
      rw [← line]
      exact List.cons_ne_nil _ _
    have parsed : parseField d.line = (DATA, value) := by
      rw [← line]
      exact parseField_of_colon colon_not_mem_data
    have same : ({ d with line := [] } : Decoder).weight = d.weight := rfl
    have length : d.line.length = value.length + 6 := by
      rw [← line, List.length_append, Nat.add_comm]
      rfl
    rw [endLine, if_neg more, parsed, weight_setField_data, same, potential,
      if_pos ⟨value, line⟩]
    dsimp only
    omega
  · rw [potential, if_neg data]
    exact weight_endLine_le d

theorem potential_feedByte_lf : (d.feedByte LF).potential ≤ d.potential := by
  rw [feedByte, if_pos rfl]
  split
  · exact Nat.le_refl _
  · exact potential_endLine_le d

theorem potential_feedByte_cr : (d.feedByte CR).potential ≤ d.potential := potential_endLine_le d

/-- **A byte adds one at most.** -/
theorem potential_feedByte_plain {b : UInt8} (plain : b ≠ LF ∧ b ≠ CR) :
    (d.feedByte b).potential ≤ d.potential + 1 := by
  have same (a : Bool) : ({ d with line := d.line ++ [b], afterCr := a } : Decoder).weight =
      d.weight := rfl
  rw [feedByte_plain plain, potential, potential, same, List.length_append, List.length_singleton]
  by_cases data : DATA ++ [COLON, SPACE] <+: d.line
  · have longer := data.length_le
    rw [if_pos data, if_pos (data.trans (List.prefix_append _ _))]
    change 6 ≤ d.line.length at longer
    omega
  · rw [if_neg data]
    split <;> omega

/-! ## Line by line -/

theorem Fresh.aligned (between : d.Fresh) : d.Aligned := fun _ => between.line

theorem fresh_feedByte_lf (aligned : d.Aligned) : (d.feedByte LF).Fresh := by
  cases joined : d.afterCr with
  | true =>
      rw [feedByte, if_pos rfl, if_pos joined]
      exact ⟨aligned joined, rfl⟩
  | false =>
      rw [feedByte_lf joined]
      exact ⟨(endLine_line d).1, (endLine_line d).2.trans joined⟩

theorem aligned_feedByte_cr : (d.feedByte CR).Aligned := fun _ => (endLine_line d).1

theorem aligned_feedByte_plain {b : UInt8} (plain : b ≠ LF ∧ b ≠ CR) : (d.feedByte b).Aligned := by
  rw [feedByte_plain plain]
  exact fun joined => absurd joined Bool.false_ne_true

end Decoder

end EventStream

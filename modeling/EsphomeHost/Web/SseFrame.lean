import EsphomeHost.Lib.EventStream
import EsphomeHost.Web.RoundTrip

/-!
# Frames of server-sent events

`build_sse_frame_` writes the name, the id and the reconnection time of an event, and then one
`data: ` line for each line of the message.  It splits the message at LF; the reader of the stream
splits it at CR too.

* `feed_buildSseFrame`: a frame whose message has no CR but before an LF is read as one event.
* `potential_feed_buildSseFrame`: any other message comes out shorter.
* `reads_iff`: **the frames are read as the events they stand for exactly if no message has a CR
  that is not directly followed by an LF.**
-/

namespace EsphomeHost.AsyncEventSource

open EventStream Cut
open AsyncWebServer (ascii digits forall_of_all)

/-- The arguments of `build_sse_frame_`; `event` may be null.  The strings are what stands before
their NUL. -/
structure SseFrame where
  message : List UInt8
  event : Option (List UInt8)
  id : UInt32
  reconnect : UInt32

/-- The loop over the lines of the message. -/
def dataLines (message : List UInt8) : List UInt8 :=
  match _ : cut [LF] message with
  | none => ascii "data: " ++ message ++ [LF]
  | some (chunk, rest) => ascii "data: " ++ chunk ++ [LF] ++ dataLines rest
termination_by message.length
decreasing_by
  rename_i found
  rw [length_of_cut found, List.length_singleton]
  omega

namespace SseFrame

variable (f : SseFrame)

/-- The name, which an event without one does not write. -/
def name : List UInt8 := f.event.getD []

/-- The lines before the data. -/
def header : List UInt8 :=
  (if f.name ≠ [] then ascii "event: " ++ f.name ++ [LF] else []) ++
  (if f.id ≠ 0 then ascii "id: " ++ digits f.id.toNat ++ [LF] else []) ++
  if f.reconnect ≠ 0 then ascii "retry: " ++ digits f.reconnect.toNat ++ [LF] else []

def buildSseFrame : List UInt8 := f.header ++ dataLines f.message ++ [LF]

/-! ## What a frame stands for -/

def lastEventId (last : List UInt8) : List UInt8 := if f.id = 0 then last else digits f.id.toNat

def reconnectionTime (last : Option Nat) : Option Nat :=
  if f.reconnect = 0 then last else some f.reconnect.toNat

/-- The event of a frame, behind the last id and the last reconnection time. -/
def reading (id : List UInt8) (time : Option Nat) : Event where
  name := if f.name = [] then MESSAGE else f.name
  data := normalise f.message
  lastEventId := f.lastEventId id
  reconnectionTime := f.reconnectionTime time

/-- One event for each frame. -/
def readings (id : List UInt8) (time : Option Nat) : List SseFrame → List Event
  | [] => []
  | f :: fs => f.reading id time :: readings (f.lastEventId id) (f.reconnectionTime time) fs

end SseFrame

/-! ## The lines before the data -/

variable {d : Decoder} {f : SseFrame} {fs : List SseFrame}

/-- Between two frames. -/
structure Idle (d : Decoder) : Prop where
  fresh : d.Fresh
  name : d.name = []
  data : d.data = []

/-- The name of an event has no line end. -/
def SseFrame.PlainName (f : SseFrame) : Prop := ∀ b ∈ f.name, b ≠ LF ∧ b ≠ CR

theorem digits_plain {n : Nat} : ∀ b ∈ digits n, b ≠ LF ∧ b ≠ CR := by
  intro b mem
  have digit := AsyncWebServer.isDigit_of_digits mem
  constructor <;> rintro rfl <;> exact absurd digit (by decide)

theorem digits_ne_nil (n : Nat) : digits n ≠ [] := fun empty =>
  Nat.toDigits_ne_nil (List.map_eq_nil_iff.mp empty)

theorem setField_event (value : List UInt8) :
    d.setField EVENT value = { d with name := value } := rfl

theorem setField_id (n : Nat) : d.setField ID (digits n) = { d with lastEventId := digits n } := by
  have plain : (0 : UInt8) ∉ digits n := fun mem =>
    absurd (AsyncWebServer.isDigit_of_digits mem) (by decide)
  rw [Decoder.setField, if_neg (by decide), if_neg (by decide), if_pos rfl, if_neg plain]

theorem setField_retry (n : Nat) :
    d.setField RETRY (digits n) = { d with reconnectionTime := some n } := by
  have number : Strtol.decimal (digits n) = n := AsyncWebServer.decimal_digits n
  have all : (digits n).all Strtol.isDigit = true := List.all_eq_true.mpr fun b mem =>
    AsyncWebServer.isDigit_of_digits mem
  rw [Decoder.setField, if_neg (by decide), if_neg (by decide), if_neg (by decide), if_pos rfl,
    if_pos ⟨digits_ne_nil n, all⟩, number]

theorem setField_data (value : List UInt8) :
    d.setField DATA value = { d with data := d.data ++ value ++ [LF] } := by
  rw [Decoder.setField, if_neg (by decide), if_pos rfl]

/-- A line as the frame writes it. -/
theorem feed_label {label name value : List UInt8} (between : d.Fresh)
    (written : label = name ++ [COLON, SPACE])
    (names : ∀ b ∈ name, b ≠ LF ∧ b ≠ CR ∧ b ≠ COLON) (plain : ∀ b ∈ value, b ≠ LF ∧ b ≠ CR) :
    d.feed (label ++ value ++ [LF]) = d.setField name value := by
  have text : label ++ value ++ [LF] = name ++ COLON :: SPACE :: value ++ [LF] := by
    rw [written, List.append_assoc name]
    rfl
  rw [text]
  exact Decoder.feed_field between (fun mem => (names _ mem).2.2 rfl)
    (fun b mem => ⟨(names b mem).1, (names b mem).2.1⟩) plain

/-- A line that is written under a condition. -/
theorem feed_optional {P : Prop} [Decidable P] {label value : List UInt8} {e : Decoder}
    (name : List UInt8) (between : d.Fresh) (written : label = name ++ [COLON, SPACE])
    (names : ∀ b ∈ name, b ≠ LF ∧ b ≠ CR ∧ b ≠ COLON) (plain : ∀ b ∈ value, b ≠ LF ∧ b ≠ CR)
    (present : P → d.setField name value = e) (absent : ¬ P → d = e) :
    d.feed (if P then label ++ value ++ [LF] else []) = e := by
  split
  · rename_i holds
    exact (feed_label between written names plain).trans (present holds)
  · rename_i fails
    exact absent fails

/-- What the lines before the data leave. -/
def SseFrame.headed (f : SseFrame) (d : Decoder) : Decoder :=
  { d with
    name := if f.name = [] then d.name else f.name
    lastEventId := f.lastEventId d.lastEventId
    reconnectionTime := f.reconnectionTime d.reconnectionTime }

theorem feed_event (between : d.Fresh) (plain : f.PlainName) :
    d.feed (if f.name ≠ [] then ascii "event: " ++ f.name ++ [LF] else []) =
      { d with name := if f.name = [] then d.name else f.name } := by
  refine feed_optional EVENT between rfl (forall_of_all (by decide)) plain (fun named => ?_)
    fun unnamed => ?_
  · rw [if_neg named]
    exact setField_event f.name
  · rw [if_pos (not_not.mp unnamed)]

theorem feed_id (between : d.Fresh) :
    d.feed (if f.id ≠ 0 then ascii "id: " ++ digits f.id.toNat ++ [LF] else []) =
      { d with lastEventId := f.lastEventId d.lastEventId } := by
  unfold SseFrame.lastEventId
  refine feed_optional ID between rfl (forall_of_all (by decide)) digits_plain (fun numbered => ?_)
    fun zero => ?_
  · rw [if_neg numbered]
    exact setField_id f.id.toNat
  · rw [if_pos (not_not.mp zero)]

theorem feed_retry (between : d.Fresh) :
    d.feed (if f.reconnect ≠ 0 then ascii "retry: " ++ digits f.reconnect.toNat ++ [LF] else []) =
      { d with reconnectionTime := f.reconnectionTime d.reconnectionTime } := by
  unfold SseFrame.reconnectionTime
  refine feed_optional RETRY between rfl (forall_of_all (by decide)) digits_plain (fun timed => ?_)
    fun zero => ?_
  · rw [if_neg timed]
    exact setField_retry f.reconnect.toNat
  · rw [if_pos (not_not.mp zero)]

/-- **The lines before the data are read as they were written.** -/
theorem feed_header (between : d.Fresh) (plain : f.PlainName) :
    d.feed f.header = f.headed d := by
  have named : ({ d with name := if f.name = [] then d.name else f.name } : Decoder).Fresh :=
    ⟨between.line, between.afterCr⟩
  have numbered : ({ d with
      name := if f.name = [] then d.name else f.name
      lastEventId := f.lastEventId d.lastEventId } : Decoder).Fresh :=
    ⟨between.line, between.afterCr⟩
  rw [SseFrame.header, Decoder.feed_append, Decoder.feed_append, feed_event between plain,
    feed_id named]
  exact feed_retry numbered

/-! ## The data lines, byte by byte -/

/-- What follows the first `data: `. -/
def dataBody : List UInt8 → List UInt8
  | [] => [LF]
  | b :: rest => if b = LF then LF :: (ascii "data: " ++ dataBody rest) else b :: dataBody rest

theorem dataLines_none {message : List UInt8} (found : cut [LF] message = none) :
    dataLines message = ascii "data: " ++ message ++ [LF] := by
  rw [dataLines]
  split
  · rfl
  · rename_i other
    exact absurd (found.symm.trans other) (Option.some_ne_none _).symm

theorem dataLines_some {message chunk rest : List UInt8}
    (found : cut [LF] message = some (chunk, rest)) :
    dataLines message = ascii "data: " ++ chunk ++ [LF] ++ dataLines rest := by
  rw [dataLines]
  split
  · rename_i other
    exact absurd (other.symm.trans found) (Option.some_ne_none _).symm
  · rename_i other
    obtain ⟨rfl, rfl⟩ := Prod.mk.inj (Option.some.inj (other.symm.trans found))
    rfl

theorem dataLines_eq (message : List UInt8) :
    dataLines message = ascii "data: " ++ dataBody message := by
  induction message with
  | nil => exact dataLines_none rfl
  | cons b rest ih =>
      by_cases feed : b = LF
      · have found : cut [LF] (b :: rest) = some ([], rest) := by
          rw [feed]
          exact cut_at_start ⟨rest, rfl⟩
        rw [dataLines_some found, ih, dataBody, if_pos feed, List.append_nil, List.append_assoc]
        rfl
      · have elsewhere : ¬ [LF] <+: b :: rest := by
          intro here
          exact feed (List.cons_prefix_cons.mp here).1.symm
        rw [dataBody, if_neg feed]
        cases found : cut [LF] rest with
        | none =>
            rw [dataLines_none found, List.append_assoc] at ih
            rw [dataLines_none (by rw [cut_cons elsewhere, found]; rfl),
              ← List.append_cancel_left ih, List.append_assoc]
            rfl
        | some parts =>
            obtain ⟨chunk, more⟩ := parts
            have here : cut [LF] (b :: rest) = some (b :: chunk, more) := by
              rw [cut_cons elsewhere, found]
              rfl
            rw [dataLines_some found, List.append_assoc, List.append_assoc] at ih
            rw [dataLines_some here, ← List.append_cancel_left ih, List.append_assoc,
              List.append_assoc]
            rfl

/-! ## A message whose CRs stand before LFs -/

/-- In a data line that has `text` so far. -/
def inData (d : Decoder) (text : List UInt8) : Decoder :=
  { d with line := DATA ++ COLON :: SPACE :: text }

/-- After a data line. -/
def gained (d : Decoder) (text : List UInt8) : Decoder :=
  { d with data := d.data ++ text ++ [LF] }

variable {text more message : List UInt8}

theorem fresh_gained (between : d.Fresh) : (gained d text).Fresh :=
  ⟨between.line, between.afterCr⟩

theorem gained_gained : gained (gained d text) more = gained d (text ++ LF :: more) := by
  simp only [gained, List.append_assoc, List.cons_append, List.nil_append]

theorem endLine_inData (between : d.Fresh) : (inData d text).endLine = gained d text :=
  (Decoder.endLine_field between Decoder.colon_not_mem_data).trans (setField_data text)

theorem feedByte_inData {b : UInt8} (between : d.Fresh) (plain : b ≠ LF ∧ b ≠ CR) :
    (inData d text).feedByte b = inData d (text ++ [b]) := by
  rw [Decoder.feedByte_plain plain, ← between.afterCr]
  rfl

/-- The first bytes of a data line. -/
theorem feed_data_label (between : d.Fresh) : d.feed (ascii "data: ") = inData d [] := by
  have plain : ∀ b ∈ ascii "data: ", b ≠ LF ∧ b ≠ CR :=
    forall_of_all (by decide)
  rw [Decoder.feed_plain between.afterCr plain, between.line]
  rfl

/-- From the middle of a data line on.  An LF behind a CR is read as if the CR were not there. -/
theorem feed_dataBody (between : d.Fresh) (paired : Paired message) :
    (inData d text).feed (dataBody message) = gained d (text ++ normalise message) := by
  have joined {d : Decoder} {text : List UInt8} (between : d.Fresh) :
      (inData d text).afterCr = false := between.afterCr
  induction message generalizing d text with
  | nil =>
      rw [dataBody, Decoder.feed_cons, Decoder.feedByte_lf (joined between), Decoder.feed_nil,
        endLine_inData between, normalise, List.append_nil]
  | cons b rest ih =>
      obtain ⟨follows, paired⟩ := paired
      by_cases lf : b = LF
      · subst lf
        rw [dataBody, if_pos rfl, Decoder.feed_cons, Decoder.feedByte_lf (joined between),
          endLine_inData between, Decoder.feed_append, feed_data_label (fresh_gained between),
          ih (fresh_gained between) paired, gained_gained, List.nil_append]
        rfl
      · by_cases cr : b = CR
        · subst cr
          obtain ⟨more, rfl⟩ : ∃ more, rest = LF :: more := by
            cases rest with
            | nil => exact absurd (follows rfl) (Option.some_ne_none _).symm
            | cons c more => exact ⟨more, by rw [Option.some.inj (follows rfl)]⟩
          have whole : (inData d text).feed (dataBody (LF :: more)) = _ := ih between paired
          rw [dataBody, if_pos rfl, Decoder.feed_cons,
            Decoder.feedByte_lf (joined between)] at whole
          rw [dataBody, if_neg lf, dataBody, if_pos rfl, Decoder.feed_crlf (joined between), whole]
          rfl
        · rw [dataBody, if_neg lf, Decoder.feed_cons, feedByte_inData between ⟨lf, cr⟩,
            ih between paired, normalise_plain cr, List.append_assoc]
          rfl

/-- **A frame is read as one event.** -/
theorem feed_buildSseFrame (idle : Idle d) (plain : f.PlainName) (paired : Paired f.message) :
    d.feed f.buildSseFrame =
      { d with
        lastEventId := f.lastEventId d.lastEventId
        reconnectionTime := f.reconnectionTime d.reconnectionTime
        events := d.events ++ [f.reading d.lastEventId d.reconnectionTime] } := by
  have between : (f.headed d).Fresh := ⟨idle.fresh.line, idle.fresh.afterCr⟩
  have body : (f.headed d).feed (dataLines f.message) =
      gained (f.headed d) (normalise f.message) := by
    rw [dataLines_eq, Decoder.feed_append, feed_data_label between, feed_dataBody between paired,
      List.nil_append]
  have blank : (gained (f.headed d) (normalise f.message)).line = [] := idle.fresh.line
  have some : (gained (f.headed d) (normalise f.message)).data ≠ [] :=
    List.append_ne_nil_of_right_ne_nil _ (List.cons_ne_nil _ _)
  rw [SseFrame.buildSseFrame, Decoder.feed_append, Decoder.feed_append,
    feed_header idle.fresh plain, body, Decoder.feed_cons,
    Decoder.feedByte_lf (fresh_gained between).afterCr, Decoder.feed_nil, Decoder.endLine,
    if_pos blank, Decoder.dispatch, if_neg some]
  by_cases none : f.name = [] <;>
    simp [gained, SseFrame.headed, SseFrame.reading, idle.name, idle.data, none]

theorem readings_of_paired (idle : Idle d) (plain : ∀ f ∈ fs, f.PlainName)
    (paired : ∀ f ∈ fs, Paired f.message) :
    (d.feed (fs.flatMap SseFrame.buildSseFrame)).events =
      d.events ++ SseFrame.readings d.lastEventId d.reconnectionTime fs := by
  induction fs generalizing d with
  | nil => exact (List.append_nil _).symm
  | cons f fs ih =>
      obtain ⟨name, plain⟩ := List.forall_mem_cons.mp plain
      obtain ⟨message, paired⟩ := List.forall_mem_cons.mp paired
      have first := feed_buildSseFrame idle name message
      have again : Idle (d.feed f.buildSseFrame) := by
        rw [first]
        exact ⟨⟨idle.fresh.line, idle.fresh.afterCr⟩, idle.name, idle.data⟩
      rw [List.flatMap_cons, Decoder.feed_append, ih again plain paired, first]
      dsimp only
      rw [List.append_assoc]
      rfl

/-! ## Any message -/

theorem paired_cons_of_ne {b : UInt8} {rest : List UInt8} (other : b ≠ CR) :
    Paired (b :: rest) ↔ Paired rest :=
  and_iff_right fun cr => absurd cr other

/-- A CR that stands alone is a line end of its own. -/
theorem normalise_cr_length (rest : List UInt8) :
    (if Paired (CR :: rest) then 0 else 1) + (normalise rest).length ≤
      (if Paired rest then 0 else 1) + (normalise (CR :: rest)).length := by
  by_cases follows : rest.head? = some LF
  · have same : Paired (CR :: rest) ↔ Paired rest := and_iff_right fun _ => follows
    have length : (normalise (CR :: rest)).length = (normalise rest).length := by
      rw [normalise, if_pos rfl, if_pos follows]
    simp only [same, length, Nat.le_refl]
  · have alone : ¬ Paired (CR :: rest) := fun paired => follows (paired.1 rfl)
    rw [if_neg alone, normalise_cr follows, List.length_cons]
    omega

/-- One byte of the message adds one at most, and a CR that stands alone nothing; the induction is
on the message. -/
theorem potential_feed_dataBody (message : List UInt8) (aligned : d.Aligned) :
    (d.feed (dataBody message)).Fresh ∧
      (d.feed (dataBody message)).potential + (if Paired message then 0 else 1) ≤
        d.potential + (normalise message).length := by
  induction message generalizing d with
  | nil => exact ⟨Decoder.fresh_feedByte_lf aligned, Decoder.potential_feedByte_lf⟩
  | cons b rest ih =>
      by_cases lf : b = LF
      · subst lf
        have fresh := Decoder.fresh_feedByte_lf aligned
        have ended := Decoder.potential_feedByte_lf (d := d)
        have label : (inData (d.feedByte LF) []).potential = (d.feedByte LF).potential + 1 := by
          rw [Decoder.potential_of_blank fresh.line]
          rfl
        obtain ⟨after, bound⟩ := ih (d := inData (d.feedByte LF) [])
          fun joined => absurd (joined.symm.trans fresh.afterCr) (by decide)
        rw [dataBody, if_pos rfl, Decoder.feed_cons, Decoder.feed_append, feed_data_label fresh]
        simp only [paired_cons_of_ne (show LF ≠ CR by decide)]
        rw [normalise_plain (by decide), List.length_cons]
        exact ⟨after, by omega⟩
      · rw [dataBody, if_neg lf, Decoder.feed_cons]
        by_cases cr : b = CR
        · subst cr
          have ended := Decoder.potential_feedByte_cr (d := d)
          obtain ⟨after, bound⟩ := ih (Decoder.aligned_feedByte_cr (d := d))
          have length := normalise_cr_length rest
          exact ⟨after, by omega⟩
        · obtain ⟨after, bound⟩ := ih (Decoder.aligned_feedByte_plain (d := d) ⟨lf, cr⟩)
          have extended := Decoder.potential_feedByte_plain (d := d) ⟨lf, cr⟩
          simp only [paired_cons_of_ne cr]
          rw [normalise_plain cr, List.length_cons]
          exact ⟨after, by omega⟩

/-- **A frame adds its message and one byte, and less if a CR stands alone.** -/
theorem potential_feed_buildSseFrame (between : d.Fresh) (plain : f.PlainName) :
    (d.feed f.buildSseFrame).Fresh ∧
      (d.feed f.buildSseFrame).weight + (if Paired f.message then 0 else 1) ≤
        d.weight + ((normalise f.message).length + 1) := by
  have headed : (f.headed d).Fresh := ⟨between.line, between.afterCr⟩
  have label : (inData (f.headed d) []).potential = d.weight + 1 := rfl
  obtain ⟨after, bound⟩ := potential_feed_dataBody (d := inData (f.headed d) []) f.message
    fun joined => absurd (joined.symm.trans between.afterCr) (by decide)
  have ended := Decoder.fresh_feedByte_lf after.aligned
  have last := Decoder.potential_feedByte_lf
    (d := (inData (f.headed d) []).feed (dataBody f.message))
  rw [Decoder.potential_of_blank ended.line] at last
  rw [SseFrame.buildSseFrame, Decoder.feed_append, Decoder.feed_append, feed_header between plain,
    dataLines_eq, Decoder.feed_append, feed_data_label headed, Decoder.feed_cons, Decoder.feed_nil]
  exact ⟨ended, by omega⟩

/-- The weight of the events the frames stand for. -/
def total (fs : List SseFrame) : Nat := (fs.map fun f => (normalise f.message).length + 1).sum

theorem total_readings (fs : List SseFrame) (id : List UInt8) (time : Option Nat) :
    ((SseFrame.readings id time fs).map fun e => e.data.length + 1).sum = total fs := by
  induction fs generalizing id time with
  | nil => rfl
  | cons f fs ih =>
      have rest := ih (f.lastEventId id) (f.reconnectionTime time)
      simp only [SseFrame.readings, total, List.map_cons, List.sum_cons] at rest ⊢
      rw [rest]
      rfl

theorem weight_feed_frames (between : d.Fresh) (plain : ∀ f ∈ fs, f.PlainName) :
    (d.feed (fs.flatMap SseFrame.buildSseFrame)).weight +
        (if ∀ f ∈ fs, Paired f.message then 0 else 1) ≤ d.weight + total fs := by
  induction fs generalizing d with
  | nil => simp [Decoder.feed_nil, total]
  | cons f fs ih =>
      obtain ⟨name, plain⟩ := List.forall_mem_cons.mp plain
      obtain ⟨after, first⟩ := potential_feed_buildSseFrame between name
      have rest := ih after plain
      rw [List.flatMap_cons, Decoder.feed_append]
      simp only [List.forall_mem_cons, total, List.map_cons, List.sum_cons] at rest ⊢
      by_cases message : Paired f.message
      · simp only [message, true_and, if_pos] at first ⊢
        omega
      · simp only [message, false_and, if_false] at first ⊢
        omega

/-- **The events of a stream of frames are the ones the frames stand for exactly if every CR in a
message stands directly before an LF.** -/
theorem reads_iff (plain : ∀ f ∈ fs, ∀ b ∈ f.name, b ≠ LF ∧ b ≠ CR) :
    decode (fs.flatMap SseFrame.buildSseFrame) = SseFrame.readings [] none fs ↔
      ∀ f ∈ fs, Paired f.message := by
  constructor
  · intro read
    by_contra alone
    have bound := weight_feed_frames (d := {}) ⟨rfl, rfl⟩ plain
    have whole : total fs ≤ (Decoder.feed {} (fs.flatMap SseFrame.buildSseFrame)).weight := by
      rw [← total_readings fs [] none, ← read]
      exact Nat.le_add_right _ _
    have empty : ({} : Decoder).weight = 0 := rfl
    rw [if_neg alone, empty] at bound
    omega
  · exact readings_of_paired ⟨⟨rfl, rfl⟩, rfl, rfl⟩ plain

/-- A log line and a ping. -/
def logAndPing : List SseFrame :=
  [⟨ascii "on\r\noff\n", some (ascii "log"), 0, 0⟩, ⟨[], none, 7, 30000⟩]

theorem reads_logAndPing :
    decode (logAndPing.flatMap SseFrame.buildSseFrame) =
      [⟨ascii "log", ascii "on\noff\n", [], none⟩, ⟨MESSAGE, [], ascii "7", some 30000⟩] := by
  have plain : ∀ f ∈ logAndPing, ∀ b ∈ f.name, b ≠ LF ∧ b ≠ CR :=
    List.forall_mem_cons.mpr ⟨forall_of_all (by decide),
      List.forall_mem_singleton.mpr (forall_of_all (by decide))⟩
  exact (reads_iff plain).mpr (by decide)

/-- A log line with a CR in it. -/
def overwritten : SseFrame := ⟨ascii "50%\rid: 9", some (ascii "log"), 0, 0⟩

/-- What follows the CR is a field of the event. -/
theorem misread_overwritten :
    (∀ b ∈ overwritten.name, b ≠ LF ∧ b ≠ CR) ∧
      decode ([overwritten].flatMap SseFrame.buildSseFrame) =
        [⟨ascii "log", ascii "50%", ascii "9", none⟩] ∧
      decode ([overwritten].flatMap SseFrame.buildSseFrame) ≠
        SseFrame.readings [] none [overwritten] := by
  have read : decode ([overwritten].flatMap SseFrame.buildSseFrame) =
      [⟨ascii "log", ascii "50%", ascii "9", none⟩] := by
    rw [List.flatMap_singleton, SseFrame.buildSseFrame, dataLines_eq]
    decide
  rw [read]
  exact ⟨forall_of_all (by decide), rfl, by decide⟩

end EsphomeHost.AsyncEventSource

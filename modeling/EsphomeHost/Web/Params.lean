import EsphomeHost.Web.RoundTrip

/-!
# Parameters of a request

`find_query_value_` looks a name up in the query, and in the body if that is a form.  It goes from
one `&` to the next, but looks for the `=` in all that is left.

* `Segment`, `joined`: a well-formed query, segment by segment.
* `scan_joined`: **the scan gives the decoded value of the first segment with the key**.
* `params_answers`: what the request answers, however often it is asked, and although `getParam`
  remembers what it found.
-/

namespace EsphomeHost.AsyncWebServer

open Cut

def AMPERSAND : UInt8 := 38
def EQUALS : UInt8 := 61

/-! ## The functions of the source -/

/-- The lambda `scan`, on what is left from `pos` on; an index that is not found is the length,
which is what `npos` is replaced by or compared like. -/
def scan (key : List UInt8) (src : List UInt8) : Option (List UInt8) :=
  if src = [] then none
  else
    let amp := src.idxOf AMPERSAND
    let eq := src.idxOf EQUALS
    if eq < amp then
      if src.take eq = key then some (urlDecode ((src.drop (eq + 1)).take (amp - eq - 1)))
      else scan key (src.drop (amp + 1))
    else if src.take amp = key then some []
    else scan key (src.drop (amp + 1))
termination_by src.length
decreasing_by
  all_goals
    rename_i more _ _
    have size := List.length_pos_iff.mpr more
    rw [List.length_drop]
    omega

def FORM : List UInt8 := ascii "application/x-www-form-urlencoded"

def findQueryValue (r : Request) (name : List UInt8) : Option (List UInt8) :=
  match scan name r.head.query with
  | some v => some v
  | none =>
      match getHeader r (ascii "content-type") with
      | some ct => if (cut FORM ct).isSome then scan name r.body else none
      | none => none

structure AsyncWebParameter where
  name : List UInt8
  value : List UInt8
deriving DecidableEq

/-- What was parsed, and the parameters that `getParam` has made. -/
structure AsyncWebServerRequest where
  request : Request
  params : List AsyncWebParameter := []

namespace AsyncWebServerRequest

variable (r : AsyncWebServerRequest) (name : List UInt8)

def getParam : Option AsyncWebParameter × AsyncWebServerRequest :=
  match r.params.find? (·.name = name) with
  | some p => (some p, r)
  | none =>
      match findQueryValue r.request name with
      | none => (none, r)
      | some v => (some ⟨name, v⟩, { r with params := r.params ++ [⟨name, v⟩] })

def hasParam : Bool × AsyncWebServerRequest := ((r.getParam name).1.isSome, (r.getParam name).2)

def hasArg : Bool := (findQueryValue r.request name).isSome

def arg : List UInt8 := (findQueryValue r.request name).getD []

end AsyncWebServerRequest

/-! ## Well-formed queries -/

/-- What a key of a segment can be. -/
structure Key where
  bytes : List UInt8
  nonempty : bytes ≠ []
  plain : ∀ c ∈ bytes, c ≠ AMPERSAND ∧ c ≠ EQUALS ∧ c ≠ PERCENT

/-- One byte of a form-encoded value. -/
inductive FormByte
  | plain (c : UInt8) (itself : c ≠ AMPERSAND ∧ c ≠ PERCENT ∧ c ≠ PLUS)
  | blank
  | escape (high low : UInt8) (digits : (hex high).isSome ∧ (hex low).isSome)

namespace FormByte

def text : FormByte → List UInt8
  | plain c _ => [c]
  | blank => [PLUS]
  | escape high low _ => [PERCENT, high, low]

/-- The byte that is meant. -/
def byte : FormByte → UInt8
  | plain c _ => c
  | blank => SPACE
  | escape high low digits => (hex high).get digits.1 <<< 4 ||| (hex low).get digits.2

end FormByte

inductive Segment
  | empty
  | bare (key : Key)
  | pair (key : Key) (value : List FormByte)

namespace Segment

def text : Segment → List UInt8
  | empty => []
  | bare key => key.bytes
  | pair key value => key.bytes ++ EQUALS :: value.flatMap FormByte.text

/-- The value, if the segment has this key. -/
def valueOf (name : List UInt8) : Segment → Option (List UInt8)
  | empty => none
  | bare key => if key.bytes = name then some [] else none
  | pair key value => if key.bytes = name then some (value.map FormByte.byte) else none

end Segment

/-- Segments with an `&` between each two. -/
def joined (segments : List Segment) : List UInt8 :=
  [AMPERSAND].intercalate (segments.map Segment.text)

/-- The value of the first segment with this key. -/
def firstValue (name : List UInt8) (segments : List Segment) : Option (List UInt8) :=
  segments.findSome? (·.valueOf name)

/-- The content type of a form. -/
def IsForm (ct : List UInt8) : Prop := FORM <:+: ct

instance (ct : List UInt8) : Decidable (IsForm ct) :=
  decidable_of_iff ((cut FORM ct).isSome = true) cut_isSome_iff

/-- The value of a name in the query, and in the body if that is a form. -/
def valueIn (query body : List Segment) (headers : Headers) (name : List UInt8) :
    Option (List UInt8) :=
  (firstValue name query).or
    (match headers.lookup (ascii "content-type") with
      | some ct => if IsForm ct then firstValue name body else none
      | none => none)

/-! ## The decoder -/

theorem urlDecode_formByte (b : FormByte) (rest : List UInt8) :
    urlDecode (b.text ++ rest) = b.byte :: urlDecode rest := by
  cases b with
  | plain c itself => exact urlDecode_cons itself.2 rest
  | blank => exact urlDecode_unescaped (by decide) rest
  | escape high low digits =>
      obtain ⟨h, highValue⟩ := Option.isSome_iff_exists.mp digits.1
      obtain ⟨l, lowValue⟩ := Option.isSome_iff_exists.mp digits.2
      show urlDecode (PERCENT :: high :: low :: rest) = _
      have whole : escaped PERCENT high low = some (h <<< 4 ||| l) := by
        rw [escaped, if_pos rfl, highValue, lowValue]
      rw [urlDecode, whole]
      simp only [FormByte.byte, highValue, lowValue, Option.get_some]

/-- **A form-encoded value is decoded.** -/
theorem urlDecode_value (value : List FormByte) :
    urlDecode (value.flatMap FormByte.text) = value.map FormByte.byte := by
  induction value with
  | nil => rfl
  | cons b value ih => rw [List.flatMap_cons, urlDecode_formByte, ih, List.map_cons]

theorem ampersand_notMem_formByte (b : FormByte) : AMPERSAND ∉ b.text := by
  have digit : ∀ {c : UInt8}, (hex c).isSome → c ≠ AMPERSAND := by
    rintro c some rfl
    exact absurd some (by decide)
  cases b with
  | plain c itself => simpa [FormByte.text] using itself.1.symm
  | blank => decide
  | escape high low digits =>
      have ofHigh := digit digits.1
      have ofLow := digit digits.2
      have percent : AMPERSAND ≠ PERCENT := by decide
      simp [FormByte.text, percent, ofHigh.symm, ofLow.symm]

/-! ## The scan -/

/-- No segment reaches beyond its `&`. -/
theorem ampersand_notMem_text (seg : Segment) : AMPERSAND ∉ seg.text := by
  cases seg with
  | empty => exact List.not_mem_nil
  | bare key => exact fun mem => (key.plain _ mem).1 rfl
  | pair key value =>
      intro mem
      rcases List.mem_append.mp mem with ofKey | mem
      · exact (key.plain _ ofKey).1 rfl
      · rcases List.mem_cons.mp mem with same | ofValue
        · exact absurd same (by decide)
        · obtain ⟨b, -, inside⟩ := List.mem_flatMap.mp ofValue
          exact ampersand_notMem_formByte b inside

/-- What stands behind a segment: nothing, or an `&` and more. -/
def Follows (tail : List UInt8) : Prop := tail = [] ∨ ∃ rest, tail = AMPERSAND :: rest

theorem scan_nil (name : List UInt8) : scan name [] = none := by
  rw [scan, if_pos rfl]

/-- One turn of the loop, up to the next `&`. -/
theorem scan_text {text tail : List UInt8} (fresh : AMPERSAND ∉ text) (follows : Follows tail)
    (more : text ++ tail ≠ []) (name : List UInt8) :
    scan name (text ++ tail) =
      if (text ++ tail).idxOf EQUALS < text.length then
        if (text ++ tail).take ((text ++ tail).idxOf EQUALS) = name then
          some (urlDecode (text.drop ((text ++ tail).idxOf EQUALS + 1)))
        else scan name (tail.drop 1)
      else if text = name then some []
      else scan name (tail.drop 1) := by
  have amp : (text ++ tail).idxOf AMPERSAND = text.length := by
    rw [List.idxOf_append_of_notMem fresh]
    rcases follows with rfl | ⟨rest, rfl⟩
    · rfl
    · rw [List.idxOf_cons_self, Nat.add_zero]
  have behind : (text ++ tail).drop (text.length + 1) = tail.drop 1 := by
    rw [← List.drop_drop, List.drop_left]
  rw [scan, if_neg more, amp]
  dsimp only
  rw [behind, List.take_left]
  split
  · rename_i early
    have value : ((text ++ tail).drop ((text ++ tail).idxOf EQUALS + 1)).take
        (text.length - (text ++ tail).idxOf EQUALS - 1) =
          text.drop ((text ++ tail).idxOf EQUALS + 1) := by
      rw [List.drop_append_of_le_length early, List.take_append_of_le_length (by simp; omega),
        List.take_of_length_le (by simp; omega)]
    rw [value]
  · rfl

theorem equals_notMem_key (key : Key) : EQUALS ∉ key.bytes := fun mem => (key.plain _ mem).2.1 rfl

/-- **One segment**: its value, if the name is its key, else what is found behind it. -/
theorem scan_segment {name : List UInt8} (named : name ≠ []) (seg : Segment) {tail : List UInt8}
    (follows : Follows tail) :
    scan name (seg.text ++ tail) = (seg.valueOf name).or (scan name (tail.drop 1)) := by
  have fresh := ampersand_notMem_text seg
  cases seg with
  | empty =>
      change AMPERSAND ∉ [] at fresh
      show scan name ([] ++ tail) = scan name (tail.drop 1)
      rcases follows with rfl | ⟨rest, rfl⟩
      · rfl
      · rw [scan_text fresh (.inr ⟨rest, rfl⟩) (List.cons_ne_nil _ _), List.length_nil,
          if_neg (Nat.not_lt_zero _), if_neg (Ne.symm named)]
  | bare key =>
      change AMPERSAND ∉ key.bytes at fresh
      have late : ¬ (key.bytes ++ tail).idxOf EQUALS < key.bytes.length := by
        rw [List.idxOf_append_of_notMem (equals_notMem_key key)]
        omega
      rw [Segment.text, scan_text fresh follows (by simp [key.nonempty]), if_neg late,
        Segment.valueOf]
      split <;> rfl
  | pair key value =>
      have at_key : (Segment.text (.pair key value) ++ tail).idxOf EQUALS = key.bytes.length := by
        rw [Segment.text, List.append_assoc,
          List.idxOf_append_of_notMem (equals_notMem_key key), List.cons_append,
          List.idxOf_cons_self, Nat.add_zero]
      rw [scan_text fresh follows (by simp [Segment.text]), at_key,
        if_pos (by simp [Segment.text]), Segment.valueOf, Segment.text, List.append_assoc,
        List.take_left, ← List.drop_drop, List.drop_left, List.drop_one, List.tail_cons,
        urlDecode_value]
      split <;> rfl

theorem joined_cons (seg : Segment) (segments : List Segment) :
    ∃ tail, Follows tail ∧ joined (seg :: segments) = seg.text ++ tail ∧
      tail.drop 1 = joined segments := by
  cases segments with
  | nil => exact ⟨[], .inl rfl, by simp [joined, List.intercalate], rfl⟩
  | cons next segments =>
      exact ⟨AMPERSAND :: joined (next :: segments), .inr ⟨_, rfl⟩,
        by simp [joined, List.intercalate], rfl⟩

/-- **The scan of a well-formed query.** -/
theorem scan_joined {name : List UInt8} (named : name ≠ []) (segments : List Segment) :
    scan name (joined segments) = firstValue name segments := by
  induction segments with
  | nil => exact scan_nil name
  | cons seg segments ih =>
      obtain ⟨tail, follows, whole, rest⟩ := joined_cons seg segments
      rw [whole, scan_segment named seg follows, rest, ih]
      unfold firstValue
      rw [List.findSome?_cons]
      cases seg.valueOf name <;> rfl

/-! ## The answers -/

section Answers

variable {r : Request} {query body : List Segment}

theorem findQueryValue_eq (queried : r.head.query = joined query) (sent : r.body = joined body)
    {name : List UInt8} (named : name ≠ []) :
    findQueryValue r name = valueIn query body r.head.headers name := by
  rw [findQueryValue, queried, sent, scan_joined named, scan_joined named, valueIn, getHeader,
    show lowercase (ascii "content-type") = ascii "content-type" by decide]
  cases firstValue name query with
  | some v => rfl
  | none =>
      cases r.head.headers.lookup (ascii "content-type") with
      | none => rfl
      | some ct =>
          dsimp only
          rw [Option.none_or]
          exact if_congr cut_isSome_iff rfl rfl

/-- A question to the request. -/
inductive Call
  | getParam (name : List UInt8)
  | hasParam (name : List UInt8)
  | hasArg (name : List UInt8)
  | arg (name : List UInt8)

def Call.name : Call → List UInt8
  | getParam name | hasParam name | hasArg name | arg name => name

inductive Answer
  | param (p : Option AsyncWebParameter)
  | flag (b : Bool)
  | text (s : List UInt8)
deriving DecidableEq

namespace AsyncWebServerRequest

/-- The answer to a question, and the request afterwards. -/
def call (r : AsyncWebServerRequest) : Call → Answer × AsyncWebServerRequest
  | .getParam name => (.param (r.getParam name).1, (r.getParam name).2)
  | .hasParam name => (.flag (r.hasParam name).1, (r.hasParam name).2)
  | .hasArg name => (.flag (r.hasArg name), r)
  | .arg name => (.text (r.arg name), r)

/-- The answers to one question after another. -/
def answers : AsyncWebServerRequest → List Call → List Answer
  | _, [] => []
  | r, c :: calls => (r.call c).1 :: answers (r.call c).2 calls

/-- What was remembered was found. -/
def Remembers (r : AsyncWebServerRequest) : Prop :=
  ∀ p ∈ r.params, findQueryValue r.request p.name = some p.value

theorem getParam_spec {r : AsyncWebServerRequest} (remembers : r.Remembers) (name : List UInt8) :
    (r.getParam name).1 = (findQueryValue r.request name).map (⟨name, ·⟩) ∧
      (r.getParam name).2.request = r.request ∧ (r.getParam name).2.Remembers := by
  unfold getParam
  cases known : r.params.find? (·.name = name) with
  | some p =>
      have found := remembers p (List.mem_of_find?_eq_some known)
      have same : p.name = name := by simpa using List.find?_some known
      subst same
      exact ⟨by rw [found]; rfl, rfl, remembers⟩
  | none =>
      cases found : findQueryValue r.request name with
      | none => exact ⟨rfl, rfl, remembers⟩
      | some v =>
          refine ⟨rfl, rfl, fun p mem => ?_⟩
          rcases List.mem_append.mp mem with old | new
          · exact remembers p old
          · obtain rfl := List.mem_singleton.mp new
            exact found

end AsyncWebServerRequest

/-- What should be answered, with this value for the name. -/
def Call.answer (value : Option (List UInt8)) : Call → Answer
  | getParam name => .param (value.map (⟨name, ·⟩))
  | hasParam _ | hasArg _ => .flag value.isSome
  | arg _ => .text (value.getD [])

theorem call_spec {a : AsyncWebServerRequest} (remembers : a.Remembers) (c : Call) :
    (a.call c).1 = c.answer (findQueryValue a.request c.name) ∧
      (a.call c).2.request = a.request ∧ (a.call c).2.Remembers := by
  cases c with
  | getParam name =>
      obtain ⟨value, kept⟩ := AsyncWebServerRequest.getParam_spec remembers name
      exact ⟨congrArg Answer.param value, kept⟩
  | hasParam name =>
      obtain ⟨value, kept⟩ := AsyncWebServerRequest.getParam_spec remembers name
      refine ⟨congrArg Answer.flag ?_, kept⟩
      show (a.getParam name).1.isSome = _
      rw [value, Option.isSome_map]
      rfl
  | hasArg | arg => exact ⟨rfl, rfl, remembers⟩

/-- **Whatever is asked, and however often.** -/
theorem params_answers (queried : r.head.query = joined query) (sent : r.body = joined body)
    (calls : List Call) (named : ∀ c ∈ calls, c.name ≠ []) :
    (∀ c ∈ calls, findQueryValue r c.name = valueIn query body r.head.headers c.name) ∧
      AsyncWebServerRequest.answers ⟨r, []⟩ calls =
        calls.map fun c => c.answer (valueIn query body r.head.headers c.name) := by
  have value : ∀ c ∈ calls, findQueryValue r c.name =
      valueIn query body r.head.headers c.name := fun c mem =>
    findQueryValue_eq queried sent (named c mem)
  have answered : ∀ (a : AsyncWebServerRequest), a.request = r → a.Remembers →
      a.answers calls = calls.map fun c => c.answer (findQueryValue r c.name) := by
    clear named value
    induction calls with
    | nil => exact fun _ _ _ => rfl
    | cons c calls ih =>
        intro a same remembers
        obtain ⟨answer, request, kept⟩ := call_spec remembers c
        rw [AsyncWebServerRequest.answers, ih _ (request.trans same) kept, answer, same,
          List.map_cons]
  refine ⟨value, ?_⟩
  rw [answered ⟨r, []⟩ rfl fun p mem => absurd mem List.not_mem_nil]
  exact List.map_congr_left fun c mem => by rw [value c mem]

end Answers

/-- `x=a%2Bb`, an empty segment, `y`, and `x=2`. -/
def someQuery : List Segment :=
  let x : Key := ⟨ascii "x", by decide, forall_of_all (by decide)⟩
  let y : Key := ⟨ascii "y", by decide, forall_of_all (by decide)⟩
  [.pair x [.plain 97 (by decide), .escape 50 66 (by decide), .plain 98 (by decide)], .empty,
    .bare y, .pair x [.plain 50 (by decide)]]

def someRequest : Request := ⟨{ method := .get, url := [], query := joined someQuery }, []⟩

theorem params_answers_twice :
    joined someQuery = ascii "x=a%2Bb&&y&x=2" ∧
      AsyncWebServerRequest.answers ⟨someRequest, []⟩
          [.getParam (ascii "x"), .arg (ascii "x"), .arg (ascii "y"), .hasArg (ascii "z")] =
        [.param (some ⟨ascii "x", ascii "a+b"⟩), .text (ascii "a+b"), .text [], .flag false] := by
  refine ⟨by decide, ?_⟩
  have query : someRequest.head.query = joined someQuery := rfl
  have body : someRequest.body = joined [] := rfl
  rw [(params_answers query body _ (by decide)).2]
  decide

end EsphomeHost.AsyncWebServer

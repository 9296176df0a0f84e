import EsphomeHost.Web.Segmentation
import Mathlib.Data.List.Nodup
import Mathlib.Data.List.TakeWhile

/-!
# Writing a request and reading it

A client percent-encodes the path, writes one line for each header and announces the length of the
body.

* `urlDecode_percentEncode`, `headerLoop_text`, `strtoul_digits`: the parts are read back.
* `parseRequest_text`: **a request is read as it was written**, whatever the pieces it arrives in.
-/

namespace EsphomeHost.AsyncWebServer

open Cut
open Strtol (isDigit decimal)

/-! ## Writing -/

/-- Letters, digits and `-._~`. -/
def unreserved (c : UInt8) : Bool :=
  65 ≤ c ∧ c ≤ 90 ∨ 97 ≤ c ∧ c ≤ 122 ∨ 48 ≤ c ∧ c ≤ 57 ∨ c = 45 ∨ c = 46 ∨ c = 95 ∨ c = 126

/-- A character as a byte. -/
def byteOf (c : Char) : UInt8 := UInt8.ofNat c.toNat

def percentEncodeByte (c : UInt8) : List UInt8 :=
  if unreserved c then [c] else PERCENT :: (Hex.byteUpper c).map byteOf

def percentEncode (path : List UInt8) : List UInt8 := path.flatMap percentEncodeByte

def HttpMethod.name : HttpMethod → List UInt8
  | get => ascii "GET"
  | post => ascii "POST"
  | put => ascii "PUT"
  | delete => ascii "DELETE"
  | options => ascii "OPTIONS"
  | head => ascii "HEAD"
  | patch => ascii "PATCH"
  | any => []

/-- The decimal digits of a number. -/
def digits (n : Nat) : List UInt8 := (Nat.toDigits 10 n).map byteOf

/-- A request before it is written; the path is not encoded. -/
structure Message where
  method : HttpMethod
  path : List UInt8
  query : List UInt8
  headers : List (List UInt8 × List UInt8)
  body : List UInt8

/-- A header line. -/
def headerText (h : List UInt8 × List UInt8) : List UInt8 := h.1 ++ COLON :: SPACE :: h.2

/-- The header lines, each behind a line break. -/
def headersText (hs : List (List UInt8 × List UInt8)) : List UInt8 :=
  hs.flatMap fun h => CRLF ++ headerText h

namespace Message

variable (m : Message)

def target : List UInt8 :=
  percentEncode m.path ++ if m.query = [] then [] else QUESTION :: m.query

def line : List UInt8 := m.method.name ++ SPACE :: (m.target ++ SPACE :: ascii "HTTP/1.1")

def block : List UInt8 := m.line ++ headersText m.headers

def text : List UInt8 := m.block ++ (END ++ m.body)

/-- The headers with their names as the parser stores them. -/
def lowered : Headers := m.headers.map fun h => (lowercase h.1, h.2)

/-- The header that announces the body, if there is one. -/
def Announced : Prop :=
  (ascii "content-length", digits m.body.length) ∈ m.lowered ∨
    m.body = [] ∧ ascii "content-length" ∉ m.lowered.map Prod.fst

/-- A request that can be written.  A body is shorter than 2^64 bytes like any string. -/
structure Valid : Prop where
  method : m.method ≠ .any
  query : ∀ c ∈ m.query, c ≠ SPACE ∧ c ≠ 13 ∧ c ≠ 10
  nonempty : m.headers ≠ []
  names : ∀ h ∈ m.headers, ∀ c ∈ h.1, c ≠ COLON ∧ c ≠ 13 ∧ c ≠ 10
  values : ∀ h ∈ m.headers, ∀ c ∈ h.2, c ≠ 13 ∧ c ≠ 10
  trimmed : ∀ h ∈ m.headers, ∀ c ∈ h.2.head?, isBlank c = false
  distinct : (m.lowered.map Prod.fst).Nodup
  announced : m.Announced
  size : m.body.length < 2 ^ 64
  small : m.block.length ≤ 30 * 1024

end Message

/-! ## The path -/

theorem hex_upper {n : UInt8} (small : n.toNat < 16) : hex (byteOf (Hex.upper n)) = some n :=
  Hex.forall_nibble (p := fun n => hex (byteOf (Hex.upper n)) = some n) (by decide) small

theorem escaped_byteUpper (c : UInt8) :
    escaped PERCENT (byteOf (Hex.upper (c >>> 4))) (byteOf (Hex.upper (c &&& 15))) = some c := by
  unfold escaped
  rw [if_pos rfl, hex_upper (Hex.high_lt c), hex_upper (Hex.low_lt c)]
  exact congrArg some (Hex.join_nibbles c)

/-- A byte other than `%` begins no escape. -/
theorem urlDecode_unescaped {c : UInt8} (other : c ≠ PERCENT) (rest : List UInt8) :
    urlDecode (c :: rest) = unescaped c :: urlDecode rest := by
  match rest with
  | [] => rfl
  | [b] => rfl
  | h :: l :: rest => rw [urlDecode, show escaped c h l = none from if_neg other]

/-- A byte that is neither `%` nor `+` stands for itself. -/
theorem urlDecode_cons {c : UInt8} (plain : c ≠ PERCENT ∧ c ≠ PLUS) (rest : List UInt8) :
    urlDecode (c :: rest) = c :: urlDecode rest := by
  rw [urlDecode_unescaped plain.1, show unescaped c = c from if_neg plain.2]

theorem plain_of_unreserved {c : UInt8} (free : unreserved c = true) : c ≠ PERCENT ∧ c ≠ PLUS := by
  constructor <;> rintro rfl <;> exact absurd free (by decide)

/-- **The path is read back.** -/
theorem urlDecode_percentEncode (path : List UInt8) : urlDecode (percentEncode path) = path := by
  induction path with
  | nil => rfl
  | cons c path ih =>
      show urlDecode (percentEncodeByte c ++ percentEncode path) = _
      unfold percentEncodeByte
      split
      · rename_i free
        rw [List.singleton_append, urlDecode_cons (plain_of_unreserved free), ih]
      · show urlDecode (PERCENT :: byteOf (Hex.upper (c >>> 4)) :: byteOf (Hex.upper (c &&& 15)) ::
          percentEncode path) = _
        rw [urlDecode, escaped_byteUpper, ih]

/-- The bytes of an encoded path: none of them has a meaning in the request line. -/
def isSafe (c : UInt8) : Bool := c ≠ SPACE ∧ c ≠ QUESTION ∧ c ≠ 13 ∧ c ≠ 10

theorem isSafe_upper {n : UInt8} (small : n.toNat < 16) : isSafe (byteOf (Hex.upper n)) = true :=
  Hex.forall_nibble (p := fun n => isSafe (byteOf (Hex.upper n)) = true) (by decide) small

theorem isSafe_of_unreserved {c : UInt8} (free : unreserved c = true) : isSafe c = true := by
  refine decide_eq_true ⟨?_, ?_, ?_, ?_⟩ <;> rintro rfl <;> exact absurd free (by decide)

theorem isSafe_of_mem {path : List UInt8} {c : UInt8} (mem : c ∈ percentEncode path) :
    isSafe c = true := by
  obtain ⟨b, -, mem⟩ := List.mem_flatMap.mp mem
  unfold percentEncodeByte at mem
  split at mem
  · rename_i free
    rw [List.mem_singleton.mp mem]
    exact isSafe_of_unreserved free
  · rcases List.mem_cons.mp mem with rfl | mem
    · decide
    · obtain ⟨d, digit, rfl⟩ := List.mem_map.mp mem
      rcases List.mem_pair.mp digit with rfl | rfl
      · exact isSafe_upper (Hex.high_lt b)
      · exact isSafe_upper (Hex.low_lt b)

/-! ## The request line -/

/-- A property of the bytes of a list is checked byte by byte. -/
theorem forall_of_all {p : UInt8 → Prop} [DecidablePred p] {l : List UInt8}
    (checked : l.all (fun c => decide (p c)) = true) : ∀ c ∈ l, p c :=
  fun c mem => of_decide_eq_true (List.all_eq_true.mp checked c mem)

namespace Message

variable {m : Message}

theorem name_plain (method : HttpMethod) : ∀ c ∈ method.name, isSafe c = true :=
  forall_of_all (by cases method <;> decide)

theorem parseMethod_name {method : HttpMethod} (known : method ≠ .any) :
    parseMethod method.name = method := by
  cases method with
  | any => exact absurd rfl known
  | _ => decide

/-- The target of a request has neither spaces nor line breaks. -/
theorem Valid.target_plain (valid : m.Valid) {c : UInt8} (mem : c ∈ m.target) :
    c ≠ SPACE ∧ c ≠ 13 ∧ c ≠ 10 := by
  rcases List.mem_append.mp mem with path | query
  · obtain ⟨space, -, cr, lf⟩ := of_decide_eq_true (isSafe_of_mem path)
    exact ⟨space, cr, lf⟩
  · split at query
    · cases query
    · rcases List.mem_cons.mp query with rfl | query
      · decide
      · exact valid.query c query

theorem Valid.line_plain (valid : m.Valid) {c : UInt8} (mem : c ∈ m.line) : c ≠ 13 := by
  rcases List.mem_append.mp mem with name | mem
  · exact (of_decide_eq_true (name_plain m.method c name)).2.2.1
  · rcases List.mem_cons.mp mem with rfl | mem
    · decide
    · rcases List.mem_append.mp mem with target | version
      · exact (valid.target_plain target).2.1
      · exact @forall_of_all (· ≠ 13) _ (SPACE :: ascii "HTTP/1.1") (by decide) c version

/-- **The request line is read back.** -/
theorem Valid.line_read (valid : m.Valid) : requestLine m.line =
    some { method := m.method, url := m.path, query := m.query } := by
  have name : SPACE ∉ m.method.name := fun mem =>
    (of_decide_eq_true (name_plain m.method _ mem)).1 rfl
  have target : SPACE ∉ m.target := fun mem => (valid.target_plain mem).1 rfl
  have path : QUESTION ∉ percentEncode m.path := fun mem =>
    (of_decide_eq_true (isSafe_of_mem mem)).2.1 rfl
  have first : cut [SPACE] m.line = some (m.method.name, m.target ++ SPACE :: ascii "HTTP/1.1") :=
    cut_here name
  have second : cut [SPACE] (m.target ++ SPACE :: ascii "HTTP/1.1") =
      some (m.target, ascii "HTTP/1.1") := cut_here target
  unfold requestLine
  rw [first]
  dsimp only
  rw [second]
  dsimp only
  rw [parseMethod_name valid.method]
  by_cases empty : m.query = []
  · have whole : m.target = percentEncode m.path := by
      rw [Message.target, if_pos empty, List.append_nil]
    rw [whole, cut_eq_none path]
    dsimp only
    rw [urlDecode_percentEncode, empty]
  · have whole : m.target = percentEncode m.path ++ QUESTION :: m.query := by
      rw [Message.target, if_neg empty]
    rw [whole, show cut [QUESTION] (percentEncode m.path ++ QUESTION :: m.query) =
      some (percentEncode m.path, m.query) from cut_here path]
    dsimp only
    rw [urlDecode_percentEncode]

end Message

/-! ## The headers -/

/-- A value that does not start with a blank is not trimmed. -/
theorem dropWhile_trimmed {value : List UInt8} (trimmed : ∀ c ∈ value.head?, isBlank c = false) :
    value.dropWhile isBlank = value := by
  cases value with
  | nil => rfl
  | cons c value => exact List.dropWhile_cons_of_neg (by rw [trimmed c rfl]; nofun)

theorem headerLine_text {name value : List UInt8} (fresh : COLON ∉ name)
    (trimmed : ∀ c ∈ value.head?, isBlank c = false) (hs : Headers) :
    headerLine hs (headerText (name, value)) = hs.set (lowercase name) value := by
  have found : cut [COLON] (headerText (name, value)) = some (name, SPACE :: value) :=
    cut_here fresh
  unfold headerLine
  rw [found]
  dsimp only
  rw [List.dropWhile_cons_of_pos rfl, dropWhile_trimmed trimmed]

theorem headerText_ne_nil (h : List UInt8 × List UInt8) : headerText h ≠ [] := by
  unfold headerText
  simp

theorem headerText_plain {h : List UInt8 × List UInt8} (name : 13 ∉ h.1) (value : 13 ∉ h.2) :
    13 ∉ headerText h := by
  intro mem
  rcases List.mem_append.mp mem with cr | mem
  · exact name cr
  · rcases List.mem_cons.mp mem with colon | mem
    · exact absurd colon (by decide)
    · rcases List.mem_cons.mp mem with space | cr
      · exact absurd space (by decide)
      · exact value cr

/-- The loop sees the lines that were written. -/
theorem headerLoop_text {h : List UInt8 × List UInt8} {hs : List (List UInt8 × List UInt8)}
    (plain : ∀ h' ∈ h :: hs, 13 ∉ headerText h') (acc : Headers) :
    headerLoop (headerText h ++ headersText hs) acc =
      (h :: hs).foldl (fun acc h => headerLine acc (headerText h)) acc := by
  induction hs generalizing h acc with
  | nil =>
      have last : cut CRLF (headerText h ++ headersText []) = none := by
        rw [headersText, List.flatMap_nil, List.append_nil]
        exact cut_eq_none (plain h List.mem_cons_self)
      rw [headerLoop_last (by simp [headerText]) last, headersText, List.flatMap_nil,
        List.append_nil]
      rfl
  | cons h' hs ih =>
      have found : cut CRLF (headerText h ++ headersText (h' :: hs)) =
          some (headerText h, headerText h' ++ headersText hs) := by
        rw [headersText, List.flatMap_cons, List.append_assoc]
        exact cut_here (plain h List.mem_cons_self)
      rw [headerLoop_cons found (headerText_ne_nil h),
        ih fun h'' mem => plain h'' (List.mem_cons_of_mem _ mem)]
      rfl

/-- Headers with names of their own are stored in the order they come in. -/
theorem foldl_set {hs acc : Headers} (distinct : ((acc ++ hs).map Prod.fst).Nodup) :
    hs.foldl (fun acc h => acc.set h.1 h.2) acc = acc ++ hs := by
  induction hs generalizing acc with
  | nil => exact (List.append_nil acc).symm
  | cons h hs ih =>
      have fresh : acc.filter (·.1 ≠ h.1) = acc := by
        refine List.filter_eq_self.mpr fun entry mem => decide_eq_true fun same => ?_
        rw [List.map_append, List.nodup_append] at distinct
        exact distinct.2.2 entry.1 (List.mem_map_of_mem mem) h.1 (by simp) same
      have stored : acc.set h.1 h.2 = acc ++ [h] := by
        rw [Headers.set, fresh]
      rw [List.foldl_cons, stored, ih]
      · rw [List.append_assoc]
        rfl
      · rw [List.append_assoc]
        exact distinct

/-- A header with a name of its own is found. -/
theorem lookup_of_mem {hs : Headers} {name value : List UInt8} (distinct : (hs.map Prod.fst).Nodup)
    (mem : (name, value) ∈ hs) : hs.lookup name = some value := by
  obtain ⟨before, after, rfl⟩ := List.append_of_mem mem
  rw [List.map_append, List.nodup_append] at distinct
  have fresh : List.lookup name before = none := by
    rw [List.lookup_eq_none_iff]
    intro entry mem
    refine bne_iff_ne.mpr fun same => ?_
    exact distinct.2.2 entry.1 (List.mem_map_of_mem mem) name (by simp) same.symm
  rw [List.lookup_append, fresh, Option.none_or, List.lookup_cons_self]

/-! ## The length of the body -/

theorem digit_range {n : Nat} {d : Char} (mem : d ∈ Nat.toDigits 10 n) :
    48 ≤ d.toNat ∧ d.toNat ≤ 57 := by
  have digit := Nat.isDigit_of_mem_toDigits (b := 10) (by decide) (by decide) mem
  simpa [Char.isDigit, UInt32.le_iff_toNat_le] using digit

theorem toNat_byteOf {d : Char} (small : d.toNat ≤ 57) : (byteOf d).toNat = d.toNat := by
  rw [byteOf, UInt8.toNat_ofNat', Nat.mod_eq_of_lt (by omega)]

theorem isDigit_of_digits {n : Nat} {c : UInt8} (mem : c ∈ digits n) : isDigit c = true := by
  obtain ⟨d, digit, rfl⟩ := List.mem_map.mp mem
  obtain ⟨low, high⟩ := digit_range digit
  refine (Bool.and_eq_true _ _).mpr ⟨decide_eq_true ?_, decide_eq_true ?_⟩ <;>
    rw [UInt8.le_iff_toNat_le, toNat_byteOf high]
  · exact low
  · exact high

theorem decimal_digits (n : Nat) : decimal (digits n) = n := by
  have value : ∀ c ∈ Nat.toDigits 10 n, (byteOf c).toNat - 48 = c.toNat - '0'.toNat := by
    intro c mem
    rw [toNat_byteOf (digit_range mem).2]
    rfl
  have folded : ∀ (cs : List Char) (init : Nat),
      (∀ c ∈ cs, (byteOf c).toNat - 48 = c.toNat - '0'.toNat) →
        (cs.map byteOf).foldl (fun n c => 10 * n + (c.toNat - 48)) init =
          Nat.ofDigitChars 10 cs init := by
    intro cs
    induction cs with
    | nil => exact fun init _ => Nat.ofDigitChars_nil.symm
    | cons c cs ih =>
        intro init same
        rw [List.map_cons, List.foldl_cons, same c List.mem_cons_self, Nat.ofDigitChars_cons]
        exact ih _ fun c' mem => same c' (List.mem_cons_of_mem _ mem)
  unfold decimal digits
  rw [folded _ 0 value, Nat.ofDigitChars_ten_toDigits]

/-- **The announced length is read back.** -/
theorem strtoul_digits {n : Nat} (small : n < 2 ^ 64) : strtoul (digits n) = some n := by
  have all : (digits n).takeWhile isDigit = digits n :=
    List.takeWhile_eq_self_iff.mpr fun c mem => isDigit_of_digits mem
  have some : digits n ≠ [] := fun empty =>
    Nat.toDigits_ne_nil (List.map_eq_nil_iff.mp empty)
  have first : ∀ c, isDigit c = true → Strtol.isSpace c = false ∧ c ≠ 45 ∧ c ≠ PLUS := by
    intro c digit
    refine ⟨Strtol.not_isSpace_of_isDigit digit, ?_, ?_⟩ <;>
      · rintro rfl
        exact absurd digit (by decide)
  obtain ⟨c, rest, shape⟩ := List.exists_cons_of_ne_nil some
  obtain ⟨space, minus, plus⟩ := first c (isDigit_of_digits (shape ▸ List.mem_cons_self))
  have kept : (digits n).dropWhile Strtol.isSpace = digits n := by
    rw [shape]
    exact List.dropWhile_cons_of_neg (by rw [space]; nofun)
  have head : (digits n).head? = Option.some c := by rw [shape, List.head?_cons]
  have unsigned : ¬ (digits n).head? = Option.some 45 := by
    rw [head]
    exact fun same => minus (Option.some.inj same)
  have bare : ¬ ((digits n).head? = Option.some 45 ∨ (digits n).head? = Option.some PLUS) := by
    rintro (same | same)
    · exact unsigned same
    · rw [head] at same
      exact plus (Option.some.inj same)
  unfold strtoul
  simp only [kept]
  rw [if_neg bare, all, decimal_digits, if_neg (not_or.mpr ⟨some, Nat.not_le.mpr small⟩),
    if_neg unsigned]

namespace Message

variable {m : Message}

/-- **The parser knows how long the body is.** -/
theorem Valid.contentLength (valid : m.Valid) : contentLength m.lowered = m.body.length := by
  unfold AsyncWebServer.contentLength
  rcases valid.announced with announced | ⟨empty, absent⟩
  · rw [lookup_of_mem valid.distinct announced]
    dsimp only
    rw [strtoul_digits valid.size]
    rfl
  · have missing : m.lowered.lookup (ascii "content-length") = none := by
      rw [List.lookup_eq_none_iff]
      intro entry mem
      exact bne_iff_ne.mpr fun same => absent (same ▸ List.mem_map_of_mem mem)
    rw [missing, empty]
    rfl

/-! ## The block -/

theorem Valid.text_plain (valid : m.Valid) : ∀ h ∈ m.headers, 13 ∉ headerText h := fun h mem =>
  headerText_plain (fun cr => (valid.names h mem 13 cr).2.1 rfl)
    fun cr => (valid.values h mem 13 cr).1 rfl

/-- Only behind the last header line do the headers end. -/
theorem cut_headersText {hs : List (List UInt8 × List UInt8)}
    (plain : ∀ h ∈ hs, 13 ∉ headerText h) (body : List UInt8) :
    cut END (headersText hs ++ (END ++ body)) = some (headersText hs, body) := by
  induction hs with
  | nil =>
      rw [headersText, List.flatMap_nil, List.nil_append, cut_at_start (List.prefix_append _ _)]
      rfl
  | cons h hs ih =>
      have fresh := plain h List.mem_cons_self
      obtain ⟨c, rest, shape⟩ := List.exists_cons_of_ne_nil (headerText_ne_nil h)
      have other : c ≠ 13 := by
        rintro rfl
        exact fresh (shape ▸ List.mem_cons_self)
      have behind : cut END (headerText h ++ (headersText hs ++ (END ++ body))) =
          some (headerText h ++ headersText hs, body) := by
        rw [show END = 13 :: [10, 13, 10] from rfl, cut_of_not_mem fresh]
        rw [show 13 :: [10, 13, 10] = END from rfl,
          ih fun h' mem => plain h' (List.mem_cons_of_mem _ mem)]
        rfl
      have split : headersText (h :: hs) ++ (END ++ body) =
          13 :: 10 :: (headerText h ++ (headersText hs ++ (END ++ body))) := by
        rw [headersText, List.flatMap_cons, List.append_assoc, List.append_assoc]
        rfl
      have second : ¬ END <+: 10 :: (headerText h ++ (headersText hs ++ (END ++ body))) := by
        intro start
        cases (List.cons_prefix_cons.mp start).1
      have first : ¬ END <+: 13 :: 10 :: (headerText h ++ (headersText hs ++ (END ++ body))) := by
        intro start
        rw [shape] at start
        have third := (List.cons_prefix_cons.mp (List.cons_prefix_cons.mp
          (List.cons_prefix_cons.mp start).2).2).1
        exact other third.symm
      rw [split, cut_cons first, cut_cons second, behind]
      rfl

/-- A first line and header lines end where they should. -/
theorem cut_block {line : List UInt8} (fresh : 13 ∉ line) {hs : List (List UInt8 × List UInt8)}
    (plain : ∀ h ∈ hs, 13 ∉ headerText h) (body : List UInt8) :
    cut END (line ++ headersText hs ++ (END ++ body)) = some (line ++ headersText hs, body) := by
  have behind := cut_headersText plain body
  rw [List.append_assoc]
  rw [show END = 13 :: [10, 13, 10] from rfl] at behind ⊢
  rw [cut_of_not_mem fresh, behind]
  rfl

theorem Valid.cut_text (valid : m.Valid) : cut END m.text = some (m.block, m.body) :=
  cut_block (fun mem => valid.line_plain mem rfl) valid.text_plain m.body

/-- **The header block is read back.** -/
theorem Valid.block_read (valid : m.Valid) : parseHead m.block =
    some { method := m.method, url := m.path, query := m.query, headers := m.lowered } := by
  obtain ⟨h, hs, shape⟩ := List.exists_cons_of_ne_nil valid.nonempty
  have fresh : 13 ∉ m.line := fun mem => valid.line_plain mem rfl
  have found : cut CRLF m.block = some (m.line, headerText h ++ headersText hs) := by
    rw [block, shape, headersText, List.flatMap_cons, List.append_assoc]
    exact cut_here fresh
  have stored : headerLoop (headerText h ++ headersText hs) [] = m.lowered := by
    rw [headerLoop_text (by rw [← shape]; exact valid.text_plain), ← shape]
    have each : ∀ (l : List (List UInt8 × List UInt8)) (acc : Headers), (∀ h ∈ l, h ∈ m.headers) →
        l.foldl (fun acc h => headerLine acc (headerText h)) acc =
          (l.map fun h => (lowercase h.1, h.2)).foldl (fun acc h => acc.set h.1 h.2) acc := by
      intro l
      induction l with
      | nil => exact fun _ _ => rfl
      | cons h l ih =>
          intro acc listed
          have mem := listed h List.mem_cons_self
          rw [List.foldl_cons, List.map_cons, List.foldl_cons,
            headerLine_text (fun colon => (valid.names h mem COLON colon).1 rfl)
              (valid.trimmed h mem)]
          exact ih _ fun h' mem' => listed h' (List.mem_cons_of_mem _ mem')
    rw [each m.headers [] fun _ => id]
    exact foldl_set valid.distinct
  unfold parseHead
  rw [found]
  dsimp only
  rw [valid.line_read, Option.map_some, stored]

end Message

/-- A head and the body it announces are found in whatever pieces they arrive. -/
theorem parseRequest_of_cut {text block body : List UInt8} {head : Head}
    (located : cut END text = some (block, body)) (small : block.length ≤ 30 * 1024)
    (heads : parseHead block = some head) (announced : contentLength head.headers = body.length)
    {recv : List (List UInt8)} (cuts : Cuts text recv) :
    parseRequest recv = some { head, body } := by
  have located : cut END ([] ++ recv.flatten) = some (block, body) := by
    rw [List.nil_append, cuts.whole]
    exact located
  obtain ⟨taken, early, rest, parts, -, split, less, read⟩ :=
    readHead_found cuts.pieces located (by simp)
  unfold parseRequest
  rw [read, if_neg (by omega)]
  dsimp only
  rw [heads, Option.map_some, announced, readBody_all, ← split]
  · intro chunk mem
    refine (cuts.pieces chunk ?_).1
    rw [parts]
    exact List.mem_append_right _ mem
  · rw [← split]

/-- **A request is read as it was written**, whatever the pieces it arrives in. -/
theorem parseRequest_text {m : Message} (valid : m.Valid) {recv : List (List UInt8)}
    (cuts : Cuts m.text recv) :
    parseRequest recv = some
      { head := { method := m.method, url := m.path, query := m.query, headers := m.lowered }
        body := m.body } :=
  parseRequest_of_cut valid.cut_text valid.small valid.block_read valid.contentLength cuts

/-- A request whose body has the end of the headers in it. -/
def switchRequest : Message where
  method := .post
  path := ascii "/switch/Relay 1/turn_on"
  query := ascii "a=b"
  headers := [(ascii "Content-Length", ascii "6"), (ascii "Host", ascii "x")]
  body := ascii "A\r\n\r\nB"

theorem switchRequest_valid : switchRequest.Valid := by
  constructor
  · decide
  · exact forall_of_all (by decide)
  · exact nofun
  · intro h mem
    rcases List.mem_pair.mp mem with rfl | rfl <;> exact forall_of_all (by decide)
  · intro h mem
    rcases List.mem_pair.mp mem with rfl | rfl <;> exact forall_of_all (by decide)
  · intro h mem
    rcases List.mem_pair.mp mem with rfl | rfl <;> exact fun c first => by cases first; rfl
  · decide
  · exact .inl (by decide)
  · decide
  · decide

theorem parseRequest_switchRequest :
    parseRequest (bytewise switchRequest.text) = some
      { head :=
          { method := .post, url := ascii "/switch/Relay 1/turn_on", query := ascii "a=b"
            headers := [(ascii "content-length", ascii "6"), (ascii "host", ascii "x")] }
        body := ascii "A\r\n\r\nB" } :=
  parseRequest_text switchRequest_valid (cuts_bytewise switchRequest.text)

end EsphomeHost.AsyncWebServer

import Mathlib.Algebra.Group.Nat.Defs
import EsphomeHost.Lib.Cut
import EsphomeHost.Lib.Hex
import EsphomeHost.Lib.Strtol

/-!
# Reading a request

`parse_request_` of the web server.  A `std::string` is a list of bytes, a `find` with the `substr`s
around what it finds is a `cut`, and the header map is an association list.  The calls of `recv` are
a list of what they return; the empty list stands for a result of zero or less, and so does the end
of the list.
-/

namespace EsphomeHost.AsyncWebServer

open Cut
open Strtol (isDigit decimal)

/-- The bytes of a literal. -/
def ascii (s : String) : List UInt8 := s.toList.map fun c => UInt8.ofNat c.toNat

def CRLF : List UInt8 := [13, 10]

/-- The end of the headers. -/
def END : List UInt8 := [13, 10, 13, 10]

def SPACE : UInt8 := 32
def TAB : UInt8 := 9
def PERCENT : UInt8 := 37
def PLUS : UInt8 := 43
def COLON : UInt8 := 58
def QUESTION : UInt8 := 63

inductive HttpMethod
  | get
  | post
  | put
  | delete
  | options
  | head
  | patch
  | any
deriving DecidableEq

/-- `parse_method_`. -/
def parseMethod (m : List UInt8) : HttpMethod :=
  if m = ascii "GET" then .get
  else if m = ascii "POST" then .post
  else if m = ascii "PUT" then .put
  else if m = ascii "DELETE" then .delete
  else if m = ascii "OPTIONS" then .options
  else if m = ascii "HEAD" then .head
  else if m = ascii "PATCH" then .patch
  else .any

/-- `hex` of `url_decode_`. -/
def hex (ch : UInt8) : Option UInt8 := Hex.value (Char.ofNat ch.toNat)

/-- `%XX`. -/
def escaped (c h l : UInt8) : Option UInt8 :=
  if c = PERCENT then
    match hex h, hex l with
    | some hi, some lo => some (hi <<< 4 ||| lo)
    | _, _ => none
  else none

/-- A byte that begins no escape. -/
def unescaped (c : UInt8) : UInt8 := if c = PLUS then SPACE else c

/-- `url_decode_`. -/
def urlDecode : List UInt8 → List UInt8
  | [] => []
  | c :: h :: l :: rest =>
      match escaped c h l with
      | some b => b :: urlDecode rest
      | none => unescaped c :: urlDecode (h :: l :: rest)
  | c :: rest => unescaped c :: urlDecode rest

/-- `tolower` in the C locale. -/
def tolower (c : UInt8) : UInt8 := if 65 ≤ c ∧ c ≤ 90 then c + 32 else c

/-- `lowercase_`. -/
def lowercase (s : List UInt8) : List UInt8 := s.map tolower

abbrev Headers := List (List UInt8 × List UInt8)

/-- `headers[name] = value`. -/
def Headers.set (hs : Headers) (name value : List UInt8) : Headers :=
  hs.filter (·.1 ≠ name) ++ [(name, value)]

/-- What is trimmed off the front of a header value. -/
def isBlank (c : UInt8) : Bool := c = SPACE ∨ c = TAB

/-- One line of the header block that is not empty. -/
def headerLine (hs : Headers) (line : List UInt8) : Headers :=
  match cut [COLON] line with
  | none => hs
  | some (name, value) => hs.set (lowercase name) (value.dropWhile isBlank)

/-- The loop over the header lines, on what is left of the block. -/
def headerLoop (rest : List UInt8) (hs : Headers) : Headers :=
  if rest = [] then hs
  else
    match _cut : cut CRLF rest with
    | none => headerLine hs rest
    | some (line, rest') => if line = [] then hs else headerLoop rest' (headerLine hs line)
termination_by rest.length
decreasing_by
  have shorter := length_of_cut _cut
  simp only [CRLF, List.length_cons, List.length_nil] at shorter
  omega

theorem headerLoop_last {rest : List UInt8} (some : rest ≠ []) (last : cut CRLF rest = none)
    (hs : Headers) : headerLoop rest hs = headerLine hs rest := by
  rw [headerLoop, if_neg some]
  split
  · rfl
  · rename_i found
    rw [last] at found
    cases found

theorem headerLoop_cons {rest line rest' : List UInt8} (found : cut CRLF rest = some (line, rest'))
    (some : line ≠ []) (hs : Headers) :
    headerLoop rest hs = headerLoop rest' (headerLine hs line) := by
  have more : rest ≠ [] := by
    rintro rfl
    cases found
  rw [headerLoop, if_neg more]
  split
  · rename_i last
    rw [found] at last
    cases last
  · rename_i found'
    rw [found] at found'
    cases found'
    exact if_neg some

/-- The request line and the headers. -/
structure Head where
  method : HttpMethod
  url : List UInt8
  query : List UInt8
  headers : Headers := []
deriving DecidableEq

/-- The request line; `none` if it has fewer than two spaces. -/
def requestLine (line : List UInt8) : Option Head :=
  match cut [SPACE] line with
  | none => none
  | some (m, rest) =>
      match cut [SPACE] rest with
      | none => none
      | some (pathFull, _) =>
          match cut [QUESTION] pathFull with
          | none => some { method := parseMethod m, url := urlDecode pathFull, query := [] }
          | some (url, query) =>
              some { method := parseMethod m, url := urlDecode url, query := query }

/-- The header block; `none` if the request is rejected. -/
def parseHead (block : List UInt8) : Option Head :=
  match cut CRLF block with
  | none => none
  | some (line, rest) =>
      (requestLine line).map fun head => { head with headers := headerLoop rest [] }

/-- `strtoul` in base 10, with 64 bits; `none` if there is no number or it does not fit. -/
def strtoul (s : List UInt8) : Option Nat :=
  let s := s.dropWhile Strtol.isSpace
  let negative := s.head? = some 45
  let s := if negative ∨ s.head? = some PLUS then s.tail else s
  let digits := s.takeWhile isDigit
  if digits = [] ∨ decimal digits ≥ 2 ^ 64 then none
  else some (if negative then (2 ^ 64 - decimal digits) % 2 ^ 64 else decimal digits)

/-- `want`. -/
def contentLength (headers : Headers) : Nat :=
  match headers.lookup (ascii "content-length") with
  | none => 0
  | some value => (strtoul value).getD 0

/-- The loop that reads until the headers end: the header block, what has come of the body, and the
calls of `recv` still to be made; `none` if the request is rejected. -/
def readHead (buf : List UInt8) :
    List (List UInt8) → Option (List UInt8 × List UInt8 × List (List UInt8))
  | [] => none
  | chunk :: rest =>
      if chunk = [] then none
      else if (buf ++ chunk).length > 32 * 1024 then none
      else
        match cut END (buf ++ chunk) with
        | some (block, bodyAlready) => some (block, bodyAlready, rest)
        | none => readHead (buf ++ chunk) rest

/-- The loop that reads the body. -/
def readBody (want : Nat) (body : List UInt8) : List (List UInt8) → List UInt8
  | [] => body
  | chunk :: rest =>
      if body.length < want then
        if chunk = [] then body else readBody want (body ++ chunk) rest
      else body

structure Request where
  head : Head
  body : List UInt8
deriving DecidableEq

/-- `get_header`. -/
def getHeader (r : Request) (name : List UInt8) : Option (List UInt8) :=
  r.head.headers.lookup (lowercase name)

/-- `parse_request_`; `none` if it returns false. -/
def parseRequest (recv : List (List UInt8)) : Option Request :=
  match readHead [] recv with
  | none => none
  | some (block, bodyAlready, rest) =>
      (parseHead block).map fun head =>
        ⟨head, readBody (contentLength head.headers) bodyAlready rest⟩

end EsphomeHost.AsyncWebServer

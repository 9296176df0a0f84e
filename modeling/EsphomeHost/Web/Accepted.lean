import EsphomeHost.Web.Segmentation
import Mathlib.Data.List.Induction

/-!
# Which requests are accepted

What `parse_request_` makes of a byte stream, without its searches and positions: the lines in front
of the empty one, the tokens of the first, the fields in the others.

* `crlfLines`: the lines of a header block.
* `Accepts`, `Reads`: the streams that should be accepted, and what should be read of them.
* `faithful_iff_headerFollows`: **a stream of at most 30 KiB is accepted and read as it should,
  however it is cut, exactly if a header line follows the request line, or the request line is not
  one**.
* `not_faithful_headless`: a request without header lines is rejected.
-/

namespace EsphomeHost.AsyncWebServer

open Cut

/-! ## What should be read -/

/-- The lines of a header block. -/
def crlfLines (block : List UInt8) : List (List UInt8) := split CRLF block

/-- The name and the value in a header line; a line without a colon has none. -/
def fieldOf (line : List UInt8) : Option (List UInt8 × List UInt8) :=
  (cut [COLON] line).map fun r => (lowercase r.1, r.2.dropWhile isBlank)

/-- The value of the last of the lines with this name. -/
def lastValue (name : List UInt8) (lines : List (List UInt8)) : Option (List UInt8) :=
  (((lines.filterMap fieldOf).filter (·.1 = name)).getLast?).map (·.2)

/-- A stream is a first line, header lines, and what comes behind the empty line. -/
def Parts (stream line : List UInt8) (lines : List (List UInt8)) (after : List UInt8) : Prop :=
  ∃ block, cut END stream = some (block, after) ∧ crlfLines block = line :: lines

/-- There is an empty line, and two spaces in the first. -/
def Accepts (stream : List UInt8) : Prop :=
  ∃ line lines after, Parts stream line lines after ∧ 2 ≤ line.count SPACE

/-- The method and the target are the first two tokens of the line, and the target is cut at its
first question mark. -/
def ReadsLine (line : List UInt8) (head : Head) : Prop :=
  ∃ method target rest, line = method ++ SPACE :: (target ++ SPACE :: rest) ∧
    SPACE ∉ method ∧ SPACE ∉ target ∧ head.method = parseMethod method ∧
    ((QUESTION ∉ target ∧ head.url = urlDecode target ∧ head.query = []) ∨
      ∃ path query, target = path ++ QUESTION :: query ∧ QUESTION ∉ path ∧
        head.url = urlDecode path ∧ head.query = query)

/-- What a `Content-Length` declares, if it is a number that fits. -/
def declared (lines : List (List UInt8)) : Nat :=
  ((lastValue (ascii "content-length") lines).bind strtoul).getD 0

/-- What should be read of a stream. -/
def Reads (stream : List UInt8) (req : Request) : Prop :=
  ∃ line lines after, Parts stream line lines after ∧ ReadsLine line req.head ∧
    (∀ name, req.head.headers.lookup name = lastValue name lines) ∧
    req.body <+: after ∧ min (declared lines) after.length ≤ req.body.length

/-- Of a stream that comes in these pieces the request that should be read is read, if there is
one. -/
def Faithful (stream : List UInt8) (recv : List (List UInt8)) : Prop :=
  ((parseRequest recv).isSome ↔ Accepts stream) ∧
    ∀ req, parseRequest recv = some req → Reads stream req

/-- If the first line has its two spaces, another follows. -/
def HeaderFollows (stream : List UInt8) : Prop :=
  ∀ line lines after, Parts stream line lines after → 2 ≤ line.count SPACE → lines ≠ []

/-! ## The header lines -/

theorem crlf_ne_nil : CRLF ≠ [] := by decide

theorem exists_lines (block : List UInt8) : ∃ line lines, crlfLines block = line :: lines := by
  cases ends : cut CRLF block with
  | none => exact ⟨_, _, split_of_none ends⟩
  | some r => exact ⟨_, _, split_of_some crlf_ne_nil ends⟩

/-- In a block, behind a line, no line is empty. -/
theorem line_of_block {rest : List UInt8} (fresh : cut END (CRLF ++ rest ++ CRLF) = none) :
    rest ≠ [] ∧ ∀ line rest', cut CRLF rest = some (line, rest') →
      line ≠ [] ∧ cut END (CRLF ++ rest' ++ CRLF) = none := by
  constructor
  · rintro rfl
    exact absurd fresh (by decide)
  · intro line rest' found
    rw [eq_of_cut found] at fresh
    constructor
    · rintro rfl
      have early : CRLF ++ ([] ++ CRLF ++ rest') ++ CRLF = [] ++ (END ++ (rest' ++ CRLF)) := by
        simp [CRLF, END]
      rw [early] at fresh
      exact cut_ne_none _ _ fresh
    · have behind : CRLF ++ (line ++ CRLF ++ rest') ++ CRLF =
          (CRLF ++ line) ++ (CRLF ++ rest' ++ CRLF) := by simp
      rw [behind] at fresh
      exact cut_eq_none_of_suffix fresh

/-- The loop goes over all the lines. -/
theorem headerLoop_eq {rest : List UInt8} (fresh : cut END (CRLF ++ rest ++ CRLF) = none)
    (hs : Headers) : headerLoop rest hs = (crlfLines rest).foldl headerLine hs := by
  induction size : rest.length using Nat.strongRecOn generalizing rest hs with
  | ind n ih =>
      obtain ⟨nonempty, later⟩ := line_of_block fresh
      cases found : cut CRLF rest with
      | none => rw [headerLoop_last nonempty found, crlfLines, split_of_none found]; rfl
      | some r =>
          obtain ⟨line, rest'⟩ := r
          obtain ⟨inhabited, fresh'⟩ := later line rest' found
          have shorter := length_of_cut found
          rw [show CRLF.length = 2 from rfl] at shorter
          rw [headerLoop_cons found inhabited, crlfLines, split_of_some crlf_ne_nil found,
            List.foldl_cons]
          exact ih rest'.length (by omega) fresh' _ rfl

/-- Leaving a name out does not change what another is found with. -/
theorem lookup_filter_of_ne {name name' : List UInt8} (other : name' ≠ name) (hs : Headers) :
    (hs.filter (·.1 ≠ name)).lookup name' = hs.lookup name' := by
  induction hs with
  | nil => rfl
  | cons h hs ih =>
      by_cases same : h.1 = name
      · rw [List.filter_cons_of_neg (by simp [same]), ih, List.lookup_cons,
          beq_false_of_ne (same.symm ▸ other)]
      · rw [List.filter_cons_of_pos (by simp [same]), List.lookup_cons, List.lookup_cons, ih]

theorem lookup_set (hs : Headers) (name name' value : List UInt8) :
    (hs.set name value).lookup name' = if name' = name then some value else hs.lookup name' := by
  rw [Headers.set, List.lookup_append]
  by_cases same : name' = name
  · subst same
    rw [if_pos rfl, List.lookup_eq_none_iff.mpr, List.lookup_cons_self]
    · rfl
    · intro entry mem
      have other := of_decide_eq_true (List.mem_filter.mp mem).2
      exact bne_iff_ne.mpr (Ne.symm other)
  · rw [if_neg same, lookup_filter_of_ne same, List.lookup_cons, beq_false_of_ne same]
    exact Option.or_none

theorem headerLine_eq (hs : Headers) (line : List UInt8) : headerLine hs line =
    (fieldOf line).elim hs fun f => hs.set f.1 f.2 := by
  unfold headerLine fieldOf
  cases cut [COLON] line <;> rfl

/-- **The last line of a name counts.** -/
theorem lookup_foldl (lines : List (List UInt8)) (name : List UInt8) :
    (lines.foldl headerLine []).lookup name = lastValue name lines := by
  induction lines using List.reverseRecOn with
  | nil => rfl
  | append_singleton lines line ih =>
      rw [List.foldl_append, List.foldl_cons, List.foldl_nil, headerLine_eq, lastValue,
        List.filterMap_append, List.filter_append]
      cases field : fieldOf line with
      | none =>
          rw [List.filterMap_cons_none field, List.filterMap_nil, List.filter_nil, List.append_nil]
          exact ih
      | some f =>
          rw [List.filterMap_cons_some field, Option.elim_some, lookup_set, ih]
          by_cases same : f.1 = name
          · simp [same]
          · simp [same, Ne.symm same, lastValue]

/-! ## The request line -/

/-- **The tokens of the request line.** -/
theorem readsLine_requestLine {line : List UInt8} {head : Head}
    (read : requestLine line = some head) : ReadsLine line head := by
  unfold requestLine at read
  cases first : cut [SPACE] line with
  | none =>
      rw [first] at read
      cases read
  | some r =>
      obtain ⟨method, rest⟩ := r
      rw [first] at read
      dsimp only at read
      cases second : cut [SPACE] rest with
      | none =>
          rw [second] at read
          cases read
      | some r =>
          obtain ⟨target, version⟩ := r
          rw [second] at read
          dsimp only at read
          have whole : line = method ++ SPACE :: (target ++ SPACE :: version) := by
            rw [eq_of_cut first, eq_of_cut second]
            simp
          refine ⟨method, target, version, whole, not_mem_of_cut first, not_mem_of_cut second, ?_⟩
          cases mark : cut [QUESTION] target with
          | none =>
              rw [mark] at read
              obtain rfl := Option.some.inj read
              exact ⟨rfl, .inl ⟨cut_singleton_eq_none.mp mark, rfl, rfl⟩⟩
          | some r =>
              obtain ⟨path, query⟩ := r
              rw [mark] at read
              obtain rfl := Option.some.inj read
              have split : target = path ++ QUESTION :: query := by
                rw [eq_of_cut mark]
                simp
              exact ⟨rfl, .inr ⟨path, query, split, not_mem_of_cut mark, rfl, rfl⟩⟩

/-- The tokens are read whatever the headers are. -/
theorem ReadsLine.withHeaders {line : List UInt8} {head : Head} (reads : ReadsLine line head)
    (headers : Headers) : ReadsLine line { head with headers := headers } := reads

/-! ## The header block -/

theorem fresh_of_cut {stream block after : List UInt8}
    (found : cut END stream = some (block, after)) : cut END (block ++ CRLF) = none := by
  have whole : stream = (block ++ CRLF) ++ (CRLF ++ after) := by
    rw [eq_of_cut found]
    simp [CRLF, END]
  rw [whole] at found
  exact cut_eq_none_of_short found (by simp [CRLF, END])

/-- **What becomes of a header block**: without a line end it is rejected, else its first line
decides. -/
theorem parseHead_eq {stream block after line : List UInt8} {lines : List (List UInt8)}
    (found : cut END stream = some (block, after)) (split : crlfLines block = line :: lines) :
    parseHead block = if lines = [] then none
      else (requestLine line).map fun head =>
        { head with headers := lines.foldl headerLine [] } := by
  unfold parseHead
  cases ends : cut CRLF block with
  | none =>
      rw [crlfLines, split_of_none ends] at split
      obtain ⟨-, rfl⟩ := List.cons.inj split
      rfl
  | some r =>
      obtain ⟨first, rest⟩ := r
      have fresh : cut END (CRLF ++ rest ++ CRLF) = none := by
        have block_fresh := fresh_of_cut found
        rw [eq_of_cut ends, List.append_assoc, List.append_assoc] at block_fresh
        rw [List.append_assoc]
        exact cut_eq_none_of_suffix block_fresh
      rw [crlfLines, split_of_some crlf_ne_nil ends] at split
      obtain ⟨rfl, rfl⟩ := List.cons.inj split
      dsimp only
      obtain ⟨second, others, more⟩ := exists_lines rest
      have some : crlfLines rest ≠ [] := by
        rw [more]
        exact List.cons_ne_nil _ _
      rw [headerLoop_eq fresh, ← crlfLines, if_neg some]

/-! ## The body -/

/-- As much of the body is read as was declared, if there is so much. -/
theorem le_length_readBody (want : Nat) (body : List UInt8) {recv : List (List UInt8)}
    (pieces : ∀ chunk ∈ recv, chunk ≠ []) :
    min want (body ++ recv.flatten).length ≤ (readBody want body recv).length := by
  induction recv generalizing body with
  | nil => simp [readBody]
  | cons chunk recv ih =>
      rw [readBody]
      split
      · rw [if_neg (pieces chunk List.mem_cons_self), List.flatten_cons, ← List.append_assoc]
        exact ih _ fun c mem => pieces c (List.mem_cons_of_mem _ mem)
      · omega

/-! ## The stream -/

/-- What is read of a stream that has an empty line. -/
theorem parseRequest_eq {stream block after : List UInt8} {recv : List (List UInt8)}
    (small : stream.length ≤ 30 * 1024) (cuts : Cuts stream recv)
    (found : cut END stream = some (block, after)) :
    ∃ early rest, after = early ++ rest.flatten ∧ (∀ chunk ∈ rest, chunk ≠ []) ∧
      parseRequest recv = (parseHead block).map fun head =>
        ⟨head, readBody (contentLength head.headers) early rest⟩ := by
  have located : cut END ([] ++ recv.flatten) = some (block, after) := by
    rw [List.nil_append, cuts.whole]
    exact found
  obtain ⟨taken, early, rest, parts, -, split, -, read⟩ :=
    readHead_found cuts.pieces located (by simp)
  have total := length_of_cut found
  have behind : after.length = early.length + rest.flatten.length := by
    rw [split, List.length_append]
  rw [length_END] at total
  refine ⟨early, rest, split, fun chunk mem => (cuts.pieces chunk ?_).1, ?_⟩
  · rw [parts]
    exact List.mem_append_right _ mem
  · unfold parseRequest
    rw [read, if_neg (by omega)]

/-- **What is read of a stream with an empty line.** -/
theorem isSome_parseRequest_iff {stream line after : List UInt8} {lines : List (List UInt8)}
    {recv : List (List UInt8)} (small : stream.length ≤ 30 * 1024) (cuts : Cuts stream recv)
    (parts : Parts stream line lines after) :
    (parseRequest recv).isSome ↔ lines ≠ [] ∧ 2 ≤ line.count SPACE := by
  obtain ⟨block, found, split⟩ := parts
  obtain ⟨early, rest, -, -, read⟩ := parseRequest_eq small cuts found
  rw [read, Option.isSome_map, parseHead_eq found split]
  split
  · rename_i bare
    exact ⟨nofun, fun both => absurd bare both.1⟩
  · rename_i more
    rw [Option.isSome_map, requestLine_isSome]
    exact (and_iff_right more).symm

theorem contentLength_eq (lines : List (List UInt8)) :
    contentLength (lines.foldl headerLine []) = declared lines := by
  unfold contentLength declared
  rw [lookup_foldl]
  cases lastValue (ascii "content-length") lines <;> rfl

theorem reads_of_parseRequest {stream : List UInt8} {recv : List (List UInt8)} {req : Request}
    (small : stream.length ≤ 30 * 1024) (cuts : Cuts stream recv)
    (read : parseRequest recv = some req) : Reads stream req := by
  cases found : cut END stream with
  | none =>
      have missing : readHead [] recv = none :=
        readHead_missing (by rw [List.nil_append, cuts.whole]; exact found)
      unfold parseRequest at read
      rw [missing] at read
      cases read
  | some r =>
      obtain ⟨block, after⟩ := r
      obtain ⟨line, lines, split⟩ := exists_lines block
      obtain ⟨early, rest, behind, pieces, whole⟩ := parseRequest_eq small cuts found
      rw [whole, parseHead_eq found split] at read
      split at read
      · cases read
      · obtain ⟨head, parsed, rfl⟩ := Option.map_eq_some_iff.mp read
        obtain ⟨first, tokens, rfl⟩ := Option.map_eq_some_iff.mp parsed
        obtain ⟨taken, left, parts, body⟩ := readBody_taken
          (contentLength (lines.foldl headerLine [])) early rest
        refine ⟨line, lines, after, ⟨block, found, split⟩,
          (readsLine_requestLine tokens).withHeaders _, lookup_foldl lines, ?_, ?_⟩
        · refine ⟨left.flatten, ?_⟩
          rw [body, behind, parts, List.flatten_append, List.append_assoc]
        · rw [← contentLength_eq, behind]
          exact le_length_readBody _ _ pieces

/-- **The streams that are accepted and read as they should.** -/
theorem faithful_iff_headerFollows {stream : List UInt8} {recv : List (List UInt8)}
    (small : stream.length ≤ 30 * 1024) (cuts : Cuts stream recv) :
    Faithful stream recv ↔ HeaderFollows stream := by
  constructor
  · rintro ⟨accepted, -⟩ line lines after parts spaces
    exact ((isSome_parseRequest_iff small cuts parts).mp
      (accepted.mpr ⟨line, lines, after, parts, spaces⟩)).1
  · intro follows
    refine ⟨⟨fun some => ?_, ?_⟩, fun req => reads_of_parseRequest small cuts⟩
    · obtain ⟨req, read⟩ := Option.isSome_iff_exists.mp some
      obtain ⟨line, lines, after, parts, -⟩ := reads_of_parseRequest small cuts read
      exact ⟨line, lines, after, parts, ((isSome_parseRequest_iff small cuts parts).mp some).2⟩
    · rintro ⟨line, lines, after, parts, spaces⟩
      exact (isSome_parseRequest_iff small cuts parts).mpr
        ⟨follows line lines after parts spaces, spaces⟩

/-- A request with the header line `A:b`. -/
theorem faithful_bareRequest : Faithful bareRequest [bareRequest] := by
  have whole : Cuts bareRequest [bareRequest] := ⟨rfl, by decide⟩
  refine (faithful_iff_headerFollows (by decide) whole).mpr ?_
  rintro line lines after ⟨block, found, parted⟩ - rfl
  have known : cut END bareRequest = some (ascii "GET / HTTP/1.1\r\nA:b", []) := by decide
  obtain ⟨rfl, -⟩ := Prod.mk.inj (Option.some.inj (known.symm.trans found))
  have first : cut CRLF (ascii "GET / HTTP/1.1\r\nA:b") =
      some (ascii "GET / HTTP/1.1", ascii "A:b") := by decide
  have second : cut CRLF (ascii "A:b") = none := by decide
  rw [crlfLines, split_of_some crlf_ne_nil first, split_of_none second] at parted
  cases parted

/-- A request line and an empty one. -/
def headless : List UInt8 := ascii "GET / HTTP/1.0\r\n\r\n"

/-- A request without header lines is rejected. -/
theorem not_faithful_headless :
    Cuts headless [headless] ∧ parseRequest [headless] = none ∧ Accepts headless ∧
      ¬ Faithful headless [headless] := by
  have rejected : parseRequest [headless] = none := by decide
  have accepts : Accepts headless := by
    have found : cut END headless = some (ascii "GET / HTTP/1.0", []) := by decide
    have single : cut CRLF (ascii "GET / HTTP/1.0") = none := by decide
    exact ⟨ascii "GET / HTTP/1.0", [], [], ⟨_, found, split_of_none single⟩, by decide⟩
  refine ⟨⟨rfl, by decide⟩, rejected, accepts, fun faithful => ?_⟩
  have some := faithful.1.mpr accepts
  rw [rejected] at some
  cases some

end EsphomeHost.AsyncWebServer

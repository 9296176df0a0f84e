import EsphomeHost.Web.Request

/-!
# How the stream is cut

`recv` returns a request in pieces.  Which pieces they are is up to the network, and the request
that is read may depend on it: the size limit is checked on all that has come, and what has come
behind the declared body is part of the body.

* `readHead_found`: where the header loop stops.
* `uniform_iff`: **the streams whose outcome does not depend on the pieces**.
-/

namespace EsphomeHost.AsyncWebServer

open Cut

/-- `recv` returns `stream` in pieces. -/
structure Cuts (stream : List UInt8) (recv : List (List UInt8)) : Prop where
  whole : recv.flatten = stream
  pieces : ∀ chunk ∈ recv, chunk ≠ [] ∧ chunk.length ≤ 1024

/-! ## The loops -/

theorem length_END : END.length = 4 := rfl

/-- **Where the header loop stops**: at the end of the first piece that completes the block. -/
theorem readHead_found {most : Nat} {buf block after : List UInt8} {recv : List (List UInt8)}
    (pieces : ∀ chunk ∈ recv, chunk ≠ [] ∧ chunk.length ≤ most)
    (found : cut END (buf ++ recv.flatten) = some (block, after))
    (fresh : buf.length < block.length + 4) :
    ∃ taken early rest, recv = taken ++ rest ∧ buf ++ taken.flatten = block ++ END ++ early ∧
      after = early ++ rest.flatten ∧ early.length < most ∧
        readHead buf recv =
          if block.length + 4 + early.length > 32 * 1024 then none
          else some (block, early, rest) := by
  induction recv generalizing buf with
  | nil =>
      have whole := length_of_cut found
      rw [List.flatten_nil, List.append_nil, length_END] at whole
      omega
  | cons chunk recv ih =>
      obtain ⟨some, small⟩ := pieces chunk List.mem_cons_self
      have size : (buf ++ chunk).length = buf.length + chunk.length := List.length_append
      rw [List.flatten_cons, ← List.append_assoc] at found
      by_cases long : block.length + 4 ≤ (buf ++ chunk).length
      · obtain ⟨early, split, first⟩ := cut_of_long found long
        have whole := length_of_cut first
        rw [length_END] at whole
        refine ⟨[chunk], early, recv, rfl, ?_, split, by omega, ?_⟩
        · rw [List.flatten_singleton]
          exact eq_of_cut first
        · rw [readHead, if_neg some, whole, first]
      · obtain ⟨taken, early, rest, parts, ends, split, less, read⟩ :=
          ih (fun c mem => pieces c (List.mem_cons_of_mem _ mem)) found (by omega)
        refine ⟨chunk :: taken, early, rest, congrArg (chunk :: ·) parts, ?_, split, less, ?_⟩
        · rw [List.flatten_cons, ← List.append_assoc]
          exact ends
        · have missing : cut END (buf ++ chunk) = none :=
            cut_eq_none_of_short found (by rw [length_END]; omega)
          rw [readHead, if_neg some, missing]
          by_cases full : (buf ++ chunk).length > 32 * 1024
          · rw [if_pos full, if_pos (by omega)]
          · rw [if_neg full]
            exact read

/-- Without an end of the headers the request is rejected. -/
theorem readHead_missing {buf : List UInt8} {recv : List (List UInt8)}
    (missing : cut END (buf ++ recv.flatten) = none) : readHead buf recv = none := by
  induction recv generalizing buf with
  | nil => rfl
  | cons chunk recv ih =>
      rw [List.flatten_cons, ← List.append_assoc] at missing
      rw [readHead, cut_eq_none_of_append missing, ih missing]
      split
      · rfl
      · exact ite_self _

/-- The body is what has come at the end of some piece. -/
theorem readBody_taken (want : Nat) (body : List UInt8) (recv : List (List UInt8)) :
    ∃ taken rest, recv = taken ++ rest ∧ readBody want body recv = body ++ taken.flatten := by
  induction recv generalizing body with
  | nil => exact ⟨[], [], rfl, (List.append_nil body).symm⟩
  | cons chunk recv ih =>
      rw [readBody]
      split
      · split
        · exact ⟨[], _, rfl, (List.append_nil body).symm⟩
        · obtain ⟨taken, rest, parts, read⟩ := ih (body ++ chunk)
          refine ⟨chunk :: taken, rest, congrArg (chunk :: ·) parts, ?_⟩
          rw [read, List.flatten_cons, List.append_assoc]
      · exact ⟨[], _, rfl, (List.append_nil body).symm⟩

/-- A body that is not longer than declared is read to the end of the stream. -/
theorem readBody_all {want : Nat} {body : List UInt8} {recv : List (List UInt8)}
    (pieces : ∀ chunk ∈ recv, chunk ≠ []) (fits : (body ++ recv.flatten).length ≤ want) :
    readBody want body recv = body ++ recv.flatten := by
  induction recv generalizing body with
  | nil => exact (List.append_nil body).symm
  | cons chunk recv ih =>
      have some := pieces chunk List.mem_cons_self
      have size := List.length_pos_iff.mpr some
      rw [List.flatten_cons, ← List.append_assoc] at fits ⊢
      have more : body.length < want := by
        rw [List.length_append, List.length_append] at fits
        omega
      rw [readBody, if_pos more, if_neg some]
      exact ih (fun c mem => pieces c (List.mem_cons_of_mem _ mem)) fits

/-! ## The request line -/

/-- A request line is accepted exactly if it has two spaces. -/
theorem requestLine_isSome {line : List UInt8} :
    (requestLine line).isSome ↔ 2 ≤ line.count SPACE := by
  have counted : ∀ {s a b : List UInt8}, cut [SPACE] s = some (a, b) →
      s.count SPACE = 1 + b.count SPACE := by
    intro s a b found
    rw [eq_of_cut found, List.count_append, List.count_append,
      List.count_eq_zero.mpr (not_mem_of_cut found), List.count_singleton_self, Nat.zero_add]
  have none : ∀ {s : List UInt8}, cut [SPACE] s = none → s.count SPACE = 0 :=
    fun missing => List.count_eq_zero.mpr (cut_singleton_eq_none.mp missing)
  unfold requestLine
  cases first : cut [SPACE] line with
  | none =>
      rw [none first]
      exact ⟨nofun, nofun⟩
  | some r =>
      obtain ⟨m, rest⟩ := r
      dsimp only
      rw [counted first]
      cases second : cut [SPACE] rest with
      | none =>
          rw [none second]
          exact ⟨nofun, nofun⟩
      | some r' =>
          obtain ⟨path, version⟩ := r'
          rw [counted second]
          dsimp only
          constructor
          · intro _
            omega
          · intro _
            split <;> rfl

/-! ## Independence -/

/-- The request line of a header block has its two spaces, and a line follows it. -/
def RequestLine (block line rest : List UInt8) : Prop :=
  cut CRLF block = some (line, rest) ∧ 2 ≤ line.count SPACE

/-- The value of the last `Content-Length` line. -/
def declaredLength (lines : List UInt8) : Nat := contentLength (headerLoop lines [])

/-- The streams for which it does not matter how they are cut: those that are rejected however they
are cut, and those without anything behind the declared body that stay within the size limit however
they are cut. -/
def Settled (stream : List UInt8) : Prop :=
  ∀ block after line lines, cut END stream = some (block, after) →
    block.length + 4 ≤ 32 * 1024 → RequestLine block line lines →
      after.length ≤ declaredLength lines ∧
        (stream.length ≤ 32 * 1024 ∨ block.length + 4 + 1023 ≤ 32 * 1024)

/-- What is read of a settled stream. -/
def settledRequest (stream : List UInt8) : Option Request :=
  match cut END stream with
  | none => none
  | some (block, after) =>
      if block.length + 4 > 32 * 1024 then none
      else (parseHead block).map fun head => ⟨head, after⟩

theorem parseHead_some {block : List UInt8} {head : Head} (parsed : parseHead block = some head) :
    ∃ line lines, RequestLine block line lines ∧
      contentLength head.headers = declaredLength lines := by
  unfold parseHead at parsed
  split at parsed
  · cases parsed
  · rename_i line rest found
    obtain ⟨first, accepted, rfl⟩ := Option.map_eq_some_iff.mp parsed
    refine ⟨line, rest, ⟨found, requestLine_isSome.mp ?_⟩, rfl⟩
    rw [accepted]
    rfl

theorem parseHead_of_requestLine {block line lines : List UInt8}
    (accepted : RequestLine block line lines) :
    ∃ head, parseHead block = some head ∧ contentLength head.headers = declaredLength lines := by
  obtain ⟨found, spaces⟩ := accepted
  obtain ⟨first, parsed⟩ := Option.isSome_iff_exists.mp (requestLine_isSome.mpr spaces)
  refine ⟨{ first with headers := headerLoop lines [] }, ?_, rfl⟩
  unfold parseHead
  rw [found]
  dsimp only
  rw [parsed]
  rfl

/-- However a settled stream is cut, the same is read. -/
theorem parseRequest_of_settled {stream : List UInt8} (settled : Settled stream)
    {recv : List (List UInt8)} (cuts : Cuts stream recv) :
    parseRequest recv = settledRequest stream := by
  have whole := cuts.whole
  unfold parseRequest settledRequest
  cases found : cut END stream with
  | none =>
      rw [readHead_missing (by rw [List.nil_append, whole]; exact found)]
  | some r =>
      obtain ⟨block, after⟩ := r
      have located : cut END ([] ++ recv.flatten) = some (block, after) := by
        rw [List.nil_append, whole]
        exact found
      obtain ⟨taken, early, rest, parts, -, split, less, read⟩ :=
        readHead_found cuts.pieces located (by simp)
      have total := length_of_cut found
      have behind : after.length = early.length + rest.flatten.length := by
        rw [split, List.length_append]
      rw [length_END] at total
      dsimp only
      rw [read]
      by_cases late : block.length + 4 > 32 * 1024
      · rw [if_pos late, if_pos (by omega)]
      · rw [if_neg late]
        cases parsed : parseHead block with
        | none =>
            by_cases full : block.length + 4 + early.length > 32 * 1024
            · rw [if_pos full]
              rfl
            · rw [if_neg full]
              dsimp only
              rw [parsed]
              rfl
        | some head =>
            obtain ⟨line, lines, accepted, declared⟩ := parseHead_some parsed
            obtain ⟨short, small⟩ := settled block after line lines found (by omega) accepted
            rw [if_neg (by omega)]
            dsimp only
            rw [parsed, Option.map_some, Option.map_some, declared, split]
            refine congrArg (fun body => some (Request.mk head body)) (readBody_all ?_ ?_)
            · intro chunk mem
              refine (cuts.pieces chunk ?_).1
              rw [parts]
              exact List.mem_append_right _ mem
            · rw [← split]
              exact short

/-! ## Dependence -/

/-- One byte at a time. -/
def bytewise (stream : List UInt8) : List (List UInt8) := stream.map fun b => [b]

theorem flatten_bytewise (stream : List UInt8) : (bytewise stream).flatten = stream := by
  induction stream with
  | nil => rfl
  | cons b stream ih => exact congrArg (b :: ·) ih

/-- One byte at a time, but for the bytes `mid`. -/
def around (pre mid post : List UInt8) : List (List UInt8) :=
  bytewise pre ++ mid :: bytewise post

theorem cuts_around {pre mid post : List UInt8} (some : mid ≠ []) (small : mid.length ≤ 1024) :
    Cuts (pre ++ mid ++ post) (around pre mid post) := by
  constructor
  · rw [around, List.flatten_append, List.flatten_cons, flatten_bytewise, flatten_bytewise,
      List.append_assoc]
  · intro chunk mem
    have single : ∀ l, chunk ∈ bytewise l → chunk ≠ [] ∧ chunk.length ≤ 1024 := by
      intro l mem
      obtain ⟨b, -, rfl⟩ := List.mem_map.mp mem
      exact ⟨nofun, by simp⟩
    rcases List.mem_append.mp mem with before | mem
    · exact single pre before
    · rcases List.mem_cons.mp mem with rfl | after
      · exact ⟨some, small⟩
      · exact single post after

theorem cuts_bytewise (stream : List UInt8) : Cuts stream (bytewise stream) := by
  refine ⟨flatten_bytewise stream, fun chunk mem => ?_⟩
  obtain ⟨b, -, rfl⟩ := List.mem_map.mp mem
  exact ⟨nofun, by simp⟩

/-- No piece ends within `mid`. -/
theorem length_taken {pre mid post : List UInt8} {taken rest : List (List UInt8)}
    (parts : around pre mid post = taken ++ rest) :
    taken.flatten.length ≤ pre.length ∨ pre.length + mid.length ≤ taken.flatten.length := by
  have first : bytewise pre <+: around pre mid post := List.prefix_append _ _
  have front : taken <+: around pre mid post := ⟨rest, parts.symm⟩
  rcases List.prefix_or_prefix_of_prefix front first with ⟨more, short⟩ | ⟨more, long⟩
  · refine .inl ?_
    have size := congrArg (fun l => l.flatten.length) short
    simp only [List.flatten_append, List.length_append, flatten_bytewise] at size
    omega
  · cases more with
    | nil =>
        refine .inl ?_
        rw [List.append_nil] at long
        exact Nat.le_of_eq (by rw [← long, flatten_bytewise])
    | cons chunk more =>
        have same : around pre mid post = bytewise pre ++ (chunk :: (more ++ rest)) := by
          rw [parts, ← long, List.append_assoc]
          rfl
        obtain ⟨rfl, -⟩ := List.cons_eq_cons.mp (List.append_cancel_left same)
        refine .inr ?_
        rw [← long, List.flatten_append, List.flatten_cons, flatten_bytewise, List.length_append,
          List.length_append]
        omega

theorem readBody_bytewise (want : Nat) (body after : List UInt8) :
    readBody want body (bytewise after) = body ++ after.take (want - body.length) := by
  induction after generalizing body with
  | nil => simp [bytewise, readBody]
  | cons b after ih =>
      show readBody want body ([b] :: bytewise after) = _
      rw [readBody]
      by_cases more : body.length < want
      · have left : want - body.length = (want - (body ++ [b]).length) + 1 := by
          rw [List.length_append, List.length_singleton]
          omega
        rw [if_pos more, if_neg nofun, ih, left, List.take_succ_cons, List.append_assoc]
        rfl
      · rw [if_neg more, Nat.sub_eq_zero_of_le (by omega), List.take_zero, List.append_nil]

/-- A request that arrives one byte at a time has the body that was declared. -/
theorem parseRequest_bytewise {stream block after : List UInt8} {head : Head}
    (found : cut END stream = some (block, after)) (fits : block.length + 4 ≤ 32 * 1024)
    (parsed : parseHead block = some head) :
    parseRequest (bytewise stream) =
      some ⟨head, after.take (contentLength head.headers)⟩ := by
  have single : ∀ chunk ∈ bytewise stream, chunk ≠ [] ∧ chunk.length ≤ 1 := by
    intro chunk mem
    obtain ⟨b, -, rfl⟩ := List.mem_map.mp mem
    exact ⟨nofun, Nat.le_refl 1⟩
  have located : cut END ([] ++ (bytewise stream).flatten) = some (block, after) := by
    rw [flatten_bytewise]
    exact found
  obtain ⟨taken, early, rest, parts, ends, split, less, read⟩ :=
    readHead_found single located (by simp)
  obtain rfl : early = [] := List.length_eq_zero_iff.mp (by omega)
  have rest_eq : rest = bytewise after := by
    obtain ⟨before, behind, rfl, -, late⟩ := List.map_eq_append_iff.mp parts
    rw [← late, List.nil_append] at split
    rw [← late, split]
    exact congrArg bytewise (flatten_bytewise behind).symm
  unfold parseRequest
  rw [read, if_neg (by rw [List.length_nil]; omega)]
  dsimp only
  rw [parsed, Option.map_some, rest_eq, readBody_bytewise]
  rfl

/-- What is read of a stream ends where a piece ends. -/
theorem exists_taken {stream block after body : List UInt8} {recv : List (List UInt8)} {head : Head}
    (cuts : Cuts stream recv) (found : cut END stream = some (block, after))
    (read : parseRequest recv = some ⟨head, body⟩) :
    ∃ taken early rest, recv = taken ++ rest ∧ taken.flatten.length = block.length + 4 + early ∧
      block.length + 4 + early ≤ 32 * 1024 ∧
        ∃ taken' rest', recv = taken' ++ rest' ∧
          taken'.flatten.length = block.length + 4 + body.length := by
  have located : cut END ([] ++ recv.flatten) = some (block, after) := by
    rw [List.nil_append, cuts.whole]
    exact found
  obtain ⟨taken, early, rest, parts, ends, -, -, first⟩ :=
    readHead_found cuts.pieces located (by simp)
  unfold parseRequest at read
  rw [first] at read
  by_cases full : block.length + 4 + early.length > 32 * 1024
  · rw [if_pos full] at read
    cases read
  · rw [if_neg full] at read
    dsimp only at read
    obtain ⟨head', -, same⟩ := Option.map_eq_some_iff.mp read
    obtain ⟨more, rest', parts', read'⟩ :=
      readBody_taken (contentLength head'.headers) early rest
    cases same
    refine ⟨taken, early.length, rest, parts, ?_, by omega, taken ++ more, rest', ?_, ?_⟩
    · rw [List.nil_append] at ends
      rw [ends, List.length_append, List.length_append, length_END]
    · rw [parts, parts', List.append_assoc]
    · rw [List.nil_append] at ends
      rw [read', List.flatten_append, ends, List.length_append, List.length_append,
        List.length_append, List.length_append, length_END, Nat.add_assoc]

/-- **The outcome is independent of the pieces exactly for the settled streams.** -/
theorem uniform_iff (stream : List UInt8) :
    (∀ recv recv', Cuts stream recv → Cuts stream recv' → parseRequest recv = parseRequest recv') ↔
      Settled stream := by
  constructor
  · intro uniform block after line lines found fits accepted
    obtain ⟨head, parsed, declared⟩ := parseHead_of_requestLine accepted
    have total := length_of_cut found
    rw [length_END] at total
    -- Every way to cut the stream must agree with one byte at a time.
    have agrees : ∀ recv, Cuts stream recv →
        parseRequest recv = some ⟨head, after.take (declaredLength lines)⟩ := by
      intro recv cuts
      rw [uniform recv _ cuts (cuts_bytewise stream), parseRequest_bytewise found fits parsed,
        declared]
    have taken : ∀ pre mid post, stream = pre ++ mid ++ post → mid ≠ [] → mid.length ≤ 1024 →
        (∃ early, block.length + 4 + early ≤ 32 * 1024 ∧
          (block.length + 4 + early ≤ pre.length ∨
            pre.length + mid.length ≤ block.length + 4 + early)) ∧
          (block.length + 4 + min (declaredLength lines) after.length ≤ pre.length ∨
            pre.length + mid.length ≤
              block.length + 4 + min (declaredLength lines) after.length) := by
      intro pre mid post whole some small
      have cuts : Cuts stream (around pre mid post) := whole ▸ cuts_around some small
      obtain ⟨taken, early, rest, parts, size, limit, taken', rest', parts', size'⟩ :=
        exists_taken cuts found (agrees _ cuts)
      rw [List.length_take] at size'
      have ends := length_taken parts
      have ends' := length_taken parts'
      rw [size] at ends
      rw [size'] at ends'
      exact ⟨⟨early, limit, ends⟩, ends'⟩
    have split : ∀ i n, i + n ≤ stream.length →
        stream = stream.take i ++ (stream.drop i).take n ++ stream.drop (i + n) := by
      intro i n _
      rw [List.append_assoc, ← List.drop_drop, List.take_append_drop, List.take_append_drop]
    constructor
    · -- A piece that ends one byte behind the declared body.
      by_contra surplus
      have inside : block.length + 3 + declaredLength lines + 2 ≤ stream.length := by omega
      have size : ((stream.drop (block.length + 3 + declaredLength lines)).take 2).length = 2 := by
        rw [List.length_take, List.length_drop]
        omega
      have mid : (stream.drop (block.length + 3 + declaredLength lines)).take 2 ≠ [] := by
        intro empty
        rw [empty] at size
        cases size
      obtain ⟨-, ends⟩ := taken _ _ _ (split _ 2 inside) mid (by omega)
      rw [size, List.length_take, Nat.min_eq_left (by omega)] at ends
      omega
    · -- A piece that completes the header block and goes beyond the size limit.
      by_contra large
      have inside : block.length + 3 + (32 * 1024 + 1 - (block.length + 3)) ≤ stream.length := by
        omega
      have size : ((stream.drop (block.length + 3)).take
          (32 * 1024 + 1 - (block.length + 3))).length = 32 * 1024 + 1 - (block.length + 3) := by
        rw [List.length_take, List.length_drop]
        omega
      have mid : (stream.drop (block.length + 3)).take
          (32 * 1024 + 1 - (block.length + 3)) ≠ [] := by
        intro empty
        rw [empty, List.length_nil] at size
        omega
      obtain ⟨⟨early, limit, ends⟩, -⟩ := taken _ _ _ (split _ _ inside) mid (by omega)
      rw [size, List.length_take, Nat.min_eq_left (by omega)] at ends
      omega
  · intro settled recv recv' cuts cuts'
    rw [parseRequest_of_settled settled cuts, parseRequest_of_settled settled cuts']

/-- A request without a `Content-Length` line. -/
def bareRequest : List UInt8 := ascii "GET / HTTP/1.1\r\nA:b\r\n\r\n"

/-- A byte behind a request is its body, or is not read at all. -/
theorem not_uniform_surplus : ¬ ∀ stream recv recv', Cuts stream recv → Cuts stream recv' →
    parseRequest recv = parseRequest recv' := by
  intro uniform
  have once : Cuts (bareRequest ++ [88]) [bareRequest ++ [88]] := ⟨rfl, by decide⟩
  have twice : Cuts (bareRequest ++ [88]) [bareRequest, [88]] := ⟨rfl, by decide⟩
  have same := uniform _ _ _ once twice
  have accepted : RequestLine (ascii "GET / HTTP/1.1\r\nA:b") (ascii "GET / HTTP/1.1")
      (ascii "A:b") := ⟨by decide, by decide⟩
  obtain ⟨head, parsed, declared⟩ := parseHead_of_requestLine accepted
  have nothing : contentLength head.headers = 0 := by
    have some : ascii "A:b" ≠ [] := by decide
    have last : cut CRLF (ascii "A:b") = none := by decide
    rw [declared, declaredLength, headerLoop_last some last]
    decide
  have first : readHead [] [bareRequest ++ [88]] =
      some (ascii "GET / HTTP/1.1\r\nA:b", [88], []) := by decide
  have second : readHead [] [bareRequest, [88]] =
      some (ascii "GET / HTTP/1.1\r\nA:b", [], [[88]]) := by decide
  unfold parseRequest at same
  rw [first, second] at same
  dsimp only at same
  rw [parsed, Option.map_some, Option.map_some, nothing] at same
  cases same

end EsphomeHost.AsyncWebServer

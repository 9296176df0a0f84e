import Mathlib.Data.List.Basic

/-!
# Length-type-value framing

A frame is a length byte, a type byte and the data; the length counts the type byte and the data.
`decode` reads complete frames and stops at the first zero length byte or frame that overruns the
input, which is how such payloads are padded and truncated.

* `decode_encode_append`: what `encode` writes is read back, whatever follows it.
* `packed limit`: the frames a buffer of `limit` bytes takes when those that do not fit are left
  out.
* `fullChunks n`: the complete `n`-element chunks of a list, for arrays of fixed-size items.
-/

namespace Ltv

/-- One type-tagged field. -/
structure Frame where
  type : UInt8
  data : List UInt8
deriving DecidableEq, Repr

/-- The data leaves room for the type byte in the length byte. -/
def Frame.Fits (f : Frame) : Prop := f.data.length ≤ 254

def Frame.encode (f : Frame) : List UInt8 := UInt8.ofNat (f.data.length + 1) :: f.type :: f.data

def encode (fs : List Frame) : List UInt8 := fs.flatMap Frame.encode

@[simp] theorem encode_nil : encode [] = [] := rfl

@[simp] theorem encode_cons (f : Frame) (fs : List Frame) :
    encode (f :: fs) = f.encode ++ encode fs := rfl

@[simp] theorem encode_append (fs gs : List Frame) : encode (fs ++ gs) = encode fs ++ encode gs :=
  List.flatMap_append

@[simp] theorem Frame.length_encode (f : Frame) : f.encode.length = f.data.length + 2 := rfl

/-- The complete frames before the first zero length byte or overrunning frame. -/
def decode : List UInt8 → List Frame
  | n :: t :: rest =>
      if n = 0 ∨ rest.length + 1 < n.toNat then []
      else ⟨t, rest.take (n.toNat - 1)⟩ :: decode (rest.drop (n.toNat - 1))
  | _ => []
termination_by bytes => bytes.length
decreasing_by simp only [List.length_drop, List.length_cons]; omega

theorem decode_stop {n t : UInt8} {rest : List UInt8}
    (h : n = 0 ∨ rest.length + 1 < n.toNat) : decode (n :: t :: rest) = [] := by
  rw [decode, if_pos h]

theorem decode_frame {n t : UInt8} {rest : List UInt8} (h0 : n ≠ 0)
    (h1 : n.toNat ≤ rest.length + 1) :
    decode (n :: t :: rest) =
      ⟨t, rest.take (n.toNat - 1)⟩ :: decode (rest.drop (n.toNat - 1)) := by
  rw [decode, if_neg]
  rintro (h | h)
  · exact h0 h
  · omega

theorem decode_short {bytes : List UInt8} (h : bytes.length < 2) : decode bytes = [] := by
  match bytes, h with
  | [], _ => rw [decode]; simp
  | [_], _ => rw [decode]; simp

theorem Frame.lengthByte {f : Frame} (fits : f.Fits) :
    (UInt8.ofNat (f.data.length + 1)).toNat = f.data.length + 1 := by
  unfold Frame.Fits at fits
  rw [UInt8.toNat_ofNat']
  omega

theorem decode_cons_append {f : Frame} (fits : f.Fits) (rest : List UInt8) :
    decode (f.encode ++ rest) = f :: decode rest := by
  have hlen := Frame.lengthByte fits
  have hne : UInt8.ofNat (f.data.length + 1) ≠ 0 := by
    intro h
    rw [h] at hlen
    simp at hlen
  show decode (UInt8.ofNat (f.data.length + 1) :: f.type :: (f.data ++ rest)) = _
  rw [decode_frame hne (by rw [hlen, List.length_append]; omega), hlen]
  simp

/-- **Round trip.** Encoded frames are read back, whatever bytes follow them. -/
theorem decode_encode_append {fs : List Frame} (fits : ∀ f ∈ fs, f.Fits) (rest : List UInt8) :
    decode (encode fs ++ rest) = fs ++ decode rest := by
  induction fs with
  | nil => rfl
  | cons f fs ih =>
      rw [encode_cons, List.append_assoc, decode_cons_append (fits f (by simp)),
        ih fun g hg => fits g (List.mem_cons_of_mem _ hg), List.cons_append]

/-- Frames of a short encoding have exact length bytes. -/
theorem fits_of_length {fs : List Frame} (short : (encode fs).length ≤ 256) : ∀ f ∈ fs, f.Fits := by
  intro f mem
  have part : f.encode.length ≤ (encode fs).length :=
    (List.sublist_flatten_of_mem (List.mem_map_of_mem mem)).length_le
  rw [Frame.length_encode] at part
  unfold Frame.Fits
  omega

theorem decode_encode {fs : List Frame} (fits : ∀ f ∈ fs, f.Fits) : decode (encode fs) = fs := by
  simpa [decode_short] using decode_encode_append fits []

/-- No complete frame follows: the input ends, or its length byte is zero or overruns it. -/
def Stops : List UInt8 → Prop
  | [] => True
  | n :: rest => n = 0 ∨ rest.length < n.toNat

theorem stops_of_short {bytes : List UInt8} (short : bytes.length < 2) : Stops bytes := by
  match bytes, short with
  | [], _ => trivial
  | [n], _ =>
      by_cases zero : n = 0
      · exact .inl zero
      · exact .inr (Nat.pos_of_ne_zero fun none => zero (UInt8.toNat_inj.mp none))

/-- **What is read is a prefix of the input**, up to the first zero length byte or overrunning
frame. -/
theorem decode_prefix (bytes : List UInt8) :
    (∀ f ∈ decode bytes, f.Fits) ∧
      ∃ tail, bytes = encode (decode bytes) ++ tail ∧ Stops tail := by
  induction bytes using decode.induct with
  | case1 n t rest stop =>
      rw [decode_stop stop]
      exact ⟨nofun, n :: t :: rest, rfl, stop.imp id id⟩
  | case2 n t rest go ih =>
      obtain ⟨nonzero, inside⟩ := not_or.mp go
      have positive : n.toNat ≠ 0 := fun zero => nonzero (UInt8.toNat_inj.mp zero)
      have bound := n.toNat_lt
      obtain ⟨fits, tail, rest_eq, stops⟩ := ih
      have size : (rest.take (n.toNat - 1)).length = n.toNat - 1 := by
        rw [List.length_take]
        omega
      rw [decode_frame nonzero (by omega)]
      refine ⟨?_, tail, ?_, stops⟩
      · intro f mem
        rcases List.mem_cons.mp mem with rfl | mem
        · show (rest.take (n.toNat - 1)).length ≤ 254
          omega
        · exact fits f mem
      · have lengthByte : UInt8.ofNat (n.toNat - 1 + 1) = n := by
          rw [show n.toNat - 1 + 1 = n.toNat by omega, UInt8.ofNat_toNat]
        rw [encode_cons, List.append_assoc, ← rest_eq, Frame.encode, size, lengthByte]
        simp
  | case3 bytes none =>
      have short : bytes.length < 2 := by
        match bytes, none with
        | [], _ => simp
        | [_], _ => simp
        | n :: t :: rest, none => exact (none n t rest rfl).elim
      rw [decode_short short]
      exact ⟨nofun, bytes, rfl, stops_of_short short⟩

/-! ## A buffer of limited size -/

/-- The frames that are appended to a buffer with `used` of its `limit` bytes in use, when a frame
that does not fit is left out and the next one is tried. -/
def packed (limit : Nat) : Nat → List Frame → List Frame
  | _, [] => []
  | used, f :: fs =>
      if used + f.encode.length ≤ limit then f :: packed limit (used + f.encode.length) fs
      else packed limit used fs

/-- A frame is appended whole or left out. -/
theorem packed_sublist (limit used : Nat) (fs : List Frame) :
    (packed limit used fs).Sublist fs := by
  induction fs generalizing used with
  | nil => exact .slnil
  | cons f fs ih =>
      rw [packed]
      split
      · exact (ih _).cons_cons f
      · exact (ih _).cons f

/-! ## Fixed-size items -/

/-- Read `n`-element chunks until fewer than `n` elements remain; `fuel` bounds their number. -/
def chunksUpTo {α : Type} (n : Nat) : Nat → List α → List (List α)
  | 0, _ => []
  | fuel + 1, l => if l.length < n then [] else l.take n :: chunksUpTo n fuel (l.drop n)

/-- The complete `n`-element chunks of a list. -/
def fullChunks {α : Type} (n : Nat) (l : List α) : List (List α) := chunksUpTo n l.length l

theorem chunksUpTo_flatten {α : Type} {n : Nat} (hn : 0 < n) {ls : List (List α)} {fuel : Nat}
    (sized : ∀ l ∈ ls, l.length = n) (enough : ls.length ≤ fuel) :
    chunksUpTo n fuel ls.flatten = ls := by
  induction ls generalizing fuel with
  | nil => cases fuel <;> simp [chunksUpTo, hn]
  | cons l ls ih =>
      have hl : l.length = n := sized l (by simp)
      obtain ⟨fuel, rfl⟩ : ∃ k, fuel = k + 1 := ⟨fuel - 1, by simp at enough; omega⟩
      have tail : chunksUpTo n fuel ls.flatten = ls :=
        ih (fun k hk => sized k (List.mem_cons_of_mem _ hk)) (by simpa using enough)
      rw [List.flatten_cons, chunksUpTo, if_neg (by simp [hl]), ← hl, List.take_left',
        List.drop_left', hl, tail] <;> rfl

/-- Concatenated items of one size are read back as they were. -/
theorem fullChunks_flatten {α : Type} {n : Nat} (hn : 0 < n) {ls : List (List α)}
    (sized : ∀ l ∈ ls, l.length = n) : fullChunks n ls.flatten = ls := by
  refine chunksUpTo_flatten hn sized ?_
  induction ls with
  | nil => simp
  | cons l ls ih =>
      have hl : l.length = n := sized l (by simp)
      have := ih fun k hk => sized k (List.mem_cons_of_mem _ hk)
      simp only [List.length_cons, List.flatten_cons, List.length_append]
      omega

end Ltv

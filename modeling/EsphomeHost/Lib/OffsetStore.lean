import Mathlib.Data.List.Basic
import Mathlib.Logic.Function.Iterate

/-!
# A store that is read and written at offsets

A client reads a value from an offset to its end, and writes it whole or from an offset on.  A value
longer than one message is written in chunks, each at the number of elements written before it.

* `Store.LongWriteReadsBack`, `Store.RejectsPastEnd`, `Store.Replaces`: what the client relies on.
* `listStore_conforms`: a list that is cut off at the offset and extended gives it.
* `Overwrites.conforms_iff`: **a store that keeps the last message whatever its offset, with hooks
  that run after a write and before a read, gives it exactly if the hooks make the written value of
  the last chunk, and the single writes do not depend on their offsets**.
-/

namespace OffsetStore

/-- How a value in a state `S` is accessed; `ω` are the offsets a message can carry and `R` the
replies. -/
structure Store (α ω S R : Type) where
  ofNat : Nat → ω
  toNat : ω → Nat
  value : S → List α
  read : ω → S → R × S
  write : Option ω → List α → S → R × S
  served : List α → R
  written : R
  pastEnd : R

namespace Store

variable {α ω S R : Type} (m : Store α ω S R)

/-- Chunks one after the other, the first at `start`. -/
def writeChunks : Nat → List (List α) → S → S
  | _, [], s => s
  | start, c :: cs, s =>
      writeChunks (start + c.length) cs (m.write (some (m.ofNat start)) c s).2

/-- The replies to reads one after the other. -/
def replies : List ω → S → List R
  | [], _ => []
  | o :: os, s => (m.read o s).1 :: replies os (m.read o s).2

/-- Whatever is read after a long write, from any offset not past the end, is what was written. -/
def LongWriteReadsBack (chunks : List (List α)) (s : S) : Prop :=
  ∀ offsets : List ω, (∀ o ∈ offsets, m.toNat o ≤ chunks.flatten.length) →
    m.replies offsets (m.writeChunks 0 chunks s) =
      offsets.map fun o => m.served (chunks.flatten.drop (m.toNat o))

/-- A write past the end is refused and changes nothing. -/
def RejectsPastEnd (o : ω) (data : List α) (s : S) : Prop :=
  (m.value s).length < m.toNat o →
    (m.write (some o) data s).1 = m.pastEnd ∧ m.value (m.write (some o) data s).2 = m.value s

/-- A write without an offset replaces the value. -/
def Replaces (data : List α) (s : S) : Prop :=
  (m.write none data s).1 = m.written ∧ m.value (m.write none data s).2 = data

/-- What the client relies on, for one long write and two single writes. -/
structure Conforms (chunks : List (List α)) (o : ω) (data : List α) (s : S) : Prop where
  longWrite : m.LongWriteReadsBack chunks s
  pastEnd : m.RejectsPastEnd o data s
  whole : m.Replaces data s

theorem writeChunks_append (cs cs' : List (List α)) (start : Nat) (s : S) :
    m.writeChunks start (cs ++ cs') s =
      m.writeChunks (start + cs.flatten.length) cs' (m.writeChunks start cs s) := by
  induction cs generalizing start s with
  | nil => simp [writeChunks]
  | cons c cs ih =>
      rw [List.cons_append, writeChunks, ih, writeChunks, List.flatten_cons, List.length_append,
        Nat.add_assoc]

end Store

/-! ## Lists -/

variable {α : Type}

/-- A refused access has no reply. -/
def listStore : Store α Nat (List α) (Option (List α)) where
  ofNat := id
  toNat := id
  value := id
  read o l := (if l.length < o then none else some (l.drop o), l)
  write
    | none, data, _ => (some [], data)
    | some o, data, l => if l.length < o then (none, l) else (some [], l.take o ++ data)
  served := some
  written := some []
  pastEnd := none

theorem listStore_write_end (c l : List α) :
    ((listStore.write (some l.length) c l).2 : List α) = l ++ c := by
  simp [listStore]

/-- Chunks written from the end of a list on extend it. -/
theorem listStore_writeChunks (cs : List (List α)) (l : List α) :
    listStore.writeChunks l.length cs l = l ++ cs.flatten := by
  induction cs generalizing l with
  | nil => simp [Store.writeChunks]
  | cons c cs ih =>
      have next := ih (l ++ c)
      rw [List.length_append] at next
      rw [Store.writeChunks, show listStore.ofNat l.length = l.length from rfl,
        listStore_write_end, next, List.flatten_cons, List.append_assoc]

/-- **A list gives the client what it relies on.** -/
theorem listStore_conforms (first : List α) (rest : List (List α)) (o : Nat) (data l : List α) :
    listStore.Conforms (first :: rest) o data l := by
  have written : listStore.writeChunks 0 (first :: rest) l = (first :: rest).flatten := by
    rw [Store.writeChunks, Nat.zero_add,
      show (listStore.write (some (listStore.ofNat 0)) first l).2 = first by simp [listStore]]
    exact listStore_writeChunks rest first
  refine ⟨?_, ?_, rfl, rfl⟩
  · intro offsets inside
    rw [written]
    induction offsets with
    | nil => rfl
    | cons o os ih =>
        obtain ⟨here, inside⟩ := List.forall_mem_cons.mp inside
        have served : listStore.read o (first :: rest).flatten =
            (some ((first :: rest).flatten.drop o), (first :: rest).flatten) := by
          have least : ¬ (first :: rest).flatten.length < o := Nat.not_lt.mpr here
          exact congrArg (·, (first :: rest).flatten) (if_neg least)
        rw [Store.replies, served, List.map_cons, ih inside]
        rfl
  · intro past
    have refused : listStore.write (some o) data l = (none, l) := if_pos past
    rw [refused]
    exact ⟨rfl, rfl⟩

/-! ## Stores that overwrite -/

/-- A write stores the message and runs a hook, a read runs a hook and looks at the offset.  The
hooks have a state `A` of their own. -/
structure Overwrites {ω S R A : Type} (m : Store α ω S R) (view : S → A)
    (onWrite : List α → A → List α × A) (onRead : List α × A → List α × A) : Prop where
  zero : m.toNat (m.ofNat 0) = 0
  distinct : m.written ≠ m.pastEnd
  injective : Function.Injective m.served
  write_reply : ∀ o data s, (m.write o data s).1 = m.written
  write_state : ∀ o data s,
    (m.value (m.write o data s).2, view (m.write o data s).2) = onWrite data (view s)
  read_reply : ∀ o s, (m.read o s).1 =
    if (m.value (m.read o s).2).length < m.toNat o then m.pastEnd
    else m.served ((m.value (m.read o s).2).drop (m.toNat o))
  read_state : ∀ o s, (m.value (m.read o s).2, view (m.read o s).2) = onRead (m.value s, view s)

/-- After the chunks, the hooks make `v` of the last one, at every read. -/
def Yields {A : Type} (onWrite : List α → A → List α × A) (onRead : List α × A → List α × A)
    (earlier : List (List α)) (last : List α) (a : A) (v : List α) : Prop :=
  ∀ k, (onRead^[k + 1] (onWrite last (earlier.foldl (fun a c => (onWrite c a).2) a))).1 = v

namespace Overwrites

variable {ω S R A : Type} {m : Store α ω S R} {view : S → A}
  {onWrite : List α → A → List α × A} {onRead : List α × A → List α × A}

theorem view_writeChunks (overwrites : Overwrites m view onWrite onRead) (cs : List (List α))
    (start : Nat) (s : S) :
    view (m.writeChunks start cs s) = cs.foldl (fun a c => (onWrite c a).2) (view s) := by
  induction cs generalizing start s with
  | nil => rfl
  | cons c cs ih =>
      rw [Store.writeChunks, ih, List.foldl_cons, ← overwrites.write_state]

theorem replies_eq (overwrites : Overwrites m view onWrite onRead) {v : List α} {s : S}
    (reads : ∀ k, (onRead^[k + 1] (m.value s, view s)).1 = v) {offsets : List ω}
    (inside : ∀ o ∈ offsets, m.toNat o ≤ v.length) :
    m.replies offsets s = offsets.map fun o => m.served (v.drop (m.toNat o)) := by
  induction offsets generalizing s with
  | nil => rfl
  | cons o os ih =>
      obtain ⟨here, inside⟩ := List.forall_mem_cons.mp inside
      have value : m.value (m.read o s).2 = v := by
        have first := reads 0
        rwa [Function.iterate_one, ← overwrites.read_state o] at first
      have rest : ∀ k, (onRead^[k + 1] (m.value (m.read o s).2, view (m.read o s).2)).1 = v := by
        intro k
        rw [overwrites.read_state, ← Function.iterate_succ_apply]
        exact reads (k + 1)
      rw [Store.replies, ih rest inside, overwrites.read_reply, value, if_neg (Nat.not_lt.mpr here),
        List.map_cons]

/-- Reads from the start tell what the value is. -/
theorem value_of_replies (overwrites : Overwrites m view onWrite onRead) {v : List α} (k : Nat)
    {s : S}
    (replies : m.replies (List.replicate (k + 1) (m.ofNat 0)) s =
      List.replicate (k + 1) (m.served v)) :
    (onRead^[k + 1] (m.value s, view s)).1 = v := by
  have first : (m.read (m.ofNat 0) s).1 = m.served (m.value (m.read (m.ofNat 0) s).2) := by
    rw [overwrites.read_reply, overwrites.zero, if_neg (Nat.not_lt_zero _), List.drop_zero]
  rw [List.replicate_succ, List.replicate_succ, Store.replies, List.cons.injEq] at replies
  obtain ⟨head, tail⟩ := replies
  rw [Function.iterate_succ_apply, ← overwrites.read_state (m.ofNat 0)]
  cases k with
  | zero => exact overwrites.injective (first.symm.trans head)
  | succ k => exact value_of_replies overwrites k tail

theorem longWrite_iff (overwrites : Overwrites m view onWrite onRead) (earlier : List (List α))
    (last : List α) (s : S) :
    m.LongWriteReadsBack (earlier ++ [last]) s ↔
      Yields onWrite onRead earlier last (view s) (earlier ++ [last]).flatten := by
  have stored : (m.value (m.writeChunks 0 (earlier ++ [last]) s),
      view (m.writeChunks 0 (earlier ++ [last]) s)) =
        onWrite last (earlier.foldl (fun a c => (onWrite c a).2) (view s)) := by
    rw [Store.writeChunks_append, Store.writeChunks, Store.writeChunks, overwrites.write_state,
      overwrites.view_writeChunks]
  constructor
  · intro readsBack k
    rw [← stored]
    apply overwrites.value_of_replies k
    have zeros := readsBack (List.replicate (k + 1) (m.ofNat 0)) fun o mem => by
      rw [List.eq_of_mem_replicate mem, overwrites.zero]
      exact Nat.zero_le _
    rwa [List.map_replicate, overwrites.zero, List.drop_zero] at zeros
  · intro yields offsets inside
    refine overwrites.replies_eq (fun k => ?_) inside
    rw [stored]
    exact yields k

theorem rejectsPastEnd_iff (overwrites : Overwrites m view onWrite onRead) (o : ω) (data : List α)
    (s : S) : m.RejectsPastEnd o data s ↔ m.toNat o ≤ (m.value s).length := by
  constructor
  · intro rejects
    by_contra past
    have refused := (rejects (Nat.not_le.mp past)).1
    exact overwrites.distinct ((overwrites.write_reply _ _ _).symm.trans refused)
  · intro inside past
    omega

theorem replaces_iff (overwrites : Overwrites m view onWrite onRead) (data : List α) (s : S) :
    m.Replaces data s ↔ (onWrite data (view s)).1 = data := by
  rw [Store.Replaces, overwrites.write_reply, and_iff_right rfl, ← overwrites.write_state none]

theorem conforms_iff (overwrites : Overwrites m view onWrite onRead) (earlier : List (List α))
    (last : List α) (o : ω) (data : List α) (s : S) :
    m.Conforms (earlier ++ [last]) o data s ↔
      Yields onWrite onRead earlier last (view s) (earlier ++ [last]).flatten ∧
        m.toNat o ≤ (m.value s).length ∧ (onWrite data (view s)).1 = data := by
  rw [← overwrites.longWrite_iff, ← overwrites.rejectsPastEnd_iff o data, ← overwrites.replaces_iff]
  exact ⟨fun ⟨a, b, c⟩ => ⟨a, b, c⟩, fun ⟨a, b, c⟩ => ⟨a, b, c⟩⟩

end Overwrites

/-- With hooks that leave the value alone, only the last chunk may have elements. -/
theorem yields_iff {A : Type} {onWrite : List α → A → List α × A}
    {onRead : List α × A → List α × A} (writes : ∀ data a, (onWrite data a).1 = data)
    (reads : ∀ p, (onRead p).1 = p.1) (earlier : List (List α)) (last : List α) (a : A) :
    Yields onWrite onRead earlier last a (earlier ++ [last]).flatten ↔ ∀ c ∈ earlier, c = [] := by
  have kept (k : Nat) (p : List α × A) : (onRead^[k] p).1 = p.1 := by
    induction k with
    | zero => rfl
    | succ k ih => rw [Function.iterate_succ_apply', reads, ih]
  have whole : (earlier ++ [last]).flatten = earlier.flatten ++ last := by simp
  rw [Yields, whole]
  simp only [kept, writes, forall_const]
  rw [eq_comm, List.append_left_eq_self, List.flatten_eq_nil_iff]

end OffsetStore

import Mathlib.Data.List.Nodup

/-!
# Edits of a store

A store keeps one value under each of finitely many keys.  An edit looks at the value under its key
and writes another one there, leaves it alone, or fails; a list of edits stops at the first failure
and keeps what was written before it.

An edit is stable if it leaves alone what it wrote.  Stable edits with distinct keys can be
performed again after any of the values has been put back (`performAll_mixed`).
-/

namespace Edits

variable {κ β ε : Type} [DecidableEq κ]

/-- Values under distinct keys. -/
structure Store (κ β : Type) where
  entries : List (κ × β)
  distinct : (entries.map Prod.fst).Nodup

namespace Store

def keys (t : Store κ β) : List κ := t.entries.map Prod.fst

def read (t : Store κ β) (k : κ) : Option β :=
  (t.entries.find? fun e => decide (e.1 = k)).map Prod.snd

theorem keys_overwritten (l : List (κ × β)) (k : κ) (b : β) :
    (l.map fun e => if e.1 = k then (k, b) else e).map Prod.fst = l.map Prod.fst := by
  rw [List.map_map]
  refine List.map_congr_left fun e _ => ?_
  rw [Function.comp_apply]
  split
  · next same => exact same.symm
  · rfl

omit [DecidableEq κ] in
theorem nodup_added {l : List (κ × β)} {k : κ} (distinct : (l.map Prod.fst).Nodup)
    (fresh : k ∉ l.map Prod.fst) (b : β) : ((l ++ [(k, b)]).map Prod.fst).Nodup := by
  rw [List.map_append]
  exact distinct.append (List.nodup_singleton k) (List.disjoint_singleton.mpr fresh)

def write (t : Store κ β) (k : κ) (b : β) : Store κ β :=
  if fresh : k ∉ t.keys then ⟨t.entries ++ [(k, b)], nodup_added t.distinct fresh b⟩
  else ⟨t.entries.map fun e => if e.1 = k then (k, b) else e,
    (keys_overwritten t.entries k b).symm ▸ t.distinct⟩

variable {t : Store κ β} {k k' : κ} {b : β}

theorem read_eq_none_iff : t.read k = none ↔ k ∉ t.keys := by
  rw [read, Option.map_eq_none_iff, List.find?_eq_none, keys, List.mem_map]
  constructor
  · rintro none ⟨e, mem, same⟩
    exact none e mem (decide_eq_true same)
  · intro none e mem same
    exact none ⟨e, mem, of_decide_eq_true same⟩

theorem mem_keys_iff : k ∈ t.keys ↔ t.read k ≠ none := by
  rw [Ne, read_eq_none_iff, not_not]

theorem read_write_self : (t.write k b).read k = some b := by
  unfold write
  split
  · next fresh =>
      have none : t.entries.find? (fun e => decide (e.1 = k)) = none :=
        Option.map_eq_none_iff.mp (read_eq_none_iff.mpr fresh)
      simp [read, List.find?_append, none]
  · next known =>
      have found : (t.entries.find? fun e => decide (e.1 = k)) ≠ none :=
        mt (fun none => read_eq_none_iff.mp (congrArg (Option.map Prod.snd) none)) known
      obtain ⟨e, found⟩ := Option.ne_none_iff_exists'.mp found
      have same : e.1 = k := of_decide_eq_true (List.find?_some found :)
      have scan : ((fun e : κ × β => decide (e.1 = k)) ∘ fun e => if e.1 = k then (k, b) else e) =
          fun e => decide (e.1 = k) := by
        funext e
        by_cases here : e.1 = k <;> simp [here]
      rw [read, List.find?_map, scan, found]
      simp [same]

theorem read_write_ne (other : k' ≠ k) : (t.write k b).read k' = t.read k' := by
  unfold write
  split
  · simp [read, List.find?_append, other.symm]
  · have scan : ((fun e : κ × β => decide (e.1 = k')) ∘ fun e => if e.1 = k then (k, b) else e) =
        fun e => decide (e.1 = k') := by
      funext e
      by_cases here : e.1 = k
      · simp [here]
      · simp [here]
    rw [read, List.find?_map, scan, Option.map_map, read]
    cases found : t.entries.find? fun e => decide (e.1 = k') with
    | none => rfl
    | some e =>
        have same : e.1 = k' := of_decide_eq_true (List.find?_some found :)
        have apart : e.1 ≠ k := same ▸ other
        simp [apart]

end Store

/-- What is done to the value under one key. -/
structure Edit (κ β ε : Type) where
  key : κ
  apply : Option β → Except ε (Option β)

/-- What an edit writes it leaves alone the next time. -/
def Edit.Stable (e : Edit κ β ε) : Prop :=
  ∀ {old : Option β} {new : β}, e.apply old = .ok (some new) → e.apply (some new) = .ok none

def perform (e : Edit κ β ε) (t : Store κ β) : Store κ β × Option ε :=
  match e.apply (t.read e.key) with
  | .ok none => (t, none)
  | .ok (some b) => (t.write e.key b, none)
  | .error x => (t, some x)

/-- One piece of work, and the next unless it failed. -/
def andThen (r : Store κ β × Option ε) (next : Store κ β → Store κ β × Option ε) :
    Store κ β × Option ε :=
  match r.2 with
  | none => next r.1
  | some x => (r.1, some x)

def performAll : List (Edit κ β ε) → Store κ β → Store κ β × Option ε
  | [], t => (t, none)
  | e :: es, t => andThen (perform e t) (performAll es)

variable {t t' : Store κ β} {k : κ} {e : Edit κ β ε} {es : List (Edit κ β ε)}

theorem read_perform_ne (other : k ≠ e.key) : (perform e t).1.read k = t.read k := by
  unfold perform
  split
  · rfl
  · exact Store.read_write_ne other
  · rfl

omit [DecidableEq κ] in
theorem andThen_assoc (r : Store κ β × Option ε) (f g : Store κ β → Store κ β × Option ε) :
    andThen (andThen r f) g = andThen r fun t => andThen (f t) g := by
  obtain ⟨t, _ | x⟩ := r <;> rfl

omit [DecidableEq κ] in
theorem andThen_congr {r : Store κ β × Option ε} {f g : Store κ β → Store κ β × Option ε}
    (same : f r.1 = g r.1) : andThen r f = andThen r g := by
  unfold andThen
  split
  · exact same
  · rfl

theorem performAll_append (es fs : List (Edit κ β ε)) (t : Store κ β) :
    performAll (es ++ fs) t = andThen (performAll es t) (performAll fs) := by
  induction es generalizing t with
  | nil => rfl
  | cons e es ih =>
      rw [List.cons_append, performAll, performAll, andThen_assoc]
      exact congrArg (andThen _) (funext ih)

/-- What no edit is about stays as it is. -/
theorem read_performAll (foreign : k ∉ es.map Edit.key) :
    (performAll es t).1.read k = t.read k := by
  induction es generalizing t with
  | nil => rfl
  | cons e es ih =>
      obtain ⟨other, foreign⟩ := List.ne_and_not_mem_of_not_mem_cons foreign
      rw [performAll, andThen]
      split
      · rw [ih foreign, read_perform_ne other]
      · exact read_perform_ne other

/-- Edits that do not write where there is nothing keep the keys. -/
theorem read_performAll_eq_none_iff
    (modest : ∀ e ∈ es, e.key = k → e.apply none = .ok none) :
    (performAll es t).1.read k = none ↔ t.read k = none := by
  induction es generalizing t with
  | nil => exact .rfl
  | cons e es ih =>
      have once : (perform e t).1.read k = none ↔ t.read k = none := by
        by_cases here : k = e.key
        · subst here
          have alone := modest e List.mem_cons_self rfl
          unfold perform
          split
          · exact .rfl
          · next written =>
              rw [Store.read_write_self]
              refine ⟨nofun, fun none => ?_⟩
              rw [none, alone] at written
              cases written
          · exact .rfl
        · rw [read_perform_ne here]
      rw [performAll, andThen]
      split
      · exact (ih fun f mem => modest f (List.mem_cons_of_mem _ mem)).trans once
      · exact once

/-- The value under the key of an edit: as it was, or what the edit makes of it. -/
theorem read_performAll_key (distinct : (es.map Edit.key).Nodup) (mem : e ∈ es) :
    (performAll es t).1.read e.key = t.read e.key ∨
      ∃ new, e.apply (t.read e.key) = .ok (some new) ∧
        (performAll es t).1.read e.key = some new := by
  induction es generalizing t with
  | nil => cases mem
  | cons f es ih =>
      obtain ⟨fresh, distinct⟩ := List.nodup_cons.mp distinct
      rw [performAll, andThen]
      rcases List.mem_cons.mp mem with rfl | mem
      · -- The edits behind this one have other keys.
        have once : (perform e t).1.read e.key = t.read e.key ∨
            ∃ new, e.apply (t.read e.key) = .ok (some new) ∧
              (perform e t).1.read e.key = some new := by
          unfold perform
          split
          · exact .inl rfl
          · next written => exact .inr ⟨_, written, Store.read_write_self⟩
          · exact .inl rfl
        split
        · rwa [read_performAll fresh]
        · exact once
      · have other : e.key ≠ f.key := fun same =>
          fresh (same ▸ List.mem_map_of_mem mem)
        split
        · have later := @ih (perform f t).1 distinct mem
          rwa [read_perform_ne other] at later
        · exact .inl (read_perform_ne other)

theorem perform_fine (fine : ∃ r, e.apply (t.read e.key) = .ok r) : (perform e t).2 = none := by
  obtain ⟨r, done⟩ := fine
  rw [perform, done]
  cases r <;> rfl

/-- Edits that cannot fail are all performed. -/
theorem performAll_fine (fine : ∀ e ∈ es, ∀ old, ∃ r, e.apply old = .ok r) (t : Store κ β) :
    (performAll es t).2 = none := by
  induction es generalizing t with
  | nil => rfl
  | cons e es ih =>
      obtain ⟨here, later⟩ := List.forall_mem_cons.mp fine
      rw [performAll, andThen, perform_fine (here _)]
      exact ih later _

theorem read_performAll_done (distinct : (es.map Edit.key).Nodup)
    (fine : ∀ e ∈ es, ∀ old, ∃ r, e.apply old = .ok r) (mem : e ∈ es) {new : β}
    (writes : e.apply (t.read e.key) = .ok (some new)) :
    (performAll es t).1.read e.key = some new := by
  induction es generalizing t with
  | nil => cases mem
  | cons f es ih =>
      obtain ⟨fresh, distinct⟩ := List.nodup_cons.mp distinct
      obtain ⟨here, later⟩ := List.forall_mem_cons.mp fine
      rw [performAll, andThen, perform_fine (here _)]
      rcases List.mem_cons.mp mem with rfl | mem
      · rw [read_performAll fresh, perform, writes]
        exact Store.read_write_self
      · have other : e.key ≠ f.key := fun same => fresh (same ▸ List.mem_map_of_mem mem)
        exact ih distinct later mem (by rwa [read_perform_ne other])

/-- One edit on two stores that agree on its key, or where it has been performed already. -/
theorem perform_again (stable : e.Stable)
    (mixed : t'.read e.key = t.read e.key ∨
      t'.read e.key = (perform e t).1.read e.key) :
    (perform e t').2 = (perform e t).2 ∧
      (perform e t').1.read e.key = (perform e t).1.read e.key := by
  cases outcome : e.apply (t.read e.key) with
  | error x =>
      have same : t'.read e.key = t.read e.key := by
        rcases mixed with same | done
        · exact same
        · rwa [perform, outcome] at done
      simp only [perform, same, outcome, and_self]
  | ok r =>
      cases r with
      | none =>
          have same : t'.read e.key = t.read e.key := by
            rcases mixed with same | done
            · exact same
            · rwa [perform, outcome] at done
          simp only [perform, same, outcome, and_self]
      | some new =>
          rcases mixed with same | done
          · simp only [perform, same, outcome, Store.read_write_self, and_self]
          · have now : t'.read e.key = some new := by
              rw [done, perform, outcome]
              exact Store.read_write_self
            have again := stable outcome
            simp only [perform, outcome, again, now, Store.read_write_self, and_self]

/-- **Stable edits with distinct keys end in the same store**, and fail alike, when they are
performed again after some values have been put back. -/
theorem performAll_mixed (distinct : (es.map Edit.key).Nodup) (stable : ∀ e ∈ es, e.Stable)
    (mixed : ∀ k, t'.read k = t.read k ∨ t'.read k = (performAll es t).1.read k) :
    (performAll es t').2 = (performAll es t).2 ∧
      ∀ k, (performAll es t').1.read k = (performAll es t).1.read k := by
  induction es generalizing t t' with
  | nil => exact ⟨rfl, fun k => (mixed k).elim id id⟩
  | cons e es ih =>
      obtain ⟨fresh, distinct⟩ := List.nodup_cons.mp distinct
      have final : (performAll (e :: es) t).1.read e.key = (perform e t).1.read e.key := by
        rw [performAll, andThen]
        split
        · exact read_performAll fresh
        · rfl
      have untouched : t'.read e.key = t.read e.key ∨
          t'.read e.key = (perform e t).1.read e.key := final ▸ mixed e.key
      obtain ⟨outcome, here⟩ := perform_again (stable e List.mem_cons_self) untouched
      have elsewhere : ∀ k, (perform e t').1.read k = (perform e t).1.read k ∨
          (perform e t').1.read k = (performAll (e :: es) t).1.read k := by
        intro k
        by_cases same : k = e.key
        · exact .inl (same ▸ here)
        · rw [read_perform_ne same, read_perform_ne same]
          exact mixed k
      rw [performAll, andThen] at elsewhere ⊢
      rw [performAll, andThen, outcome]
      cases failed : (perform e t).2 with
      | none =>
          rw [failed] at elsewhere
          exact ih distinct (fun f mem => stable f (List.mem_cons_of_mem _ mem)) elsewhere
      | some x =>
          rw [failed] at elsewhere
          exact ⟨rfl, fun k => (elsewhere k).elim id id⟩

end Edits

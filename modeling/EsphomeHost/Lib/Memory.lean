import Mathlib.Data.List.Basic

/-!
# Bytes in memory

`load` and `store` are the bytes from an address on.  A store behind what is loaded, or before it,
is not seen (`load_store_before`, `load_store_behind`), and two stores next to each other are one
(`store_append`).
-/

namespace Memory

variable {α : Type}

def load (m : Nat → α) (p : Nat) : Nat → List α
  | 0 => []
  | n + 1 => m p :: load m (p + 1) n

def store (m : Nat → α) (p : Nat) (bs : List α) : Nat → α :=
  fun a => if p ≤ a then (bs[a - p]?).getD (m a) else m a

variable {m : Nat → α} {p q n k : Nat} {as bs : List α}

@[simp] theorem length_load : (load m p n).length = n := by
  induction n generalizing p with
  | zero => rfl
  | succ n ih => rw [load, List.length_cons, ih]

theorem load_add : load m p (n + k) = load m p n ++ load m (p + n) k := by
  induction n generalizing p with
  | zero => rw [Nat.zero_add, load, List.nil_append, Nat.add_zero]
  | succ n ih =>
      rw [Nat.succ_add, load, load, ih, List.cons_append, Nat.add_assoc, Nat.add_comm 1 n]

theorem load_congr {m' : Nat → α} (same : ∀ i < n, m' (p + i) = m (p + i)) :
    load m' p n = load m p n := by
  induction n generalizing p with
  | zero => rfl
  | succ n ih =>
      have rest : ∀ i < n, m' (p + 1 + i) = m (p + 1 + i) := fun i inside => by
        rw [Nat.add_assoc, Nat.add_comm 1 i]
        exact same (i + 1) (Nat.succ_lt_succ inside)
      have first : m' p = m p := same 0 (Nat.succ_pos n)
      rw [load, load, ih rest, first]

theorem store_nil : store m p [] = m := by
  funext a
  simp [store]

/-- Outside of what is stored the memory stays as it is. -/
theorem store_apart {a : Nat} (outside : a < p ∨ p + bs.length ≤ a) : store m p bs a = m a := by
  unfold store
  split
  · next above =>
      rw [List.getElem?_eq_none (by omega), Option.getD_none]
  · rfl

theorem load_store_behind (behind : q + n ≤ p) : load (store m p bs) q n = load m q n :=
  load_congr fun i inside => store_apart (.inl (by omega))

theorem load_store_before (before : p + bs.length ≤ q) : load (store m p bs) q n = load m q n :=
  load_congr fun i _ => store_apart (.inr (by omega))

/-- Two stores next to each other. -/
theorem store_append : store (store m p as) (p + as.length) bs = store m p (as ++ bs) := by
  funext a
  simp only [store]
  by_cases above : p + as.length ≤ a
  · rw [if_pos above, if_pos (by omega), if_pos (by omega), List.getElem?_append_right (by omega),
      List.getElem?_eq_none (l := as) (by omega), Nat.sub_add_eq, Option.getD_none]
  · rw [if_neg above]
    by_cases here : p ≤ a
    · rw [if_pos here, if_pos here, List.getElem?_append_left (by omega)]
    · rw [if_neg here, if_neg here]

/-- What is stored is loaded again. -/
theorem load_store_self : load (store m p bs) p bs.length = bs := by
  induction bs generalizing m p with
  | nil => rfl
  | cons b bs ih =>
      have split : store (store m p [b]) (p + 1) bs = store m p (b :: bs) := store_append
      have first : store m p (b :: bs) p = b := by simp [store]
      rw [List.length_cons, load, first, ← split, ih]

/-- A store over the front of another. -/
theorem store_over :
    store (store m p as) p bs = store m p (bs ++ as.drop bs.length) := by
  funext a
  simp only [store]
  by_cases here : p ≤ a
  · rw [if_pos here, if_pos here, if_pos here]
    by_cases front : a - p < bs.length
    · rw [List.getElem?_append_left front, List.getElem?_eq_getElem front, Option.getD_some,
        Option.getD_some]
    · rw [List.getElem?_eq_none (by omega), Option.getD_none, List.getElem?_append_right (by omega),
        List.getElem?_drop, Nat.add_sub_cancel' (by omega)]
  · rw [if_neg here, if_neg here, if_neg here]

end Memory

import Mathlib.Algebra.Order.Group.Multiset

/-!
# Occupied entries of a table

A table is a list in which zero marks a free entry.

* `occupied l`: what the other entries hold, as a multiset; `occupied_set` says how it changes when
  one entry is overwritten.
* `Balanced tenants record free limit`: a table of tenants, a record of `limit` entries kept beside
  it by search and replace, and a counter of what is left agree.  `Balanced.reserve` and
  `Balanced.release` are the two ways an entry changes; neither wraps the counter.
-/

namespace Occupancy

variable {α : Type*} [DecidableEq α] [Zero α] {l : List α} {a b : α} {i : Nat}

/-- What one entry holds. -/
def held (a : α) : Multiset α := if a = 0 then 0 else {a}

/-- What the entries hold. -/
def occupied (l : List α) : Multiset α := l.filter (· ≠ 0)

@[simp] theorem held_zero : held (0 : α) = 0 := if_pos rfl

theorem held_of_ne (used : a ≠ 0) : held a = {a} := if_neg used

@[simp] theorem occupied_nil : occupied ([] : List α) = 0 := rfl

@[simp] theorem occupied_cons : occupied (a :: l) = held a + occupied l := by
  unfold occupied held
  by_cases free : a = 0 <;> simp [free]

@[simp] theorem occupied_replicate (n : Nat) : occupied (List.replicate n (0 : α)) = 0 := by
  simp [occupied]

theorem mem_occupied : a ∈ occupied l ↔ a ∈ l ∧ a ≠ 0 := by
  simp [occupied]

/-- **Overwriting one entry.** -/
theorem occupied_set (here : l[i]? = some a) :
    held a + occupied (l.set i b) = held b + occupied l := by
  induction l generalizing i with
  | nil => cases here
  | cons x xs ih =>
      cases i with
      | zero =>
          obtain rfl := Option.some.inj here
          simp only [List.set_cons_zero, occupied_cons]
          exact add_left_comm ..
      | succ i =>
          simp only [List.set_cons_succ, occupied_cons]
          rw [add_left_comm, ih here, add_left_comm]

omit [Zero α] in
/-- Search and replace overwrites the first entry found. -/
theorem replace_eq_set (mem : a ∈ l) (b : α) : ∃ i, l[i]? = some a ∧ l.replace a b = l.set i b := by
  induction l with
  | nil => cases mem
  | cons x xs ih =>
      by_cases same : x = a
      · subst same
        exact ⟨0, rfl, by simp⟩
      · have other : (a == x) = false := beq_false_of_ne (Ne.symm same)
        obtain ⟨i, here, replaced⟩ := ih ((List.mem_cons.mp mem).resolve_left (Ne.symm same))
        exact ⟨i + 1, here, by rw [List.replace_cons, other, replaced]; rfl⟩

theorem occupied_replace (mem : a ∈ l) (b : α) :
    held a + occupied (l.replace a b) = held b + occupied l := by
  obtain ⟨i, here, replaced⟩ := replace_eq_set mem b
  rw [replaced]
  exact occupied_set here

theorem card_occupied : (occupied l).card = l.countP (· ≠ 0) := by
  rw [occupied, Multiset.coe_card, List.countP_eq_length_filter]

/-- A table with a free entry is not full. -/
theorem card_occupied_lt : (occupied l).card < l.length ↔ 0 ∈ l := by
  rw [card_occupied, List.countP_lt_length_iff]
  simp

/-! ## A table and its record -/

/-- The record holds what the tenants hold, and the counter what is left of the limit. -/
structure Balanced (tenants record : List α) (free limit : Nat) : Prop where
  size : tenants.length ≤ limit
  room : record.length = limit
  record : occupied record = occupied tenants
  free : free + (occupied tenants).card = limit

variable {tenants record : List α} {free limit : Nat}

/-- **A free entry is taken.** -/
theorem Balanced.reserve (balanced : Balanced tenants record free limit)
    (here : tenants[i]? = some 0) (used : b ≠ 0) :
    0 < free ∧ Balanced (tenants.set i b) (record.replace 0 b) (free - 1) limit := by
  have tenancy := occupied_set (b := b) here
  rw [held_zero, zero_add, held_of_ne used] at tenancy
  have vacant := card_occupied_lt.mpr (List.mem_of_getElem? here)
  have counted := balanced.free
  have size := balanced.size
  have positive : 0 < free := by omega
  have entry : 0 ∈ record := by
    rw [← card_occupied_lt, balanced.record, balanced.room]
    omega
  have noted := occupied_replace entry b
  rw [held_zero, zero_add, held_of_ne used] at noted
  refine ⟨positive, ?_, ?_, ?_, ?_⟩
  · rw [List.length_set]
    exact size
  · rw [List.length_replace]
    exact balanced.room
  · rw [noted, tenancy, balanced.record]
  · rw [tenancy, Multiset.card_add, Multiset.card_singleton]
    omega

/-- **A tenant leaves.** -/
theorem Balanced.release (balanced : Balanced tenants record free limit)
    (here : tenants[i]? = some a) (used : a ≠ 0) :
    free < limit ∧ Balanced (tenants.set i 0) (record.replace a 0) (free + 1) limit := by
  have tenancy := occupied_set (b := 0) here
  rw [held_zero, zero_add, held_of_ne used] at tenancy
  have mem : a ∈ occupied record := by
    rw [balanced.record]
    exact mem_occupied.mpr ⟨List.mem_of_getElem? here, used⟩
  have noted := occupied_replace (mem_occupied.mp mem).1 0
  rw [held_zero, zero_add, held_of_ne used] at noted
  have counted := balanced.free
  rw [← tenancy, Multiset.card_add, Multiset.card_singleton] at counted
  refine ⟨by omega, ?_, ?_, ?_, ?_⟩
  · rw [List.length_set]
    exact balanced.size
  · rw [List.length_replace]
    exact balanced.room
  · refine add_left_cancel (a := {a}) ?_
    rw [noted, tenancy, balanced.record]
  · omega

end Occupancy

import EsphomeHost.Lib.Cut
import Mathlib.Data.List.GetD

/-!
# Strings in memory

A pointer to a string leads to its characters, to the terminator and to whatever stands behind it.
A computation in `Reads` has a result and notes the offsets that it reads, so that a computation
that leaves the string can be told from one that does not.

* `Reads.Inside`: nothing behind the terminator is read.
* `CString.char_behind`: what is read behind a part of the string is read of the rest of it.
-/

/-- A string as it stands in memory. -/
structure CString where
  text : List Char
  /-- What stands behind the terminator. -/
  beyond : Nat → Char
  terminated : Char.ofNat 0 ∉ text

/-- A computation over memory: its result, and the offsets that it reads. -/
@[ext]
structure Reads (α : Type) where
  result : α
  offsets : List Nat

namespace Reads

variable {α β : Type}

instance : Monad Reads where
  pure a := ⟨a, []⟩
  bind m f := ⟨(f m.result).result, m.offsets ++ (f m.result).offsets⟩

@[simp] theorem result_pure (a : α) : (pure a : Reads α).result = a := rfl

@[simp] theorem offsets_pure (a : α) : (pure a : Reads α).offsets = [] := rfl

@[simp] theorem result_bind (m : Reads α) (f : α → Reads β) :
    (m >>= f).result = (f m.result).result := rfl

@[simp] theorem offsets_bind (m : Reads α) (f : α → Reads β) :
    (m >>= f).offsets = m.offsets ++ (f m.result).offsets := rfl

/-- The computation stays inside the string, its terminator included. -/
def Inside (s : CString) (m : Reads α) : Prop := ∀ i ∈ m.offsets, i ≤ s.text.length

end Reads

namespace CString

variable {s : CString} {pat before rest : List Char} {i : Nat}

/-- The character at an offset. -/
def char (s : CString) (i : Nat) : Char :=
  (s.text ++ [Char.ofNat 0]).getD i (s.beyond (i - s.text.length - 1))

/-- `s[i]`. -/
def peek (s : CString) (i : Nat) : Reads Char := ⟨s.char i, [i]⟩

/-- `strstr` looks at the string and its terminator and gives the offset of the first
occurrence. -/
def strstr (s : CString) (pat : List Char) : Reads (Option Nat) where
  result := (Cut.cut pat s.text).map fun parts => parts.1.length
  offsets := List.range (s.text.length + 1)

theorem strstr_none (missing : Cut.cut pat s.text = none) :
    s.strstr pat = ⟨none, List.range (s.text.length + 1)⟩ := by
  rw [strstr, missing]
  rfl

theorem strstr_some (found : Cut.cut pat s.text = some (before, rest)) :
    s.strstr pat = ⟨some before.length, List.range (s.text.length + 1)⟩ := by
  rw [strstr, found]
  rfl

/-- Inside the string, the terminator is what is read behind its last character. -/
theorem char_of_le (inside : i ≤ s.text.length) : s.char i = s.text.getD i (Char.ofNat 0) := by
  rw [char]
  rcases Nat.lt_or_eq_of_le inside with before | rfl
  · rw [List.getD_append _ _ _ _ before, List.getD_eq_getElem _ _ before,
      List.getD_eq_getElem _ _ before]
  · rw [List.getD_append_right _ _ _ _ (Nat.le_refl _), List.getD_eq_default _ _ (Nat.le_refl _),
      Nat.sub_self]
    rfl

/-- What is read behind a part of the string is read of the rest of it. -/
theorem char_behind (parts : s.text = before ++ rest) (inside : i ≤ rest.length) :
    s.char (before.length + i) = rest.getD i (Char.ofNat 0) := by
  have whole : before.length + i ≤ s.text.length := by
    rw [parts, List.length_append]
    omega
  rw [char_of_le whole, parts, List.getD_append_right _ _ _ _ (Nat.le_add_right _ _),
    Nat.add_sub_cancel_left]

end CString

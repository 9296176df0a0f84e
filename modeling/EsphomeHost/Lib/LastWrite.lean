import Mathlib.Data.List.Induction

/-!
# Registers fed by a log

A log of writes, each to the register of its key.  The value of a register is that of the last write
to it, or what it was before the log.

* `after_concat` and `after_cons`: a write at the end of the log, and one at its head.
* `after_cases`: a log either leaves a register alone or determines its value.
-/

namespace LastWrite

universe u v w

variable {α : Type u} {κ : Type v} {β : Type w} [DecidableEq κ] (key : α → κ) (value : α → β)

/-- The value of register `k` after the writes `log`, if it was `b`. -/
def after (k : κ) (b : β) (log : List α) : β :=
  log.foldl (fun b x => if key x = k then value x else b) b

variable {key value} {k : κ} {b : β} {log : List α}

@[simp] theorem after_nil : after key value k b [] = b := rfl

theorem after_cons (x : α) :
    after key value k b (x :: log) =
      after key value k (if key x = k then value x else b) log := rfl

theorem after_concat (x : α) :
    after key value k b (log ++ [x]) =
      if key x = k then value x else after key value k b log := by
  rw [after, List.foldl_append]
  rfl

/-- A register without a write keeps its value. -/
theorem after_of_fresh (fresh : ∀ x ∈ log, key x ≠ k) : after key value k b log = b := by
  induction log with
  | nil => rfl
  | cons x log ih =>
      rw [after_cons, if_neg (fresh x List.mem_cons_self)]
      exact ih fun y mem => fresh y (List.mem_cons_of_mem x mem)

variable (key value) in
/-- A log either leaves a register alone or determines its value. -/
theorem after_cases (k : κ) (log : List α) :
    (∀ b, after key value k b log = b) ∨ ∃ c, ∀ b, after key value k b log = c := by
  induction log using List.reverseRecOn with
  | nil => exact .inl fun _ => rfl
  | append_singleton log x ih =>
      simp only [after_concat]
      by_cases same : key x = k
      · exact .inr ⟨value x, fun _ => if_pos same⟩
      · simpa only [if_neg same] using ih

end LastWrite

import Mathlib.Data.List.Nodup
import EsphomeHost.Client.Queues

/-!
# Actions that wait

An action whose `play_complex` starts something counts the play in `num_running_`, keeps its
arguments in `var_`, and goes on with the chain when a hook calls `play_next_tuple_`.

The plays are numbered for the proofs, and `var` keeps the number beside the arguments.

* `ActionState.play` and `ActionState.playNextTuple`: the two halves.
* `Visit`: a hook that `dispatch_event_` has still to call.  The nodes are called one after another,
  and what a hook does may start other actions before the next one is called.
* `PlayedOnce`: what a set of actions keeps as long as none is played while it waits: every play is
  continued at most once, and with its own arguments.
-/

namespace EsphomeHost

/-- A play: its number, and the arguments it was started with. -/
structure Play (α : Type) where
  number : Nat
  args : α
deriving DecidableEq

/-- `num_running_` and `var_`; `var_` is value-initialized before the first play. -/
structure ActionState (α : Type) where
  numRunning : Nat := 0
  var : Option (Play α) := none
deriving DecidableEq

namespace ActionState

variable {α : Type} (a : ActionState α)

/-- The start of `play_complex`. -/
def play (p : Play α) : ActionState α := { numRunning := a.numRunning + 1, var := some p }

/-- `play_next_`: the action, and the play it goes on with if it was running. -/
def playNext (p : Option (Play α)) : ActionState α × List (Play α) :=
  if 0 < a.numRunning then ({ a with numRunning := a.numRunning - 1 }, p.toList) else (a, [])

/-- `play_next_tuple_(var_)`. -/
def playNextTuple : ActionState α × List (Play α) := a.playNext a.var

/-- A play of the action has not been continued. -/
def Waits : Prop := 0 < a.numRunning

instance : Decidable a.Waits := inferInstanceAs (Decidable (_ < _))

end ActionState

/-! ## The fan-out of an event -/

/-- A call that `dispatch_event_` has still to make: the event, and the node whose hook it calls. -/
structure Visit (τ : Type) where
  event : Stamped τ HostGattEvent
  node : Nat
deriving DecidableEq

/-- The calls for an event, with `n` nodes. -/
def visitsOf {τ : Type} (event : Stamped τ HostGattEvent) (n : Nat) : List (Visit τ) :=
  (List.range n).map fun node => ⟨event, node⟩

theorem mem_visitsOf {τ : Type} {event : Stamped τ HostGattEvent} {n : Nat} {v : Visit τ} :
    v ∈ visitsOf event n ↔ v.event = event ∧ v.node < n := by
  constructor
  · intro mem
    obtain ⟨node, inside, rfl⟩ := List.mem_map.mp mem
    exact ⟨rfl, List.mem_range.mp inside⟩
  · rintro ⟨rfl, inside⟩
    exact List.mem_map.mpr ⟨v.node, List.mem_range.mpr inside, rfl⟩

/-! ## Plays -/

/-- An entry after an entry was replaced. -/
theorem getElem?_set_cases {β : Type} {l : List β} {i j : Nat} {x y : β}
    (there : (l.set i x)[j]? = some y) : (i = j ∧ x = y) ∨ (i ≠ j ∧ l[j]? = some y) := by
  by_cases same : i = j
  · subst same
    have inside : i < l.length := by
      obtain ⟨inside, -⟩ := List.getElem?_eq_some_iff.mp there
      rwa [List.length_set] at inside
    rw [List.getElem?_set_self inside] at there
    exact .inl ⟨rfl, Option.some.inj there⟩
  · rw [List.getElem?_set_ne same] at there
    exact .inr ⟨same, there⟩

/-- The state of an action of a list. -/
theorem map_here {β γ : Type} {f : β → γ} {l : List β} {i : Nat} {b : β} (here : l[i]? = some b) :
    (l.map f)[i]? = some (f b) := by
  rw [List.getElem?_map, here]
  rfl

/-- What the actions keep as long as none is played while it waits: every play has been continued,
once and with its own arguments, or one action waits with it. -/
structure PlayedOnce {α : Type} (states : List (ActionState α)) (played : List α)
    (continued : List (Play α)) : Prop where
  single : ∀ (i : Nat) (a : ActionState α), states[i]? = some a → a.numRunning ≤ 1
  once : (continued.map Play.number).Nodup
  own : ∀ p ∈ continued, played[p.number]? = some p.args
  waiting : ∀ (i : Nat) (a : ActionState α), states[i]? = some a → a.Waits →
    ∃ p, a.var = some p ∧ played[p.number]? = some p.args ∧ p.number ∉ continued.map Play.number
  apart : ∀ (i j : Nat) (a b : ActionState α) (p q : Play α), states[i]? = some a →
    states[j]? = some b → a.Waits → b.Waits → a.var = some p → b.var = some q →
    p.number = q.number → i = j
  covered : ∀ n < played.length, n ∈ continued.map Play.number ∨
    ∃ (i : Nat) (a : ActionState α) (p : Play α),
      states[i]? = some a ∧ a.Waits ∧ a.var = some p ∧ p.number = n

namespace PlayedOnce

variable {α : Type} {states : List (ActionState α)} {played : List α} {continued : List (Play α)}
  {i : Nat} {a : ActionState α}

/-- Actions that have not been played. -/
theorem fresh (idle : ∀ a ∈ states, a.numRunning = 0) : PlayedOnce states [] [] := by
  have rest (i : Nat) (a : ActionState α) (here : states[i]? = some a) : ¬ a.Waits := fun waits =>
    absurd (idle a (List.mem_of_getElem? here)) (Nat.ne_of_gt waits)
  refine ⟨fun i a here => ?_, List.nodup_nil, by simp, fun i a here waits => ?_, ?_, by simp⟩
  · rw [idle a (List.mem_of_getElem? here)]
    exact Nat.zero_le 1
  · exact absurd waits (rest i a here)
  · exact fun i j a b p q here _ waits => absurd waits (rest i a here)

theorem number_lt (plays : PlayedOnce states played continued) :
    ∀ p ∈ continued, p.number < played.length := fun p mem =>
  (List.getElem?_eq_some_iff.mp (plays.own p mem)).1

/-- When no action waits, every play has been continued. -/
theorem settled (plays : PlayedOnce states played continued)
    (idle : ∀ a ∈ states, a.numRunning = 0) :
    ∀ n < played.length, n ∈ continued.map Play.number := by
  intro n bound
  rcases plays.covered n bound with done | ⟨i, a, p, here, waits, -, -⟩
  · exact done
  · exact absurd (idle a (List.mem_of_getElem? here)) (Nat.ne_of_gt waits)

/-- One more play does not touch the record of the earlier ones. -/
theorem recorded {p : Play α} (x : α) (own : played[p.number]? = some p.args) :
    (played ++ [x])[p.number]? = some p.args := by
  obtain ⟨inside, value⟩ := List.getElem?_eq_some_iff.mp own
  rw [List.getElem?_append_left inside]
  exact own

/-- **A play of an action that does not wait.** -/
theorem play (plays : PlayedOnce states played continued) (here : states[i]? = some a)
    (idle : a.numRunning = 0) (x : α) :
    PlayedOnce (states.set i (a.play ⟨played.length, x⟩)) (played ++ [x]) continued := by
  obtain ⟨inside, -⟩ := List.getElem?_eq_some_iff.mp here
  have waits : (a.play ⟨played.length, x⟩).Waits := Nat.succ_pos a.numRunning
  -- a number that is recorded is not the new one
  have old {p : Play α} (own : played[p.number]? = some p.args) : p.number ≠ played.length :=
    Nat.ne_of_lt (List.getElem?_eq_some_iff.mp own).1
  refine ⟨fun j b there => ?_, plays.once, fun p mem => recorded x (plays.own p mem),
    fun j b there waits => ?_, fun j k b d p q left right waits waits' var var' same => ?_,
    fun n bound => ?_⟩
  · rcases getElem?_set_cases there with ⟨rfl, rfl⟩ | ⟨-, there⟩
    · show a.numRunning + 1 ≤ 1
      omega
    · exact plays.single j b there
  · rcases getElem?_set_cases there with ⟨rfl, rfl⟩ | ⟨-, there⟩
    · refine ⟨_, rfl, List.getElem?_concat_length, fun mem => ?_⟩
      obtain ⟨p, member, number⟩ := List.mem_map.mp mem
      exact absurd number (Nat.ne_of_lt (plays.number_lt p member))
    · obtain ⟨p, var, own, waited⟩ := plays.waiting j b there waits
      exact ⟨p, var, recorded x own, waited⟩
  · rcases getElem?_set_cases left with ⟨rfl, rfl⟩ | ⟨-, left⟩
    · rcases getElem?_set_cases right with ⟨rfl, -⟩ | ⟨-, right⟩
      · rfl
      · obtain ⟨q', var'', own, -⟩ := plays.waiting k d right waits'
        obtain rfl := Option.some.inj (var'.symm.trans var'')
        obtain rfl := Option.some.inj var
        exact absurd same.symm (old own)
    · obtain ⟨p', var'', own, -⟩ := plays.waiting j b left waits
      obtain rfl := Option.some.inj (var.symm.trans var'')
      rcases getElem?_set_cases right with ⟨rfl, rfl⟩ | ⟨-, right⟩
      · obtain rfl := Option.some.inj var'
        exact absurd same (old own)
      · exact plays.apart j k b d p q left right waits waits' var var' same
  · rw [List.length_append, List.length_singleton] at bound
    by_cases new : n = played.length
    · exact .inr ⟨i, _, _, List.getElem?_set_self inside, waits, rfl, new.symm⟩
    · rcases plays.covered n (by omega) with done | ⟨j, b, p, there, waits, var, number⟩
      · exact .inl done
      · have apart : i ≠ j := by
          rintro rfl
          obtain rfl := Option.some.inj (here.symm.trans there)
          exact absurd idle (Nat.ne_of_gt waits)
        exact .inr ⟨j, b, p, (List.getElem?_set_ne apart).trans there, waits, var, number⟩

/-- What is continued is what the action waits with. -/
theorem mem_playNextTuple {p : Play α} : p ∈ a.playNextTuple.2 ↔ a.Waits ∧ a.var = some p := by
  unfold ActionState.playNextTuple ActionState.playNext
  split
  · rename_i waits
    exact Option.mem_toList.trans ⟨fun var => ⟨waits, var⟩, And.right⟩
  · rename_i idle
    exact ⟨fun mem => absurd mem List.not_mem_nil, fun both => absurd both.1 idle⟩

/-- An action that does not wait is not continued. -/
theorem playNextTuple_of_idle (idle : ¬ a.Waits) : a.playNextTuple = (a, []) := by
  rw [ActionState.playNextTuple, ActionState.playNext, if_neg (show ¬ 0 < a.numRunning from idle)]

/-- An action that waits is continued with the arguments it waits with. -/
theorem playNextTuple_of_waits (plays : PlayedOnce states played continued)
    (here : states[i]? = some a) (waits : a.Waits) {p : Play α} (var : a.var = some p) :
    a.playNextTuple = ({ a with numRunning := 0 }, [p]) := by
  have ended : a.numRunning - 1 = 0 := by
    have single := plays.single i a here
    omega
  rw [ActionState.playNextTuple, ActionState.playNext,
    if_pos (show 0 < a.numRunning from waits), var, ended]
  rfl

/-- No action waits after its hook. -/
theorem not_waits_next (plays : PlayedOnce states played continued) (here : states[i]? = some a) :
    ¬ a.playNextTuple.1.Waits := by
  by_cases waits : a.Waits
  · obtain ⟨p, var, -⟩ := plays.waiting i a here waits
    rw [plays.playNextTuple_of_waits here waits var]
    exact Nat.lt_irrefl 0
  · rw [playNextTuple_of_idle waits]
    exact waits

/-- **A continuation.** -/
theorem next (plays : PlayedOnce states played continued) (here : states[i]? = some a) :
    PlayedOnce (states.set i a.playNextTuple.1) played (continued ++ a.playNextTuple.2) := by
  obtain ⟨inside, value⟩ := List.getElem?_eq_some_iff.mp here
  by_cases waits : a.Waits
  · obtain ⟨p, var, own, waited⟩ := plays.waiting i a here waits
    rw [plays.playNextTuple_of_waits here waits var]
    -- whatever waits is another action
    have elsewhere {j : Nat} {b : ActionState α}
        (there : (states.set i { a with numRunning := 0 })[j]? = some b) (waits : b.Waits) :
        i ≠ j ∧ states[j]? = some b := by
      rcases getElem?_set_cases there with ⟨rfl, rfl⟩ | other
      · exact absurd waits (Nat.lt_irrefl 0)
      · exact other
    refine ⟨fun j b there => ?_, ?_, fun q mem => ?_, fun j b there waits' => ?_,
      fun j k b d q r left right waits' waits'' => ?_, fun n bound => ?_⟩
    · rcases getElem?_set_cases there with ⟨rfl, rfl⟩ | ⟨-, there⟩
      · exact Nat.zero_le 1
      · exact plays.single j b there
    · rw [List.map_append]
      refine List.nodup_append.mpr ⟨plays.once, List.nodup_singleton _, ?_⟩
      rintro n before m after rfl
      rw [List.mem_singleton.mp after] at before
      exact waited before
    · rcases List.mem_append.mp mem with before | new
      · exact plays.own q before
      · rw [List.mem_singleton.mp new]
        exact own
    · obtain ⟨apart, there⟩ := elsewhere there waits'
      obtain ⟨q, var', own', waited'⟩ := plays.waiting j b there waits'
      refine ⟨q, var', own', ?_⟩
      rw [List.map_append, List.mem_append, not_or]
      refine ⟨waited', fun new => apart ?_⟩
      exact plays.apart i j a b p q here there waits waits' var var'
        (List.mem_singleton.mp new).symm
    · exact plays.apart j k b d q r (elsewhere left waits').2 (elsewhere right waits'').2
        waits' waits''
    · rw [List.map_append, List.mem_append]
      rcases plays.covered n bound with done | ⟨j, b, q, there, waits', var', number⟩
      · exact .inl (.inl done)
      · by_cases same : i = j
        · subst same
          obtain rfl := Option.some.inj (here.symm.trans there)
          obtain rfl := Option.some.inj (var.symm.trans var')
          exact .inl (.inr (List.mem_singleton.mpr number.symm))
        · exact .inr ⟨j, b, q, (List.getElem?_set_ne same).trans there, waits', var', number⟩
  · rw [playNextTuple_of_idle waits, List.append_nil, ← value, List.set_getElem_self]
    exact plays

section Actions

variable {β : Type} {f : β → ActionState α} {l : List β} {b c : β}

/-- A play of an action that has its state inside. -/
theorem play_at (plays : PlayedOnce (l.map f) played continued) (here : l[i]? = some b)
    (idle : ¬ (f b).Waits) {x : α} (after : f c = (f b).play ⟨played.length, x⟩) :
    PlayedOnce ((l.set i c).map f) (played ++ [x]) continued := by
  rw [List.map_set, after]
  exact plays.play (map_here here) (Nat.eq_zero_of_not_pos idle) x

/-- A continuation of an action that has its state inside. -/
theorem next_at (plays : PlayedOnce (l.map f) played continued) (here : l[i]? = some b)
    (after : f c = (f b).playNextTuple.1) :
    PlayedOnce ((l.set i c).map f) played (continued ++ (f b).playNextTuple.2) := by
  rw [List.map_set, after]
  exact plays.next (map_here here)

end Actions

end PlayedOnce

end EsphomeHost

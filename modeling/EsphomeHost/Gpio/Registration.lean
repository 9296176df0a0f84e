import EsphomeHost.Gpio.Pin
import Mathlib.Data.List.Nodup

/-!
# The descriptors that are polled

An entry of the alert thread is the descriptor of a pin, which the pin deregisters before it closes
it; only a refused `SET_CONFIG` closes it without.

* `Sound`: what holds of the descriptors of the pins in every run.
* `registered_iff_reconfigured`: **the entries are the descriptors of their pins throughout a run
  exactly if no `SET_CONFIG` is refused while the line is registered.**
-/

namespace EsphomeHost.LinuxGpio

/-- Every entry is the open line of the pin that added it, and no descriptor has two. -/
structure Listed (s : Gpio) : Prop where
  owned : ∀ e ∈ s.entries, (s.pins e.pin).line = some ⟨e.lineFd, e.serial⟩
  opened : ∀ e ∈ s.entries, e.lineFd ∈ s.openFds
  once : (s.entries.map AlertEntry.lineFd).Nodup

/-- And each has the function and the argument of the pin's last `attach_interrupt`. -/
structure Registered (s : Gpio) : Prop extends Listed s where
  last : ∀ e ∈ s.entries, (s.pins e.pin).attached = some (e.func, e.arg)

/-- A pin without an entry. -/
def Unregistered (s : Gpio) (p : Nat) : Prop := ∀ e ∈ s.entries, e.pin ≠ p

/-- A line takes its new configuration in place, or it is not registered. -/
def Reconfigured (s : Gpio) : Nat × Operation → Prop
  | (p, .setup answers) | (p, .pinMode _ answers) =>
      (s.pins p).line ≠ none → answers.setConfig = false → Unregistered s p
  | _ => True

/-- The lines are open and apart. -/
structure Sound (s : Gpio) : Prop where
  chip : ∀ p, (s.pins p).line ≠ none → (s.pins p).chipFd ≠ none
  opened : ∀ p d, (s.pins p).line = some d → d.number ∈ s.openFds
  apart : ∀ p q d e, (s.pins p).line = some d → (s.pins q).line = some e →
    d.number = e.number → p = q
  recent : ∀ p d, (s.pins p).line = some d → d.serial < s.serial

variable {s t : Gpio} {p q : Nat} {d : Descriptor} {answers : Answers}

/-! ## Steps that leave the lines alone -/

structure Quiet (s t : Gpio) : Prop where
  line : ∀ q, (t.pins q).line = (s.pins q).line
  chipFd : ∀ q, (s.pins q).chipFd ≠ none → (t.pins q).chipFd ≠ none
  entries : t.entries = s.entries
  openFds : s.openFds ⊆ t.openFds
  serial : s.serial ≤ t.serial

theorem Quiet.sound (quiet : Quiet s t) (sound : Sound s) : Sound t where
  chip q some := quiet.chipFd q (sound.chip q (quiet.line q ▸ some))
  opened q d line := quiet.openFds (sound.opened q d (quiet.line q ▸ line))
  apart p q d e line line' := sound.apart p q d e (quiet.line p ▸ line) (quiet.line q ▸ line')
  recent q d line := Nat.lt_of_lt_of_le (sound.recent q d (quiet.line q ▸ line)) quiet.serial

theorem Quiet.listed (quiet : Quiet s t) (listed : Listed s) : Listed t where
  owned e mem := (quiet.line e.pin).trans (listed.owned e (quiet.entries ▸ mem))
  opened e mem := quiet.openFds (listed.opened e (quiet.entries ▸ mem))
  once := quiet.entries ▸ listed.once

theorem Quiet.registered (quiet : Quiet s t) (registered : Registered s)
    (attached : ∀ q, (t.pins q).attached = (s.pins q).attached) : Registered t where
  toListed := quiet.listed registered.toListed
  last e mem := (attached e.pin).trans (registered.last e (quiet.entries ▸ mem))

theorem quiet_ensureChip {chip : Option Nat} (opened : s.ensureChip p chip = some t) :
    Quiet s t := by
  have same := chipOpened_ensureChip opened
  exact ⟨same.line, same.chipFd, same.entries, same.openFds, same.serial⟩

theorem quiet_modify {f : LinuxGPIOPin → LinuxGPIOPin} (line : ∀ a, (f a).line = a.line)
    (chipFd : ∀ a, (f a).chipFd = a.chipFd) : Quiet s (s.modify p f) :=
  ⟨field_modify _ line, fun q some => (field_modify (s := s) _ chipFd q).symm ▸ some, rfl,
    List.Subset.refl _, Nat.le_refl _⟩

theorem Listed.unregistered (listed : Listed s) (none : (s.pins p).line = none) :
    Unregistered s p := by
  intro e mem same
  have line := listed.owned e mem
  rw [same, none] at line
  cases line

/-! ## Closing -/

/-- The line of `p` is closed. -/
structure Closed (p : Nat) (s t : Gpio) : Prop where
  here : (t.pins p).line = none
  there : ∀ q, q ≠ p → (t.pins q).line = (s.pins q).line
  chipFd : ∀ q, (t.pins q).chipFd = (s.pins q).chipFd
  attached : ∀ q, (t.pins q).attached = (s.pins q).attached
  openFds : ∀ n ∈ s.openFds, (∀ d, (s.pins p).line = some d → n ≠ d.number) → n ∈ t.openFds
  serial : t.serial = s.serial

theorem closed_closeLine (s : Gpio) (p : Nat) : Closed p s (s.closeLine p) := by
  unfold Gpio.closeLine
  split
  · rename_i none
    exact ⟨none, fun _ _ => rfl, fun _ => rfl, fun _ => rfl, fun _ mem _ => mem, rfl⟩
  · rename_i d line
    refine ⟨congrArg LinuxGPIOPin.line (pins_modify_self _), fun q other =>
      congrArg LinuxGPIOPin.line (pins_modify_of_ne other), field_modify _ fun _ => rfl,
      field_modify _ fun _ => rfl, fun n mem other => ?_, rfl⟩
    exact List.mem_filter.mpr ⟨mem, decide_eq_true (other d line)⟩

theorem entries_closeLine (s : Gpio) (p : Nat) : (s.closeLine p).entries = s.entries := by
  unfold Gpio.closeLine
  split <;> rfl

theorem unregistered_closeLine : Unregistered (s.closeLine p) q ↔ Unregistered s q := by
  unfold Unregistered
  rw [entries_closeLine]

theorem Closed.sound (closed : Closed p s t) (sound : Sound s) : Sound t := by
  have before {q : Nat} {d : Descriptor} (line : (t.pins q).line = some d) :
      q ≠ p ∧ (s.pins q).line = some d := by
    by_cases same : q = p
    · rw [same, closed.here] at line
      cases line
    · exact ⟨same, closed.there q same ▸ line⟩
  refine ⟨fun q some => ?_, fun q d line => ?_, fun q r d e line line' same => ?_,
    fun q d line => ?_⟩
  · obtain ⟨d, line⟩ := Option.ne_none_iff_exists'.mp some
    rw [closed.chipFd]
    exact sound.chip q (by rw [(before line).2]; exact Option.some_ne_none d)
  · obtain ⟨other, line⟩ := before line
    exact closed.openFds _ (sound.opened q d line) fun e line' same =>
      other (sound.apart q p d e line line' same)
  · exact sound.apart q r d e (before line).2 (before line').2 same
  · exact closed.serial ▸ sound.recent q d (before line).2

/-- The entries of other pins are not affected. -/
theorem Closed.listed (closed : Closed p s t) (sound : Sound s) (listed : Listed s)
    (fewer : t.entries.Sublist s.entries) (unregistered : Unregistered t p) : Listed t where
  owned e mem := (closed.there e.pin (unregistered e mem)).trans
    (listed.owned e (fewer.subset mem))
  opened e mem := by
    have line := listed.owned e (fewer.subset mem)
    exact closed.openFds _ (listed.opened e (fewer.subset mem)) fun d line' same =>
      unregistered e mem (sound.apart e.pin p _ d line line' same)
  once := listed.once.sublist (fewer.map _)

/-! ## Requesting -/

/-- The line of `p` is requested as `d`. -/
structure Taken (p : Nat) (d : Descriptor) (s t : Gpio) : Prop where
  fresh : d.number ∉ s.openFds
  new : d.serial = s.serial
  here : (t.pins p).line = some d
  there : ∀ q, q ≠ p → (t.pins q).line = (s.pins q).line
  chipFd : ∀ q, (t.pins q).chipFd = (s.pins q).chipFd
  attached : ∀ q, (t.pins q).attached = (s.pins q).attached
  openFds : t.openFds = d.number :: s.openFds
  serial : t.serial = s.serial + 1

theorem taken_getLine {request : LineRequest} {number : Nat} {r : Descriptor × Gpio}
    (requested : s.getLine p request number = some r) :
    Taken p r.1 s r.2 ∧ r.2.entries = s.entries := by
  obtain ⟨r', taken, same⟩ := Option.map_eq_some_iff.mp requested
  obtain ⟨fresh, rfl⟩ := allocate_eq_some taken
  subst same
  let f : LinuxGPIOPin → LinuxGPIOPin := fun a => { a with line := some ⟨number, s.serial⟩ }
  refine ⟨⟨fresh, rfl, ?_, fun q other => ?_, ?_, ?_, rfl, rfl⟩, rfl⟩
  · exact congrArg LinuxGPIOPin.line (pins_modify_self (s := s) f)
  · exact congrArg LinuxGPIOPin.line (pins_modify_of_ne (s := s) (f := f) other)
  · exact field_modify (s := s) (f := f) LinuxGPIOPin.chipFd fun _ => rfl
  · exact field_modify (s := s) (f := f) LinuxGPIOPin.attached fun _ => rfl

theorem taken_requestLine {flags : Flags} {answer : Option Nat}
    (requested : s.requestLine p flags answer = some t) :
    t = s ∨ ∃ d, Taken p d s t ∧ t.entries = s.entries := by
  unfold Gpio.requestLine at requested
  split at requested
  · exact .inl (Option.some.inj requested).symm
  · obtain ⟨r, taken, same⟩ := Option.map_eq_some_iff.mp requested
    subst same
    obtain ⟨taken, entries⟩ := taken_getLine taken
    let f : LinuxGPIOPin → LinuxGPIOPin := fun a => { a with flags := flags }
    refine .inr ⟨r.1, ⟨taken.fresh, taken.new, ?_, fun q other => ?_, fun q => ?_, fun q => ?_,
      taken.openFds, taken.serial⟩, entries⟩
    · exact (field_modify (f := f) LinuxGPIOPin.line (fun _ => rfl) p).trans taken.here
    · exact (field_modify (f := f) LinuxGPIOPin.line (fun _ => rfl) q).trans (taken.there q other)
    · exact (field_modify (f := f) LinuxGPIOPin.chipFd (fun _ => rfl) q).trans (taken.chipFd q)
    · exact (field_modify (f := f) LinuxGPIOPin.attached (fun _ => rfl) q).trans
        (taken.attached q)

theorem taken_requestEdges {func : Option Nat} {arg : Nat} {type : InterruptType}
    {answer : Option Nat} (requested : s.requestEdges p func arg type answer = some t) :
    t = s ∨ ∃ d, Taken p d s t ∧
      t.entries = s.entries ++ [⟨d.number, func, arg, p, d.serial⟩] := by
  unfold Gpio.requestEdges at requested
  split at requested
  · exact .inl (Option.some.inj requested).symm
  · obtain ⟨r, taken, same⟩ := Option.map_eq_some_iff.mp requested
    subst same
    obtain ⟨taken, entries⟩ := taken_getLine taken
    refine .inr ⟨r.1, ⟨taken.fresh, taken.new, taken.here, taken.there, taken.chipFd,
      taken.attached, taken.openFds, taken.serial⟩, ?_⟩
    rw [← entries]
    rfl

theorem Taken.sound (taken : Taken p d s t) (sound : Sound s) (known : (s.pins p).chipFd ≠ none) :
    Sound t := by
  have line {q : Nat} {e : Descriptor} (line : (t.pins q).line = some e) :
      q = p ∧ e = d ∨ q ≠ p ∧ (s.pins q).line = some e := by
    by_cases same : q = p
    · rw [same, taken.here] at line
      exact .inl ⟨same, (Option.some.inj line).symm⟩
    · exact .inr ⟨same, taken.there q same ▸ line⟩
  have apart {q : Nat} {e : Descriptor} (line : (s.pins q).line = some e) :
      e.number ≠ d.number := fun same => taken.fresh (same ▸ sound.opened q e line)
  constructor
  case chip =>
    intro q claimed
    obtain ⟨e, held⟩ := Option.ne_none_iff_exists'.mp claimed
    rw [taken.chipFd]
    rcases line held with ⟨rfl, -⟩ | ⟨-, held⟩
    · exact known
    · exact sound.chip q (by rw [held]; exact Option.some_ne_none e)
  case opened =>
    intro q e held
    rw [taken.openFds]
    rcases line held with ⟨-, rfl⟩ | ⟨-, held⟩
    · exact List.mem_cons_self
    · exact List.mem_cons_of_mem _ (sound.opened q e held)
  case apart =>
    intro q r e e' held held' same
    rcases line held with ⟨rfl, rfl⟩ | ⟨-, held⟩ <;>
      rcases line held' with ⟨rfl, rfl⟩ | ⟨-, held'⟩
    · rfl
    · exact absurd same.symm (apart held')
    · exact absurd same (apart held)
    · exact sound.apart q r e e' held held' same
  case recent =>
    intro q e held
    rw [taken.serial]
    rcases line held with ⟨-, rfl⟩ | ⟨-, held⟩
    · exact Nat.lt_succ_of_le (Nat.le_of_eq taken.new)
    · exact Nat.lt_succ_of_lt (sound.recent q e held)

theorem Taken.listed (taken : Taken p d s t) (listed : Listed s)
    (unregistered : Unregistered s p) (entries : t.entries = s.entries) : Listed t where
  owned e mem := by
    rw [entries] at mem
    rw [taken.there e.pin (unregistered e mem)]
    exact listed.owned e mem
  opened e mem := by
    rw [entries] at mem
    rw [taken.openFds]
    exact List.mem_cons_of_mem _ (listed.opened e mem)
  once := entries ▸ listed.once

/-- The new descriptor is registered. -/
theorem Taken.listed_add {func : Option Nat} {arg : Nat} (taken : Taken p d s t)
    (listed : Listed s) (unregistered : Unregistered s p)
    (entries : t.entries = s.entries ++ [⟨d.number, func, arg, p, d.serial⟩]) : Listed t := by
  constructor
  case owned =>
    intro e mem
    rw [entries] at mem
    rcases List.mem_append.mp mem with old | new
    · rw [taken.there e.pin (unregistered e old)]
      exact listed.owned e old
    · rw [List.mem_singleton.mp new]
      exact taken.here
  case opened =>
    intro e mem
    rw [entries] at mem
    rw [taken.openFds]
    rcases List.mem_append.mp mem with old | new
    · exact List.mem_cons_of_mem _ (listed.opened e old)
    · rw [List.mem_singleton.mp new]
      exact List.mem_cons_self
  case once =>
    have new : d.number ∉ s.entries.map AlertEntry.lineFd := by
      intro mem
      obtain ⟨e, old, same⟩ := List.mem_map.mp mem
      exact taken.fresh (same ▸ listed.opened e old)
    rw [entries, List.map_append, List.map_singleton, ← List.concat_eq_append]
    exact listed.once.concat new

/-! ## The operations -/

/-- What an operation keeps. -/
structure Kept (s : Gpio) : Prop where
  sound : Sound s
  registered : Registered s

theorem Quiet.kept (quiet : Quiet s t) (kept : Kept s)
    (attached : ∀ q, (t.pins q).attached = (s.pins q).attached) : Kept t :=
  ⟨quiet.sound kept.sound, quiet.registered kept.registered attached⟩

/-- The line of a pin that has no entry is closed. -/
theorem kept_closeLine (kept : Kept s) (unregistered : Unregistered s p) :
    Kept (s.closeLine p) := by
  have closed := closed_closeLine s p
  have entries := entries_closeLine s p
  refine ⟨closed.sound kept.sound, closed.listed kept.sound kept.registered.toListed
    (entries ▸ List.Sublist.refl _) (unregistered_closeLine.mpr unregistered), fun e mem => ?_⟩
  rw [entries] at mem
  exact (closed.attached e.pin).trans (kept.registered.last e mem)

/-- The line is requested for a claim. -/
theorem kept_requestLine {flags : Flags} {answer : Option Nat} (kept : Kept s)
    (unregistered : Unregistered s p) (known : (s.pins p).chipFd ≠ none)
    (requested : s.requestLine p flags answer = some t) : Kept t := by
  rcases taken_requestLine requested with rfl | ⟨d, taken, entries⟩
  · exact kept
  · refine ⟨taken.sound kept.sound known,
      taken.listed kept.registered.toListed unregistered entries, fun e mem => ?_⟩
    rw [entries] at mem
    exact (taken.attached e.pin).trans (kept.registered.last e mem)

/-- A claim whose line takes the configuration or is not registered. -/
theorem kept_claimLine {flags : Flags} (kept : Kept s)
    (guard : (s.pins p).line ≠ none → answers.setConfig = false → Unregistered s p)
    (claimed : s.claimLine p flags answers = some t) : Kept t := by
  obtain ⟨u, opened, claimed⟩ := Option.bind_eq_some_iff.mp claimed
  have chip := chipOpened_ensureChip opened
  have kept' : Kept u := (quiet_ensureChip opened).kept kept chip.attached
  split at claimed
  · cases claimed
    exact kept'
  · rename_i known
    split at claimed
    · cases claimed
      let f : LinuxGPIOPin → LinuxGPIOPin := fun a => { a with flags := flags }
      have quiet := quiet_modify (s := u) (p := p) (f := f) (fun _ => rfl) fun _ => rfl
      exact Quiet.kept ⟨quiet.line, quiet.chipFd, rfl, List.Subset.refl _, Nat.le_refl _⟩ kept'
        (field_modify (f := f) LinuxGPIOPin.attached fun _ => rfl)
    · rename_i refused
      have unregistered : Unregistered u p := by
        by_cases line : (u.pins p).line = none
        · exact kept'.registered.toListed.unregistered line
        · have answer : answers.setConfig = false :=
            Bool.of_not_eq_true fun ok => refused ⟨line, ok⟩
          intro e mem
          exact guard (chip.line p ▸ line) answer e (chip.entries ▸ mem)
      have closed := closed_closeLine u p
      exact kept_requestLine (kept_closeLine kept' unregistered)
        (unregistered_closeLine.mpr unregistered) ((closed.chipFd p).symm ▸ known) claimed

theorem kept_digitalWrite (kept : Kept s) (value : Bool) : Kept (s.digitalWrite p value) := by
  let f : LinuxGPIOPin → LinuxGPIOPin := fun a => { a with asked := some (value != a.inverted) }
  let g : LinuxGPIOPin → LinuxGPIOPin := fun a => { a with outputValue := value != a.inverted }
  have first : Kept (s.modify p f) := (quiet_modify (f := f) (fun _ => rfl) fun _ => rfl).kept kept
    (field_modify (f := f) LinuxGPIOPin.attached fun _ => rfl)
  unfold Gpio.digitalWrite
  dsimp only
  split
  · exact first
  · exact (quiet_modify (f := g) (fun _ => rfl) fun _ => rfl).kept first
      (field_modify (f := g) LinuxGPIOPin.attached fun _ => rfl)

/-- The entries of the pins but for `p` have their function and argument. -/
def LastBut (p : Nat) (s : Gpio) : Prop :=
  ∀ e ∈ s.entries, e.pin ≠ p → (s.pins e.pin).attached = some (e.func, e.arg)

/-- **Deregistering and closing.** -/
theorem kept_releaseLine (sound : Sound s) (listed : Listed s) (last : LastBut p s) :
    Kept (s.releaseLine p) ∧ Unregistered (s.releaseLine p) p ∧
      ∀ q, ((s.releaseLine p).pins q).chipFd = (s.pins q).chipFd ∧
        ((s.releaseLine p).pins q).attached = (s.pins q).attached := by
  unfold Gpio.releaseLine
  split
  · rename_i none
    have unregistered := listed.unregistered none
    exact ⟨⟨sound, listed, fun e mem => last e mem (unregistered e mem)⟩, unregistered,
      fun _ => ⟨rfl, rfl⟩⟩
  · rename_i d line
    let u : Gpio := { s with entries := removeEntries d.number s.entries }
    have fewer : u.entries.Sublist s.entries := List.filter_sublist
    have unregistered : Unregistered u p := by
      intro e mem same
      obtain ⟨old, other⟩ := List.mem_filter.mp mem
      have owned := listed.owned e old
      rw [same, line] at owned
      rw [Option.some.inj owned] at other
      exact absurd rfl (of_decide_eq_true other)
    have kept : Kept u :=
      ⟨⟨sound.chip, sound.opened, sound.apart, sound.recent⟩,
        ⟨fun e mem => listed.owned e (fewer.subset mem),
          fun e mem => listed.opened e (fewer.subset mem), listed.once.sublist (fewer.map _)⟩,
        fun e mem => last e (fewer.subset mem) (unregistered e mem)⟩
    have closed := closed_closeLine u p
    exact ⟨kept_closeLine kept unregistered, unregistered_closeLine.mpr unregistered,
      fun q => ⟨closed.chipFd q, closed.attached q⟩⟩

theorem kept_detachInterrupt (kept : Kept s) : Kept (s.detachInterrupt p) :=
  (kept_releaseLine kept.sound kept.registered.toListed fun e mem _ =>
    kept.registered.last e mem).1

/-- The line is requested for an interrupt and is registered. -/
theorem kept_requestEdges {func : Option Nat} {arg : Nat} {type : InterruptType}
    {answer : Option Nat} (kept : Kept s) (unregistered : Unregistered s p)
    (known : (s.pins p).chipFd ≠ none) (attached : (s.pins p).attached = some (func, arg))
    (requested : s.requestEdges p func arg type answer = some t) : Kept t := by
  rcases taken_requestEdges requested with rfl | ⟨d, taken, entries⟩
  · exact kept
  · refine ⟨taken.sound kept.sound known,
      taken.listed_add kept.registered.toListed unregistered entries, fun e mem => ?_⟩
    rw [taken.attached]
    rw [entries] at mem
    rcases List.mem_append.mp mem with old | new
    · exact kept.registered.last e old
    · rw [List.mem_singleton.mp new]
      exact attached

theorem kept_attachInterrupt {func : Option Nat} {arg : Nat} {type : InterruptType}
    (kept : Kept s) (attached : s.attachInterrupt p func arg type answers = some t) : Kept t := by
  obtain ⟨u, opened, attached⟩ := Option.bind_eq_some_iff.mp attached
  let f : LinuxGPIOPin → LinuxGPIOPin := fun a => { a with attached := some (func, arg) }
  have told : Quiet s (s.modify p f) := quiet_modify (fun _ => rfl) fun _ => rfl
  have chip := chipOpened_ensureChip opened
  have quiet := quiet_ensureChip opened
  have sound : Sound u := quiet.sound (told.sound kept.sound)
  have listed : Listed u := quiet.listed (told.listed kept.registered.toListed)
  have now : (u.pins p).attached = some (func, arg) := by
    rw [chip.attached]
    exact congrArg LinuxGPIOPin.attached (pins_modify_self f)
  have last : LastBut p u := by
    intro e mem other
    rw [chip.attached]
    exact (congrArg LinuxGPIOPin.attached (pins_modify_of_ne (f := f) other)).trans
      (kept.registered.last e (chip.entries ▸ mem))
  split at attached
  · rename_i unknown
    cases attached
    -- Without a chip there is no line, so the pin has no entry.
    have unclaimed : (t.pins p).line = none := by
      by_contra claimed
      exact sound.chip p claimed unknown
    have unregistered := listed.unregistered unclaimed
    exact ⟨sound, listed, fun e mem => last e mem (unregistered e mem)⟩
  · rename_i known
    obtain ⟨released, unregistered, same⟩ := kept_releaseLine sound listed last
    exact kept_requestEdges released unregistered ((same p).1.symm ▸ known)
      ((same p).2.trans now) attached

theorem kept_step {act : Nat × Operation} (kept : Kept s) (guard : Reconfigured s act)
    (stepped : step s act = some t) : Kept t := by
  obtain ⟨p, operation⟩ := act
  cases operation with
  | setup answers => exact kept_claimLine kept guard stepped
  | pinMode flags answers => exact kept_claimLine kept guard stepped
  | digitalWrite value =>
      cases stepped
      exact kept_digitalWrite kept value
  | attachInterrupt func arg type answers => exact kept_attachInterrupt kept stepped
  | detachInterrupt =>
      cases stepped
      exact kept_detachInterrupt kept

/-! ## A refused configuration -/

/-- A registered line that does not take its configuration is closed and stays registered; the
descriptor requested in its place is another one, whatever its number. -/
theorem not_registered_claimLine {flags : Flags} (kept : Kept s) (line : (s.pins p).line ≠ none)
    (refused : answers.setConfig = false) (registered : ¬ Unregistered s p)
    (claimed : s.claimLine p flags answers = some t) : ¬ Registered t := by
  obtain ⟨u, opened, claimed⟩ := Option.bind_eq_some_iff.mp claimed
  have chip := chipOpened_ensureChip opened
  have sound : Sound u := (quiet_ensureChip opened).sound kept.sound
  have known : (u.pins p).chipFd ≠ none := sound.chip p ((chip.line p).symm ▸ line)
  rw [if_neg known, if_neg fun ok => absurd (ok.2.symm.trans refused) (by decide)] at claimed
  obtain ⟨e, mem, rfl⟩ : ∃ e ∈ s.entries, e.pin = p := by
    by_contra nobody
    exact registered fun e mem same => nobody ⟨e, mem, same⟩
  have old := sound.recent e.pin _ ((chip.line e.pin).trans (kept.registered.owned e mem))
  have closed := closed_closeLine u e.pin
  have entries : (u.closeLine e.pin).entries = s.entries :=
    (entries_closeLine u e.pin).trans chip.entries
  intro again
  rcases taken_requestLine claimed with rfl | ⟨d, taken, same⟩
  · have owned := again.owned e (entries ▸ mem)
    rw [closed.here] at owned
    cases owned
  · have owned := again.owned e (by rw [same, entries]; exact mem)
    have number := taken.new
    rw [taken.here] at owned
    rw [Option.some.inj owned, closed.serial] at number
    exact absurd number (Nat.ne_of_lt old)

theorem kept_unused (unused : Unused s) : Kept s := by
  have unclaimed (p : Nat) : (s.pins p).line = none := (unused.pins p).2.1
  have empty := unused.entries
  refine ⟨⟨fun p some => absurd (unclaimed p) some, fun p d line => ?_, fun p q d e line => ?_,
    fun p d line => ?_⟩, ⟨⟨fun e mem => ?_, fun e mem => ?_, ?_⟩, fun e mem => ?_⟩⟩
  · exact absurd ((unclaimed p).symm.trans line) (Option.some_ne_none d).symm
  · exact absurd ((unclaimed p).symm.trans line) (Option.some_ne_none d).symm
  · exact absurd ((unclaimed p).symm.trans line) (Option.some_ne_none d).symm
  · exact absurd (empty ▸ mem) List.not_mem_nil
  · exact absurd (empty ▸ mem) List.not_mem_nil
  · rw [empty]
    exact .nil
  · exact absurd (empty ▸ mem) List.not_mem_nil

/-- **The entries of the alert thread are the descriptors of their pins all along a run exactly if
every `SET_CONFIG` that is refused is for a line without an interrupt.** -/
theorem registered_iff_reconfigured (unused : Unused s) (acts : List (Nat × Operation)) :
    machine.Throughout Registered s acts ↔ machine.Meets Reconfigured s acts := by
  have start := kept_unused unused
  refine Machine.throughout_iff_meets (I := Sound) ?_ ?_ start.sound start.registered acts
  · intro s act t sound registered guard stepped
    obtain ⟨sound, registered⟩ := kept_step ⟨sound, registered⟩ guard stepped
    exact ⟨sound, registered⟩
  · intro s act t sound registered refused stepped
    obtain ⟨p, operation⟩ := act
    cases operation with
    | setup answers =>
        obtain ⟨line, refused⟩ := Classical.not_imp.mp refused
        obtain ⟨refused, entry⟩ := Classical.not_imp.mp refused
        exact not_registered_claimLine ⟨sound, registered⟩ line refused entry stepped
    | pinMode flags answers =>
        obtain ⟨line, refused⟩ := Classical.not_imp.mp refused
        obtain ⟨refused, entry⟩ := Classical.not_imp.mp refused
        exact not_registered_claimLine ⟨sound, registered⟩ line refused entry stepped
    | _ => exact absurd trivial refused

/-- Pins of one chip before `setup`. -/
def bare : Gpio where
  pins p :=
    { pin := p.toUInt8, chipPath := "/dev/gpiochip0", inverted := false, flags := { input := true }
      debounceUs := 0 }

theorem unused_bare : Unused bare :=
  ⟨fun _ => ⟨rfl, rfl, rfl, rfl, rfl⟩, rfl, rfl, rfl, rfl, rfl⟩

/-- A button, whose line does not take another bias in place. -/
def button : List (Nat × Operation) :=
  [(0, .setup ⟨some 5, false, some 6⟩),
    (0, .pinMode { input := true, pullup := true } ⟨none, false, some 6⟩),
    (0, .attachInterrupt (some 1) 2 .anyEdge ⟨none, false, some 6⟩), (0, .detachInterrupt)]

theorem registered_button : machine.Throughout Registered bare button := by
  refine (registered_iff_reconfigured unused_bare button).mpr fun s first =>
    ⟨fun claimed => absurd rfl claimed, fun t second => ⟨fun _ _ => ?_, fun _ _ =>
      ⟨trivial, fun _ _ => ⟨trivial, trivial⟩⟩⟩⟩
  cases first
  exact List.forall_mem_nil _

/-- Another pin gets the number of the line that is still registered. -/
def reused : List (Nat × Operation) :=
  [(0, .attachInterrupt (some 1) 2 .anyEdge ⟨some 5, false, some 6⟩),
    (0, .pinMode { output := true } ⟨none, false, none⟩), (1, .setup ⟨none, false, some 6⟩)]

theorem not_registered_reused : ∃ s, machine.Reachable s ∧
    s.entries = [⟨6, some 1, 2, 0, 1⟩] ∧ (s.pins 0).line = none ∧
      (s.pins 1).line = some ⟨6, 2⟩ ∧ ¬ Registered s := by
  have replay : machine.run bare reused = some _ := rfl
  refine ⟨_, ⟨bare, unused_bare, Machine.run_reach replay⟩, rfl, rfl, rfl, fun registered => ?_⟩
  exact absurd (registered.owned _ List.mem_cons_self) (by decide)

end EsphomeHost.LinuxGpio

import EsphomeHost.Gpio.Pin
import Mathlib.Data.Fintype.EquivFin

/-!
# The level of an output

Every configuration of a line as an output carries the level that the pin remembers.
`digital_write` remembers the level it is asked for, but not while the pin has no line.

* `levels_claimLine`, `levels_attachInterrupt`: what the operations configure.
* `restored_iff_remembered`: **the level asked for last is the one that is configured as long as
  every write finds the line claimed or asks for the level that is remembered; and after any other
  write another level can be configured.**
-/

namespace EsphomeHost.LinuxGpio

/-- The level that a configuration drives, if it drives one. -/
def LineConfig.outputLevel (config : LineConfig) : Option Bool :=
  config.attrs.findSome? fun
    | .outputValues value => some value
    | .debounce _ => none

/-- Every output is configured with the level that was asked for last, if one was. -/
def Restored (s : Gpio) : Prop :=
  ∀ c ∈ s.log, c.config.flags.output = true → ∀ v, c.asked = some v →
    c.config.outputLevel = some v

/-- A write finds the line claimed, or asks for the level that the pin remembers. -/
def Remembered (s : Gpio) : Nat × Operation → Prop
  | (p, .digitalWrite value) =>
      (s.pins p).line ≠ none ∨ (value != (s.pins p).inverted) = (s.pins p).outputValue
  | _ => True

instance (s : Gpio) : (act : Nat × Operation) → Decidable (Remembered s act)
  | (p, .digitalWrite value) => inferInstanceAs (Decidable
      ((s.pins p).line ≠ none ∨ (value != (s.pins p).inverted) = (s.pins p).outputValue))
  | (_, .setup _) | (_, .pinMode _ _) | (_, .attachInterrupt _ _ _ _) | (_, .detachInterrupt) =>
      isTrue trivial

/-- The pins remember what they were asked for. -/
def Remembers (s : Gpio) : Prop :=
  ∀ p v, (s.pins p).asked = some v → (s.pins p).outputValue = v

variable {s t u : Gpio} {p q : Nat} {answers : Answers}

theorem outputLevel_applyLineConfig {flags : LineFlags} (output : flags.output = true)
    (us : UInt32) (value : Bool) : (applyLineConfig flags us value).outputLevel = some value := by
  unfold LineConfig.outputLevel applyLineConfig
  rw [if_pos output]
  rfl

/-! ## What the operations configure -/

/-- The levels of the pins are as they were, and `logged` has been configured. -/
structure Levels (logged : List Configured) (s t : Gpio) : Prop where
  outputValue : ∀ q, (t.pins q).outputValue = (s.pins q).outputValue
  asked : ∀ q, (t.pins q).asked = (s.pins q).asked
  log : t.log = s.log ++ logged

theorem Levels.refl (s : Gpio) : Levels [] s s :=
  ⟨fun _ => rfl, fun _ => rfl, (List.append_nil _).symm⟩

theorem Levels.trans {first rest : List Configured} (left : Levels first s t)
    (right : Levels rest t u) : Levels (first ++ rest) s u :=
  ⟨fun q => (right.outputValue q).trans (left.outputValue q),
    fun q => (right.asked q).trans (left.asked q), by rw [right.log, left.log, List.append_assoc]⟩

theorem levels_modify {f : LinuxGPIOPin → LinuxGPIOPin}
    (outputValue : ∀ a, (f a).outputValue = a.outputValue) (asked : ∀ a, (f a).asked = a.asked) :
    Levels [] s (s.modify p f) :=
  ⟨field_modify _ outputValue, field_modify _ asked, (List.append_nil _).symm⟩

theorem levels_ensureChip {chip : Option Nat} (opened : s.ensureChip p chip = some t) :
    Levels [] s t := by
  have same := chipOpened_ensureChip opened
  exact ⟨same.outputValue, same.asked, same.log.trans (List.append_nil _).symm⟩

theorem levels_closeLine (s : Gpio) (p : Nat) : Levels [] s (s.closeLine p) := by
  unfold Gpio.closeLine
  split
  · exact .refl s
  · rename_i d line
    let f : LinuxGPIOPin → LinuxGPIOPin := fun a => { a with line := none }
    have levels := levels_modify (s := s.close d.number) (p := p) (f := f) (fun _ => rfl)
      fun _ => rfl
    exact ⟨levels.outputValue, levels.asked, levels.log⟩

theorem levels_releaseLine (s : Gpio) (p : Nat) : Levels [] s (s.releaseLine p) := by
  unfold Gpio.releaseLine
  split
  · exact .refl s
  · rename_i d line
    have levels := levels_closeLine { s with entries := removeEntries d.number s.entries } p
    exact ⟨levels.outputValue, levels.asked, levels.log⟩

theorem levels_getLine {request : LineRequest} {number : Nat} {r : Descriptor × Gpio}
    (requested : s.getLine p request number = some r) :
    Levels [⟨p, request.config, (s.pins p).asked⟩] s r.2 := by
  obtain ⟨r', taken, same⟩ := Option.map_eq_some_iff.mp requested
  obtain ⟨fresh, rfl⟩ := allocate_eq_some taken
  subst same
  let f : LinuxGPIOPin → LinuxGPIOPin := fun a => { a with line := some ⟨number, s.serial⟩ }
  have levels : Levels [] s (s.modify p f) := levels_modify (fun _ => rfl) fun _ => rfl
  exact ⟨levels.outputValue, levels.asked,
    congrArg (fun a => s.log ++ [⟨p, request.config, a⟩]) (levels.asked p)⟩

/-- What a claim configures. -/
def Gpio.claimed (s : Gpio) (p : Nat) (flags : Flags) : Configured :=
  ⟨p, s.claimConfig p flags, (s.pins p).asked⟩

theorem levels_requestLine {flags : Flags} {answer : Option Nat}
    (requested : s.requestLine p flags answer = some t) :
    Levels [] s t ∨ Levels [s.claimed p flags] s t := by
  unfold Gpio.requestLine at requested
  split at requested
  · cases requested
    exact .inl (.refl _)
  · obtain ⟨r, taken, same⟩ := Option.map_eq_some_iff.mp requested
    subst same
    let f : LinuxGPIOPin → LinuxGPIOPin := fun a => { a with flags := flags }
    exact .inr ((levels_getLine taken).trans
      (levels_modify (f := f) (fun _ => rfl) fun _ => rfl))

/-- **A claim configures the level that the pin remembers, if anything.** -/
theorem levels_claimLine {flags : Flags} (claimed : s.claimLine p flags answers = some t) :
    Levels [] s t ∨ ∃ us, Levels [⟨p, applyLineConfig (buildLineFlags flags) us
      (s.pins p).outputValue, (s.pins p).asked⟩] s t := by
  obtain ⟨u, opened, claimed⟩ := Option.bind_eq_some_iff.mp claimed
  have chip := levels_ensureChip opened
  split at claimed
  · cases claimed
    exact .inl chip
  · split at claimed
    · cases claimed
      let f : LinuxGPIOPin → LinuxGPIOPin := fun a => { a with flags := flags }
      have levels := levels_modify (s := u) (p := p) (f := f) (fun _ => rfl) fun _ => rfl
      have logged : Levels [u.claimed p flags] u
          ((u.modify p f).configured p (u.claimConfig p flags)) :=
        ⟨levels.outputValue, levels.asked,
          congrArg (fun a => u.log ++ [⟨p, u.claimConfig p flags, a⟩]) (levels.asked p)⟩
      refine .inr ⟨(u.pins p).debounceUs, ?_⟩
      rw [← chip.outputValue, ← chip.asked]
      exact chip.trans logged
    · have closed := levels_closeLine u p
      rcases levels_requestLine claimed with quiet | logged
      · exact .inl ((chip.trans closed).trans quiet)
      · have whole := (chip.trans closed).trans logged
        refine .inr ⟨((u.closeLine p).pins p).debounceUs, ?_⟩
        rw [← chip.outputValue, ← closed.outputValue, ← chip.asked, ← closed.asked]
        exact whole

/-- An interrupt configures inputs only. -/
theorem levels_attachInterrupt {func : Option Nat} {arg : Nat} {type : InterruptType}
    (attached : s.attachInterrupt p func arg type answers = some t) :
    Levels [] s t ∨ ∃ c : Configured, c.config.flags.output = false ∧ Levels [c] s t := by
  obtain ⟨u, opened, attached⟩ := Option.bind_eq_some_iff.mp attached
  let f : LinuxGPIOPin → LinuxGPIOPin := fun a => { a with attached := some (func, arg) }
  have told : Levels [] s (s.modify p f) := levels_modify (fun _ => rfl) fun _ => rfl
  have chip : Levels [] s u := told.trans (levels_ensureChip opened)
  split at attached
  · cases attached
    exact .inl chip
  · have released := chip.trans (levels_releaseLine u p)
    unfold Gpio.requestEdges at attached
    split at attached
    · cases attached
      exact .inl released
    · obtain ⟨r, taken, same⟩ := Option.map_eq_some_iff.mp attached
      subst same
      have logged := released.trans (levels_getLine taken)
      exact .inr ⟨_, rfl, logged.outputValue, logged.asked, logged.log⟩

/-! ## Writes that are remembered -/

/-- What an operation keeps. -/
structure Recalled (s : Gpio) : Prop where
  restored : Restored s
  remembers : Remembers s

theorem Levels.recalled {logged : List Configured} (levels : Levels logged s t)
    (recalled : Recalled s)
    (restored : ∀ c ∈ logged, c.config.flags.output = true → ∀ v, c.asked = some v →
      c.config.outputLevel = some v) : Recalled t := by
  refine ⟨fun c mem => ?_, fun q v asked => ?_⟩
  · rw [levels.log] at mem
    rcases List.mem_append.mp mem with old | new
    · exact recalled.restored c old
    · exact restored c new
  · rw [levels.asked] at asked
    rw [levels.outputValue]
    exact recalled.remembers q v asked

theorem Levels.recalled_nil (levels : Levels [] s t) (recalled : Recalled s) : Recalled t :=
  levels.recalled recalled (List.forall_mem_nil _)

theorem recalled_claimLine {flags : Flags} (recalled : Recalled s)
    (claimed : s.claimLine p flags answers = some t) : Recalled t := by
  rcases levels_claimLine claimed with quiet | ⟨us, logged⟩
  · exact quiet.recalled_nil recalled
  · refine logged.recalled recalled (List.forall_mem_singleton.mpr fun output v asked => ?_)
    rw [← recalled.remembers p v asked]
    exact outputLevel_applyLineConfig output us _

/-- What a write leaves of the pin and of the others. -/
structure Written (p : Nat) (level : Bool) (s t : Gpio) : Prop where
  asked : (t.pins p).asked = some level
  outputValue : (t.pins p).outputValue =
    if (s.pins p).line = none then (s.pins p).outputValue else level
  line : (t.pins p).line = (s.pins p).line
  there : ∀ q, q ≠ p → t.pins q = s.pins q
  log : t.log = s.log

theorem written_digitalWrite (s : Gpio) (p : Nat) (value : Bool) :
    Written p (value != (s.pins p).inverted) s (s.digitalWrite p value) := by
  let f : LinuxGPIOPin → LinuxGPIOPin := fun a => { a with asked := some (value != a.inverted) }
  let g : LinuxGPIOPin → LinuxGPIOPin := fun a => { a with outputValue := value != a.inverted }
  have first : (s.modify p f).pins p = f (s.pins p) := pins_modify_self f
  have second : ((s.modify p f).modify p g).pins p = g (f (s.pins p)) := by
    rw [pins_modify_self, first]
  have other (q : Nat) (ne : q ≠ p) : (s.modify p f).pins q = s.pins q := pins_modify_of_ne ne
  have line : ((s.modify p f).pins p).line = (s.pins p).line := by rw [first]
  unfold Gpio.digitalWrite
  dsimp only
  split
  · rename_i unclaimed
    refine ⟨congrArg LinuxGPIOPin.asked first, ?_, line, other, rfl⟩
    rw [if_pos (line.symm.trans unclaimed)]
    exact (congrArg LinuxGPIOPin.outputValue first).trans rfl
  · rename_i claimed
    refine ⟨congrArg LinuxGPIOPin.asked second, ?_,
      (congrArg LinuxGPIOPin.line second).trans rfl, fun q ne =>
        (pins_modify_of_ne ne).trans (other q ne), rfl⟩
    rw [if_neg fun none => claimed (line.trans none)]
    exact (congrArg LinuxGPIOPin.outputValue second).trans rfl

theorem recalled_digitalWrite {value : Bool} (recalled : Recalled s)
    (remembered : Remembered s (p, .digitalWrite value)) : Recalled (s.digitalWrite p value) := by
  have written := written_digitalWrite s p value
  refine ⟨fun c mem => recalled.restored c (written.log ▸ mem), fun q v asked => ?_⟩
  by_cases same : q = p
  · subst same
    rw [written.asked] at asked
    rw [written.outputValue, ← Option.some.inj asked]
    split
    · rename_i unclaimed
      rcases remembered with claimed | level
      · exact absurd unclaimed claimed
      · exact level.symm
    · rfl
  · rw [written.there q same] at asked ⊢
    exact recalled.remembers q v asked

theorem recalled_step {act : Nat × Operation} (recalled : Recalled s) (guard : Remembered s act)
    (stepped : step s act = some t) : Recalled t := by
  obtain ⟨p, operation⟩ := act
  cases operation with
  | setup answers => exact recalled_claimLine recalled stepped
  | pinMode flags answers => exact recalled_claimLine recalled stepped
  | digitalWrite value =>
      cases stepped
      exact recalled_digitalWrite recalled guard
  | attachInterrupt func arg type answers =>
      rcases levels_attachInterrupt stepped with quiet | ⟨c, input, logged⟩
      · exact quiet.recalled_nil recalled
      · refine logged.recalled recalled (List.forall_mem_singleton.mpr fun output => ?_)
        exact absurd (output.symm.trans input) (by decide)
  | detachInterrupt =>
      cases stepped
      exact (levels_releaseLine s p).recalled_nil recalled

theorem recalled_unused (unused : Unused s) : Recalled s := by
  refine ⟨fun c mem => absurd (unused.log ▸ mem) List.not_mem_nil, fun p v asked => ?_⟩
  rw [(unused.pins p).2.2.2.1] at asked
  cases asked

theorem recalled_of_reachableUnder (reachable : machine.ReachableUnder Remembered s) :
    Recalled s :=
  reachable.invariant (fun _ => recalled_unused) fun _ _ _ recalled guard stepped =>
    recalled_step recalled guard stepped

/-! ## A write that is lost -/

/-- A number that is not in use. -/
theorem exists_fresh (used : List Nat) : ∃ n, n ∉ used := by
  obtain ⟨n, fresh⟩ := Infinite.exists_notMem_finset used.toFinset
  exact ⟨n, fun mem => fresh (List.mem_toFinset.mpr mem)⟩

theorem exists_ensureChip (s : Gpio) (p : Nat) :
    ∃ chip t, s.ensureChip p chip = some t ∧ (t.pins p).chipFd ≠ none := by
  obtain ⟨n, fresh⟩ := exists_fresh s.openFds
  refine ⟨some n, ?_⟩
  unfold Gpio.ensureChip
  split
  · rename_i known
    exact ⟨s, rfl, Option.isSome_iff_ne_none.mp known⟩
  · split
    · rename_i fd cached
      exact ⟨_, rfl, by rw [pins_modify_self]; exact Option.some_ne_none fd⟩
    · have taken : s.allocate n = some _ := if_neg fresh
      dsimp only
      rw [taken]
      refine ⟨_, rfl, ?_⟩
      have here := pins_modify_self (s := s) (p := p) fun a => { a with chipFd := some n }
      exact fun none => Option.some_ne_none n ((congrArg LinuxGPIOPin.chipFd here).symm.trans none)

/-- The line can be requested as an output, with the level that the pin remembers. -/
theorem exists_pinMode (unclaimed : (s.pins p).line = none) :
    ∃ answers t us, s.pinMode p { output := true } answers = some t ∧
      ⟨p, applyLineConfig { output := true } us (s.pins p).outputValue, (s.pins p).asked⟩ ∈
        t.log := by
  obtain ⟨chip, u, opened, known⟩ := exists_ensureChip s p
  have levels := levels_ensureChip opened
  have line : (u.pins p).line = none := ((chipOpened_ensureChip opened).line p).trans unclaimed
  have closed : u.closeLine p = u := by
    unfold Gpio.closeLine
    rw [line]
  obtain ⟨n, fresh⟩ := exists_fresh u.openFds
  let request : LineRequest := ⟨(u.pins p).pin, "esphome", 0, u.claimConfig p { output := true }⟩
  have allocated : u.allocate n = some _ := if_neg fresh
  obtain ⟨r, taken⟩ : ∃ r, u.getLine p request n = some r :=
    ⟨_, by unfold Gpio.getLine; rw [allocated]; rfl⟩
  have logged := levels.trans (levels_getLine taken)
  refine ⟨⟨chip, false, some n⟩,
    r.2.modify p fun a => { a with flags := { output := true } }, (u.pins p).debounceUs, ?_, ?_⟩
  · unfold Gpio.pinMode Gpio.claimLine
    dsimp only
    rw [opened, Option.bind_some, if_neg known, if_neg fun claimed => claimed.1 line, closed]
    unfold Gpio.requestLine
    dsimp only
    rw [taken, Option.map_some]
  · have same : (⟨p, request.config, (u.pins p).asked⟩ : Configured) =
        ⟨p, applyLineConfig { output := true } (u.pins p).debounceUs (s.pins p).outputValue,
          (s.pins p).asked⟩ := by
      rw [← levels.outputValue, ← levels.asked]
      rfl
    rw [← same]
    exact logged.log ▸ List.mem_append_right _ (List.mem_singleton_self _)

/-- **After a write that is lost the line can be configured with another level.** -/
theorem lost_digitalWrite {act : Nat × Operation} (lost : ¬ Remembered s act)
    (stepped : step s act = some t) :
    ∃ u, machine.Reach Remembered t u ∧ ¬ Restored u := by
  obtain ⟨p, operation⟩ := act
  cases operation with
  | digitalWrite value =>
      cases stepped
      obtain ⟨claimed, level⟩ := not_or.mp lost
      have unclaimed := not_not.mp claimed
      have written := written_digitalWrite s p value
      obtain ⟨answers, u, us, moded, mem⟩ := exists_pinMode (written.line.trans unclaimed)
      refine ⟨u, .single (l := (p, .pinMode { output := true } answers)) trivial moded, ?_⟩
      intro restored
      have same := restored _ mem rfl _ written.asked
      rw [written.outputValue, if_pos unclaimed] at same
      exact level (Option.some.inj ((outputLevel_applyLineConfig rfl us _).symm.trans same)).symm
  | _ => exact absurd trivial lost

/-- **Outputs are configured with the level asked for last as long as every write finds the line
claimed or asks for the level that is remembered; and after any other write they need not be.** -/
theorem restored_iff_remembered (reachable : machine.ReachableUnder Remembered s) :
    Restored s ∧ ∀ act t, machine.step s act = some t →
      (Remembered s act ↔ ∀ u, machine.Reach Remembered t u → Restored u) :=
  Machine.weakest_guard (fun _ reachable => (recalled_of_reachableUnder reachable).restored)
    (fun _ _ _ _ lost stepped => lost_digitalWrite lost stepped) reachable

/-- Relays that are on at low level, before `setup`. -/
def relays : Gpio where
  pins p :=
    { pin := p.toUInt8, chipPath := "/dev/gpiochip0", inverted := true, flags := { output := true }
      debounceUs := 0 }

theorem unused_relays : Unused relays :=
  ⟨fun _ => ⟨rfl, rfl, rfl, rfl, rfl⟩, rfl, rfl, rfl, rfl, rfl⟩

/-- A write and, once the line is lost, a write of the same level. -/
def rewritten : List (Nat × Operation) :=
  [(0, .setup ⟨some 5, false, some 6⟩), (0, .digitalWrite false),
    (0, .pinMode { output := true, pullup := true } ⟨none, false, none⟩), (0, .digitalWrite false),
    (0, .setup ⟨none, false, some 6⟩)]

theorem restored_rewritten : ∃ s, machine.run relays rewritten = some s ∧
    s.log.map (fun c => (c.config.outputLevel, c.asked)) =
      [(some false, none), (some true, some true)] ∧ Restored s := by
  have replay : (machine.guarded Remembered).run relays rewritten = some _ := rfl
  have reachable : machine.ReachableUnder Remembered _ :=
    ⟨relays, unused_relays, Machine.run_guarded_reach replay⟩
  exact ⟨_, rfl, rfl, (restored_iff_remembered reachable).1⟩

/-- A relay is switched off before `setup`, which switches it on. -/
def offEarly : List (Nat × Operation) :=
  [(0, .digitalWrite false), (0, .setup ⟨some 5, false, some 6⟩)]

theorem not_restored_offEarly : ∃ s, machine.Reachable s ∧
    s.log.map (fun c => (c.config.outputLevel, c.asked)) = [(some false, some true)] ∧
      ¬ Restored s := by
  have replay : machine.run relays offEarly = some _ := rfl
  refine ⟨_, ⟨relays, unused_relays, Machine.run_reach replay⟩, rfl, fun restored => ?_⟩
  exact absurd (restored _ List.mem_cons_self rfl true rfl) (by decide)

end EsphomeHost.LinuxGpio

import EsphomeHost.Server.State

/-!
# What the server's functions do

One lemma for each function that changes a `BLEGattServer`: the state it leaves and the calls it
makes.  The modules behind this one do not unfold these functions.
-/

namespace EsphomeHost

/-- A call that has nothing to do with the advertisement. -/
def BusCall.Quiet (c : BusCall) : Prop :=
  c = .registerApplication ∨ ∃ path, c = .valueChanged path

namespace BLEGattServer

variable {κ : Type}

/-- With the bus open a registration is out of the way after this. -/
theorem clearAdvertisement_eq {s : BLEGattServer κ} (bus : s.busOpen = true) :
    (if s.advRegistered then s.unregisterAdvertisement else (s, [])) =
      ({ s with advRegistered := false },
        if s.advRegistered then [.unregisterAdvertisement] else []) := by
  by_cases flag : s.advRegistered = true
  · rw [if_pos flag, if_pos flag, unregisterAdvertisement, flag, bus]
    rfl
  · rw [if_neg flag, if_neg flag, ← Bool.eq_false_of_not_eq_true flag]

theorem exportAdvertisement_cases (env : BusOutcome) (s : BLEGattServer κ) :
    ∃ slot sent, { s with advRegistered := false }.exportAdvertisement env =
      ({ s with advSlot := slot, advRegistered := sent },
        if sent then [.registerAdvertisement] else []) := by
  rw [exportAdvertisement]
  split
  · exact ⟨s.advSlot, false, rfl⟩
  · dsimp only
    split
    · exact ⟨true, false, rfl⟩
    · exact ⟨true, true, rfl⟩

/-- What registering does: with the bus closed nothing; otherwise what is registered is
unregistered, and the flag says whether a new registration was sent. -/
theorem registerAdvertisement_cases (env : BusOutcome) (s : BLEGattServer κ) :
    (s.busOpen = false ∧ s.registerAdvertisement env = (s, [])) ∨
      (s.busOpen = true ∧ ∃ slot sent, s.registerAdvertisement env =
        ({ s with advSlot := slot, advRegistered := sent },
          (if s.advRegistered then [.unregisterAdvertisement] else []) ++
            if sent then [.registerAdvertisement] else [])) := by
  rw [registerAdvertisement]
  by_cases bus : s.busOpen = true
  · obtain ⟨slot, sent, exported⟩ := exportAdvertisement_cases env s
    refine .inr ⟨bus, slot, sent, ?_⟩
    rw [if_neg (by rw [bus]; exact Bool.false_ne_true), clearAdvertisement_eq bus]
    dsimp only
    rw [exported]
  · have closed := Bool.eq_false_of_not_eq_true bus
    exact .inl ⟨closed, if_pos (by rw [closed]; rfl)⟩

theorem powerCycleAdapter_cases (env : BusOutcome) (s : BLEGattServer κ) :
    (s.busOpen = false ∧ s.powerCycleAdapter env = (s, [])) ∨
      (s.busOpen = true ∧ ∃ slot sent, s.powerCycleAdapter env =
        ({ s with advSlot := slot, advRegistered := sent },
          .setPowered false :: .setPowered true ::
            if sent then [.registerAdvertisement] else [])) := by
  rw [powerCycleAdapter]
  rcases registerAdvertisement_cases env { s with advSlot := false, advRegistered := false } with
    ⟨closed, -⟩ | ⟨bus, slot, sent, registered⟩
  · exact .inl ⟨closed, if_pos (by rw [closed]; rfl)⟩
  · refine .inr ⟨bus, slot, sent, ?_⟩
    rw [if_neg (by rw [bus]; exact Bool.false_ne_true)]
    dsimp only
    rw [registered]
    rfl

/-- An error after the power cycle has been used only clears the flag. -/
theorem onRegisterAdvReply_error (env : BusOutcome) {s : BLEGattServer κ}
    (cycled : s.readvPowerCycled = true) :
    s.onRegisterAdvReply false env = ({ s with advRegistered := false }, []) := by
  simp only [onRegisterAdvReply, Bool.not_false, cycled, Bool.not_true, Bool.false_eq_true,
    ↓reduceIte]

/-- The first error is answered by a power cycle. -/
theorem onRegisterAdvReply_powerCycle (env : BusOutcome) {s : BLEGattServer κ}
    (unused : s.readvPowerCycled = false) :
    s.onRegisterAdvReply false env =
      { s with advRegistered := false, readvPowerCycled := true }.powerCycleAdapter env := by
  simp only [onRegisterAdvReply, Bool.not_false, unused, ↓reduceIte]

theorem onAdvertisingChanged_cases (adv : HostAdvertisement) (s : BLEGattServer κ) :
    ∃ pendingAdv advPending, s.onAdvertisingChanged adv =
      { s with pendingAdv := pendingAdv, advPending := advPending } := by
  rw [onAdvertisingChanged]
  split
  · exact ⟨s.pendingAdv, s.advPending, rfl⟩
  · exact ⟨adv, true, rfl⟩

theorem notifyCharacteristic_cases (chr : κ) (value : List UInt8) (s : BLEGattServer κ) :
    ∃ commands, s.notifyCharacteristic chr value = { s with commands := commands } := by
  rw [notifyCharacteristic]
  split
  · exact ⟨s.commands, rfl⟩
  · exact ⟨_, rfl⟩

theorem doStart_cases (env : BusOutcome) (s : BLEGattServer κ) :
    ∃ opened, (s.busOpen = true → opened = true) ∧
      (s.doStart env).1 = { s with started := true, busOpen := opened } ∧
        ∀ c ∈ (s.doStart env).2, c.Quiet := by
  rw [doStart]
  split
  · next started =>
      refine ⟨s.busOpen, id, ?_, nofun⟩
      rw [← started]
  · dsimp only
    split
    · exact ⟨s.busOpen, id, rfl, nofun⟩
    · split
      · exact ⟨true, fun _ => rfl, rfl, nofun⟩
      · split
        · exact ⟨true, fun _ => rfl, rfl, nofun⟩
        · exact ⟨true, fun _ => rfl, rfl, fun c mem => .inl (List.mem_singleton.mp mem)⟩

theorem applyStart_cases (requested : Bool) (env : BusOutcome) (s : BLEGattServer κ) :
    ∃ started opened, (s.busOpen = true → opened = true) ∧
      (s.applyStart requested env).1 = { s with started := started, busOpen := opened } ∧
        ∀ c ∈ (s.applyStart requested env).2, c.Quiet := by
  rw [applyStart]
  split
  · exact ⟨true, doStart_cases env s⟩
  · exact ⟨s.started, s.busOpen, id, rfl, nofun⟩

theorem doNotify_cases (charPath : List Char) (value : List UInt8) (s : BLEGattServer κ) :
    ∃ chars, (s.doNotify charPath value).1 = { s with chars := chars } ∧
      ∀ c ∈ (s.doNotify charPath value).2, c.Quiet := by
  rw [doNotify]
  split
  · exact ⟨s.chars, rfl, nofun⟩
  · refine ⟨_, rfl, ?_⟩
    dsimp only
    split
    · exact fun c mem => .inr ⟨charPath, List.mem_singleton.mp mem⟩
    · exact nofun

theorem doCommands_cases (cmds : List ServerCommand) (s : BLEGattServer κ) :
    ∃ chars, (s.doCommands cmds).1 = { s with chars := chars } ∧
      ∀ c ∈ (s.doCommands cmds).2, c.Quiet := by
  induction cmds generalizing s with
  | nil => exact ⟨s.chars, rfl, nofun⟩
  | cons cmd cmds ih =>
      have first : ∃ chars,
          (if cmd.kind = .notify then s.doNotify cmd.charPath cmd.value else (s, [])).1 =
              { s with chars := chars } ∧
            ∀ c ∈ (if cmd.kind = .notify then s.doNotify cmd.charPath cmd.value else (s, [])).2,
              c.Quiet := by
        split
        · exact doNotify_cases cmd.charPath cmd.value s
        · exact ⟨s.chars, rfl, nofun⟩
      obtain ⟨chars, state, quiet⟩ := first
      obtain ⟨chars', state', quiet'⟩ := ih { s with chars := chars }
      rw [doCommands]
      dsimp only
      rw [state]
      refine ⟨chars', state', ?_⟩
      intro c mem
      rcases List.mem_append.mp mem with here | later
      · exact quiet c here
      · exact quiet' c later

/-- A pass: whatever the start and the commands do, they leave the advertisement alone. -/
theorem workerProcessCommands_cases (env : BusOutcome) (s : BLEGattServer κ) :
    ∃ started opened chars quiet, (s.busOpen = true → opened = true) ∧
      (∀ c ∈ quiet, BusCall.Quiet c) ∧
      let mid : BLEGattServer κ :=
        { s with
          startRequested := false, commands := [], started := started, busOpen := opened
          chars := chars }
      s.workerProcessCommands env =
        ((mid.applyPending env).1, quiet ++ (mid.applyPending env).2) := by
  obtain ⟨started, opened, grows, up, quiet⟩ := applyStart_cases s.startRequested env
    { s with startRequested := false, commands := [] }
  obtain ⟨chars, done, quiet'⟩ := doCommands_cases s.commands
    { s with startRequested := false, commands := [], started := started, busOpen := opened }
  refine ⟨started, opened, chars,
    (applyStart s.startRequested env { s with startRequested := false, commands := [] }).2 ++
      (doCommands s.commands { s with
        startRequested := false, commands := [], started := started, busOpen := opened }).2,
    grows, ?_, ?_⟩
  · intro c mem
    rcases List.mem_append.mp mem with here | later
    · exact quiet c here
    · exact quiet' c later
  · rw [workerProcessCommands]
    dsimp only
    rw [up, done]

end BLEGattServer

end EsphomeHost

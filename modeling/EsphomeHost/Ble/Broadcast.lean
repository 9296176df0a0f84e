import EsphomeHost.Lib.Machine
import EsphomeHost.Server.Registration

/-!
# Advertisers that start once

`BTHomeAdvertiser` and `ESP32BLEBeacon` export an advertisement of their own.  Their bring-up is the
same code twice: `setup()` builds the payload and asks the worker to start, the worker opens the
bus, exports the properties and calls `RegisterAdvertisement`, whose reply comes later.  Nothing is
tried a second time.  Only the first has a destructor that takes the advertisement back.

* `Broadcast`: an advertiser with the worker that passes it, BlueZ, and what is on the way from
  BlueZ to the worker.  The worker passes a copy of its list, so also an advertiser that has been
  taken from the list since; what is left out is a pass under way while the destructor unregisters,
  or after it, which is undefined.
* `Stage`: how far the one registration is.
* `broadcast_sound`: **in every run the advertisement is registered at most once, what is on the air
  is the payload built at setup, the flag is set as long as BlueZ has or looks at a registration,
  and the destructor leaves none behind**, if BlueZ answers in time and does what it is asked.
-/

namespace EsphomeHost

/-! ## The code -/

/-- What the calls of `do_start_` come to. -/
structure StartOutcome where
  opensBus : Bool
  exports : Bool
  makesCall : Bool
  dispatches : Bool

/-- The fields the two advertisers share. -/
structure BroadcastAdvertiser where
  /-- `payload_` and `mfg_data_`. -/
  payload : List UInt8 := []
  attached : Bool := false
  startRequested : Bool := false
  started : Bool := false
  /-- `bus_` is there, and `bus_open_`. -/
  busOpen : Bool := false
  advSlot : Bool := false
  advRegistered : Bool := false
  deriving DecidableEq

namespace BroadcastAdvertiser

variable (a : BroadcastAdvertiser)

/-- `setup`, with the payload it builds. -/
def setup (built : List UInt8) : BroadcastAdvertiser :=
  { a with payload := built, attached := true, startRequested := true }

/-- `register_advertisement_`, and whether `RegisterAdvertisement` is on its way. -/
def registerAdvertisement (env : StartOutcome) : BroadcastAdvertiser × Bool :=
  if !a.busOpen then (a, false)
  else if !a.advSlot && !env.exports then (a, false)
  else
    let a := { a with advSlot := true }
    if !env.makesCall then (a, false)
    else if !env.dispatches then (a, false)
    else ({ a with advRegistered := true }, true)

/-- `do_start_`. -/
def doStart (env : StartOutcome) : BroadcastAdvertiser × Bool :=
  if a.started then (a, false)
  else
    let a := { a with started := true }
    -- `open_bus_`
    if !a.busOpen && !env.opensBus then (a, false)
    else { a with busOpen := true }.registerAdvertisement env

def workerProcessCommands (env : StartOutcome) : BroadcastAdvertiser × Bool :=
  if a.startRequested then { a with startRequested := false }.doStart env else (a, false)

def onRegisterAdvReply (ok : Bool) : BroadcastAdvertiser :=
  if ok then a else { a with advRegistered := false }

def advRelease : BroadcastAdvertiser := { a with advRegistered := false }

/-- `unregister_advertisement_`, and whether `UnregisterAdvertisement` is called. -/
def unregisterAdvertisement : BroadcastAdvertiser × Bool :=
  if !a.advRegistered || !a.busOpen then (a, false)
  else ({ a with advRegistered := false }, true)

/-- The first that the destructor of `BTHomeAdvertiser` does. -/
def detach : BroadcastAdvertiser := { a with attached := false }

end BroadcastAdvertiser

/-! ## The advertiser and BlueZ -/

/-- How far the destructor is.  Its connection to the bus is closed with it, which BlueZ notices
later. -/
inductive Lifetime
  | alive
  | detached
  | destroyed
  | disconnected
  deriving DecidableEq

/-- There is no advertiser any more. -/
def Lifetime.over : Lifetime → Bool
  | alive | detached => false
  | destroyed | disconnected => true

/-- `listed` is the worker's copy of its list; `air` is the payload that BlueZ read back and
transmits.  What has happened is counted in `registrations`, and kept in `lost`, `expired` (no
answer to `RegisterAdvertisement` in time) and `kept` (`UnregisterAdvertisement` failed). -/
structure Broadcast where
  advertiser : BroadcastAdvertiser := {}
  listed : Bool := false
  lifetime : Lifetime := .alive
  bluez : AdvertisingManager := {}
  air : Option (List UInt8) := none
  registrations : Nat := 0
  lost : Bool := false
  expired : Bool := false
  kept : Bool := false
  deriving DecidableEq

inductive BroadcastLabel
  | setup
  /-- The worker copies the list of its clients. -/
  | copy
  /-- It passes the copy: a step of its own, as the main thread shares the list and the request with
  it and nothing else, until the destructor unregisters. -/
  | pass (env : StartOutcome)
  /-- BlueZ looks at the registration and reads the properties. -/
  | process (accept : Bool)
  /-- The bus gives up waiting for the answer, and reports an error. -/
  | timeout
  /-- BlueZ drops the registration and calls `Release`. -/
  | release
  /-- BlueZ drops it without a word, as when the adapter is powered off. -/
  | lose
  /-- The worker dispatches the first message. -/
  | dispatch
  /-- The destructor takes the advertiser from the list. -/
  | detach
  /-- The rest of the destructor. -/
  | destroy (unregisters : Bool)
  /-- BlueZ notices that the connection is closed. -/
  | disconnect

namespace Broadcast

/-- A step, for an advertiser whose `setup` builds `built`; `destructible` when it has a destructor
of its own.  A pass on an advertiser that is destroyed is undefined, and no step. -/
def step (built : List UInt8) (destructible : Bool) (s : Broadcast) :
    BroadcastLabel → Option Broadcast
  | .setup =>
      if s.advertiser.attached || s.lifetime != .alive then none
      else some { s with advertiser := s.advertiser.setup built }
  | .copy => some { s with listed := s.advertiser.attached }
  | .pass env =>
      if !s.listed || s.lifetime.over then none
      else
        let r := s.advertiser.workerProcessCommands env
        if r.2 then
          (s.bluez.take false .registerAdvertisement).map fun b =>
            { s with
              advertiser := r.1, listed := false, bluez := b
              registrations := s.registrations + 1 }
        else some { s with advertiser := r.1, listed := false }
  | .process accept =>
      -- the properties are there to be read as long as the advertiser is
      if accept && s.lifetime.over then none
      else
        (s.bluez.process accept).map fun b =>
          { s with
            bluez := if s.expired then { b with inbox := s.bluez.inbox } else b
            air := if accept && !s.bluez.held then some s.advertiser.payload else s.air }
  | .timeout =>
      if s.bluez.Outstanding ∧ s.expired = false ∧ s.lifetime.over = false then
        some { s with
          advertiser := s.advertiser.onRegisterAdvReply false
          bluez := { s.bluez with inbox := s.bluez.inbox.filter (· = .release) }
          expired := true }
      else none
  | .release =>
      if !s.bluez.held then none
      else some { s with
        bluez := { s.bluez with held := false, inbox := s.bluez.inbox ++ [.release] }, air := none }
  | .lose =>
      if !s.bluez.held then none
      else some { s with bluez := { s.bluez with held := false }, air := none, lost := true }
  | .dispatch =>
      if s.lifetime.over then none
      else
        match s.bluez.inbox with
        | [] => none
        | .registered :: rest => some { s with
            advertiser := s.advertiser.onRegisterAdvReply true
            bluez := { s.bluez with inbox := rest } }
        | .rejected :: rest => some { s with
            advertiser := s.advertiser.onRegisterAdvReply false
            bluez := { s.bluez with inbox := rest } }
        | .release :: rest => some { s with
            advertiser := s.advertiser.advRelease, bluez := { s.bluez with inbox := rest } }
  | .detach =>
      if !destructible || s.lifetime != .alive then none
      else some { s with advertiser := s.advertiser.detach, lifetime := .detached }
  | .destroy unregisters =>
      if s.lifetime != .detached then none
      else
        let r := s.advertiser.unregisterAdvertisement
        if !r.2 then some { s with advertiser := r.1, lifetime := .destroyed }
        else if unregisters then
          some { s with
            advertiser := r.1, lifetime := .destroyed
            bluez := { s.bluez with waiting := 0, held := false }, air := none }
        else some { s with advertiser := r.1, lifetime := .destroyed, kept := true }
  | .disconnect =>
      if s.lifetime != .destroyed then none
      else some { s with bluez := {}, air := none, lifetime := .disconnected }

def machine (built : List UInt8) (destructible : Bool) : Machine Broadcast BroadcastLabel where
  init s := s = {}
  step := step built destructible

/-- The advertiser is there, and has not been told that its registration failed by a bus that had
waited too long. -/
def Current (s : Broadcast) : Prop := s.lifetime.over = false ∧ s.expired = false

/-- What every run keeps to. -/
structure Sound (built : List UInt8) (s : Broadcast) : Prop where
  once : s.registrations ≤ 1
  onAir : s.air = if s.bluez.held then some built else none
  flagged : s.Current → s.bluez.waiting ≠ 0 ∨ s.bluez.held = true →
    s.advertiser.advRegistered = true
  settled : s.Current → s.bluez.waiting = 0 → s.bluez.inbox = [] → s.lost = false →
    (s.advertiser.advRegistered = true ↔ s.bluez.held = true)
  silenced : s.lifetime.over = true →
    (s.expired = false ∧ s.kept = false) ∨ s.lifetime = .disconnected →
      s.bluez.waiting = 0 ∧ s.bluez.held = false

end Broadcast

/-! ## The functions -/

namespace BroadcastAdvertiser

theorem registerAdvertisement_cases (a : BroadcastAdvertiser) (env : StartOutcome) :
    ∃ slot sent, a.registerAdvertisement env =
        ({ a with advSlot := slot, advRegistered := a.advRegistered || sent }, sent) ∧
      (sent = true → a.busOpen = true) := by
  have same : a.advRegistered = (a.advRegistered || false) := (Bool.or_false _).symm
  unfold registerAdvertisement
  split
  · exact ⟨a.advSlot, false, by rw [← same], nofun⟩
  next shut =>
    split
    · exact ⟨a.advSlot, false, by rw [← same], nofun⟩
    · dsimp only
      split
      · exact ⟨true, false, by rw [← same], nofun⟩
      · split
        · exact ⟨true, false, by rw [← same], nofun⟩
        · exact ⟨true, true, by rw [Bool.or_true], fun _ => by simpa using shut⟩

/-- A pass starts the advertiser at most once, and registers only then. -/
theorem workerProcessCommands_cases (a : BroadcastAdvertiser) (env : StartOutcome) :
    ∃ started opened slot sent, a.workerProcessCommands env =
        ({ a with
          startRequested := false, started := started, busOpen := opened, advSlot := slot
          advRegistered := a.advRegistered || sent }, sent) ∧
      (a.started = true → started = true ∧ sent = false) ∧
      (a.busOpen = true → opened = true) ∧
      (sent = true → started = true ∧ opened = true) := by
  have same : a.advRegistered = (a.advRegistered || false) := (Bool.or_false _).symm
  unfold workerProcessCommands
  split
  case isFalse idle =>
    have idle := Bool.eq_false_of_not_eq_true idle
    exact ⟨a.started, a.busOpen, a.advSlot, false, by rw [← same, ← idle],
      fun started => ⟨started, rfl⟩, id, nofun⟩
  unfold doStart
  split
  case isTrue again =>
    exact ⟨a.started, a.busOpen, a.advSlot, false, by rw [← same],
      fun started => ⟨started, rfl⟩, id, nofun⟩
  next first =>
    dsimp only
    split
    · exact ⟨true, a.busOpen, a.advSlot, false, by rw [← same], fun _ => ⟨rfl, rfl⟩, id, nofun⟩
    · obtain ⟨slot, sent, registered, -⟩ := registerAdvertisement_cases
        { a with startRequested := false, started := true, busOpen := true } env
      rw [registered]
      exact ⟨true, true, slot, sent, rfl, fun started => absurd started first, fun _ => rfl,
        fun _ => ⟨rfl, rfl⟩⟩

theorem unregisterAdvertisement_eq (a : BroadcastAdvertiser) :
    a.unregisterAdvertisement = ({ a with advRegistered := a.advRegistered && !a.busOpen },
      a.advRegistered && a.busOpen) := by
  obtain ⟨payload, attached, startRequested, started, busOpen, advSlot, advRegistered⟩ := a
  cases advRegistered <;> cases busOpen <;> rfl

end BroadcastAdvertiser

/-! ## The invariant -/

namespace Broadcast

variable {built : List UInt8} {destructible : Bool} {s t : Broadcast}

/-- How far the one registration is. -/
inductive Stage (built : List UInt8) (s : Broadcast) : Prop
  | before (bluez : s.bluez = {}) (air : s.air = none) (flag : s.advertiser.advRegistered = false)
      (count : s.registrations = 0)
  | asked (bluez : s.bluez = { waiting := 1 }) (air : s.air = none)
      (flag : s.Current → s.advertiser.advRegistered = true) (count : s.registrations = 1)
  | held (inbox : List BlueZMessage) (bluez : s.bluez = { inbox := inbox, held := true })
      (granted : ∀ m ∈ inbox, m = .registered) (air : s.air = some built)
      (flag : s.Current → s.advertiser.advRegistered = true) (count : s.registrations = 1)
  /-- The flag is set no longer than the worker takes to hear of it, if it does hear of it. -/
  | past (inbox : List BlueZMessage) (bluez : s.bluez = { inbox := inbox }) (air : s.air = none)
      (stale : s.advertiser.advRegistered = true → s.lost = true ∨ ∃ m ∈ inbox, m ≠ .registered)
      (count : s.registrations = 1)

/-- The stage, and what the fields say to each other. -/
structure Inv (built : List UInt8) (s : Broadcast) : Prop where
  stage : Stage built s
  bus : s.advertiser.advRegistered = true → s.advertiser.busOpen = true
  detached : s.lifetime ≠ .alive → s.advertiser.attached = false
  told : s.expired = true ∨ s.lifetime.over = true → s.advertiser.advRegistered = false
  silenced : s.lifetime.over = true →
    (s.expired = false ∧ s.kept = false) ∨ s.lifetime = .disconnected →
      s.bluez.waiting = 0 ∧ s.bluez.held = false
  payload : s.advertiser.attached = true ∨ s.listed = true ∨ s.advertiser.started = true →
    s.advertiser.payload = built
  first : s.advertiser.started = false → s.registrations = 0 ∧ s.expired = false

theorem Inv.sound (inv : Inv built s) : Sound built s := by
  cases inv.stage with
  | before bluez air clear count =>
      refine ⟨count.le.trans zero_le_one, by rw [air, bluez]; rfl, ?_, ?_, inv.silenced⟩
      · rw [bluez]
        rintro - (waits | held)
        · exact absurd rfl waits
        · cases held
      · intro _ _ _ _
        rw [clear, bluez]
  | asked bluez air set count =>
      refine ⟨count.le, by rw [air, bluez]; rfl, fun current _ => set current, ?_, inv.silenced⟩
      rw [bluez]
      exact nofun
  | held inbox bluez granted air set count =>
      refine ⟨count.le, by rw [air, bluez]; rfl, fun current _ => set current, ?_, inv.silenced⟩
      intro current _ _ _
      rw [set current, bluez]
  | past inbox bluez air stale count =>
      refine ⟨count.le, by rw [air, bluez]; rfl, ?_, ?_, inv.silenced⟩
      · rw [bluez]
        rintro - (waits | held)
        · exact absurd rfl waits
        · cases held
      · intro _ _ heard found
        rw [bluez] at heard
        cases heard
        refine ⟨fun set => ?_, fun held => ?_⟩
        · rcases stale set with lost | ⟨m, mem, -⟩
          · rw [found] at lost
            cases lost
          · exact absurd mem List.not_mem_nil
        · rw [bluez] at held
          cases held

/-! ## One step -/

/-- BlueZ has heard of nothing before a registration has been made. -/
theorem Stage.unheard (stage : Stage built s) (fresh : s.registrations = 0) :
    s.bluez = {} ∧ s.air = none := by
  cases stage with
  | before bluez air clear count => exact ⟨bluez, air⟩
  | asked bluez air set count => exact absurd (fresh.symm.trans count) nofun
  | held inbox bluez granted air set count => exact absurd (fresh.symm.trans count) nofun
  | past inbox bluez air stale count => exact absurd (fresh.symm.trans count) nofun

theorem not_outstanding_unheard : ¬ ({} : AdvertisingManager).Outstanding := by
  rintro (waits | ⟨m, mem, -⟩)
  · exact waits rfl
  · cases mem

/-- Of the advertiser only the flag matters to the stage, and that only while it is current. -/
theorem Stage.of_same (stage : Stage built s) {a : BroadcastAdvertiser} {listed kept : Bool}
    {lifetime : Lifetime}
    (clear : a.advRegistered = true → s.advertiser.advRegistered = true)
    (flag : lifetime.over = false →
      s.lifetime.over = false ∧ a.advRegistered = s.advertiser.advRegistered) :
    Stage built
      { s with advertiser := a, listed := listed, lifetime := lifetime, kept := kept } := by
  cases stage with
  | before bluez air unset count =>
      refine .before bluez air ?_ count
      by_contra set
      exact absurd (unset.symm.trans (clear (Bool.eq_true_of_not_eq_false set))) nofun
  | asked bluez air set count =>
      refine .asked bluez air (fun current => ?_) count
      obtain ⟨here, same⟩ := flag current.1
      exact same.trans (set ⟨here, current.2⟩)
  | held inbox bluez granted air set count =>
      refine .held inbox bluez granted air (fun current => ?_) count
      obtain ⟨here, same⟩ := flag current.1
      exact same.trans (set ⟨here, current.2⟩)
  | past inbox bluez air stale count =>
      exact .past inbox bluez air (fun set => stale (clear set)) count

theorem Inv.setup (inv : Inv built s)
    (step : Broadcast.step built destructible s .setup = some t) : Inv built t := by
  obtain ⟨fresh, step⟩ := Option.ite_none_left_eq_some.mp step
  cases step
  have alive : s.lifetime = .alive := by
    by_contra other
    exact fresh (by simp [other])
  exact ⟨inv.stage.of_same id fun here => ⟨here, rfl⟩, inv.bus, fun gone => absurd alive gone,
    inv.told, inv.silenced, fun _ => rfl, inv.first⟩

theorem Inv.copy (inv : Inv built s)
    (step : Broadcast.step built destructible s .copy = some t) : Inv built t := by
  cases step
  refine ⟨inv.stage.of_same id fun here => ⟨here, rfl⟩, inv.bus, inv.detached, inv.told,
    inv.silenced, ?_, inv.first⟩
  rintro (attached | listed | started)
  · exact inv.payload (.inl attached)
  · exact inv.payload (.inl listed)
  · exact inv.payload (.inr (.inr started))

theorem Inv.started (inv : Inv built s) (count : s.registrations = 1) :
    s.advertiser.started = true := by
  by_contra idle
  have none := (inv.first (Bool.eq_false_of_not_eq_true idle)).1
  rw [count] at none
  cases none

theorem Inv.pass (inv : Inv built s) {env : StartOutcome}
    (step : Broadcast.step built destructible s (.pass env) = some t) : Inv built t := by
  obtain ⟨able, step⟩ := Option.ite_none_left_eq_some.mp step
  obtain ⟨listed, here⟩ : s.listed = true ∧ s.lifetime.over = false := by simpa using able
  obtain ⟨started, opened, slot, sent, passed, again, grows, first⟩ :=
    s.advertiser.workerProcessCommands_cases env
  have payload : s.advertiser.payload = built := inv.payload (.inr (.inl listed))
  rw [passed] at step
  cases sent with
  | false =>
      cases step
      have same := Bool.or_false s.advertiser.advRegistered
      refine ⟨inv.stage.of_same same.symm.trans fun here => ⟨here, same⟩,
        fun set => grows (inv.bus (same.symm.trans set)), inv.detached,
        fun ended => same.trans (inv.told ended), inv.silenced, fun _ => payload, fun idle => ?_⟩
      refine inv.first ?_
      by_contra before
      obtain ⟨still, -⟩ := again (Bool.eq_true_of_not_eq_false before)
      exact absurd (still.symm.trans idle) nofun
  | true =>
      obtain ⟨rfl, rfl⟩ := first rfl
      have new : s.advertiser.started = false := by
        by_contra before
        exact absurd (again (Bool.eq_true_of_not_eq_false before)).2 nofun
      obtain ⟨fresh, current⟩ := inv.first new
      obtain ⟨bluez, air⟩ := inv.stage.unheard fresh
      rw [bluez] at step
      cases step
      refine ⟨.asked rfl air (fun _ => Bool.or_true _) (congrArg (· + 1) fresh), fun _ => rfl,
        inv.detached, ?_, ?_, fun _ => payload, nofun⟩
      · rintro (late | ended)
        · exact absurd (late.symm.trans current) nofun
        · exact absurd (ended.symm.trans here) nofun
      · intro ended
        exact absurd (ended.symm.trans here) nofun

theorem Inv.process (inv : Inv built s) {accept : Bool}
    (step : Broadcast.step built destructible s (.process accept) = some t) : Inv built t := by
  obtain ⟨-, step⟩ := Option.ite_none_left_eq_some.mp step
  obtain ⟨b, processed, rfl⟩ := Option.map_eq_some_iff.mp step
  cases inv.stage with
  | before bluez air clear count =>
      rw [bluez] at processed
      cases processed
  | held inbox bluez granted air set count =>
      rw [bluez] at processed
      cases processed
  | past inbox bluez air stale count =>
      rw [bluez] at processed
      cases processed
  | asked bluez air set count =>
      refine ⟨?_, inv.bus, inv.detached, inv.told, fun ended still => ?_, inv.payload, inv.first⟩
      · rw [bluez] at processed ⊢
        cases accept with
        | true =>
            cases processed
            have built := congrArg some (inv.payload (.inr (.inr (inv.started count))))
            by_cases late : s.expired = true
            · exact .held [] (if_pos late) nofun built set count
            · exact .held [.registered] (if_neg late) (by simp) built set count
        | false =>
            cases processed
            by_cases late : s.expired = true
            · refine .past [] (if_pos late) air (fun told => ?_) count
              exact absurd (told.symm.trans (inv.told (.inl late))) nofun
            · exact .past [.rejected] (if_neg late) air
                (fun _ => .inr ⟨_, List.mem_cons_self, nofun⟩) count
      · have none := (inv.silenced ended still).1
        rw [bluez] at none
        cases none

theorem Inv.timeout (inv : Inv built s)
    (step : Broadcast.step built destructible s .timeout = some t) : Inv built t := by
  obtain ⟨⟨outstanding, current, here⟩, step⟩ := Option.ite_none_right_eq_some.mp step
  cases step
  refine ⟨?_, nofun, inv.detached, fun _ => rfl, fun ended => ?_, inv.payload, fun idle => ?_⟩
  · cases inv.stage with
    | before bluez air clear count => exact absurd (bluez ▸ outstanding) not_outstanding_unheard
    | asked bluez air set count =>
        rw [bluez]
        exact .asked rfl air (fun late => nomatch late.2) count
    | held inbox bluez granted air set count =>
        have answered : inbox.filter (· = .release) = [] := by
          refine List.filter_eq_nil_iff.mpr fun m mem => ?_
          rw [granted m mem]
          exact nofun
        rw [bluez]
        exact .held [] (by rw [answered]) nofun air (fun late => nomatch late.2) count
    | past inbox bluez air stale count =>
        rw [bluez]
        exact .past _ rfl air nofun count
  · exact absurd (ended.symm.trans here) nofun
  · obtain ⟨bluez, -⟩ := inv.stage.unheard (inv.first idle).1
    exact absurd (bluez ▸ outstanding) not_outstanding_unheard

/-- A registration that is over leaves the advertiser as it is. -/
theorem Inv.dropped (inv : Inv built s) (held : s.bluez.held = true) {inbox : List BlueZMessage}
    {lost : Bool} (told : lost = true ∨ ∃ m ∈ inbox, m ≠ .registered) :
    Inv built { s with
      bluez := { s.bluez with held := false, inbox := inbox }, air := none, lost := lost } := by
  refine ⟨?_, inv.bus, inv.detached, inv.told, fun ended still => ?_, inv.payload, inv.first⟩
  · cases inv.stage with
    | held inbox' bluez granted air set count =>
        rw [bluez]
        exact .past inbox rfl rfl (fun _ => told) count
    | before bluez air clear count => exact absurd (bluez ▸ held) nofun
    | asked bluez air set count => exact absurd (bluez ▸ held) nofun
    | past inbox' bluez air stale count => exact absurd (bluez ▸ held) nofun
  · exact ⟨(inv.silenced ended still).1, rfl⟩

theorem Inv.release (inv : Inv built s)
    (step : Broadcast.step built destructible s .release = some t) : Inv built t := by
  obtain ⟨held, step⟩ := Option.ite_none_left_eq_some.mp step
  cases step
  refine inv.dropped (by simpa using held) (.inr ⟨.release, ?_, nofun⟩)
  exact List.mem_append_right _ List.mem_cons_self

theorem Inv.lose (inv : Inv built s)
    (step : Broadcast.step built destructible s .lose = some t) : Inv built t := by
  obtain ⟨held, step⟩ := Option.ite_none_left_eq_some.mp step
  cases step
  exact inv.dropped (by simpa using held) (.inl rfl)

/-- A message taken from the inbox, and what the worker makes of the flag. -/
theorem Stage.heard (stage : Stage built s) {m : BlueZMessage} {rest : List BlueZMessage}
    (inbox : s.bluez.inbox = m :: rest) {a : BroadcastAdvertiser}
    (flag : a.advRegistered = (s.advertiser.advRegistered && decide (m = .registered))) :
    Stage built { s with advertiser := a, bluez := { s.bluez with inbox := rest } } := by
  cases stage with
  | before bluez air clear count =>
      rw [bluez] at inbox
      cases inbox
  | asked bluez air set count =>
      rw [bluez] at inbox
      cases inbox
  | held inbox' bluez granted air set count =>
      rw [bluez] at inbox ⊢
      cases inbox
      refine .held rest rfl (fun m mem => granted m (List.mem_cons_of_mem _ mem)) air
        (fun current => ?_) count
      rw [granted m List.mem_cons_self, set current] at flag
      exact flag
  | past inbox' bluez air stale count =>
      rw [bluez] at inbox ⊢
      cases inbox
      refine .past rest rfl air (fun set => ?_) count
      rw [flag, Bool.and_eq_true, decide_eq_true_iff] at set
      obtain ⟨before, rfl⟩ := set
      rcases stale before with lost | ⟨m, mem, other⟩
      · exact .inl lost
      · exact .inr ⟨m, List.mem_of_ne_of_mem other mem, other⟩

theorem Inv.dispatch (inv : Inv built s)
    (step : Broadcast.step built destructible s .dispatch = some t) : Inv built t := by
  obtain ⟨here, step⟩ := Option.ite_none_left_eq_some.mp step
  split at step
  · cases step
  next rest inbox =>
    cases step
    exact ⟨inv.stage.heard inbox (Bool.and_true _).symm, inv.bus, inv.detached, inv.told,
      fun ended => absurd ended here, inv.payload, inv.first⟩
  next rest inbox =>
    cases step
    exact ⟨inv.stage.heard inbox (Bool.and_false _).symm, nofun, inv.detached, fun _ => rfl,
      fun ended => absurd ended here, inv.payload, inv.first⟩
  next rest inbox =>
    cases step
    exact ⟨inv.stage.heard inbox (Bool.and_false _).symm, nofun, inv.detached, fun _ => rfl,
      fun ended => absurd ended here, inv.payload, inv.first⟩

theorem Inv.detach (inv : Inv built s)
    (step : Broadcast.step built destructible s .detach = some t) : Inv built t := by
  obtain ⟨able, step⟩ := Option.ite_none_left_eq_some.mp step
  cases step
  have alive : s.lifetime = .alive := by
    by_contra other
    exact able (by simp [other])
  refine ⟨inv.stage.of_same id fun _ => ⟨by rw [alive]; rfl, rfl⟩, inv.bus, fun _ => rfl, ?_, nofun,
    fun known => ?_, inv.first⟩
  · rintro (late | ended)
    · exact inv.told (.inl late)
    · cases ended
  · rcases known with attached | known
    · cases attached
    · exact inv.payload (.inr known)

/-- What BlueZ has, while the flag is not set although the advertiser is current. -/
theorem Inv.none_of_unset (inv : Inv built s) (current : s.Current)
    (unset : s.advertiser.advRegistered = false) :
    s.bluez.waiting = 0 ∧ s.bluez.held = false := by
  cases inv.stage with
  | before bluez air clear count =>
      rw [bluez]
      exact ⟨rfl, rfl⟩
  | asked bluez air set count => exact absurd (unset.symm.trans (set current)) nofun
  | held inbox bluez granted air set count =>
      exact absurd (unset.symm.trans (set current)) nofun
  | past inbox bluez air stale count =>
      rw [bluez]
      exact ⟨rfl, rfl⟩

theorem Inv.destroy (inv : Inv built s) {unregisters : Bool}
    (step : Broadcast.step built destructible s (.destroy unregisters) = some t) :
    Inv built t := by
  obtain ⟨able, step⟩ := Option.ite_none_left_eq_some.mp step
  have detached : s.lifetime = .detached := by simpa using able
  have off : s.advertiser.attached = false := inv.detached (by rw [detached]; nofun)
  rw [BroadcastAdvertiser.unregisterAdvertisement_eq] at step
  cases flag : s.advertiser.advRegistered with
  | false =>
      rw [flag] at step
      cases step
      refine ⟨inv.stage.of_same nofun nofun, nofun, fun _ => off, fun _ => rfl, ?_, inv.payload,
        inv.first⟩
      rintro - (⟨current, -⟩ | other)
      · exact inv.none_of_unset ⟨by rw [detached]; rfl, current⟩ flag
      · cases other
  | true =>
      rw [flag, inv.bus flag] at step
      cases unregisters with
      | false =>
          cases step
          refine ⟨inv.stage.of_same nofun nofun, nofun, fun _ => off, fun _ => rfl, ?_, inv.payload,
            inv.first⟩
          rintro - (⟨-, kept⟩ | other)
          · cases kept
          · cases other
      | true =>
          cases step
          refine ⟨?_, nofun, fun _ => off, fun _ => rfl, fun _ _ => ⟨rfl, rfl⟩, inv.payload,
            inv.first⟩
          cases inv.stage with
          | before bluez air clear count => exact absurd (flag.symm.trans clear) nofun
          | asked bluez air set count =>
              rw [bluez]
              exact .past [] rfl rfl nofun count
          | held inbox bluez granted air set count =>
              rw [bluez]
              exact .past inbox rfl rfl nofun count
          | past inbox bluez air stale count =>
              rw [bluez]
              exact .past inbox rfl rfl nofun count

theorem Inv.disconnect (inv : Inv built s)
    (step : Broadcast.step built destructible s .disconnect = some t) : Inv built t := by
  obtain ⟨able, step⟩ := Option.ite_none_left_eq_some.mp step
  have destroyed : s.lifetime = .destroyed := by simpa using able
  cases step
  have unset : s.advertiser.advRegistered = false := inv.told (.inr (by rw [destroyed]; rfl))
  have stale : s.advertiser.advRegistered = true →
      s.lost = true ∨ ∃ m ∈ ([] : List BlueZMessage), m ≠ .registered :=
    fun set => absurd (unset.symm.trans set) nofun
  refine ⟨?_, inv.bus, fun _ => inv.detached (by rw [destroyed]; nofun), fun _ => unset,
    fun _ _ => ⟨rfl, rfl⟩, inv.payload, inv.first⟩
  cases inv.stage with
  | before bluez air clear count => exact .before rfl rfl unset count
  | asked bluez air set count => exact .past [] rfl rfl stale count
  | held inbox bluez granted air set count => exact .past [] rfl rfl stale count
  | past inbox bluez air stale' count => exact .past [] rfl rfl stale count

/-- **A step keeps the invariant.** -/
theorem Inv.step (inv : Inv built s) {l : BroadcastLabel}
    (step : Broadcast.step built destructible s l = some t) : Inv built t := by
  cases l with
  | setup => exact inv.setup step
  | copy => exact inv.copy step
  | pass env => exact inv.pass step
  | process accept => exact inv.process step
  | timeout => exact inv.timeout step
  | release => exact inv.release step
  | lose => exact inv.lose step
  | dispatch => exact inv.dispatch step
  | detach => exact inv.detach step
  | destroy unregisters => exact inv.destroy step
  | disconnect => exact inv.disconnect step

theorem inv_of_reachable (reachable : (machine built destructible).Reachable s) : Inv built s := by
  refine reachable.invariant (fun s start => ?_) fun s l t inv _ step => inv.step step
  cases start
  refine ⟨.before rfl rfl rfl rfl, nofun, nofun, fun _ => rfl, nofun, ?_, fun _ => ⟨rfl, rfl⟩⟩
  rintro (attached | listed | started)
  · cases attached
  · cases listed
  · cases started

/-- **The one registration**, in every run. -/
theorem broadcast_sound (reachable : (machine built destructible).Reachable s) : Sound built s :=
  (inv_of_reachable reachable).sound

/-- The worker passes its copy of the list after the destructor has begun; BlueZ grants what the bus
has stopped waiting for, and drops it when the connection is closed. -/
def sampleLabels : List BroadcastLabel :=
  [.setup, .copy, .detach, .pass ⟨true, true, true, true⟩, .timeout, .process true, .destroy true,
    .disconnect]

theorem broadcast_sound_sample : ∃ s, (machine [0x40] true).run {} sampleLabels = some s ∧
    s.registrations = 1 ∧ Sound [0x40] s := by
  obtain ⟨s, ran, count⟩ : ∃ s, (machine [0x40] true).run {} sampleLabels = some s ∧
      s.registrations = 1 := ⟨_, rfl, rfl⟩
  exact ⟨s, ran, count, broadcast_sound ⟨_, rfl, Machine.run_reach ran⟩⟩

end Broadcast

end EsphomeHost

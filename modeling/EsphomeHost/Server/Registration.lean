import EsphomeHost.Lib.Machine
import EsphomeHost.Server.Tree

/-!
# The registration of the advertisement

BlueZ answers `RegisterAdvertisement` later, in the order of the calls, and
`UnregisterAdvertisement` at once; in between the server only has the flag `adv_registered_` to go
by.

* `AdvertisingManager`: the registrations it has yet to look at, what is on the way to the worker,
  and whether it holds a registration.
* `Tracked`: with no reply outstanding the flag says what BlueZ holds, so that the next update
  unregisters it.
* `tracked_of_current`: **the flag is right in every run in which an error reply is dispatched
  before the registration it answers has been superseded**.
* `not_tracked_superseded`: an error reply that is dispatched later clears the flag of the
  registration that has superseded its own.
-/

namespace EsphomeHost

/-- What BlueZ sends to the worker about the advertisement. -/
inductive BlueZMessage
  | registered
  | rejected
  | release
deriving DecidableEq

/-- `waiting` counts the registrations not yet looked at; `inbox` is on the way to the worker. -/
structure AdvertisingManager where
  waiting : Nat := 0
  inbox : List BlueZMessage := []
  held : Bool := false
deriving DecidableEq

namespace AdvertisingManager

/-- A call of the worker.  The worker waits for the answers to `UnregisterAdvertisement` and to the
power switch, which BlueZ gives after it has looked at everything before.  Whether a registration is
lost when the power goes off is the environment's choice. -/
def take (drop : Bool) (b : AdvertisingManager) : BusCall → Option AdvertisingManager
  | .registerApplication | .valueChanged _ => some b
  | .registerAdvertisement => some { b with waiting := b.waiting + 1 }
  | .unregisterAdvertisement => if b.waiting = 0 then some { b with held := false } else none
  | .setPowered on =>
      if b.waiting = 0 then some { b with held := b.held && (on || !drop) } else none

def takeAll (drop : Bool) : AdvertisingManager → List BusCall → Option AdvertisingManager
  | b, [] => some b
  | b, c :: calls => (b.take drop c).bind fun b => b.takeAll drop calls

/-- BlueZ looks at the first registration that waits: it rejects a duplicate, and may reject any. -/
def process (accept : Bool) (b : AdvertisingManager) : Option AdvertisingManager :=
  if b.waiting = 0 then none
  else if b.held || !accept then
    some { b with waiting := b.waiting - 1, inbox := b.inbox ++ [.rejected] }
  else
    some { waiting := b.waiting - 1, inbox := b.inbox ++ [.registered], held := true }

/-- A reply to a registration is still to come or on the way. -/
def Outstanding (b : AdvertisingManager) : Prop := b.waiting ≠ 0 ∨ ∃ m ∈ b.inbox, m ≠ .release

instance (b : AdvertisingManager) : Decidable b.Outstanding :=
  inferInstanceAs (Decidable (_ ∨ ∃ m ∈ b.inbox, m ≠ .release))

end AdvertisingManager

/-- The server and BlueZ. -/
structure Advertising (κ : Type) where
  server : BLEGattServer κ
  bluez : AdvertisingManager := {}

inductive AdvertisingLabel (κ : Type)
  /-- `on_advertising_changed`, on the main thread. -/
  | changed (adv : HostAdvertisement)
  | notify (chr : κ) (value : List UInt8)
  | pass (env : BusOutcome)
  /-- A central disconnects. -/
  | disconnected
  | timer (env : BusOutcome)
  | process (accept : Bool)
  /-- BlueZ drops the registration and calls `Release`, which arrives at once or `late`. -/
  | release (late : Bool)
  /-- The worker dispatches the first message. -/
  | dispatch (env : BusOutcome) (drop : Bool)

namespace Advertising

variable {κ : Type}

/-- The calls of a function reach BlueZ. -/
def sent (drop : Bool) (b : AdvertisingManager) (r : BLEGattServer κ × List BusCall) :
    Option (Advertising κ) :=
  (b.takeAll drop r.2).map fun b => ⟨r.1, b⟩

def step (s : Advertising κ) : AdvertisingLabel κ → Option (Advertising κ)
  | .changed adv => some { s with server := s.server.onAdvertisingChanged adv }
  | .notify chr value => some { s with server := s.server.notifyCharacteristic chr value }
  | .pass env => sent false s.bluez (s.server.workerProcessCommands env)
  | .disconnected => some { s with server := s.server.scheduleReadvertise }
  | .timer env =>
      if s.server.readvTimer then sent false s.bluez (s.server.onReadvertiseTimer env) else none
  | .process accept => (s.bluez.process accept).map fun b => { s with bluez := b }
  | .release late =>
      if !s.bluez.held then none
      else if late then
        some { s with
          bluez := { s.bluez with held := false, inbox := s.bluez.inbox ++ [.release] } }
      else some ⟨s.server.advRelease, { s.bluez with held := false }⟩
  | .dispatch env drop =>
      match s.bluez.inbox with
      | [] => none
      | .registered :: rest =>
          sent drop { s.bluez with inbox := rest } (s.server.onRegisterAdvReply true env)
      | .rejected :: rest =>
          sent drop { s.bluez with inbox := rest } (s.server.onRegisterAdvReply false env)
      | .release :: rest => some ⟨s.server.advRelease, { s.bluez with inbox := rest }⟩

/-- The server from its start on. -/
def machine (κ : Type) [DecidableEq κ] : Machine (Advertising κ) (AdvertisingLabel κ) where
  init s := ∃ services, s = { server := BLEGattServer.start services {} }
  step := step

/-- With no reply outstanding the flag is right, so an update unregisters what is registered. -/
structure Tracked (s : Advertising κ) : Prop where
  registered : ¬ s.bluez.Outstanding → (s.server.advRegistered = true ↔ s.bluez.held = true)
  unregisters : ¬ s.bluez.Outstanding → s.bluez.held = true → ∀ env,
    (s.server.registerAdvertisement env).2.head? = some .unregisterAdvertisement

/-- The condition on a step: `Release` is dispatched at once, and an error reply only while BlueZ
has no registration and looks at none.  It may have one if the worker is about to power-cycle the
adapter and the registration is lost by that. -/
def Current (s : Advertising κ) : AdvertisingLabel κ → Prop
  | .release late => late = false
  | .dispatch _ drop => s.bluez.inbox.head? = some .rejected →
      (s.bluez.waiting = 0 ∧ s.bluez.held = false) ∨
        (s.server.readvPowerCycled = false ∧ drop = true)
  | .changed _ | .notify _ _ | .pass _ | .disconnected | .timer _ | .process _ => True

instance (s : Advertising κ) (l : AdvertisingLabel κ) : Decidable (s.Current l) := by
  cases l <;> unfold Current <;> infer_instance

/-! ## What reaches BlueZ -/

theorem takeAll_append (drop : Bool) (b : AdvertisingManager) (calls calls' : List BusCall) :
    b.takeAll drop (calls ++ calls') = (b.takeAll drop calls).bind (·.takeAll drop calls') := by
  induction calls generalizing b with
  | nil => rfl
  | cons c calls ih =>
      rw [List.cons_append, AdvertisingManager.takeAll, AdvertisingManager.takeAll,
        Option.bind_assoc]
      exact congrArg _ (funext ih)

theorem takeAll_quiet (drop : Bool) (b : AdvertisingManager) {calls : List BusCall}
    (quiet : ∀ c ∈ calls, BusCall.Quiet c) : b.takeAll drop calls = some b := by
  induction calls with
  | nil => rfl
  | cons c calls ih =>
      have rest := ih fun c mem => quiet c (List.mem_cons_of_mem _ mem)
      rcases quiet c List.mem_cons_self with rfl | ⟨path, rfl⟩
      · exact rest
      · exact rest

/-- Calls that have nothing to do with the advertisement do not matter. -/
theorem sent_quiet (drop : Bool) (b : AdvertisingManager) (server : BLEGattServer κ)
    {quiet calls : List BusCall} (idle : ∀ c ∈ quiet, BusCall.Quiet c) :
    sent drop b (server, quiet ++ calls) = sent drop b (server, calls) := by
  rw [sent, sent, takeAll_append, takeAll_quiet drop b idle]
  rfl

/-! ## The invariant -/

/-- At most one registration waits, and then nothing is held; without the flag there is neither;
with the flag one is held or waits, or its rejection is the last message on the way. -/
structure Sound (s : Advertising κ) : Prop where
  single : s.bluez.waiting ≠ 0 →
    s.bluez.waiting = 1 ∧ s.bluez.held = false ∧ s.server.advRegistered = true
  clear : s.server.advRegistered = false → s.bluez.waiting = 0 ∧ s.bluez.held = false
  cause : s.server.advRegistered = true →
    s.bluez.held = true ∨ s.bluez.waiting ≠ 0 ∨ s.bluez.inbox.getLast? = some .rejected
  closed : s.server.busOpen = false → s.server.advRegistered = false ∧ s.bluez.inbox = []
  replies : .release ∉ s.bluez.inbox

variable {s t : Advertising κ}

theorem Sound.flag_of_held (sound : Sound s) (held : s.bluez.held = true) :
    s.server.advRegistered = true := by
  by_contra clear
  have none := (sound.clear (Bool.eq_false_of_not_eq_true clear)).2
  rw [held] at none
  cases none

theorem Sound.waiting_of_held (sound : Sound s) (held : s.bluez.held = true) :
    s.bluez.waiting = 0 := by
  by_contra waits
  have none := (sound.single waits).2.1
  rw [held] at none
  cases none

theorem Sound.open_of_flag (sound : Sound s) (flag : s.server.advRegistered = true) :
    s.server.busOpen = true := by
  by_contra shut
  have none := (sound.closed (Bool.eq_false_of_not_eq_true shut)).1
  rw [flag] at none
  cases none

/-- **The invariant says what the flag is good for.** -/
theorem Sound.tracked (sound : Sound s) : Tracked s := by
  constructor
  · intro settled
    obtain ⟨quiet, answered⟩ := not_or.mp settled
    refine ⟨fun flag => ?_, sound.flag_of_held⟩
    rcases sound.cause flag with held | waits | rejected
    · exact held
    · exact absurd waits quiet
    · have mem := List.mem_of_getLast? rejected
      exact absurd ⟨_, mem, nofun⟩ answered
  · intro settled held env
    have flag := sound.flag_of_held held
    have bus := sound.open_of_flag flag
    rcases BLEGattServer.registerAdvertisement_cases env s.server with
      ⟨shut, -⟩ | ⟨-, slot, sent, same⟩
    · rw [bus] at shut
      cases shut
    · rw [same, flag]
      rfl

/-- Only the flag, the bus and BlueZ matter. -/
theorem Sound.of_same (sound : Sound s) {server : BLEGattServer κ}
    (flag : server.advRegistered = s.server.advRegistered)
    (bus : server.busOpen = false → s.server.busOpen = false) :
    Sound { s with server := server } := by
  refine ⟨?_, ?_, ?_, ?_, sound.replies⟩
  · rw [flag]
    exact sound.single
  · rw [flag]
    exact sound.clear
  · rw [flag]
    exact sound.cause
  · intro shut
    rw [flag]
    exact sound.closed (bus shut)

/-- After a registration that was `sent`, or not, with nothing held. -/
theorem sound_fresh {server : BLEGattServer κ} {inbox : List BlueZMessage} {sent : Bool}
    (flag : server.advRegistered = sent) (bus : server.busOpen = true)
    (replies : .release ∉ inbox) :
    Sound ⟨server, { waiting := if sent then 1 else 0, inbox := inbox }⟩ := by
  have shut : server.busOpen ≠ false := by rw [bus]; exact nofun
  cases sent with
  | true => exact ⟨fun _ => ⟨rfl, rfl, flag⟩, fun clear => absurd (flag.symm.trans clear) nofun,
      fun _ => .inr (.inl Nat.one_ne_zero), fun h => absurd h shut, replies⟩
  | false => exact ⟨fun waits => absurd rfl waits, fun _ => ⟨rfl, rfl⟩,
      fun set => absurd (flag.symm.trans set) nofun, fun h => absurd h shut, replies⟩

/-! ## One step -/

theorem blank_of_clear {b : AdvertisingManager} (idle : b.waiting = 0) (none : b.held = false) :
    b = { inbox := b.inbox } := by
  obtain ⟨waiting, inbox, held⟩ := b
  cases idle
  cases none
  rfl

/-- A new registration, if it is sent, waits. -/
theorem takeAll_new (drop : Bool) (inbox : List BlueZMessage) (new : Bool) :
    AdvertisingManager.takeAll drop { inbox := inbox }
        (if new then [.registerAdvertisement] else []) =
      some { waiting := if new then 1 else 0, inbox := inbox } := by
  cases new <;> rfl

/-- Unregistering, if there is something to unregister, leaves nothing. -/
theorem Sound.cleared (sound : Sound s) {drop : Bool} {b : AdvertisingManager}
    (taken : s.bluez.takeAll drop
      (if s.server.advRegistered then [.unregisterAdvertisement] else []) = some b) :
    b = { inbox := s.bluez.inbox } := by
  by_cases flag : s.server.advRegistered = true
  · rw [if_pos flag, AdvertisingManager.takeAll] at taken
    obtain ⟨mid, first, second⟩ := Option.bind_eq_some_iff.mp taken
    obtain ⟨idle, first⟩ := Option.ite_none_right_eq_some.mp first
    cases first
    cases second
    exact blank_of_clear idle rfl
  · obtain ⟨idle, none⟩ := sound.clear (Bool.eq_false_of_not_eq_true flag)
    rw [if_neg flag] at taken
    cases taken
    exact blank_of_clear idle none

/-- Registering keeps the invariant, whatever has become of the registration before. -/
theorem Sound.register (sound : Sound s) {drop : Bool} {env : BusOutcome}
    (step : sent drop s.bluez (s.server.registerAdvertisement env) = some t) : Sound t := by
  obtain ⟨b, taken, rfl⟩ := Option.map_eq_some_iff.mp step
  rcases BLEGattServer.registerAdvertisement_cases env s.server with
    ⟨-, same⟩ | ⟨bus, slot, new, same⟩
  · rw [same] at taken ⊢
    cases taken
    exact sound
  · rw [same] at taken ⊢
    rw [takeAll_append] at taken
    obtain ⟨mid, first, second⟩ := Option.bind_eq_some_iff.mp taken
    rw [sound.cleared first, takeAll_new] at second
    cases second
    exact sound_fresh rfl bus sound.replies

theorem Sound.pass (sound : Sound s) {env : BusOutcome}
    (step : sent false s.bluez (s.server.workerProcessCommands env) = some t) : Sound t := by
  obtain ⟨started, opened, chars, quiet, grows, idle, passed⟩ :=
    BLEGattServer.workerProcessCommands_cases env s.server
  rw [passed, sent_quiet _ _ _ idle, BLEGattServer.applyPending] at step
  have shut : opened = false → s.server.busOpen = false := fun shut => by
    by_contra bus
    rw [grows (Bool.eq_true_of_not_eq_false bus)] at shut
    cases shut
  split at step
  · exact Sound.register
      (@Sound.of_same _ _ sound { s.server with
        startRequested := false, commands := [], started := started, busOpen := opened
        chars := chars, advPending := false } rfl shut) step
  · cases step
    exact sound.of_same rfl shut

theorem Sound.process (sound : Sound s) {accept : Bool} {b : AdvertisingManager}
    (step : s.bluez.process accept = some b) : Sound { s with bluez := b } := by
  rw [AdvertisingManager.process] at step
  split at step
  · cases step
  next waits =>
    obtain ⟨one, none, flag⟩ := sound.single waits
    have shut : s.server.busOpen ≠ false := by rw [sound.open_of_flag flag]; exact nofun
    have reply : ∀ m : BlueZMessage, m ≠ .release → .release ∉ s.bluez.inbox ++ [m] := by
      intro m other mem
      rcases List.mem_append.mp mem with before | here
      · exact sound.replies before
      · exact other (List.mem_singleton.mp here).symm
    split at step
    · cases step
      refine ⟨fun waits => absurd (by rw [one]) waits,
        fun clear => absurd (flag.symm.trans clear) nofun,
        fun _ => .inr (.inr (List.getLast?_concat)), fun h => absurd h shut, reply _ nofun⟩
    · cases step
      exact ⟨fun waits => absurd (by rw [one]) waits,
        fun clear => absurd (flag.symm.trans clear) nofun,
        fun _ => .inl rfl, fun h => absurd h shut, reply _ nofun⟩

theorem Sound.release (sound : Sound s) (held : s.bluez.held = true) :
    Sound ⟨s.server.advRelease, { s.bluez with held := false }⟩ := by
  have idle := sound.waiting_of_held held
  exact ⟨fun waits => absurd idle waits, fun _ => ⟨idle, rfl⟩, nofun,
    fun shut => ⟨rfl, (sound.closed shut).2⟩, sound.replies⟩

/-- A success reply changes nothing that matters. -/
theorem Sound.accepted (sound : Sound s) {rest : List BlueZMessage}
    (head : s.bluez.inbox = .registered :: rest) :
    Sound ⟨{ s.server with readvPowerCycled := false }, { s.bluez with inbox := rest }⟩ := by
  have bus : s.server.busOpen ≠ false := fun shut => by
    have none := (sound.closed shut).2
    rw [head] at none
    cases none
  have replies := sound.replies
  rw [head] at replies
  refine ⟨sound.single, sound.clear, fun flag => ?_, fun shut => absurd shut bus,
    fun mem => replies (List.mem_cons_of_mem _ mem)⟩
  rcases sound.cause flag with held | waits | rejected
  · exact .inl held
  · exact .inr (.inl waits)
  · rw [head] at rejected
    cases rest with
    | nil => cases rejected
    | cons m rest =>
        rw [List.getLast?_cons_cons] at rejected
        exact .inr (.inr rejected)

/-- What a power cycle leaves: nothing held, and a new registration if it is sent. -/
theorem takeAll_powerCycle {drop : Bool} {b b' : AdvertisingManager} {new : Bool}
    (lost : b.held = false ∨ drop = true)
    (taken : b.takeAll drop (.setPowered false :: .setPowered true ::
      if new then [.registerAdvertisement] else []) = some b') :
    b' = { waiting := if new then 1 else 0, inbox := b.inbox } := by
  obtain ⟨off, first, taken⟩ := Option.bind_eq_some_iff.mp taken
  obtain ⟨idle, first⟩ := Option.ite_none_right_eq_some.mp first
  obtain ⟨on, second, taken⟩ := Option.bind_eq_some_iff.mp taken
  obtain ⟨-, second⟩ := Option.ite_none_right_eq_some.mp second
  cases first
  cases second
  have none : (b.held && (false || !drop)) = false := by
    rcases lost with none | drop
    · rw [none]
      rfl
    · rw [drop, Bool.not_true, Bool.or_false, Bool.and_false]
  rw [none, idle, Bool.false_and, takeAll_new] at taken
  cases taken
  rfl

/-- An error reply to the latest registration, or one whose registration the power cycle takes
along. -/
theorem Sound.rejected (sound : Sound s) {rest : List BlueZMessage} {env : BusOutcome} {drop : Bool}
    (head : s.bluez.inbox = .rejected :: rest)
    (current : (s.bluez.waiting = 0 ∧ s.bluez.held = false) ∨
      (s.server.readvPowerCycled = false ∧ drop = true))
    (step : sent drop { s.bluez with inbox := rest } (s.server.onRegisterAdvReply false env) =
      some t) : Sound t := by
  have bus : s.server.busOpen = true := by
    by_contra shut
    have none := (sound.closed (Bool.eq_false_of_not_eq_true shut)).2
    rw [head] at none
    cases none
  have replies : .release ∉ rest := fun mem =>
    sound.replies (head ▸ List.mem_cons_of_mem _ mem)
  obtain ⟨b, taken, rfl⟩ := Option.map_eq_some_iff.mp step
  by_cases cycled : s.server.readvPowerCycled = true
  · obtain ⟨idle, none⟩ := current.resolve_right fun h => by
      rw [cycled] at h
      cases h.1
    rw [BLEGattServer.onRegisterAdvReply_error env cycled] at taken ⊢
    cases taken
    rw [blank_of_clear (b := { s.bluez with inbox := rest }) idle none]
    exact @sound_fresh _ { s.server with advRegistered := false } _ false rfl bus replies
  · have unused := Bool.eq_false_of_not_eq_true cycled
    have lost : s.bluez.held = false ∨ drop = true := current.imp And.right And.right
    rcases BLEGattServer.powerCycleAdapter_cases env
        { s.server with advRegistered := false, readvPowerCycled := true } with
      ⟨shut, -⟩ | ⟨-, slot, new, same⟩
    · rw [bus] at shut
      cases shut
    · rw [BLEGattServer.onRegisterAdvReply_powerCycle env unused, same] at taken ⊢
      rw [@takeAll_powerCycle drop { s.bluez with inbox := rest } b new lost taken]
      exact sound_fresh rfl bus replies

/-- **A step that meets the condition keeps the invariant.** -/
theorem Sound.step (sound : Sound s) {l : AdvertisingLabel κ} (current : s.Current l)
    (step : s.step l = some t) : Sound t := by
  cases l with
  | changed adv =>
      cases step
      obtain ⟨adv', pending, same⟩ := BLEGattServer.onAdvertisingChanged_cases adv s.server
      rw [same]
      exact sound.of_same rfl id
  | notify chr value =>
      cases step
      obtain ⟨commands, same⟩ := BLEGattServer.notifyCharacteristic_cases chr value s.server
      rw [same]
      exact sound.of_same rfl id
  | pass env => exact sound.pass step
  | disconnected =>
      cases step
      exact sound.of_same rfl id
  | timer env =>
      obtain ⟨-, step⟩ := Option.ite_none_right_eq_some.mp step
      exact Sound.register
        (@Sound.of_same _ _ sound { s.server with readvTimer := false } rfl id) step
  | process accept =>
      obtain ⟨b, taken, rfl⟩ := Option.map_eq_some_iff.mp step
      exact sound.process taken
  | release late =>
      obtain ⟨held, step⟩ := Option.ite_none_left_eq_some.mp step
      rw [show late = false from current, if_neg Bool.false_ne_true] at step
      cases step
      exact sound.release (by simpa using held)
  | dispatch env drop =>
      simp only [Advertising.step] at step
      split at step
      · cases step
      next rest head =>
        obtain ⟨b, taken, rfl⟩ := Option.map_eq_some_iff.mp step
        cases taken
        exact sound.accepted head
      next rest head => exact sound.rejected head (current (by rw [head]; rfl)) step
      next rest head => exact absurd (head ▸ List.mem_cons_self) sound.replies

/-! ## Runs -/

theorem sound_init [DecidableEq κ] (init : (machine κ).init s) : Sound s := by
  obtain ⟨services, rfl⟩ := init
  have flag : (BLEGattServer.start services {}).advRegistered = false := by
    rw [BLEGattServer.start, BLEGattServer.buildTree, BLEGattServer.exportServices_eq]
  exact ⟨fun waits => absurd rfl waits, fun _ => ⟨rfl, rfl⟩,
    fun set => Bool.noConfusion (flag.symm.trans set), fun _ => ⟨flag, rfl⟩, List.not_mem_nil⟩

/-- **The flag says what BlueZ holds**, in every state of every run whose steps meet the condition:
whenever no reply to a registration is outstanding. -/
theorem tracked_of_current [DecidableEq κ] (run : (machine κ).ReachableUnder Current s) :
    Tracked s :=
  Sound.tracked <| run.invariant (I := Sound) (fun _ init => sound_init init)
    fun _ _ _ sound current step => sound.step current step

/-- A server without services, as it starts. -/
def bareServer : Advertising Unit := { server := BLEGattServer.start [] {} }

theorem bareServer_init : (machine Unit).init bareServer := ⟨[], rfl⟩

/-- An advertisement is pushed, and a pass of the worker registers it. -/
def update : List (AdvertisingLabel Unit) := [.changed { active := true }, .pass {}]

/-- The first registration is rejected, the adapter power-cycled and the next one accepted. -/
def recovered : List (AdvertisingLabel Unit) :=
  update ++ [.process false, .dispatch {} true, .process true, .dispatch {} false]

theorem tracked_recovered : ∃ s, (machine Unit).run bareServer recovered = some s ∧
    ¬ s.bluez.Outstanding ∧ s.bluez.held = true ∧ Tracked s := by
  have ran : ((machine Unit).guarded Current).run bareServer recovered = some _ := rfl
  refine ⟨_, rfl, ?_, rfl,
    tracked_of_current ⟨bareServer, bareServer_init, Machine.run_guarded_reach ran⟩⟩
  exact not_or.mpr ⟨not_not.mpr rfl, nofun⟩

/-- Two registrations are rejected, which uses up the power cycle.  A third is rejected too, but the
worker registers a fourth before it dispatches the reply. -/
def superseded : List (AdvertisingLabel Unit) :=
  update ++ [.process false, .dispatch {} true, .process false, .dispatch {} false] ++
    update ++ [.process false] ++ update ++ [.process true, .dispatch {} false, .dispatch {} false]

/-- BlueZ holds the fourth registration and no reply is outstanding, and the flag says that there is
none. -/
theorem not_tracked_superseded : ∃ s, (machine Unit).Reachable s ∧ ¬ s.bluez.Outstanding ∧
    s.bluez.held = true ∧ s.server.advRegistered = false ∧ ¬ Tracked s := by
  have ran : (machine Unit).run bareServer superseded = some _ := rfl
  have settled : ¬ AdvertisingManager.Outstanding { held := true } :=
    not_or.mpr ⟨not_not.mpr rfl, nofun⟩
  refine ⟨_, ⟨bareServer, bareServer_init, Machine.run_reach ran⟩, settled, rfl, rfl, ?_⟩
  intro tracked
  exact absurd ((tracked.registered settled).mpr rfl) nofun

end Advertising

end EsphomeHost

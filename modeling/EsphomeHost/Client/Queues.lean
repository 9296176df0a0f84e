import EsphomeHost.Client.Run

/-!
# The queues of a client

* `ClientRun.commands` and `ClientRun.events`: what is in the two queues, the events in the order in
  which `loop` dispatches them, with the local queue of a running `loop` first.
* `ClientRun.dispatched`: the event that a step hands to `dispatch_event_`.
* `queueMove`: **what a step does to the two queues.**  `loop` takes events out at the front, the
  worker adds them at the back, and every call queues at most one command.
-/

namespace EsphomeHost

/-- The command a call queues. -/
def ClientRequest.command : ClientRequest → HostGattCommand
  | pair => .pair
  | readCharacteristic handle => .readChar handle
  | writeCharacteristic handle data response => .writeChar handle data response
  | readDescriptor handle => .readDesc handle
  | writeDescriptor handle data response => .writeDesc handle data response
  | notifyCharacteristic handle enable => .setNotify handle enable
  | passkeyReply passkey => .passkeyReply passkey
  | confirmReply accept => .confirmReply accept
  | removeBond => .removeBond
  | readRssi => .readRssi

namespace BLEClientBase

variable {τ : Type} (c : BLEClientBase τ)

def commands : List (Stamped τ HostGattCommand) := c.host.elim [] (·.commands)

def events : List (Stamped τ HostGattEvent) := c.host.elim [] (·.events)

/-- `c'` has queued at most one more command, an allowed one. -/
structure Queues (allowed : HostGattCommand → Prop) (c c' : BLEClientBase τ) : Prop where
  events : c'.events = c.events
  commands : c'.commands = c.commands ∨
    ∃ cmd, allowed cmd ∧ c'.commands = c.commands ++ [⟨c.stamp, cmd⟩]

variable {c} {c' : BLEClientBase τ} {allowed : HostGattCommand → Prop}

theorem Queues.of_host (same : c'.host = c.host) : Queues allowed c c' :=
  ⟨congrArg (·.elim [] BLEGattHost.events) same,
    .inl (congrArg (·.elim [] BLEGattHost.commands) same)⟩

theorem Queues.congr {d e : BLEClientBase τ} (queues : Queues allowed c d)
    (same : e.host = d.host) : Queues allowed c e := by
  have events : e.events = d.events := congrArg (·.elim [] BLEGattHost.events) same
  have commands : e.commands = d.commands := congrArg (·.elim [] BLEGattHost.commands) same
  refine ⟨events.trans queues.events, ?_⟩
  rw [commands]
  exact queues.commands

theorem events_enqueue (c : BLEClientBase τ) (cmd : HostGattCommand) :
    (c.enqueue cmd).events = c.events := by
  unfold BLEClientBase.events enqueue
  cases c.host <;> rfl

theorem commands_enqueue (host : c.host.isSome = true) (cmd : HostGattCommand) :
    (c.enqueue cmd).commands = c.commands ++ [⟨c.stamp, cmd⟩] := by
  obtain ⟨h, host⟩ := Option.isSome_iff_exists.mp host
  show (c.host.map _).elim _ _ = c.host.elim _ _ ++ _
  rw [host]
  rfl

theorem queues_enqueue {cmd : HostGattCommand} (allow : allowed cmd) :
    Queues allowed c (c.enqueue cmd) := by
  cases host : c.host with
  | none =>
      refine .of_host ?_
      show c.host.map _ = c.host
      rw [host]
      rfl
  | some h =>
      have present : c.host.isSome = true := by rw [host]; rfl
      exact ⟨events_enqueue c cmd, .inr ⟨cmd, allow, commands_enqueue present cmd⟩⟩

theorem queues_connect (allow : allowed .connect) (now : UInt32) :
    Queues allowed c (c.connect now) := by
  cases host : c.host with
  | some h =>
      have same : (c.connect now).host = (c.enqueue .connect).host := by
        show some ((c.host.getD _).enqueueCommand _ _) = c.host.map _
        rw [host]
        rfl
      exact (queues_enqueue allow).congr same
  | none =>
      refine ⟨?_, .inr ⟨.connect, allow, ?_⟩⟩
      · show ((c.host.getD _).enqueueCommand _ _).events = c.host.elim _ _
        rw [host]
        rfl
      · show ((c.host.getD _).enqueueCommand _ _).commands = c.host.elim _ _ ++ _
        rw [host]
        rfl

theorem queues_unconditionalDisconnect (allow : allowed .disconnect) (now : UInt32) :
    Queues allowed c (c.unconditionalDisconnect now) :=
  (queues_enqueue allow).congr (d := c.enqueue .disconnect) rfl

theorem queues_disconnect (allow : allowed .disconnect) (now : UInt32) :
    Queues allowed c (c.disconnect now) := by
  rcases c.disconnect_cases now with ⟨-, same⟩ | ⟨-, same⟩ | ⟨-, -, same⟩
  · rw [same]
    exact .of_host rfl
  · rw [same]
    exact .of_host rfl
  · rw [same]
    exact queues_unconditionalDisconnect allow now

theorem queues_perform {r : ClientRequest} (allow : allowed r.command) :
    Queues allowed c (r.perform c) := by
  have one {d : BLEClientBase τ} (either : d = c ∨ d = c.enqueue r.command) :
      Queues allowed c d := by
    rcases either with rfl | rfl
    · exact .of_host rfl
    · exact queues_enqueue allow
  cases r with
  | pair | passkeyReply | confirmReply | removeBond => exact one (.inr rfl)
  | readRssi =>
      refine one ?_
      show c.readRssi = c ∨ c.readRssi = c.enqueue .readRssi
      unfold BLEClientBase.readRssi
      split
      · exact .inr rfl
      · exact .inl rfl
  | readCharacteristic | writeCharacteristic | readDescriptor | writeDescriptor
  | notifyCharacteristic => exact one (c.primitive_snd _)

theorem queues_dispatchEvent (allow : allowed .disconnect) (now : UInt32) (ev : HostGattEvent) :
    Queues allowed c (c.dispatchEvent now ev).1 := by
  cases ev with
  | connected =>
      unfold dispatchEvent
      dsimp only
      split
      · exact queues_unconditionalDisconnect allow now
      · exact .of_host rfl
  | _ => exact .of_host rfl

theorem queues_checkConnectTimeout (allow : allowed .disconnect) (now : UInt32) :
    Queues allowed c (c.checkConnectTimeout now).1 := by
  unfold checkConnectTimeout
  split
  · exact (queues_enqueue allow).congr (d := c.enqueue .disconnect) rfl
  · exact .of_host rfl

theorem queues_checkDisconnectTimeout (now : UInt32) :
    Queues allowed c (c.checkDisconnectTimeout now).1 := by
  unfold checkDisconnectTimeout
  split <;> exact .of_host rfl

end BLEClientBase

namespace ClientRun

variable {τ : Type} (s : ClientRun τ)

def commands : List (Stamped τ HostGattCommand) := s.client.commands

def events : List (Stamped τ HostGattEvent) := s.drained ++ s.client.events

/-- The event a step hands to `dispatch_event_`. -/
def dispatched : ClientLabel τ → Option (Stamped τ HostGattEvent)
  | .dispatch _ => s.drained.head?
  | .connectTimeout now =>
      if s.client.connectTimedOut now = true then
        some ⟨s.client.stamp, BLEClientBase.timeoutEvent⟩ else none
  | .disconnectTimeout now =>
      if s.client.disconnectTimedOut now = true then
        some ⟨s.client.stamp, BLEClientBase.timeoutEvent⟩ else none
  | _ => none

end ClientRun

/-- The pieces of `loop`. -/
def ClientLabel.ofLoop {τ : Type} : ClientLabel τ → Bool
  | .drain | .dispatch _ | .connectTimeout _ | .disconnectTimeout _ => true
  | _ => false

/-- The steps that take items out for good, and those in which the worker adds one. -/
def ClientLabel.transfers {τ : Type} : ClientLabel τ → Bool
  | .take | .dispatch _ | .post _ _ => true
  | _ => false

/-- The commands a step may queue. -/
def ClientLabel.Allows {τ : Type} (l : ClientLabel τ) (cmd : HostGattCommand) : Prop :=
  cmd = .connect ∨ cmd = .disconnect ∨ ∃ r, l = .request r ∧ cmd = r.command

/-- What a step does to the queues. -/
inductive QueueMove {τ : Type} (s : ClientRun τ) (l : ClientLabel τ) (t : ClientRun τ) : Prop
  | take (taken : l = .take) (commands : t.commands = []) (events : t.events = s.events)
  | post (x : Stamped τ HostGattEvent) (posted : l = .post x.stamp x.val)
      (commands : t.commands = s.commands) (events : t.events = s.events ++ [x])
  | pop (x : Stamped τ HostGattEvent) (now : UInt32) (popped : l = .dispatch now)
      (dispatched : s.dispatched l = some x) (events : s.events = x :: t.events)
      (queues : s.client.Queues l.Allows t.client)
  | keep (keeps : l.transfers = false) (events : t.events = s.events)
      (commands : t.commands = s.commands ∨
        ∃ cmd, l.Allows cmd ∧ t.commands = s.commands ++ [⟨s.client.stamp, cmd⟩])

variable {τ : Type}

/-- A step that only acts on the client. -/
theorem QueueMove.of_queues {s : ClientRun τ} {l : ClientLabel τ} {c : BLEClientBase τ}
    (keeps : l.transfers = false) (queues : s.client.Queues l.Allows c) :
    QueueMove s l { s with client := c } :=
  .keep keeps (congrArg (s.drained ++ ·) queues.events) queues.commands

/-- **What a step does to the two queues.** -/
theorem queueMove {s : ClientRun τ} {l : ClientLabel τ} {t : ClientRun τ × Option Int}
    (step : clientStep s l = some t) : QueueMove s l t.1 := by
  obtain ⟨client, drained⟩ := s
  have down : l.Allows .disconnect := .inr (.inl rfl)
  cases l with
  | connect now =>
      obtain rfl := Option.some.inj step
      exact .of_queues rfl (BLEClientBase.queues_connect (.inl rfl) now)
  | disconnect now =>
      obtain rfl := Option.some.inj step
      exact .of_queues rfl (BLEClientBase.queues_disconnect down now)
  | cancelPendingDisconnect =>
      obtain rfl := Option.some.inj step
      exact .of_queues rfl (.of_host rfl)
  | parseDevice device =>
      obtain rfl := Option.some.inj step
      refine .of_queues rfl ?_
      rcases client.parseDevice_cases device with same | ⟨-, -, -, -, same⟩
      · rw [same]
        exact .of_host rfl
      · rw [same]
        exact .of_host rfl
  | request r =>
      obtain rfl := Option.some.inj step
      exact .of_queues rfl (BLEClientBase.queues_perform (.inr (.inr ⟨r, rfl, rfl⟩)))
  | drain =>
      cases drained with
      | cons => cases step
      | nil =>
          obtain rfl := Option.some.inj step
          refine .keep rfl ?_ (.inl ?_)
          all_goals
            cases host : client.host with
            | none =>
                have same : client.drain = ([], client) := by
                  unfold BLEClientBase.drain
                  rw [host]
                rw [same]
            | some h =>
                have same : client.drain =
                    (h.events, { client with host := some { h with events := [] } }) := by
                  unfold BLEClientBase.drain
                  rw [host]
                  rfl
                rw [same]
                simp [ClientRun.events, ClientRun.commands, BLEClientBase.events,
                  BLEClientBase.commands, host]
  | dispatch now =>
      cases drained with
      | nil => cases step
      | cons e rest =>
          obtain rfl := Option.some.inj step
          have queues := BLEClientBase.queues_dispatchEvent (c := client) down now e.val
          refine .pop e now rfl rfl ?_ queues
          show e :: (rest ++ client.events) = e :: (rest ++ _)
          rw [queues.events]
  | connectTimeout now =>
      cases drained with
      | cons => cases step
      | nil =>
          obtain rfl := Option.some.inj step
          exact .of_queues (s := ⟨client, []⟩) rfl
            (BLEClientBase.queues_checkConnectTimeout down now)
  | disconnectTimeout now =>
      cases drained with
      | cons => cases step
      | nil =>
          obtain rfl := Option.some.inj step
          exact .of_queues (s := ⟨client, []⟩) rfl
            (BLEClientBase.queues_checkDisconnectTimeout now)
  | take =>
      obtain ⟨h, (host : client.host = some h), rfl⟩ := clientStep_take step
      refine .take rfl rfl ?_
      simp [ClientRun.events, BLEClientBase.events, host]
  | post stamp ev =>
      obtain ⟨h, (host : client.host = some h), rfl⟩ := clientStep_post step
      refine .post ⟨stamp, ev⟩ rfl ?_ ?_
      · simp [ClientRun.commands, BLEClientBase.commands, host, BLEGattHost.postEvent]
      · simp [ClientRun.events, BLEClientBase.events, host, BLEGattHost.postEvent]

/-- A queued event stays queued until it is dispatched. -/
theorem queued_of_step {s : ClientRun τ} {l : ClientLabel τ}
    {t : ClientRun τ × Option Int} (step : clientStep s l = some t)
    {x : Stamped τ HostGattEvent} (queued : x ∈ s.events) :
    x ∈ t.1.events ∨ s.dispatched l = some x := by
  cases queueMove step with
  | take _ _ events => exact .inl (events ▸ queued)
  | post _ _ _ events => exact .inl (events ▸ List.mem_append_left _ queued)
  | pop y _ _ dispatched events =>
      rw [events] at queued
      rcases List.mem_cons.mp queued with rfl | later
      · exact .inr dispatched
      · exact .inl later
  | keep _ events => exact .inl (events ▸ queued)

/-- `dispatch_event_` is called from `loop`. -/
theorem ofLoop_of_dispatched {s : ClientRun τ} {l : ClientLabel τ}
    {x : Stamped τ HostGattEvent} (dispatched : s.dispatched l = some x) : l.ofLoop = true := by
  cases l with
  | dispatch | connectTimeout | disconnectTimeout => rfl
  | _ => cases dispatched

end EsphomeHost

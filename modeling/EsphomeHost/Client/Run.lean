import EsphomeHost.Client.Base
import EsphomeHost.Lib.Machine

/-!
# Runs of one client

The atomic steps of a `BLEClientBase`: calls from the main thread, the pieces of its `loop`, and the
worker's accesses to the two queues.  `ClientRun.drained` is the local queue `loop` dispatches from,
so a call made by a hook between two dispatches is a step like any other.

* `clientStep` is the step function; it also returns the reason `on_disconnect_complete` is called
  with, if it is called.
* `run_loop`: the source's `loop` is a sequence of these steps.
* `clientStep_cases`: everything a step can do; a step that only moves queue items is `Quiet`.
-/

namespace EsphomeHost

namespace BLEClientBase

variable {τ : Type} (c : BLEClientBase τ)

/-! ## The pieces of `loop` -/

def checkConnectTimeout (now : UInt32) : BLEClientBase τ × Option Int :=
  if c.connectTimedOut now then (c.enqueue .disconnect).dispatchEvent now timeoutEvent
  else (c, none)

def checkDisconnectTimeout (now : UInt32) : BLEClientBase τ × Option Int :=
  if c.disconnectTimedOut now then c.dispatchEvent now timeoutEvent else (c, none)

/-- `loop`, when every `millis()` of the tick reads `now`. -/
def loop (now : UInt32) : BLEClientBase τ :=
  let (evs, c) := c.drain
  let c := evs.foldl (fun c e => (c.dispatchEvent now e.val).1) c
  let c := (c.checkConnectTimeout now).1
  (c.checkDisconnectTimeout now).1

end BLEClientBase

/-- The calls that queue a command and leave the state alone. -/
inductive ClientRequest
  | pair
  | readCharacteristic (handle : UInt16)
  | writeCharacteristic (handle : UInt16) (data : List UInt8) (response : Bool)
  | readDescriptor (handle : UInt16)
  | writeDescriptor (handle : UInt16) (data : List UInt8) (response : Bool)
  | notifyCharacteristic (handle : UInt16) (enable : Bool)
  | passkeyReply (passkey : UInt32)
  | confirmReply (accept : Bool)
  | removeBond
  | readRssi
deriving DecidableEq

def ClientRequest.perform {τ : Type} (c : BLEClientBase τ) : ClientRequest → BLEClientBase τ
  | pair => c.pair.2
  | readCharacteristic handle => (c.readCharacteristic handle).2
  | writeCharacteristic handle data response => (c.writeCharacteristic handle data response).2
  | readDescriptor handle => (c.readDescriptor handle).2
  | writeDescriptor handle data response => (c.writeDescriptor handle data response).2
  | notifyCharacteristic handle enable => (c.notifyCharacteristic handle enable).2
  | passkeyReply passkey => (c.passkeyReply passkey).2
  | confirmReply accept => (c.confirmReply accept).2
  | removeBond => c.removeBond.2
  | readRssi => c.readRssi

/-- A request queues at most one command. -/
theorem ClientRequest.perform_cases {τ : Type} (c : BLEClientBase τ) (r : ClientRequest) :
    r.perform c = c ∨ ∃ cmd, r.perform c = c.enqueue cmd := by
  cases r with
  | pair | passkeyReply | confirmReply | removeBond => exact .inr ⟨_, rfl⟩
  | readRssi =>
      show c.readRssi = c ∨ ∃ cmd, c.readRssi = c.enqueue cmd
      unfold BLEClientBase.readRssi
      split
      · exact .inr ⟨_, rfl⟩
      · exact .inl rfl
  | readCharacteristic | writeCharacteristic | readDescriptor | writeDescriptor
  | notifyCharacteristic => exact (c.primitive_snd _).imp id fun h => ⟨_, h⟩

/-! ## Steps -/

structure ClientRun (τ : Type) where
  client : BLEClientBase τ
  drained : List (Stamped τ HostGattEvent) := []
deriving DecidableEq

inductive ClientLabel (τ : Type)
  | connect (now : UInt32)
  | disconnect (now : UInt32)
  | cancelPendingDisconnect
  | parseDevice (device : ESPBTDevice)
  | request (r : ClientRequest)
  | drain
  | dispatch (now : UInt32)
  | connectTimeout (now : UInt32)
  | disconnectTimeout (now : UInt32)
  /-- The worker swaps the command queue out. -/
  | take
  /-- The worker posts an event. -/
  | post (stamp : τ) (ev : HostGattEvent)
deriving DecidableEq

variable {τ : Type}

def clientStep (s : ClientRun τ) : ClientLabel τ → Option (ClientRun τ × Option Int)
  | .connect now => some ({ s with client := s.client.connect now }, none)
  | .disconnect now => some ({ s with client := s.client.disconnect now }, none)
  | .cancelPendingDisconnect => some ({ s with client := s.client.cancelPendingDisconnect }, none)
  | .parseDevice device => some ({ s with client := (s.client.parseDevice device).2 }, none)
  | .request r => some ({ s with client := r.perform s.client }, none)
  | .drain =>
      match s.drained with
      | [] => some (⟨s.client.drain.2, s.client.drain.1⟩, none)
      | _ :: _ => none
  | .dispatch now =>
      match s.drained with
      | [] => none
      | e :: rest =>
          some (⟨(s.client.dispatchEvent now e.val).1, rest⟩, (s.client.dispatchEvent now e.val).2)
  | .connectTimeout now =>
      match s.drained with
      | [] => some (⟨(s.client.checkConnectTimeout now).1, []⟩,
          (s.client.checkConnectTimeout now).2)
      | _ :: _ => none
  | .disconnectTimeout now =>
      match s.drained with
      | [] => some (⟨(s.client.checkDisconnectTimeout now).1, []⟩,
          (s.client.checkDisconnectTimeout now).2)
      | _ :: _ => none
  | .take =>
      match s.client.host with
      | some h => some ({ s with client :=
          { s.client with host := some { h with commands := [] } } }, none)
      | none => none
  | .post stamp ev =>
      match s.client.host with
      | some h => some ({ s with client :=
          { s.client with host := some (h.postEvent stamp ev) } }, none)
      | none => none

/-- One client after `setup`. -/
def clientMachine (τ : Type) : Machine (ClientRun τ) (ClientLabel τ) where
  init s := ∃ c : BLEClientBase τ, c.host = none ∧ c.services = [] ∧ s = ⟨c.setup, []⟩
  step s l := (clientStep s l).map Prod.fst

/-- **The source's `loop` is a sequence of steps.** -/
theorem run_loop (c : BLEClientBase τ) (now : UInt32) :
    (clientMachine τ).run ⟨c, []⟩
        (.drain :: (List.replicate c.drain.1.length (.dispatch now) ++
          [.connectTimeout now, .disconnectTimeout now])) =
      some ⟨c.loop now, []⟩ := by
  have dispatches : ∀ (evs : List (Stamped τ HostGattEvent)) (c : BLEClientBase τ)
      (rest : List (ClientLabel τ)),
      (clientMachine τ).run ⟨c, evs⟩ (List.replicate evs.length (.dispatch now) ++ rest) =
        (clientMachine τ).run
          ⟨evs.foldl (fun c e => (c.dispatchEvent now e.val).1) c, []⟩ rest := by
    intro evs
    induction evs with
    | nil => intro c rest; rfl
    | cons e evs ih => intro c rest; exact ih _ rest
  exact dispatches c.drain.1 c.drain.2 _

/-! ## What a step does -/

/-- The steps that only move queue items. -/
def ClientLabel.isQuiet : ClientLabel τ → Bool
  | .request _ | .drain | .take | .post _ _ => true
  | _ => false

/-- The fields the state machine reads are unchanged. -/
structure Quiet (c c' : BLEClientBase τ) : Prop where
  state : c'.state = c.state
  services : c'.services = c.services
  wantDisconnect : c'.wantDisconnect = c.wantDisconnect
  autoConnect : c'.autoConnect = c.autoConnect
  address : c'.address = c.address
  stamp : c'.stamp = c.stamp

theorem Quiet.refl (c : BLEClientBase τ) : Quiet c c := ⟨rfl, rfl, rfl, rfl, rfl, rfl⟩

theorem quiet_perform (c : BLEClientBase τ) (r : ClientRequest) : Quiet c (r.perform c) := by
  rcases r.perform_cases c with same | ⟨cmd, queued⟩
  · rw [same]
    exact .refl c
  · rw [queued]
    exact ⟨rfl, rfl, rfl, rfl, rfl, rfl⟩

theorem quiet_drain (c : BLEClientBase τ) : Quiet c c.drain.2 := by
  unfold BLEClientBase.drain
  split
  · exact ⟨rfl, rfl, rfl, rfl, rfl, rfl⟩
  · exact .refl c

/-- The worker takes the commands of its own queue. -/
theorem clientStep_take {s : ClientRun τ} {t : ClientRun τ × Option Int}
    (step : clientStep s .take = some t) :
    ∃ h, s.client.host = some h ∧
      t = ({ s with client :=
        { s.client with host := some { h with commands := [] } } }, none) := by
  obtain ⟨client, drained⟩ := s
  cases host : client.host with
  | none => simp [clientStep, host] at step
  | some h =>
      simp only [clientStep, host, Option.some.injEq] at step
      exact ⟨h, rfl, step.symm⟩

theorem clientStep_post {s : ClientRun τ} {stamp : τ} {ev : HostGattEvent}
    {t : ClientRun τ × Option Int} (step : clientStep s (.post stamp ev) = some t) :
    ∃ h, s.client.host = some h ∧
      t = ({ s with client :=
        { s.client with host := some (h.postEvent stamp ev) } }, none) := by
  obtain ⟨client, drained⟩ := s
  cases host : client.host with
  | none => simp [clientStep, host] at step
  | some h =>
      simp only [clientStep, host, Option.some.injEq] at step
      exact ⟨h, rfl, step.symm⟩

/-- **Everything a step can do.** -/
theorem clientStep_cases {s : ClientRun τ} {l : ClientLabel τ} {t : ClientRun τ × Option Int}
    (step : clientStep s l = some t) :
    (∃ now, l = .connect now ∧ t = ({ s with client := s.client.connect now }, none)) ∨
    (∃ now, l = .disconnect now ∧ t = ({ s with client := s.client.disconnect now }, none)) ∨
    (l = .cancelPendingDisconnect ∧
      t = ({ s with client := s.client.cancelPendingDisconnect }, none)) ∨
    (∃ device, l = .parseDevice device ∧
      t = ({ s with client := (s.client.parseDevice device).2 }, none)) ∨
    (∃ now e rest, l = .dispatch now ∧ s.drained = e :: rest ∧
      t = (⟨(s.client.dispatchEvent now e.val).1, rest⟩,
        (s.client.dispatchEvent now e.val).2)) ∨
    (∃ now, l = .connectTimeout now ∧ s.drained = [] ∧
      t = (⟨(s.client.checkConnectTimeout now).1, []⟩, (s.client.checkConnectTimeout now).2)) ∨
    (∃ now, l = .disconnectTimeout now ∧ s.drained = [] ∧
      t = (⟨(s.client.checkDisconnectTimeout now).1, []⟩,
        (s.client.checkDisconnectTimeout now).2)) ∨
    (l.isQuiet = true ∧ t.2 = none ∧ Quiet s.client t.1.client) := by
  obtain ⟨client, drained⟩ := s
  cases l with
  | connect now => exact .inl ⟨now, rfl, (Option.some.inj step).symm⟩
  | disconnect now => exact .inr (.inl ⟨now, rfl, (Option.some.inj step).symm⟩)
  | cancelPendingDisconnect => exact .inr (.inr (.inl ⟨rfl, (Option.some.inj step).symm⟩))
  | parseDevice device =>
      exact .inr (.inr (.inr (.inl ⟨device, rfl, (Option.some.inj step).symm⟩)))
  | request r =>
      obtain rfl := Option.some.inj step
      iterate 7 right
      exact ⟨rfl, rfl, quiet_perform client r⟩
  | drain =>
      cases drained with
      | cons => cases step
      | nil =>
          obtain rfl := Option.some.inj step
          iterate 7 right
          exact ⟨rfl, rfl, quiet_drain client⟩
  | dispatch now =>
      cases drained with
      | nil => cases step
      | cons e rest =>
          iterate 4 right
          exact .inl ⟨now, e, rest, rfl, rfl, (Option.some.inj step).symm⟩
  | connectTimeout now =>
      cases drained with
      | cons => cases step
      | nil =>
          iterate 5 right
          exact .inl ⟨now, rfl, rfl, (Option.some.inj step).symm⟩
  | disconnectTimeout now =>
      cases drained with
      | cons => cases step
      | nil =>
          iterate 6 right
          exact .inl ⟨now, rfl, rfl, (Option.some.inj step).symm⟩
  | take =>
      iterate 7 right
      obtain ⟨h, -, rfl⟩ := clientStep_take step
      exact ⟨rfl, rfl, rfl, rfl, rfl, rfl, rfl, rfl⟩
  | post stamp ev =>
      iterate 7 right
      obtain ⟨h, -, rfl⟩ := clientStep_post step
      exact ⟨rfl, rfl, rfl, rfl, rfl, rfl, rfl, rfl⟩

/-- A timeout check does nothing or ends the attempt. -/
theorem checkConnectTimeout_cases (c : BLEClientBase τ) (now : UInt32) :
    c.checkConnectTimeout now = (c, none) ∨
      (c.state = .connecting ∧ (c.checkConnectTimeout now).1.state = .idle ∧
        (c.checkConnectTimeout now).1.services = [] ∧
          (c.checkConnectTimeout now).1.stamp = c.stamp ∧
            (c.checkConnectTimeout now).2 = some ESP_GATT_CONN_TIMEOUT) := by
  unfold BLEClientBase.checkConnectTimeout
  split
  · rename_i expired
    have state : c.state = .connecting := (of_decide_eq_true expired).1
    exact .inr ⟨state, rfl, rfl, rfl, rfl⟩
  · exact .inl rfl

theorem checkDisconnectTimeout_cases (c : BLEClientBase τ) (now : UInt32) :
    c.checkDisconnectTimeout now = (c, none) ∨
      (c.state = .disconnecting ∧ (c.checkDisconnectTimeout now).1.state = .idle ∧
        (c.checkDisconnectTimeout now).1.services = [] ∧
          (c.checkDisconnectTimeout now).1.stamp = c.stamp ∧
            (c.checkDisconnectTimeout now).2 = some ESP_GATT_CONN_TIMEOUT) := by
  unfold BLEClientBase.checkDisconnectTimeout
  split
  · rename_i expired
    have state : c.state = .disconnecting := (of_decide_eq_true expired).1
    exact .inr ⟨state, rfl, rfl, rfl, rfl⟩
  · exact .inl rfl

end EsphomeHost

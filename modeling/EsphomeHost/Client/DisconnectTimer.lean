import Mathlib.Data.UInt
import EsphomeHost.Client.BleClient
import EsphomeHost.Proxy.Requests

/-!
# The disconnect timer

`loop` ends a disconnect that has not been answered within `DISCONNECT_TIMEOUT_MS`, counted from
`disconnecting_started_`.  `set_disconnecting_` writes that field whenever it is called, also while
the client is already disconnecting.

* `TimedClient`: a client, what the other components keep for their calls to it, and a clock.
  `since` and `looped` are records for the proofs.
* `setEnabled_run` and `proxyLoop_run`: the calls are those of `BLEClient` and of `BluetoothProxy`.
* `timer_step`: what a step does to the timer.
* `timely_of_notRearmed`: **after a `loop` the client has been disconnecting for at most the
  timeout**, in every run that does not arm the timer again.
* `not_timely_down`: while the API is down the proxy arms it again every 100 ms, for ever.
-/

namespace EsphomeHost

/-! ## A client with a clock -/

/-- The `millis()` a step reads. -/
def ClientLabel.reads {τ : Type} : ClientLabel τ → Option UInt32
  | connect now | disconnect now | dispatch now | connectTimeout now | disconnectTimeout now =>
      some now
  | _ => none

/-- The last step of `loop`. -/
def ClientLabel.endsLoop {τ : Type} : ClientLabel τ → Bool
  | disconnectTimeout _ => true
  | _ => false

/-- A client, the flag of `BLEClient` and the timer of `BluetoothProxy::loop`.  `since` is the time
the client last entered `DISCONNECTING` from another state, and `looped` says that the last step
ended a `loop`. -/
structure TimedClient (τ : Type) where
  run : ClientRun τ
  enabled : Bool := true
  lastAdvertisementFlushTime : UInt32 := 0
  clock : UInt32 := 0
  since : UInt32 := 0
  looped : Bool := false
deriving DecidableEq

inductive TimedLabel (τ : Type)
  /-- Time passes. -/
  | tick (now : UInt32)
  | client (l : ClientLabel τ)
  | unconditionalDisconnect
  | setEnabled (enabled : Bool)
  /-- `listening`: the API server is connected and somebody is subscribed. -/
  | proxyLoop (listening : Bool)
  /-- The proxy reserves the slot or hands it to the tracker. -/
  | setState (st : ClientState)
  | setAddress (address : UInt64)
deriving DecidableEq

namespace TimedClient

variable {τ : Type} (s : TimedClient τ)

def state : ClientState := s.run.client.state

/-- The client moves on. -/
def moveTo (run : ClientRun τ) : TimedClient τ :=
  { s with
    run := run
    since := if run.client.state = .disconnecting ∧ s.state ≠ .disconnecting then s.clock
      else s.since
    looped := false }

/-- A call. -/
def call (f : BLEClientBase τ → BLEClientBase τ) : TimedClient τ :=
  s.moveTo { s.run with client := f s.run.client }

/-- `set_enabled`. -/
def setEnabled (enabled : Bool) : TimedClient τ :=
  if enabled = s.enabled then s.call id
  else if enabled = false ∧ s.state ≠ .idle then
    { s.call (·.disconnect s.clock) with enabled := enabled }
  else { s.call id with enabled := enabled }

/-- What `BluetoothProxy::loop` does to one slot. -/
def proxyLoop (listening : Bool) : TimedClient τ :=
  if s.clock - s.lastAdvertisementFlushTime < 100 then s.call id
  else
    let s := { s with lastAdvertisementFlushTime := s.clock }
    if listening = true then s.call id
    else if s.run.client.address ≠ 0 ∧ s.run.client.wantDisconnect = false then
      s.call (·.disconnect s.clock)
    else s.call id

/-- The clock is monotone, and every step reads it. -/
def step : TimedLabel τ → Option (TimedClient τ)
  | .tick now => if s.clock ≤ now then some { s.call id with clock := now } else none
  | .client l =>
      if l.reads = none ∨ l.reads = some s.clock then
        (clientStep s.run l).map fun r => { s.moveTo r.1 with looped := l.endsLoop }
      else none
  | .unconditionalDisconnect => some (s.call (·.unconditionalDisconnect s.clock))
  | .setEnabled enabled => some (s.setEnabled enabled)
  | .proxyLoop listening => some (s.proxyLoop listening)
  | .setState st => if st = .init ∨ st = .discovered then some (s.call (·.setState st)) else none
  | .setAddress address => some (s.call (·.setAddress address))

end TimedClient

variable {τ : Type} {s t : TimedClient τ} {l : TimedLabel τ}

/-- A client after `setup`. -/
def timedMachine (τ : Type) : Machine (TimedClient τ) (TimedLabel τ) where
  init s := (clientMachine τ).init s.run ∧ s.looped = false
  step s l := s.step l

/-- `set_enabled` is that of `BLEClient`. -/
theorem setEnabled_run (c : BLEClient) {s : TimedClient Unit} (run : s.run = c.run)
    (flag : s.enabled = c.enabled) (enabled : Bool) :
    (s.setEnabled enabled).run = (c.setEnabled enabled s.clock).run ∧
      (s.setEnabled enabled).enabled = (c.setEnabled enabled s.clock).enabled := by
  have state : s.state = ({ c with enabled := enabled } : BLEClient).state :=
    congrArg (·.client.state) run
  unfold TimedClient.setEnabled BLEClient.setEnabled
  rw [flag, state]
  by_cases same : enabled = c.enabled
  · rw [if_pos same, if_pos same]
    exact ⟨run, flag⟩
  · rw [if_neg same, if_neg same]
    dsimp only
    by_cases down : enabled = false ∧ ({ c with enabled := enabled } : BLEClient).state ≠ .idle
    · rw [if_pos down, if_pos down]
      refine ⟨?_, rfl⟩
      show ({ s.run with client := s.run.client.disconnect s.clock } : ClientRun Unit) = _
      rw [run]
      rfl
    · rw [if_neg down, if_neg down]
      exact ⟨run, rfl⟩

/-- What `BluetoothProxy::loop` does to its slots. -/
theorem proxyLoop_run {p : BluetoothProxy} {i : Nat} {c : BluetoothConnection}
    (here : p.connections[i]? = some c) {s : TimedClient Origin} (client : s.run.client = c.base)
    (flushed : s.lastAdvertisementFlushTime = p.lastAdvertisementFlushTime)
    {serverConnected listening : Bool}
    (listens : listening = true ↔ serverConnected = true ∧ p.apiConnection ≠ none) :
    ∃ d, (p.loop serverConnected s.clock).connections[i]? = some d ∧
      (s.proxyLoop listening).run.client = d.base := by
  unfold TimedClient.proxyLoop BluetoothProxy.loop
  rw [flushed]
  split
  · exact ⟨c, here, client⟩
  · dsimp only
    rw [client]
    by_cases hears : listening = true
    · rw [if_pos hears, if_pos (listens.mp hears)]
      refine ⟨c, ?_, client⟩
      rw [BluetoothProxy.flushPendingAdvertisements_connections]
      exact here
    · rw [if_neg hears, if_neg fun both => hears (listens.mpr both)]
      refine ⟨_, by rw [List.getElem?_map, here]; rfl, ?_⟩
      by_cases used : c.base.address ≠ 0 ∧ c.base.wantDisconnect = false
      · simp only [if_pos used]
        show s.run.client.disconnect s.clock = _
        rw [client]
        rfl
      · simp only [if_neg used]
        exact client

/-! ## What a step does to the timer -/

/-- The steps of the client that call `set_disconnecting_` if it is disconnecting. -/
def ClientRun.Rearms (r : ClientRun τ) : ClientLabel τ → Prop
  | .disconnect _ => True
  | .dispatch _ =>
      r.client.wantDisconnect = true ∧ r.drained.head?.map (·.val) = some .connected
  | _ => False

instance (r : ClientRun τ) : (l : ClientLabel τ) → Decidable (r.Rearms l)
  | .disconnect _ => isTrue trivial
  | .dispatch _ => inferInstanceAs (Decidable (_ ∧ _))
  | .connect _ | .cancelPendingDisconnect | .parseDevice _ | .request _ | .drain
  | .connectTimeout _ | .disconnectTimeout _ | .take | .post _ _ => isFalse id

namespace TimedClient

/-- The steps that call `set_disconnecting_` if the client is disconnecting. -/
def Rearms (s : TimedClient τ) : TimedLabel τ → Prop
  | .client l => s.run.Rearms l
  | .unconditionalDisconnect => True
  | .setEnabled enabled => enabled = false ∧ s.enabled = true
  | .proxyLoop listening =>
      ¬ s.clock - s.lastAdvertisementFlushTime < 100 ∧ listening = false ∧
        s.run.client.address ≠ 0 ∧ s.run.client.wantDisconnect = false
  | _ => False

instance (s : TimedClient τ) : (l : TimedLabel τ) → Decidable (s.Rearms l)
  | .client l => inferInstanceAs (Decidable (s.run.Rearms l))
  | .unconditionalDisconnect => isTrue trivial
  | .setEnabled _ | .proxyLoop _ => inferInstanceAs (Decidable (_ ∧ _))
  | .tick _ | .setState _ | .setAddress _ => isFalse id

/-- `set_disconnecting_` is not called while the client is disconnecting. -/
def NotRearmed (s : TimedClient τ) (l : TimedLabel τ) : Prop :=
  s.state = .disconnecting → ¬ s.Rearms l

instance (s : TimedClient τ) (l : TimedLabel τ) : Decidable (s.NotRearmed l) :=
  inferInstanceAs (Decidable (_ → _))

end TimedClient

/-- A client that is disconnecting after a step was so before it and its timer runs on, or the step
armed the timer. -/
theorem timer_clientStep {r : ClientRun τ} {l : ClientLabel τ} {u : ClientRun τ × Option Int}
    (step : clientStep r l = some u) (down : u.1.client.state = .disconnecting) :
    (r.client.state = .disconnecting ∧
      u.1.client.disconnectingStarted = r.client.disconnectingStarted) ∨
    (r.Rearms l ∧ l.reads = some u.1.client.disconnectingStarted) := by
  obtain ⟨client, drained⟩ := r
  cases l with
  | connect now =>
      obtain rfl := Option.some.inj step
      cases down
  | disconnect now =>
      obtain rfl := Option.some.inj step
      dsimp only at down ⊢
      rcases client.disconnect_cases now with ⟨-, same⟩ | ⟨-, same⟩ | ⟨-, -, same⟩
      · rw [same] at down ⊢
        exact .inl ⟨down, rfl⟩
      · rw [same] at down ⊢
        exact .inl ⟨down, rfl⟩
      · rw [same]
        exact .inr ⟨trivial, rfl⟩
  | cancelPendingDisconnect =>
      obtain rfl := Option.some.inj step
      exact .inl ⟨down, rfl⟩
  | parseDevice device =>
      obtain rfl := Option.some.inj step
      dsimp only at down ⊢
      rcases client.parseDevice_cases device with same | ⟨-, -, -, -, same⟩
      · rw [same] at down ⊢
        exact .inl ⟨down, rfl⟩
      · rw [same] at down
        cases down
  | request r =>
      obtain rfl := Option.some.inj step
      dsimp only at down ⊢
      rcases r.perform_cases client with same | ⟨cmd, same⟩
      · rw [same] at down ⊢
        exact .inl ⟨down, rfl⟩
      · rw [same] at down ⊢
        exact .inl ⟨down, rfl⟩
  | drain =>
      cases drained with
      | cons => cases step
      | nil =>
          obtain rfl := Option.some.inj step
          refine .inl ⟨(quiet_drain client).state ▸ down, ?_⟩
          show client.drain.2.disconnectingStarted = client.disconnectingStarted
          unfold BLEClientBase.drain
          split <;> rfl
  | dispatch now =>
      cases drained with
      | nil => cases step
      | cons e rest =>
          obtain rfl := Option.some.inj step
          obtain ⟨stamp, ev⟩ := e
          cases ev with
          | connected =>
              by_cases want : client.wantDisconnect = true
              · refine .inr ⟨⟨want, rfl⟩, ?_⟩
                simp only [BLEClientBase.dispatchEvent, if_pos want]
                rfl
              · simp only [BLEClientBase.dispatchEvent, if_neg want] at down
                cases down
          | servicesDiscovered | disconnected => cases down
          | _ => exact .inl ⟨down, rfl⟩
  | connectTimeout now =>
      cases drained with
      | cons => cases step
      | nil =>
          obtain rfl := Option.some.inj step
          rcases checkConnectTimeout_cases client now with same | ⟨-, idle, -⟩
          · rw [same] at down ⊢
            exact .inl ⟨down, rfl⟩
          · rw [idle] at down
            cases down
  | disconnectTimeout now =>
      cases drained with
      | cons => cases step
      | nil =>
          obtain rfl := Option.some.inj step
          rcases checkDisconnectTimeout_cases client now with same | ⟨-, idle, -⟩
          · rw [same] at down ⊢
            exact .inl ⟨down, rfl⟩
          · rw [idle] at down
            cases down
  | take =>
      obtain ⟨h, -, rfl⟩ := clientStep_take step
      exact .inl ⟨down, rfl⟩
  | post stamp ev =>
      obtain ⟨h, -, rfl⟩ := clientStep_post step
      exact .inl ⟨down, rfl⟩

/-- A client that is disconnecting in `t` was so in `s` and its timer runs on, or the timer was
armed, which `rearms` tells of a client that was disconnecting. -/
structure TimerMove (rearms : Prop) (s t : TimedClient τ) : Prop where
  clock : s.clock ≤ t.clock
  timer : t.state = .disconnecting →
    (s.state = .disconnecting ∧ t.since = s.since ∧
      t.run.client.disconnectingStarted = s.run.client.disconnectingStarted) ∨
    (t.run.client.disconnectingStarted = s.clock ∧
      (s.state = .disconnecting → rearms) ∧ (s.state ≠ .disconnecting → t.since = s.clock))

theorem TimerMove.of_run {rearms : Prop} {run : ClientRun τ}
    (moved : run.client.state = .disconnecting →
      (s.state = .disconnecting ∧
        run.client.disconnectingStarted = s.run.client.disconnectingStarted) ∨
      (rearms ∧ run.client.disconnectingStarted = s.clock)) :
    TimerMove rearms s (s.moveTo run) := by
  refine ⟨Std.le_refl s.clock, fun down => ?_⟩
  rcases moved down with ⟨already, runs⟩ | ⟨armed, started⟩
  · exact .inl ⟨already, if_neg fun entered => entered.2 already, runs⟩
  · exact .inr ⟨started, fun _ => armed, fun other => if_pos ⟨down, other⟩⟩

/-- A call that leaves the timer alone. -/
theorem TimerMove.of_kept {rearms : Prop} {f : BLEClientBase τ → BLEClientBase τ}
    (kept : (f s.run.client).state = .disconnecting → s.state = .disconnecting ∧
      (f s.run.client).disconnectingStarted = s.run.client.disconnectingStarted) :
    TimerMove rearms s (s.call f) := .of_run fun down => .inl (kept down)

/-- `disconnect`. -/
theorem TimerMove.of_disconnect {rearms : Prop} (armed : rearms) :
    TimerMove rearms s (s.call (·.disconnect s.clock)) := by
  refine .of_run fun down => ?_
  dsimp only at down ⊢
  rcases s.run.client.disconnect_cases s.clock with ⟨-, same⟩ | ⟨-, same⟩ | ⟨-, -, same⟩
  · rw [same] at down ⊢
    exact .inl ⟨down, rfl⟩
  · rw [same] at down ⊢
    exact .inl ⟨down, rfl⟩
  · rw [same]
    exact .inr ⟨armed, rfl⟩

/-- **What a step does to the timer.** -/
theorem timer_step (step : s.step l = some t) : TimerMove (s.Rearms l) s t := by
  have stays (rearms : Prop) : TimerMove rearms s (s.call id) := .of_kept fun down => ⟨down, rfl⟩
  cases l with
  | tick now =>
      obtain ⟨later, same⟩ := Option.ite_none_right_eq_some.mp step
      obtain rfl := Option.some.inj same
      exact ⟨later, (stays _).timer⟩
  | client l =>
      obtain ⟨reads, moved⟩ := Option.ite_none_right_eq_some.mp step
      obtain ⟨u, performed, rfl⟩ := Option.map_eq_some_iff.mp moved
      have move : TimerMove (s.run.Rearms l) s (s.moveTo u.1) := by
        refine .of_run fun down => ?_
        rcases timer_clientStep performed down with kept | ⟨armed, read⟩
        · exact .inl kept
        · rw [read] at reads
          exact .inr ⟨armed, Option.some.inj (reads.resolve_left (Option.some_ne_none _))⟩
      exact ⟨move.clock, move.timer⟩
  | unconditionalDisconnect =>
      obtain rfl := Option.some.inj step
      exact .of_run fun _ => .inr ⟨trivial, rfl⟩
  | setEnabled enabled =>
      obtain rfl := Option.some.inj step
      unfold TimedClient.setEnabled
      by_cases same : enabled = s.enabled
      · rw [if_pos same]
        exact stays _
      · rw [if_neg same]
        split
        · rename_i down
          have armed : s.Rearms (.setEnabled enabled) :=
            ⟨down.1, Bool.eq_true_of_not_eq_false fun off => same (down.1.trans off.symm)⟩
          have move := TimerMove.of_disconnect (s := s) armed
          exact ⟨move.clock, move.timer⟩
        · exact ⟨(stays True).clock, (stays _).timer⟩
  | proxyLoop listening =>
      obtain rfl := Option.some.inj step
      unfold TimedClient.proxyLoop
      by_cases early : s.clock - s.lastAdvertisementFlushTime < 100
      · rw [if_pos early]
        exact stays _
      · rw [if_neg early]
        dsimp only
        split
        · exact ⟨(stays True).clock, (stays _).timer⟩
        · rename_i silent
          split
          · rename_i used
            have armed : s.Rearms (.proxyLoop listening) :=
              ⟨early, Bool.eq_false_of_not_eq_true silent, used⟩
            have move := TimerMove.of_disconnect (s := s) armed
            exact ⟨move.clock, move.timer⟩
          · exact ⟨(stays True).clock, (stays _).timer⟩
  | setState st =>
      obtain ⟨handed, same⟩ := Option.ite_none_right_eq_some.mp step
      obtain rfl := Option.some.inj same
      refine .of_kept fun down => ?_
      rcases handed with rfl | rfl <;> cases down
  | setAddress address =>
      obtain rfl := Option.some.inj step
      exact .of_kept fun down => ⟨down, rfl⟩

/-! ## Runs that do not arm the timer again -/

/-- The timer of a client that is disconnecting counts from where it entered that state, and a
`loop` that left it so found it within the timeout. -/
structure TimedClient.Timely (s : TimedClient τ) : Prop where
  counted : s.state = .disconnecting →
    s.run.client.disconnectingStarted = s.since ∧ s.since ≤ s.clock
  bounded : s.looped = true → s.state = .disconnecting →
    s.clock - s.since ≤ DISCONNECT_TIMEOUT_MS

/-- A `loop` that leaves the client disconnecting found it within the timeout. -/
theorem within_of_looped (step : s.step l = some t) (looped : t.looped = true)
    (down : t.state = .disconnecting) :
    t.clock - t.run.client.disconnectingStarted ≤ DISCONNECT_TIMEOUT_MS := by
  cases l with
  | client l =>
      obtain ⟨reads, moved⟩ := Option.ite_none_right_eq_some.mp step
      obtain ⟨u, performed, rfl⟩ := Option.map_eq_some_iff.mp moved
      cases l with
      | disconnectTimeout now =>
          obtain rfl : now = s.clock := Option.some.inj (reads.resolve_left (Option.some_ne_none _))
          obtain ⟨⟨client, drained⟩, enabled, last, clock, since, before⟩ := s
          cases drained with
          | cons => cases performed
          | nil =>
              obtain rfl := Option.some.inj performed
              change (client.checkDisconnectTimeout clock).1.state = .disconnecting at down
              show clock - (client.checkDisconnectTimeout clock).1.disconnectingStarted ≤ _
              unfold BLEClientBase.checkDisconnectTimeout at down ⊢
              split at down
              · cases down
              · rename_i expired
                rw [if_neg expired]
                refine UInt32.not_lt.mp fun late => expired ?_
                exact decide_eq_true ⟨down, late⟩
      | _ => cases looped
  | tick now =>
      obtain ⟨-, same⟩ := Option.ite_none_right_eq_some.mp step
      obtain rfl := Option.some.inj same
      cases looped
  | setState st =>
      obtain ⟨-, same⟩ := Option.ite_none_right_eq_some.mp step
      obtain rfl := Option.some.inj same
      cases looped
  | unconditionalDisconnect | setAddress address =>
      obtain rfl := Option.some.inj step
      cases looped
  | setEnabled enabled =>
      obtain rfl := Option.some.inj step
      unfold TimedClient.setEnabled at looped
      split at looped
      · cases looped
      · split at looped <;> cases looped
  | proxyLoop listening =>
      obtain rfl := Option.some.inj step
      unfold TimedClient.proxyLoop at looped
      split at looped
      · cases looped
      · dsimp only at looped
        split at looped
        · cases looped
        · split at looped <;> cases looped

theorem timely_step (timely : s.Timely) (guard : s.NotRearmed l) (step : s.step l = some t) :
    t.Timely := by
  have move := timer_step step
  have counted : t.state = .disconnecting → t.run.client.disconnectingStarted = t.since ∧
      t.since ≤ t.clock := by
    intro down
    rcases move.timer down with ⟨already, since, runs⟩ | ⟨started, armed, entered⟩
    · obtain ⟨same, before⟩ := timely.counted already
      rw [since, runs]
      exact ⟨same, Std.le_trans before move.clock⟩
    · by_cases already : s.state = .disconnecting
      · exact absurd (armed already) (guard already)
      · rw [entered already, started]
        exact ⟨rfl, move.clock⟩
  refine ⟨counted, fun looped down => ?_⟩
  rw [← (counted down).1]
  exact within_of_looped step looped down

/-- **After a `loop` a client has been disconnecting for at most `DISCONNECT_TIMEOUT_MS`**, in every
run in which `set_disconnecting_` is never called while it is disconnecting. -/
theorem timely_of_notRearmed
    (run : (timedMachine τ).ReachableUnder TimedClient.NotRearmed s)
    (looped : s.looped = true) (down : s.state = .disconnecting) :
    s.since ≤ s.clock ∧ s.clock - s.since ≤ DISCONNECT_TIMEOUT_MS := by
  have timely : s.Timely := by
    refine run.invariant ?_ fun _ _ _ timely guard step => timely_step timely guard step
    rintro s ⟨⟨c, -, -, fresh⟩, looped⟩
    have idle : s.state = .idle := by
      rw [TimedClient.state, fresh]
      rfl
    refine ⟨fun down => ?_, fun _ down => ?_⟩ <;> rw [idle] at down <;> cases down
  exact ⟨(timely.counted down).2, timely.bounded looped down⟩

/-! ## A run that arms it again -/

/-- The worker of the client has posted no events. -/
def Silent (c : BLEClientBase τ) : Prop := ∀ h ∈ c.host, h.events = []

theorem drain_of_silent {c : BLEClientBase τ} (silent : Silent c) : c.drain = ([], c) := by
  obtain ⟨_, _, _, _, _, _, _, host⟩ := c
  cases host with
  | none => rfl
  | some h =>
      have none : h.events = [] := silent h rfl
      obtain ⟨_, _, _, _, events⟩ := h
      obtain rfl : events = [] := none
      rfl

theorem silent_enqueue {c : BLEClientBase τ} (silent : Silent c) (cmd : HostGattCommand) :
    Silent (c.enqueue cmd) := by
  intro h mem
  obtain ⟨before, there, rfl⟩ := Option.map_eq_some_iff.mp mem
  exact silent before there

/-- The client is disconnecting, its worker does not answer, and the loop of the proxy ran last. -/
structure TimedClient.Held (s : TimedClient τ) : Prop where
  down : s.state = .disconnecting
  used : s.run.client.address ≠ 0 ∧ s.run.client.wantDisconnect = false
  drained : s.run.drained = []
  silent : Silent s.run.client
  flushed : s.lastAdvertisementFlushTime = s.clock

/-- The labels of one round: 100 ms pass, the loop of the proxy runs and then that of the client. -/
def heldRound (now : UInt32) : List (TimedLabel τ) :=
  [.tick now, .proxyLoop false, .client .drain, .client (.connectTimeout now),
    .client (.disconnectTimeout now)]

theorem moveTo_of_down (down : s.state = .disconnecting) (run : ClientRun τ) :
    s.moveTo run = { s with run := run, looped := false } := by
  rw [TimedClient.moveTo, if_neg fun entered => entered.2 down]

/-- A step of the client that changes nothing but its worker. -/
theorem client_step {l : ClientLabel τ} {u : ClientRun τ × Option Int}
    (down : s.state = .disconnecting) (reads : l.reads = none ∨ l.reads = some s.clock)
    (step : clientStep s.run l = some u) :
    s.step (.client l) = some { s with run := u.1, looped := l.endsLoop } := by
  rw [TimedClient.step, if_pos reads, step, Option.map_some, moveTo_of_down down]

/-- **A round with the API down arms the timer again.** -/
theorem held_round (held : s.Held) (room : s.clock ≤ s.clock + 100) :
    ∃ t, (timedMachine τ).run s (heldRound (s.clock + 100)) = some t ∧ t.Held ∧
      t.looped = true ∧ t.since = s.since ∧ t.clock = s.clock + 100 := by
  obtain ⟨⟨client, drained⟩, enabled, last, clock, since, looped⟩ := s
  obtain ⟨down, used, empty, silent, flushed⟩ := held
  dsimp only [TimedClient.state] at down used empty silent flushed room
  subst empty flushed
  let now := last + 100
  let armed := client.unconditionalDisconnect now
  have waited : now - last = 100 := by
    show last + 100 - last = 100
    rw [UInt32.add_comm, UInt32.add_sub_cancel]
  have ticked : TimedClient.step ⟨⟨client, []⟩, enabled, last, last, since, looped⟩ (.tick now) =
      some ⟨⟨client, []⟩, enabled, last, now, since, false⟩ := by
    rw [TimedClient.step, if_pos room, TimedClient.call,
      moveTo_of_down (s := ⟨⟨client, []⟩, enabled, last, last, since, looped⟩) down]
    rfl
  have looping : TimedClient.step ⟨⟨client, []⟩, enabled, last, now, since, false⟩
      (.proxyLoop false) = some ⟨⟨armed, []⟩, enabled, now, now, since, false⟩ := by
    have again : client.disconnect now = armed := by
      rw [BLEClientBase.disconnect, if_neg (by rw [down]; decide), if_neg (by rw [down]; decide)]
    have due : ¬ now - last < 100 := by
      rw [waited]
      decide
    rw [TimedClient.step, TimedClient.proxyLoop, if_neg due, if_neg (by decide), if_pos used,
      TimedClient.call,
      moveTo_of_down (s := ⟨⟨client, []⟩, enabled, now, now, since, false⟩) down, again]
  have silent' : Silent armed := silent_enqueue (c := client.setDisconnecting now) silent _
  have quiet := drain_of_silent silent'
  have drains : TimedClient.step ⟨⟨armed, []⟩, enabled, now, now, since, false⟩ (.client .drain) =
      some ⟨⟨armed, []⟩, enabled, now, now, since, false⟩ := by
    rw [client_step (u := (⟨armed, []⟩, none)) rfl (.inl rfl)
      (by simp only [clientStep, quiet])]
    rfl
  have connects : TimedClient.step ⟨⟨armed, []⟩, enabled, now, now, since, false⟩
      (.client (.connectTimeout now)) = some ⟨⟨armed, []⟩, enabled, now, now, since, false⟩ := by
    rw [client_step (u := (⟨armed, []⟩, none)) rfl (.inr rfl) rfl]
    rfl
  have disconnects : TimedClient.step ⟨⟨armed, []⟩, enabled, now, now, since, false⟩
      (.client (.disconnectTimeout now)) =
        some ⟨⟨armed, []⟩, enabled, now, now, since, true⟩ := by
    have fresh : armed.checkDisconnectTimeout now = (armed, none) := by
      refine if_neg fun late => absurd (of_decide_eq_true late).2 ?_
      show ¬ now - now > DISCONNECT_TIMEOUT_MS
      rw [UInt32.sub_self]
      decide
    rw [client_step (u := (⟨armed, []⟩, none)) rfl (.inr rfl)
      (by simp only [clientStep, fresh])]
    rfl
  refine ⟨⟨⟨armed, []⟩, enabled, now, now, since, true⟩, ?_, ?_, rfl, rfl, rfl⟩
  · simp only [heldRound, Machine.run, timedMachine]
    rw [ticked, Option.bind_some, looping, Option.bind_some, drains, Option.bind_some, connects,
      Option.bind_some, disconnects, Option.bind_some]
  · exact ⟨rfl, used, rfl, silent', rfl⟩

/-- **However many rounds go by, the client is still disconnecting.** -/
theorem held_rounds (held : s.Held) (n : Nat) (room : s.clock.toNat + 100 * (n + 1) < 2 ^ 32) :
    ∃ t, (timedMachine τ).Reach Machine.anyStep s t ∧ t.Held ∧ t.looped = true ∧
      t.since = s.since ∧ t.clock.toNat = s.clock.toNat + 100 * (n + 1) := by
  have later (clock : UInt32) (room : clock.toNat + 100 < 2 ^ 32) :
      (clock + 100).toNat = clock.toNat + 100 := by
    rw [UInt32.toNat_add]
    exact Nat.mod_eq_of_lt room
  induction n with
  | zero =>
      have next := later s.clock room
      obtain ⟨t, ran, held, looped, since, clock⟩ := held_round held
        (UInt32.le_iff_toNat_le.mpr (by omega))
      exact ⟨t, Machine.run_reach ran, held, looped, since, by rw [clock, next]⟩
  | succ n ih =>
      obtain ⟨t, reach, held, -, since, clock⟩ := ih (by omega)
      have next := later t.clock (by omega)
      obtain ⟨u, ran, held, looped, kept, ticked⟩ := held_round held
        (UInt32.le_iff_toNat_le.mpr (by omega))
      refine ⟨u, reach.trans (Machine.run_reach ran), held, looped, kept.trans since, ?_⟩
      rw [ticked, next, clock]
      omega

/-! ## Two runs -/

/-- A client of one device, after `setup`. -/
def timedStart : TimedClient Unit :=
  { run := ⟨(({ stamp := () } : BLEClientBase Unit).setAddress 0xC0FFEE000001).setup, []⟩ }

theorem timedStart_init : (timedMachine Unit).init timedStart := ⟨⟨_, rfl, rfl, rfl⟩, rfl⟩

/-- The client connects, and after 100 ms it is told to disconnect. -/
def connectThenDown : List (TimedLabel Unit) :=
  [.client (.connect 0), .client .take, .client (.post () .connected),
    .client (.post () (.servicesDiscovered 247 [])), .client .drain, .client (.dispatch 0),
    .client (.dispatch 0), .tick 100, .proxyLoop false]

/-- A disconnect that is not answered for ten seconds. -/
theorem timely_unanswered : ∃ s, (timedMachine Unit).run timedStart
      (connectThenDown ++ [.tick 10100, .client .drain, .client (.connectTimeout 10100),
        .client (.disconnectTimeout 10100)]) = some s ∧
    s.state = .disconnecting ∧ s.since = 100 ∧ s.since ≤ s.clock ∧
    s.clock - s.since ≤ DISCONNECT_TIMEOUT_MS := by
  obtain ⟨s, ran, replay, looped, down, since⟩ : ∃ s,
      ((timedMachine Unit).guarded TimedClient.NotRearmed).run timedStart
        (connectThenDown ++ [.tick 10100, .client .drain, .client (.connectTimeout 10100),
          .client (.disconnectTimeout 10100)]) = some s ∧
      (timedMachine Unit).run timedStart
        (connectThenDown ++ [.tick 10100, .client .drain, .client (.connectTimeout 10100),
          .client (.disconnectTimeout 10100)]) = some s ∧
      s.looped = true ∧ s.state = .disconnecting ∧ s.since = 100 := ⟨_, rfl, rfl, rfl, rfl, rfl⟩
  exact ⟨s, replay, down, since, timely_of_notRearmed
    ⟨timedStart, timedStart_init, Machine.run_guarded_reach ran⟩ looped down⟩

/-- While the API is down the proxy disconnects the client every 100 ms: ten seconds later it is
still disconnecting. -/
theorem not_timely_down : ∃ s, (timedMachine Unit).Reachable s ∧ s.looped = true ∧
    s.state = .disconnecting ∧ s.since = 100 ∧ s.clock = 10200 ∧
    ¬ (s.since ≤ s.clock ∧ s.clock - s.since ≤ DISCONNECT_TIMEOUT_MS) := by
  obtain ⟨s, ran, held, since, clock⟩ : ∃ s,
      (timedMachine Unit).run timedStart connectThenDown = some s ∧ s.Held ∧ s.since = 100 ∧
        s.clock = 100 := by
    refine ⟨_, rfl, ⟨rfl, by decide, rfl, ?_, rfl⟩, rfl, rfl⟩
    rintro h ⟨⟩
    rfl
  obtain ⟨t, reach, held, looped, kept, ticked⟩ := held_rounds held 100 (by rw [clock]; decide)
  have late : t.clock = 10200 := by
    refine UInt32.toNat_inj.mp ?_
    rw [ticked, clock]
    rfl
  refine ⟨t, ⟨timedStart, timedStart_init, (Machine.run_reach ran).trans reach⟩, looped, held.down,
    kept.trans since, late, ?_⟩
  rw [kept, since, late]
  decide

end EsphomeHost

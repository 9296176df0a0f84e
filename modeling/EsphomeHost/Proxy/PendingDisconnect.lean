import EsphomeHost.Client.Teardown
import EsphomeHost.Proxy.Attribution

/-!
# Pending disconnects of a slot

* `tearingDown_move`: what keeps a slot that is being torn down so, until it is idle.
* `down_until_idle`: **a client whose disconnect was requested is not up, and the proxy does not
  report it as connected, before it is idle**, in every run whose steps are orderly.
* `disconnect_overtaken`: with `CONNECTED` and `SERVICES_DISCOVERED` both queued, the disconnect is
  overtaken: the client ends up established and is reported as connected.
-/

namespace EsphomeHost

namespace BluetoothProxy

open BLEClientBase

variable {cfg : ProxyConfig} {p q : BluetoothProxy} {l : ProxyLabel} {i : Nat}
  {c d : BluetoothConnection}

/-- The condition on a step after the request: slot `i` is not idle yet, its pending disconnect is
not cancelled, it is not reserved for another device, and an event it dispatches is one the client
copes with. -/
def OrderlySlot (i : Nat) (p : BluetoothProxy) (l : ProxyLabel) : Prop :=
  (∀ c ∈ p.connections[i]?, c.base.state ≠ .idle) ∧ p.cancellation l ≠ some i ∧
    (∀ x ∈ p.reservation l, x.1 ≠ i) ∧
      (l.dispatches = some i →
        ∀ c ∈ p.connections[i]?, ∀ x ∈ c.drained.head?, c.base.Copes x.val)

instance : Decidable (OrderlySlot i p l) :=
  inferInstanceAs (Decidable ((∀ _ ∈ _, _) ∧ _ ∧ (∀ _ ∈ _, _) ∧ (_ → ∀ _ ∈ _, ∀ _ ∈ _, _)))

/-- Being torn down, or already idle. -/
def Down (c : BLEClientBase Origin) : Prop := c.TearingDown ∨ c.state = .idle

theorem Down.not_up {c : BLEClientBase Origin} (down : Down c) : ¬ c.Up := by
  rcases down with down | idle
  · exact down.not_up
  · exact not_up_of_state c idle ⟨nofun, nofun⟩

theorem Down.outcome {o : BLEClientBase Origin × Option Int} (down : Down o.1) :
    Down (c.outcome o).base := by
  obtain ⟨state, want⟩ := c.outcome_state o
  rcases down with down | idle
  · exact .inl (down.of_same state want)
  · exact .inr (state.trans idle)

theorem tearingDown_move (down : c.base.TearingDown) (here : p.connections[i]? = some c)
    (guard : p.OrderlySlot i l) (move : SlotMove p l i c d) : Down d.base := by
  obtain ⟨notIdle, notCancelled, notReserved, copes⟩ := guard
  have state : ∀ {st : ClientState}, c.base.state = st → st ≠ .disconnecting → st ≠ .connecting →
      Down d.base := by
    intro st is notDisconnecting notConnecting
    rcases down with down | ⟨down, -⟩
    · exact absurd (is.symm.trans down) notDisconnecting
    · exact absurd (is.symm.trans down) notConnecting
  cases move with
  | alike same =>
      obtain ⟨services, base⟩ := same.base
      exact .inl (down.of_same (by rw [base]) (by rw [base]))
  | reserve taken => exact absurd rfl (notReserved _ taken)
  | reserveDiscover taken => exact absurd rfl (notReserved _ taken)
  | discover reserved type => exact state reserved nofun nofun
  | cancel cancelled => exact absurd cancelled notCancelled
  | disconnect now => exact .inl (down.disconnect now)
  | free idle => exact state idle nofun nofun
  | enqueue cmd => exact .inl (down.of_same rfl rfl)
  | parseDevice device => exact .inl (down.parseDevice device)
  | promote found now => exact state found nofun nofun
  | drain _ =>
      have quiet := quiet_drain c.base
      exact .inl (down.of_same quiet.state quiet.wantDisconnect)
  | @dispatch now x rest label head =>
      have cope : c.base.Copes x.val :=
        copes (by rw [label]; rfl) c here x (by rw [head]; rfl)
      exact Down.outcome (down.dispatchEvent now cope)
  | connectTimeout now => exact Down.outcome (down.checkConnectTimeout now)
  | disconnectTimeout now => exact Down.outcome (down.checkDisconnectTimeout now)
  | take | post | finish | signal => exact .inl (down.of_same rfl rfl)

theorem down_step (down : ∀ c, p.connections[i]? = some c → Down c.base)
    (guard : p.OrderlySlot i l) (step : p.proxyStep cfg l = some q) :
    ∀ d, q.connections[i]? = some d → Down d.base := by
  intro d there
  obtain ⟨c, here, move⟩ := (proxyStep_effect cfg step).slots i d there
  exact tearingDown_move ((down c here).resolve_right (guard.1 c here)) here guard move

/-- What slot `i` says in a step is not that its device is connected. -/
theorem not_isUp_of_down (down : ∀ c, p.connections[i]? = some c → Down c.base)
    (guard : p.OrderlySlot i l) (step : p.proxyStep cfg l = some q) :
    ∀ m ∈ newMessages p q, m.2.isUp = true → p.speaker l ≠ some i := by
  intro m mem up speaks
  have report : m.2.isReport = true := by
    cases sent : m.2 <;> rw [sent] at up <;> first | exact up | cases up
  have cause := (proxyStep_effect cfg step).speaks.newMessages m mem report
  generalize m.2 = message at up cause
  cases cause with
  | refused | unpaired | paired => cases up
  | up found here serves isUp =>
      obtain rfl := Option.some.inj (found.symm.trans speaks)
      exact (down _ here).not_up isUp
  | @event j now c x rest m here head reports =>
      obtain rfl := Option.some.inj speaks
      have cope := guard.2.2.2 rfl c here x (by rw [head]; rfl)
      have discovery := reports.up up
      unfold HostGattEvent.isDiscovery at discovery
      split at discovery
      · rename_i found
        rw [found] at cope
        exact cope
      · cases discovery

/-- From a proxy on whose slot `i` `disconnect()` was just called while the client was active. -/
theorem down_of_orderlySlot {r : BluetoothProxy} {now : UInt32}
    (here : p.connections[i]? = some (c.withBase (c.base.disconnect now)))
    (active : c.base.state = .connecting ∨ c.base.Up)
    (run : (proxyMachine cfg).Reach (OrderlySlot i) p r) :
    ∀ d, r.connections[i]? = some d → Down d.base := by
  refine run.invariant (I := fun p => ∀ c, p.connections[i]? = some c → Down c.base)
    (fun p l q down guard step => down_step down guard step) fun d there => ?_
  obtain rfl := Option.some.inj (here.symm.trans there)
  exact .inl (tearingDown_disconnect now active)

/-- **Once `disconnect()` was called on an active client, the client is not up, and the proxy does
not report its device as connected, before it is idle**: in every run of a client whose steps are
orderly, and in every run of the proxy whose steps are orderly for the client's slot. -/
theorem down_until_idle (τ : Type) (cfg : ProxyConfig) :
    (∀ (s t u : ClientRun τ) (now : UInt32), s.client.state = .connecting ∨ s.client.Up →
      (clientMachine τ).step s (.disconnect now) = some t →
        (clientMachine τ).Reach OrderlyBeforeIdle t u → ¬ u.client.Up) ∧
      ∀ (p r : BluetoothProxy) (i : Nat) (c : BluetoothConnection) (now : UInt32),
        p.connections[i]? = some (c.withBase (c.base.disconnect now)) →
          c.base.state = .connecting ∨ c.base.Up →
            (proxyMachine cfg).Reach (OrderlySlot i) p r →
              (∀ d, r.connections[i]? = some d → ¬ d.base.Up) ∧
                ∀ l r', r.OrderlySlot i l → (proxyMachine cfg).step r l = some r' →
                  ∀ m ∈ newMessages r r', m.2.isUp = true → r.speaker l ≠ some i := by
  refine ⟨fun s t u now active request run => not_up_of_orderly active request run, ?_⟩
  intro p r i c now here active run
  have down := down_of_orderlySlot here active run
  exact ⟨fun d there => (down d there).not_up,
    fun l r' guard step => not_isUp_of_down down guard step⟩

/-! ## Two runs -/

def slotState (p : BluetoothProxy) : Option ClientState := p.connections.head?.map (·.base.state)

/-- A subscription and a connection, still in progress on the worker. -/
def connectingTo (address : UInt64) : List ProxyLabel :=
  .subscribe 7 .running true :: connectTo address ++ [.take 0, .post 0 .connected]

/-- The client's disconnect request. -/
def giveUp : ProxyLabel := .request (.device deviceA .disconnect false) 5

/-- The same in a run of one client. -/
def clientGivesUp : Option (ClientRun Unit) :=
  (clientMachine Unit).run ⟨BLEClientBase.setup { stamp := () }, []⟩
    [.connect 0, .take, .post () .connected]

theorem down_until_idle_connecting :
    (∃ s t u : ClientRun Unit, clientGivesUp = some s ∧
      (clientMachine Unit).step s (.disconnect 5) = some t ∧
        (clientMachine Unit).run t [.drain, .dispatch 6] = some u ∧
          u.client.state = .disconnecting ∧ ¬ u.client.Up) ∧
      ∃ p q r, (proxyMachine plainConfig).run oneSlot (connectingTo deviceA) = some p ∧
        (proxyMachine plainConfig).step p giveUp = some q ∧
          (proxyMachine plainConfig).run q [.drain 0, .dispatch 0 6] = some r ∧
            slotState r = some .disconnecting ∧ ∀ d, r.connections[0]? = some d → ¬ d.base.Up := by
  constructor
  · obtain ⟨s, t, u, ran, step, replay, guarded, state, connecting⟩ : ∃ s t u,
        clientGivesUp = some s ∧ (clientMachine Unit).step s (.disconnect 5) = some t ∧
          (clientMachine Unit).run t [.drain, .dispatch 6] = some u ∧
            ((clientMachine Unit).guarded OrderlyBeforeIdle).run t [.drain, .dispatch 6] =
              some u ∧ u.client.state = .disconnecting ∧ s.client.state = .connecting :=
      ⟨_, _, _, rfl, rfl, rfl, rfl, rfl, rfl⟩
    exact ⟨s, t, u, ran, step, replay, state, (down_until_idle Unit plainConfig).1 s t u 5
      (.inl connecting) step (Machine.run_guarded_reach guarded)⟩
  · obtain ⟨p, q, r, c, ran, step, replay, guarded, state, here, connecting⟩ :
        ∃ (p q r : BluetoothProxy) (c : BluetoothConnection),
          (proxyMachine plainConfig).run oneSlot (connectingTo deviceA) = some p ∧
            (proxyMachine plainConfig).step p giveUp = some q ∧
              (proxyMachine plainConfig).run q [.drain 0, .dispatch 0 6] = some r ∧
                ((proxyMachine plainConfig).guarded (OrderlySlot 0)).run q
                    [.drain 0, .dispatch 0 6] = some r ∧
                  slotState r = some .disconnecting ∧
                    q.connections[0]? = some (c.withBase (c.base.disconnect 5)) ∧
                      c.base.state = .connecting :=
      ⟨_, _, _, _, rfl, rfl, rfl, rfl, rfl, rfl, rfl⟩
    exact ⟨p, q, r, ran, step, replay, state, ((down_until_idle Unit plainConfig).2 q r 0 c 5 here
      (.inl connecting) (Machine.run_guarded_reach guarded)).1⟩

/-- `SERVICES_DISCOVERED` was already queued behind `CONNECTED`. -/
theorem disconnect_overtaken : ∃ p q r s t, (proxyMachine plainConfig).Reachable p ∧
    slotState p = some .connecting ∧ (proxyMachine plainConfig).step p giveUp = some q ∧
      slotState q = some .connecting ∧ (proxyMachine plainConfig).step q (.drain 0) = some r ∧
        slotState r = some .connecting ∧
          (proxyMachine plainConfig).step r (.dispatch 0 6) = some s ∧
            slotState s = some .disconnecting ∧
              (proxyMachine plainConfig).step s (.dispatch 0 7) = some t ∧
                slotState t = some .established ∧
                  (7, .deviceConnection deviceA true 247 ESP_OK) ∈ newMessages s t := by
  obtain ⟨p, ran, q, r, s, t, rest⟩ : ∃ p, (proxyMachine plainConfig).run oneSlot
      (connectingTo deviceA ++ [.post 0 (.servicesDiscovered 247 [])]) = some p ∧
        ∃ q r s t, slotState p = some .connecting ∧
          (proxyMachine plainConfig).step p giveUp = some q ∧
            slotState q = some .connecting ∧
              (proxyMachine plainConfig).step q (.drain 0) = some r ∧
                slotState r = some .connecting ∧
                  (proxyMachine plainConfig).step r (.dispatch 0 6) = some s ∧
                    slotState s = some .disconnecting ∧
                      (proxyMachine plainConfig).step s (.dispatch 0 7) = some t ∧
                        slotState t = some .established ∧
                          (7, .deviceConnection deviceA true 247 ESP_OK) ∈ newMessages s t :=
    ⟨_, rfl, _, _, _, _, rfl, rfl, rfl, rfl, rfl, rfl, rfl, rfl, rfl, by decide⟩
  exact ⟨p, q, r, s, t, ⟨_, oneSlot_init, Machine.run_reach ran⟩, rest⟩

end BluetoothProxy

end EsphomeHost

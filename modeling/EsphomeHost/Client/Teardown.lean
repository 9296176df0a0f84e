import EsphomeHost.Client.Run

/-!
# Pending disconnects

`disconnect()` on a connecting client only sets a flag, which `dispatch_event_` consults on
`CONNECTED` and on no other event.

* `TearingDown`: what `disconnect()` leaves behind.  One lemma for each function says when it is
  kept; `servicesDiscovered` has none.
* `not_up_of_orderly`: in every run whose steps are `Orderly`, a client whose disconnect was
  requested is not up again before it is idle.
-/

namespace EsphomeHost

/-! ## A client that is being torn down -/

namespace BLEClientBase

variable {τ : Type} {c : BLEClientBase τ}

/-- The disconnect is under way or pending. -/
def TearingDown (c : BLEClientBase τ) : Prop :=
  c.state = .disconnecting ∨ (c.state = .connecting ∧ c.wantDisconnect = true)

theorem TearingDown.not_up (down : c.TearingDown) : ¬ c.Up := by
  rintro (up | up) <;> rcases down with h | ⟨h, -⟩ <;> rw [h] at up <;> cases up

/-- What `disconnect()` leaves behind. -/
theorem tearingDown_disconnect (now : UInt32)
    (active : c.state = .connecting ∨ c.Up) : (c.disconnect now).TearingDown := by
  rcases c.disconnect_cases now with ⟨idle, -⟩ | ⟨connecting, same⟩ | ⟨-, -, same⟩
  · rcases active with h | h | h <;> rw [idle] at h <;> cases h
  · rw [same]
    exact .inr ⟨connecting, rfl⟩
  · rw [same]
    exact .inl rfl

theorem TearingDown.of_same {c' : BLEClientBase τ} (down : c.TearingDown)
    (state : c'.state = c.state) (want : c'.wantDisconnect = c.wantDisconnect) :
    c'.TearingDown := by
  unfold TearingDown
  rw [state, want]
  exact down

theorem TearingDown.disconnect (down : c.TearingDown) (now : UInt32) :
    (c.disconnect now).TearingDown := by
  rcases c.disconnect_cases now with ⟨_, same⟩ | ⟨connecting, same⟩ | ⟨-, -, same⟩
  · rw [same]
    exact down
  · rw [same]
    exact .inr ⟨connecting, rfl⟩
  · rw [same]
    exact .inl rfl

/-- A second `connect()` only keeps a deferred disconnect. -/
theorem TearingDown.connect (down : c.TearingDown) (deferred : c.state ≠ .disconnecting)
    (now : UInt32) : (c.connect now).TearingDown := by
  rcases down with h | ⟨-, want⟩
  · exact absurd h deferred
  · exact .inr ⟨rfl, want⟩

theorem TearingDown.parseDevice (down : c.TearingDown) (device : ESPBTDevice) :
    (c.parseDevice device).2.TearingDown := by
  rcases c.parseDevice_cases device with same | ⟨idle, -⟩
  · rw [same]
    exact down
  · rcases down with h | ⟨h, -⟩ <;> rw [idle] at h <;> cases h

/-- An event that a client being torn down copes with: `SERVICES_DISCOVERED` never is, and
`CONNECTED` is while the flag is set. -/
def Copes (c : BLEClientBase τ) : HostGattEvent → Prop
  | .servicesDiscovered _ _ => False
  | .connected => c.wantDisconnect = true
  | _ => True

instance (c : BLEClientBase τ) : ∀ ev, Decidable (c.Copes ev)
  | .servicesDiscovered _ _ => inferInstanceAs (Decidable False)
  | .connected => inferInstanceAs (Decidable (_ = _))
  | .disconnected _ | .readComplete _ _ _ | .writeComplete _ _ | .descRead _ _ _
  | .descWrite _ _ | .notify _ _ | .notifyRegistered _ _ | .rssi _ | .passkeyRequest
  | .passkeyNotify _ | .numericCompare _ | .pairingComplete _ _ => isTrue trivial

theorem TearingDown.dispatchEvent (down : c.TearingDown) (now : UInt32) {ev : HostGattEvent}
    (copes : c.Copes ev) :
    (c.dispatchEvent now ev).1.TearingDown ∨ (c.dispatchEvent now ev).1.state = .idle := by
  cases ev with
  | connected =>
      have want : c.wantDisconnect = true := copes
      simp only [BLEClientBase.dispatchEvent, want, if_true]
      exact .inl (.inl rfl)
  | servicesDiscovered => exact copes.elim
  | disconnected => exact .inr rfl
  | _ => exact .inl (down.of_same rfl rfl)

theorem TearingDown.checkConnectTimeout (down : c.TearingDown) (now : UInt32) :
    (c.checkConnectTimeout now).1.TearingDown ∨ (c.checkConnectTimeout now).1.state = .idle := by
  rcases checkConnectTimeout_cases c now with same | ⟨-, idle, -⟩
  · rw [same]
    exact .inl down
  · exact .inr idle

theorem TearingDown.checkDisconnectTimeout (down : c.TearingDown) (now : UInt32) :
    (c.checkDisconnectTimeout now).1.TearingDown ∨
      (c.checkDisconnectTimeout now).1.state = .idle := by
  rcases checkDisconnectTimeout_cases c now with same | ⟨-, idle, -⟩
  · rw [same]
    exact .inl down
  · exact .inr idle

end BLEClientBase

/-! ## Runs after the request -/

variable {τ : Type}

/-- The condition on a step: `connect()` is not called on a disconnecting client, and a dispatched
event is one the client copes with. -/
def Orderly (s : ClientRun τ) : ClientLabel τ → Prop
  | .connect _ => s.client.state ≠ .disconnecting
  | .dispatch _ => ∀ e ∈ s.drained.head?, s.client.Copes e.val
  | _ => True

instance (s : ClientRun τ) : ∀ l, Decidable (Orderly s l)
  | .connect _ => inferInstanceAs (Decidable (_ ≠ _))
  | .dispatch _ => inferInstanceAs (Decidable (∀ _ ∈ _, _))
  | .disconnect _ | .cancelPendingDisconnect | .parseDevice _ | .request _ | .drain
  | .connectTimeout _ | .disconnectTimeout _ | .take | .post _ _ => isTrue trivial

/-- A step before the client is idle, other than a cancellation, that meets the condition. -/
def OrderlyBeforeIdle (s : ClientRun τ) (l : ClientLabel τ) : Prop :=
  s.client.state ≠ .idle ∧ l ≠ .cancelPendingDisconnect ∧ Orderly s l

instance [DecidableEq τ] (s : ClientRun τ) (l : ClientLabel τ) :
    Decidable (OrderlyBeforeIdle s l) := inferInstanceAs (Decidable (_ ∧ _ ∧ _))

theorem tearingDown_step {s t : ClientRun τ} {l : ClientLabel τ}
    (down : s.client.TearingDown ∨ s.client.state = .idle) (guard : OrderlyBeforeIdle s l)
    (step : (clientMachine τ).step s l = some t) :
    t.client.TearingDown ∨ t.client.state = .idle := by
  obtain ⟨notIdle, notCancel, orderly⟩ := guard
  replace down := down.resolve_right notIdle
  obtain ⟨r, performed, rfl⟩ := Option.map_eq_some_iff.mp step
  rcases clientStep_cases performed with ⟨now, rfl, rfl⟩ | ⟨now, rfl, rfl⟩ | ⟨rfl, rfl⟩ |
    ⟨device, rfl, rfl⟩ | ⟨now, e, rest, rfl, head, rfl⟩ | ⟨now, rfl, empty, rfl⟩ |
      ⟨now, rfl, empty, rfl⟩ | ⟨-, -, quiet⟩
  · exact .inl (down.connect orderly now)
  · exact .inl (down.disconnect now)
  · exact absurd rfl notCancel
  · exact .inl (down.parseDevice device)
  · exact down.dispatchEvent now (orderly e (by rw [head]; rfl))
  · exact down.checkConnectTimeout now
  · exact down.checkDisconnectTimeout now
  · exact .inl (down.of_same quiet.state quiet.wantDisconnect)

/-- **A client whose disconnect was requested is not up before it is idle**, in every run whose
steps are orderly. -/
theorem not_up_of_orderly {s t u : ClientRun τ} {now : UInt32}
    (active : s.client.state = .connecting ∨ s.client.Up)
    (request : (clientMachine τ).step s (.disconnect now) = some t)
    (run : (clientMachine τ).Reach OrderlyBeforeIdle t u) : ¬ u.client.Up := by
  obtain rfl := Option.some.inj request
  have start := BLEClientBase.tearingDown_disconnect now active
  have down : u.client.TearingDown ∨ u.client.state = .idle :=
    run.invariant (I := fun s => s.client.TearingDown ∨ s.client.state = .idle)
      (fun _ _ _ down guard step => tearingDown_step down guard step) (.inl start)
  rcases down with down | idle
  · exact down.not_up
  · rintro (up | up) <;> rw [idle] at up <;> cases up

end EsphomeHost

import EsphomeHost.Tracker.Loop

/-!
# Disabled clients

`set_enabled(false)` disconnects the client; whether an idle client reconnects is decided by
`parse_device` of the base class, which does not know the flag.

* `resting_of_undisturbed`: a disabled client that is idle stays idle in every run in which no
  queued advertisement promotes it and no late link event reaches it.
* `disabled_reconnects`: an auto-connecting client is promoted by its own advertisement although it
  is disabled.
-/

namespace EsphomeHost

/-- The client is disabled and idle. -/
def BLEClient.Resting (c : BLEClient) : Prop := c.enabled = false ∧ c.state = .idle

instance (c : BLEClient) : Decidable c.Resting := inferInstanceAs (Decidable (_ ∧ _))

/-- The two events that take an idle client out of `IDLE`. -/
def HostGattEvent.raises : HostGattEvent → Bool
  | connected | servicesDiscovered _ _ => true
  | _ => false

/-- The condition on a step while client `i` rests: a tick of the tracker has no advertisement of
an auto-connecting client's address in its queue, and a dispatched event is not `CONNECTED` or
`SERVICES_DISCOVERED`. -/
def Undisturbed (i : Nat) (t : ESP32BLETracker) : TrackerLabel → Prop
  | .loop _ => ∀ c ∈ t.clients[i]?, c.base.autoConnect = true →
      ∀ d ∈ t.queue, d.addressUint64 ≠ c.base.address
  | .client j (.dispatch _) => j = i → ∀ c ∈ t.clients[i]?, ∀ e ∈ c.run.drained.head?,
      e.val.raises = false
  | _ => True

/-- Neither `set_enabled(true)` nor an explicit `connect()` on client `i`. -/
def NotResumed (i : Nat) : TrackerLabel → Prop
  | .setEnabled j enabled _ => j = i → enabled = false
  | .client j (.connect _) => j ≠ i
  | _ => True

/-- Client `i` is neither resumed nor disturbed. -/
def UndisturbedRest (i : Nat) (t : ESP32BLETracker) (l : TrackerLabel) : Prop :=
  NotResumed i l ∧ Undisturbed i t l

namespace BLEClient

variable {c : BLEClient}

theorem Resting.setEnabled (rest : c.Resting) (now : UInt32) :
    (c.setEnabled false now).Resting := by
  unfold BLEClient.setEnabled
  rw [if_pos rest.1.symm]
  exact rest

/-- An advertisement leaves a client alone unless it is its own and auto-connect is on. -/
theorem parseDevice_foreign {d : ESPBTDevice}
    (foreign : c.base.autoConnect = true → d.addressUint64 ≠ c.base.address) :
    c.parseDevice d = c := by
  rcases c.base.parseDevice_cases d with same | ⟨-, auto, -, own, -⟩
  · rw [BLEClient.parseDevice, same]
    rfl
  · exact absurd own (foreign auto)

theorem foldl_parseDevice_foreign {queue : List ESPBTDevice}
    (foreign : c.base.autoConnect = true → ∀ d ∈ queue, d.addressUint64 ≠ c.base.address) :
    queue.foldl BLEClient.parseDevice c = c := by
  induction queue with
  | nil => rfl
  | cons d queue ih =>
      rw [List.foldl_cons, parseDevice_foreign fun auto => foreign auto d (by simp)]
      exact ih fun auto d mem => foreign auto d (List.mem_cons_of_mem _ mem)

theorem Resting.promote (rest : c.Resting) (now : UInt32) :
    ESP32BLETracker.promote now c = c := by
  unfold ESP32BLETracker.promote
  rw [if_neg (by rw [rest.2]; decide)]

/-- A step of the base class leaves a resting client idle unless it connects it or dispatches one
of the two raising events. -/
theorem Resting.step {c' : BLEClient} {l : ClientLabel Unit} (rest : c.Resting)
    (notConnect : ∀ now, l ≠ .connect now) (notParse : ∀ d, l ≠ .parseDevice d)
    (calm : ∀ now, l = .dispatch now → ∀ e ∈ c.run.drained.head?, e.val.raises = false)
    (step : c.step l = some c') : c'.Resting := by
  obtain ⟨enabled, r, performed, run⟩ := step_enabled step
  refine ⟨enabled.trans rest.1, ?_⟩
  show c'.run.client.state = .idle
  rw [run]
  have idle : c.run.client.state = .idle := rest.2
  rcases clientStep_cases performed with ⟨now, rfl, -⟩ | ⟨now, rfl, rfl⟩ | ⟨rfl, rfl⟩ |
    ⟨device, rfl, -⟩ | ⟨now, e, rest', rfl, head, rfl⟩ | ⟨now, rfl, -, rfl⟩ |
      ⟨now, rfl, -, rfl⟩ | ⟨-, -, quiet⟩
  · exact absurd rfl (notConnect now)
  · rcases c.run.client.disconnect_cases now with ⟨_, same⟩ | ⟨other, -⟩ | ⟨other, -⟩
    · rw [same]; exact idle
    · rw [idle] at other; cases other
    · exact absurd idle other
  · exact idle
  · exact absurd rfl (notParse device)
  · have quiet := calm now rfl e (by rw [head]; rfl)
    obtain ⟨stamp, ev⟩ := e
    cases ev with
    | connected | servicesDiscovered => cases quiet
    | disconnected => rfl
    | _ => exact idle
  · rcases checkConnectTimeout_cases c.run.client now with same | ⟨-, state, -⟩
    · rw [same]; exact idle
    · exact state
  · rcases checkDisconnectTimeout_cases c.run.client now with same | ⟨-, state, -⟩
    · rw [same]; exact idle
    · exact state
  · rw [quiet.state]; exact idle

end BLEClient

theorem resting_step {i : Nat} {t t' : ESP32BLETracker} {l : TrackerLabel}
    (rest : ∃ c, t.clients[i]? = some c ∧ c.Resting) (guard : UndisturbedRest i t l)
    (step : trackerStep t l = some t') : ∃ c, t'.clients[i]? = some c ∧ c.Resting := by
  obtain ⟨c, found, rest⟩ := rest
  obtain ⟨notResumed, undisturbed⟩ := guard
  obtain ⟨c', found', rfl | ⟨enabled, now, rfl, rfl⟩ | ⟨l', rfl, notParse, stepped⟩ |
    ⟨now, rfl, moved⟩⟩ := trackerStep_client found step
  · exact ⟨c', found', rest⟩
  · obtain rfl : enabled = false := notResumed rfl
    exact ⟨_, found', rest.setEnabled now⟩
  · refine ⟨c', found', rest.step ?_ notParse ?_ stepped⟩
    · rintro now rfl
      exact notResumed rfl
    · rintro now rfl
      exact undisturbed rfl c found
  · have same := BLEClient.foldl_parseDevice_foreign (undisturbed c found)
    rw [same] at moved
    rw [rest.promote now] at moved
    rcases moved with rfl | rfl <;> exact ⟨_, found', rest⟩

/-- **A disabled client that is idle stays idle**, in every run whose steps meet the condition. -/
theorem resting_of_undisturbed {i : Nat} {t t' : ESP32BLETracker} {c : BLEClient}
    (found : t.clients[i]? = some c)
    (rest : c.enabled = false ∧ c.state = .idle)
    (run : trackerMachine.Reach (UndisturbedRest i) t t') :
    ∃ c', t'.clients[i]? = some c' ∧ c'.enabled = false ∧ c'.state = .idle :=
  run.invariant (I := fun t => ∃ c, t.clients[i]? = some c ∧ c.Resting)
    (fun _ _ _ rest guard step => resting_step rest guard step) ⟨c, found, rest⟩

/-! ## Two runs -/

/-- A tracker with one auto-connecting client, after `setup`. -/
def autoStart : ESP32BLETracker :=
  { clients := [{
      run := ⟨({ ({ stamp := () } : BLEClientBase Unit).setAddress 0xC0FFEE000001 with
        autoConnect := true }).setup, []⟩ }] }

/-- The same after `set_enabled(false)`. -/
def autoDisabled : ESP32BLETracker :=
  { autoStart with clients := autoStart.clients.map (·.setEnabled false 0) }

/-- An advertisement of the client's own device. -/
def ownAdvertisement : ESPBTDevice := ESPBTDevice.setAddress {} [1, 0, 0, 0xEE, 0xFF, 0xC0]

def foreignAdvertisement : ESPBTDevice := ESPBTDevice.setAddress {} [2, 0, 0, 0xEE, 0xFF, 0xC0]

theorem resting_foreign : ∃ t c, trackerMachine.run autoDisabled
    [.deliver foreignAdvertisement, .loop 10] = some t ∧ t.clients[0]? = some c ∧
      c.enabled = false ∧ c.state = .idle := by
  have own : ∀ c ∈ autoDisabled.clients[0]?, c.base.autoConnect = true →
      ∀ d ∈ [foreignAdvertisement], d.addressUint64 ≠ c.base.address := by decide
  obtain ⟨c, found, rest⟩ := resting_of_undisturbed (i := 0) (t := autoDisabled) rfl
    ⟨rfl, rfl⟩ (.tail (.single (l := .deliver foreignAdvertisement) ⟨trivial, trivial⟩ rfl)
      (l := .loop 10) ⟨trivial, own⟩ rfl)
  exact ⟨_, c, rfl, found, rest⟩

/-- The client's own advertisement takes it from `IDLE` to `CONNECTING` although it is disabled. -/
theorem disabled_reconnects : trackerMachine.init autoStart ∧
    trackerMachine.run autoStart [.setEnabled 0 false 0] = some autoDisabled ∧
      (∃ c, autoDisabled.clients[0]? = some c ∧ c.enabled = false ∧ c.state = .idle) ∧
        ∃ t c, trackerMachine.run autoDisabled [.deliver ownAdvertisement, .loop 10] = some t ∧
          t.clients[0]? = some c ∧ c.enabled = false ∧ c.state = .connecting := by
  refine ⟨⟨rfl, ?_⟩, rfl, ⟨_, rfl, rfl, rfl⟩, _, _, rfl, rfl, rfl, by decide⟩
  intro c mem
  rw [List.mem_singleton.mp mem]
  exact ⟨_, rfl, rfl⟩

end EsphomeHost

import EsphomeHost.Client.Run

/-!
# What the client functions leave alone

* `Keeps c c'`: the client serves the same device, and its worker is the same up to commands queued
  under its current stamp.  Every function but `set_address`, `connect` and the drain is such.
* `Calm c c'`: moreover the link is not raised and the pairing flag does not change.  Only the
  dispatch of `CONNECTED`, `SERVICES_DISCOVERED` and `PAIRING_COMPLETE` is not calm.
-/

namespace EsphomeHost

namespace BLEGattHost

variable {τ : Type}

/-- Several commands queued under one stamp. -/
def enqueueAll (h : BLEGattHost τ) (stamp : τ) (cmds : List HostGattCommand) : BLEGattHost τ :=
  { h with commands := h.commands ++ cmds.map (⟨stamp, ·⟩) }

@[simp] theorem enqueueAll_nil (h : BLEGattHost τ) (stamp : τ) : h.enqueueAll stamp [] = h := by
  simp [enqueueAll]

theorem enqueueAll_enqueueAll (h : BLEGattHost τ) (stamp : τ) (xs ys : List HostGattCommand) :
    (h.enqueueAll stamp xs).enqueueAll stamp ys = h.enqueueAll stamp (xs ++ ys) := by
  simp [enqueueAll]

end BLEGattHost

namespace BLEClientBase

variable {τ : Type}

/-- `c'` serves the same device as `c`, and at most queued more commands. -/
structure Keeps (c c' : BLEClientBase τ) : Prop where
  address : c'.address = c.address
  stamp : c'.stamp = c.stamp
  adapter : c'.adapter = c.adapter
  devicePath : c'.devicePath = c.devicePath
  host : ∃ cmds, c'.host = c.host.map (·.enqueueAll c.stamp cmds)

/-- Moreover the link was not raised and nothing was paired. -/
structure Calm (c c' : BLEClientBase τ) : Prop extends Keeps c c' where
  up : c'.Up → c.Up
  paired : c'.paired = c.paired

variable {c c' c'' : BLEClientBase τ}

theorem Keeps.of_host (address : c'.address = c.address) (stamp : c'.stamp = c.stamp)
    (adapter : c'.adapter = c.adapter) (devicePath : c'.devicePath = c.devicePath)
    (host : c'.host = c.host) : Keeps c c' := by
  refine ⟨address, stamp, adapter, devicePath, [], ?_⟩
  rw [host]
  cases c.host with
  | none => rfl
  | some h => exact congrArg some (h.enqueueAll_nil c.stamp).symm

theorem Keeps.refl : Keeps c c := .of_host rfl rfl rfl rfl rfl

theorem Keeps.trans (left : Keeps c c') (right : Keeps c' c'') : Keeps c c'' := by
  obtain ⟨xs, first⟩ := left.host
  obtain ⟨ys, second⟩ := right.host
  refine ⟨right.address.trans left.address, right.stamp.trans left.stamp,
    right.adapter.trans left.adapter, right.devicePath.trans left.devicePath, xs ++ ys, ?_⟩
  rw [second, first, Option.map_map, left.stamp]
  congr 1
  funext h
  exact h.enqueueAll_enqueueAll c.stamp xs ys

theorem Calm.refl : Calm c c := ⟨.refl, id, rfl⟩

theorem Calm.trans (left : Calm c c') (right : Calm c' c'') : Calm c c'' :=
  ⟨left.toKeeps.trans right.toKeeps, left.up ∘ right.up, right.paired.trans left.paired⟩

variable (c)

theorem not_up_of_state {st : ClientState} (state : c.state = st)
    (down : st ≠ .connected ∧ st ≠ .established) : ¬ c.Up := by
  rintro (up | up)
  · exact down.1 (state.symm.trans up)
  · exact down.2 (state.symm.trans up)

theorem not_up_connect (now : UInt32) : ¬ (c.connect now).Up :=
  have down : ClientState.connecting ≠ .connected ∧ ClientState.connecting ≠ .established := by
    decide
  not_up_of_state _ rfl down

/-- A worker that exists gets one more command. -/
theorem calm_connect {h : BLEGattHost τ} (host : c.host = some h) (now : UInt32) :
    Calm c (c.connect now) := by
  refine ⟨⟨rfl, rfl, rfl, rfl, [.connect], ?_⟩, fun up => absurd up (c.not_up_connect now), rfl⟩
  simp only [connect, setState, host, Option.getD_some]
  rfl

/-- Without a worker one is made, for the device the client serves now. -/
theorem connect_created (host : c.host = none) (now : UInt32) :
    (c.connect now).host = some
      { owner := c.stamp, adapter := c.adapter, devicePath := c.devicePath,
        commands := [⟨c.stamp, .connect⟩] } := by
  simp only [connect, setState, host, Option.getD_none]
  rfl

/-- A move to a state in which the link is not up. -/
theorem calm_setState {st : ClientState} (down : st ≠ .connected ∧ st ≠ .established) :
    Calm c (c.setState st) :=
  ⟨.of_host rfl rfl rfl rfl rfl, fun up => absurd up (not_up_of_state _ rfl down), rfl⟩

theorem calm_enqueue (cmd : HostGattCommand) : Calm c (c.enqueue cmd) :=
  ⟨⟨rfl, rfl, rfl, rfl, [cmd], rfl⟩, id, rfl⟩

theorem calm_cancelPendingDisconnect : Calm c c.cancelPendingDisconnect :=
  ⟨.of_host rfl rfl rfl rfl rfl, id, rfl⟩

theorem calm_unconditionalDisconnect (now : UInt32) : Calm c (c.unconditionalDisconnect now) :=
  ⟨⟨rfl, rfl, rfl, rfl, [.disconnect], rfl⟩,
    fun up => absurd up (not_up_of_state _ rfl ⟨nofun, nofun⟩), rfl⟩

theorem calm_disconnect (now : UInt32) : Calm c (c.disconnect now) := by
  rcases c.disconnect_cases now with ⟨-, same⟩ | ⟨-, same⟩ | ⟨-, -, same⟩
  · rw [same]
    exact .refl
  · rw [same]
    exact ⟨.of_host rfl rfl rfl rfl rfl, id, rfl⟩
  · rw [same]
    exact calm_unconditionalDisconnect c now

theorem calm_parseDevice (device : ESPBTDevice) : Calm c (c.parseDevice device).2 := by
  rcases c.parseDevice_cases device with same | ⟨-, -, -, -, same⟩
  · rw [same]
    exact .refl
  · rw [same]
    exact calm_setState c ⟨nofun, nofun⟩

/-- The event that ends an attempt. -/
theorem calm_disconnected (now : UInt32) (reason : Int) :
    Calm c (c.dispatchEvent now (.disconnected reason)).1 :=
  ⟨.of_host rfl rfl rfl rfl rfl, fun up => absurd up (not_up_of_state _ rfl ⟨nofun, nofun⟩), rfl⟩

theorem calm_checkConnectTimeout (now : UInt32) : Calm c (c.checkConnectTimeout now).1 := by
  unfold checkConnectTimeout
  split
  · exact (calm_enqueue c _).trans (calm_disconnected _ now _)
  · exact .refl

theorem calm_checkDisconnectTimeout (now : UInt32) :
    Calm c (c.checkDisconnectTimeout now).1 := by
  unfold checkDisconnectTimeout
  split
  · exact calm_disconnected c now _
  · exact .refl

theorem keeps_dispatchEvent (now : UInt32) (ev : HostGattEvent) :
    Keeps c (c.dispatchEvent now ev).1 := by
  cases ev with
  | connected =>
      by_cases want : c.wantDisconnect = true
      · simp only [dispatchEvent, want, if_true]
        exact (calm_unconditionalDisconnect c now).toKeeps
      · simp only [dispatchEvent, want]
        exact .of_host rfl rfl rfl rfl rfl
  | _ => exact .of_host rfl rfl rfl rfl rfl

end BLEClientBase

end EsphomeHost

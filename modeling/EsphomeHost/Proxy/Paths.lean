import EsphomeHost.Client.Keeps
import EsphomeHost.Proxy.Subscription

/-!
# Which device a command reaches

A slot's `device_path_` changes with its address, while the worker object is created by the first
`connect` and keeps the path it was given.

* `RightDevice`: every command a slot has queued is executed for the device it was queued for.
* `rightDevice_of_sameDevice`: so it is in every run in which a slot is only reserved for a new
  device if it has no worker yet or a worker for that device.
* `not_rightDevice_reused`: a slot reused for a second device hands that device's `CONNECT` to the
  worker of the first.
-/

namespace EsphomeHost

namespace BluetoothConnection

variable {c d : BluetoothConnection}

/-- Every command queued or taken is executed on the path of the device it was queued for. -/
def RightDevice (c : BluetoothConnection) : Prop :=
  ∀ h ∈ c.base.host, ∀ x ∈ h.commands ++ c.taken, x.stamp.address ≠ 0 →
    h.devicePath = devicePathOf c.base.adapter x.stamp.address

instance : Decidable c.RightDevice := inferInstanceAs (Decidable (∀ _ ∈ _, ∀ _ ∈ _, _))

/-- The invariant of a slot.  What the slot queues is stamped with its address. -/
structure Routed (c : BluetoothConnection) : Prop where
  path : c.base.address ≠ 0 → c.base.devicePath = devicePathOf c.base.adapter c.base.address
  stamp : c.base.stamp.address = c.base.address
  host : ∀ h, c.base.host = some h → c.base.address ≠ 0 →
    h.devicePath = devicePathOf c.base.adapter c.base.address
  idle : c.base.host = none → c.taken = []
  right : c.RightDevice

theorem routed_freshConnection (adapter : List Char) :
    (BluetoothProxy.freshConnection adapter).Routed :=
  ⟨fun used => absurd rfl used, rfl, nofun, fun _ => rfl, nofun⟩

theorem Routed.of_keeps (routed : c.Routed) (keeps : c.base.Keeps d.base)
    (taken : d.taken = c.taken) : d.Routed := by
  obtain ⟨cmds, host⟩ := keeps.host
  refine ⟨?_, ?_, ?_, ?_, ?_⟩
  · rw [keeps.address, keeps.devicePath, keeps.adapter]
    exact routed.path
  · rw [keeps.stamp, keeps.address]
    exact routed.stamp
  · rw [keeps.address, keeps.adapter, host]
    rintro h' bound used
    obtain ⟨h, before, rfl⟩ := Option.map_eq_some_iff.mp bound
    exact routed.host h before used
  · intro none
    rw [taken]
    exact routed.idle (Option.map_eq_none_iff.mp (host.symm.trans none))
  · intro h' bound x mem used
    rw [host] at bound
    obtain ⟨h, before, rfl⟩ := Option.map_eq_some_iff.mp bound
    rw [keeps.adapter]
    simp only [BLEGattHost.enqueueAll, taken, List.append_assoc, List.mem_append,
      List.mem_map] at mem
    rcases mem with old | ⟨cmd, -, rfl⟩ | old
    · exact routed.right h before x (List.mem_append_left _ old) used
    · rw [routed.stamp] at used ⊢
      exact routed.host h before used
    · exact routed.right h before x (List.mem_append_right _ old) used

/-- The worker moves commands along its queue, or posts an event. -/
theorem Routed.of_host {h : BLEGattHost Origin} (routed : c.Routed) (h' : BLEGattHost Origin)
    (before : c.base.host = some h) (base : d.base = { c.base with host := some h' })
    (path : h'.devicePath = h.devicePath)
    (sub : ∀ x ∈ h'.commands ++ d.taken, x ∈ h.commands ++ c.taken) : d.Routed := by
  refine ⟨?_, ?_, ?_, ?_, ?_⟩
  · rw [base]
    exact routed.path
  · rw [base]
    exact routed.stamp
  · rw [base]
    rintro h'' bound used
    obtain rfl := Option.some.inj bound
    exact path.trans (routed.host h before used)
  · rw [base]
    exact nofun
  · unfold RightDevice
    rw [base]
    rintro h'' bound x mem used
    obtain rfl := Option.some.inj bound
    exact path.trans (routed.right h before x (sub x mem) used)

theorem Routed.setAddress (routed : c.Routed) {address : UInt64}
    (same : ∀ h, c.base.host = some h → address ≠ 0 →
      h.devicePath = devicePathOf c.base.adapter address) : (c.setAddress address).Routed := by
  refine ⟨fun used => ?_, rfl, same, routed.idle, routed.right⟩
  exact if_neg used

theorem Routed.free (routed : c.Routed) : (c.setAddress 0).Routed :=
  routed.setAddress fun _ _ used => absurd rfl used

theorem Routed.reset (routed : c.Routed) : c.reset.Routed :=
  routed.free.of_keeps .refl rfl

theorem Routed.outcome (routed : c.Routed) {o : BLEClientBase Origin × Option Int}
    (keeps : c.base.Keeps o.1) : (c.outcome o).Routed := by
  have stored : (c.withBase o.1).Routed := routed.of_keeps keeps rfl
  unfold BluetoothConnection.outcome
  split
  · exact stored.reset
  · exact stored

theorem Routed.connect (routed : c.Routed) (now : UInt32) :
    (c.withBase (c.base.connect now)).Routed := by
  cases host : c.base.host with
  | some h =>
      -- the worker exists and only gets one more command
      exact routed.of_keeps (c.base.calm_connect host now).toKeeps rfl
  | none =>
      have created := c.base.connect_created host now
      refine ⟨routed.path, routed.stamp, ?_, ?_, ?_⟩
      · intro h bound used
        obtain rfl := Option.some.inj (created.symm.trans bound)
        exact routed.path used
      · intro none
        exact absurd (created.symm.trans none) nofun
      · intro h bound x mem used
        obtain rfl := Option.some.inj (created.symm.trans bound)
        rw [show (c.withBase (c.base.connect now)).taken = [] from routed.idle host,
          List.append_nil, List.mem_singleton] at mem
        subst mem
        rw [routed.stamp] at used ⊢
        exact routed.path used

end BluetoothConnection

namespace BluetoothProxy

open BluetoothConnection

variable {cfg : ProxyConfig} {p q : BluetoothProxy} {l : ProxyLabel} {i : Nat}
  {c d : BluetoothConnection}

/-- The condition on a step: a slot is reserved for a new device only if it has no worker yet, or
its worker was created for that device. -/
def SameDevice (p : BluetoothProxy) (l : ProxyLabel) : Prop :=
  ∀ x ∈ p.reservation l, ∀ c ∈ p.connections[x.1]?, ∀ h ∈ c.base.host,
    h.devicePath = devicePathOf c.base.adapter x.2

instance : Decidable (SameDevice p l) := inferInstanceAs (Decidable (∀ _ ∈ _, _))

theorem routed_move (routed : c.Routed) (here : p.connections[i]? = some c)
    (guard : p.SameDevice l) (move : SlotMove p l i c d) : d.Routed := by
  have reserved : ∀ address, p.reservation l = some (i, address) → (c.reserve address).Routed := by
    intro address taken
    have same : ∀ h, c.base.host = some h → address ≠ 0 →
        h.devicePath = devicePathOf c.base.adapter address :=
      fun h host _ => guard (i, address) taken c here h host
    exact (Routed.setAddress (c := { c with sendService := INIT_SENDING_SERVICES })
      (routed.of_keeps .refl rfl) same).of_keeps (.of_host rfl rfl rfl rfl rfl) rfl
  cases move with
  | alike same =>
      obtain ⟨services, base⟩ := same.base
      refine routed.of_keeps ?_ same.taken
      rw [base]
      exact .of_host rfl rfl rfl rfl rfl
  | reserve taken => exact reserved _ taken
  | reserveDiscover taken type =>
      exact (reserved _ taken).of_keeps (.of_host rfl rfl rfl rfl rfl) rfl
  | discover _ type => exact routed.of_keeps (.of_host rfl rfl rfl rfl rfl) rfl
  | cancel _ => exact routed.of_keeps (c.base.calm_cancelPendingDisconnect).toKeeps rfl
  | disconnect now => exact routed.of_keeps (c.base.calm_disconnect now).toKeeps rfl
  | free _ => exact routed.free
  | enqueue cmd => exact routed.of_keeps (c.base.calm_enqueue cmd).toKeeps rfl
  | parseDevice device => exact routed.of_keeps (c.base.calm_parseDevice device).toKeeps rfl
  | promote _ now => exact routed.connect now
  | drain _ =>
      cases host : c.base.host with
      | none =>
          refine routed.of_keeps ?_ rfl
          simp only [BluetoothConnection.drain, withBase_base, BLEClientBase.drain, host]
          exact .refl
      | some h =>
          refine routed.of_host h.drainEvents.2 host ?_ rfl fun _ => id
          simp only [BluetoothConnection.drain, withBase_base, BLEClientBase.drain, host]
  | @dispatch now x rest _ _ =>
      have noted : (({ c with drained := rest } : BluetoothConnection).note x).Routed := by
        refine routed.of_keeps ?_ ?_
        · rw [note_base]
          exact .refl
        · exact note_taken _ x
      exact noted.outcome (by rw [note_base]; exact c.base.keeps_dispatchEvent now x.val)
  | connectTimeout now => exact routed.outcome (c.base.calm_checkConnectTimeout now).toKeeps
  | disconnectTimeout now => exact routed.outcome (c.base.calm_checkDisconnectTimeout now).toKeeps
  | take host waiting =>
      refine routed.of_host _ host rfl rfl fun x mem => ?_
      exact List.mem_append_left _ mem
  | post host _ _ | signal host _ => exact routed.of_host _ host rfl rfl fun _ => id
  | finish running =>
      cases host : c.base.host with
      | none => exact absurd (running.symm.trans (routed.idle host)) nofun
      | some h =>
          refine routed.of_host h host (by rw [← host]) rfl fun x mem => ?_
          rw [running]
          exact (List.mem_append.mp mem).elim (List.mem_append_left _)
            fun later => List.mem_append_right _ (List.mem_cons_of_mem _ later)

theorem routed_step (routed : ∀ c ∈ p.connections, c.Routed) (guard : p.SameDevice l)
    (step : p.proxyStep cfg l = some q) : ∀ d ∈ q.connections, d.Routed := by
  intro d mem
  obtain ⟨i, there⟩ := List.mem_iff_getElem?.mp mem
  obtain ⟨c, here, move⟩ := (proxyStep_effect cfg step).slots i d there
  exact routed_move (routed c (List.mem_of_getElem? here)) here guard move

/-- **Commands reach the device they were queued for**, in every run whose steps meet the condition:
a slot stamps what it queues with its address, and every command in its worker's queues is executed
on the path of the address it is stamped with. -/
theorem rightDevice_of_sameDevice (run : (proxyMachine cfg).ReachableUnder SameDevice p) :
    ∀ c ∈ p.connections, c.base.stamp.address = c.base.address ∧ c.RightDevice := by
  have routed : ∀ c ∈ p.connections, c.Routed := by
    refine run.invariant (I := fun p => ∀ c ∈ p.connections, c.Routed) ?_
      fun p l q routed guard step => routed_step routed guard step
    rintro p ⟨limit, adapters, scanActive, rfl⟩ c mem
    obtain ⟨adapter, -, rfl⟩ := List.mem_map.mp mem
    exact routed_freshConnection adapter
  exact fun c mem => ⟨(routed c mem).stamp, (routed c mem).right⟩

/-! ## Two runs -/

def deviceA : UInt64 := 0xC0FFEE000001

def deviceB : UInt64 := 0xC0FFEE000002

/-- A `CONNECT_V3` request and the tracker's promotion. -/
def connectTo (address : UInt64) : List ProxyLabel :=
  [.request (.device address .connectV3WithCache true) 0, .promote 0 0]

/-- The worker connects, the client asks for a disconnect and the worker reports it. -/
def sessionOf (address : UInt64) : List ProxyLabel :=
  connectTo address ++
    [.take 0, .post 0 .connected, .post 0 (.servicesDiscovered 247 []), .finish 0, .drain 0,
      .dispatch 0 5, .dispatch 0 5, .request (.device address .disconnect false) 10, .take 0,
      .signal 0 (.disconnected 0), .finish 0, .drain 0, .dispatch 0 20]

theorem rightDevice_reconnected : ∃ p c,
    (proxyMachine plainConfig).run oneSlot (sessionOf deviceA ++ connectTo deviceA) = some p ∧
      p.connections = [c] ∧ c.base.host.map (·.commands) = some [⟨⟨deviceA, 2⟩, .connect⟩] ∧
        c.RightDevice := by
  obtain ⟨p, c, ran, replay, only, queued⟩ : ∃ p c,
      ((proxyMachine plainConfig).guarded SameDevice).run oneSlot
          (sessionOf deviceA ++ connectTo deviceA) = some p ∧
        (proxyMachine plainConfig).run oneSlot (sessionOf deviceA ++ connectTo deviceA) = some p ∧
          p.connections = [c] ∧
            c.base.host.map (·.commands) = some [⟨⟨deviceA, 2⟩, .connect⟩] :=
    ⟨_, _, rfl, rfl, rfl, rfl⟩
  refine ⟨p, c, replay, only, queued, ?_⟩
  exact (rightDevice_of_sameDevice ⟨_, oneSlot_init, Machine.run_guarded_reach ran⟩ c
    (only ▸ List.mem_singleton_self c)).2

/-- The slot that served the first device is reserved for the second. -/
theorem not_rightDevice_reused : ∃ p, (proxyMachine plainConfig).Reachable p ∧
    p.connections.any (fun c => c.base.address = deviceB ∧ ¬ c.RightDevice) = true := by
  have replay : ((proxyMachine plainConfig).run oneSlot
      (sessionOf deviceA ++ connectTo deviceB)).map (fun p =>
        p.connections.any fun c => c.base.address = deviceB ∧ ¬ c.RightDevice) = some true := by
    decide
  obtain ⟨p, reach, broken⟩ := Machine.reach_of_run replay
  exact ⟨p, ⟨_, oneSlot_init, reach⟩, broken⟩

end BluetoothProxy

end EsphomeHost

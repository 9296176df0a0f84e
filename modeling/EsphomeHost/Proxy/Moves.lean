import EsphomeHost.Proxy.Effect

/-!
# What a step does

* `SlotMove p l i c d`: everything a step labelled `l` can do to slot `i`.
* `Cause p l m`: what a report sent in such a step rests on.
* `proxyStep_effect`: every step moves every slot that way, sends reports for these causes only, and
  dereferences a null pointer only in `CLEAR_CACHE` without a subscription.
-/

namespace EsphomeHost

/-- The slot whose worker takes the step. -/
def ProxyLabel.workerSlot : ProxyLabel → Option Nat
  | take i | post i _ | finish i | signal i _ => some i
  | _ => none

namespace BluetoothProxy

/-- Everything a step labelled `l` can do to slot `i`. -/
inductive SlotMove (p : BluetoothProxy) (l : ProxyLabel) (i : Nat) (c : BluetoothConnection) :
    BluetoothConnection → Prop
  | alike {d} (same : c.Alike d) : SlotMove p l i c d
  | reserve {address} (taken : p.reservation l = some (i, address)) :
      SlotMove p l i c (c.reserve address)
  | reserveDiscover {address} (taken : p.reservation l = some (i, address))
      (type : ConnectionType) : SlotMove p l i c ((c.reserve address).discover type)
  | discover (reserved : c.base.state = .init) (type : ConnectionType) :
      SlotMove p l i c (c.discover type)
  | cancel (cancelled : p.cancellation l = some i) :
      SlotMove p l i c (c.withBase c.base.cancelPendingDisconnect)
  | disconnect (now : UInt32) : SlotMove p l i c (c.withBase (c.base.disconnect now))
  | free (idle : c.base.state = .idle) : SlotMove p l i c (c.setAddress 0)
  | enqueue (cmd : HostGattCommand) : SlotMove p l i c (c.withBase (c.base.enqueue cmd))
  | parseDevice (device : ESPBTDevice) : SlotMove p l i c (c.parseDevice device)
  | promote (found : c.base.state = .discovered) (now : UInt32) :
      SlotMove p l i c (c.withBase (c.base.connect now))
  | drain (empty : c.drained = []) : SlotMove p l i c c.drain
  | dispatch {now x rest} (label : l = .dispatch i now) (head : c.drained = x :: rest) :
      SlotMove p l i c ({ c with drained := rest }.dispatched now x)
  | connectTimeout (now : UInt32) : SlotMove p l i c (c.outcome (c.base.checkConnectTimeout now))
  | disconnectTimeout (now : UInt32) :
      SlotMove p l i c (c.outcome (c.base.checkDisconnectTimeout now))
  | take {h} (host : c.base.host = some h) (waiting : c.taken = []) : SlotMove p l i c (c.take h)
  | post {h x rest ev} (host : c.base.host = some h) (running : c.taken = x :: rest)
      (kind : x.val.posts ev = true) : SlotMove p l i c (c.post h ⟨x.stamp, ev⟩)
  | finish {x rest} (running : c.taken = x :: rest) : SlotMove p l i c { c with taken := rest }
  | signal {h ev} (host : c.base.host = some h) (kind : ev.isSignalled = true) :
      SlotMove p l i c (c.post h ⟨c.signalOrigin h, ev⟩)

/-- What a report rests on: a refused request is answered under the address it names, a repeated
`CONNECT` or `PAIR` from the state of the slot that serves the address, and everything else is
passed on from the event at the head of a slot's queue. -/
inductive Cause (p : BluetoothProxy) : ProxyLabel → ApiMessage → Prop
  | refused {r now} (handle : UInt16) (error : Int) :
      Cause p (.request r now) (.gattError r.address handle error)
  | unpaired {r now} (error : Int) : Cause p (.request r now) (.devicePairing r.address false error)
  | up {r now i c} (found : p.findConnection r.address r.reserves = some i)
      (here : p.connections[i]? = some c) (serves : c.base.address = r.address) (up : c.base.Up) :
      Cause p (.request r now) (.deviceConnection r.address true 0 ESP_OK)
  | paired {r now i c} (found : p.findConnection r.address r.reserves = some i)
      (here : p.connections[i]? = some c) (serves : c.base.address = r.address)
      (paired : c.base.paired = true) :
      Cause p (.request r now) (.devicePairing r.address true ESP_OK)
  | event {now i c x rest m} (here : p.connections[i]? = some c) (head : c.drained = x :: rest)
      (reports : x.val.Reports c.base.address m) : Cause p (.dispatch i now) m

/-- `CLEAR_CACHE` while nobody is subscribed. -/
def ClearsUnsubscribed (p : BluetoothProxy) (l : ProxyLabel) : Prop :=
  l.isClearCache = true ∧ p.apiConnection = none

/-- The effect of a step labelled `l`. -/
structure StepEffect (p : BluetoothProxy) (l : ProxyLabel) (q : BluetoothProxy) : Prop where
  speaks : Speaks (p.ClearsUnsubscribed l) (fun m => m.isReport = true → Cause p l m) p q
  slots : ∀ i d, q.connections[i]? = some d →
    ∃ c, p.connections[i]? = some c ∧ SlotMove p l i c d

variable {p q : BluetoothProxy} {l : ProxyLabel} {i : Nat} {c d : BluetoothConnection}

/-! ## Assembling effects -/

/-- The messages a step labelled `l` may send. -/
def May (p : BluetoothProxy) (l : ProxyLabel) (m : ApiMessage) : Prop :=
  m.isReport = true → Cause p l m

theorem may_of_silent (m : ApiMessage) (silent : m.isReport = false) : May p l m := by
  intro report
  rw [silent] at report
  cases report

/-- A step labelled `l` acts on slot `i` alone. -/
abbrev StepActs (p : BluetoothProxy) (l : ProxyLabel) (i : Nat) (c : BluetoothConnection)
    (q : BluetoothProxy) (d : BluetoothConnection) : Prop :=
  Acts (p.ClearsUnsubscribed l) (May p l) i p c q d

theorem StepEffect.of_acts (acts : StepActs p l i c q d) (move : SlotMove p l i c d) :
    StepEffect p l q := by
  refine ⟨acts.speaks, fun j e there => ?_⟩
  by_cases same : i = j
  · subst same
    obtain rfl : d = e := Option.some.inj (acts.there.symm.trans there)
    exact ⟨c, acts.before, move⟩
  · rw [acts.others same] at there
    exact ⟨e, there, .alike e.alike_refl⟩

/-- A step that leaves the slots alone. -/
theorem StepEffect.of_speaks (speaks : Speaks (p.ClearsUnsubscribed l) (May p l) p q)
    (same : q.connections = p.connections) : StepEffect p l q :=
  ⟨speaks, fun _ d there => ⟨d, same ▸ there, .alike d.alike_refl⟩⟩

theorem effect_refl : StepEffect p l p := .of_speaks .refl rfl

theorem effect_sendIfConnected {m : ApiMessage} (may : May p l m) :
    StepEffect p l (p.sendIfConnected m) :=
  .of_speaks (speaks_sendIfConnected may) (p.sendIfConnected_connections m)

/-! ## Requests -/

/-- Where the loop of `get_connection_` stops. -/
theorem findConnection_some {address : UInt64} {reserve : Bool}
    (found : p.findConnection address reserve = some i) :
    ∃ c, p.connections[i]? = some c ∧
      (c.base.address = address ∨ (reserve = true ∧ c.base.address = 0)) := by
  obtain ⟨bound, holds, -⟩ := List.findIdx?_eq_some_iff_getElem.mp found
  exact ⟨_, List.getElem?_eq_getElem bound, of_decide_eq_true holds⟩

theorem findConnection_serves {address : UInt64}
    (found : p.findConnection address false = some i) :
    ∃ c, p.connections[i]? = some c ∧ c.base.address = address := by
  obtain ⟨c, here, serves | ⟨reserve, -⟩⟩ := findConnection_some found
  · exact ⟨c, here, serves⟩
  · cases reserve

/-- What `connect_request` does to a slot once it has it. -/
inductive ConnectMove (c : BluetoothConnection) : BluetoothConnection → Prop
  | same : ConnectMove c c
  | discover (reserved : c.base.state = .init) (type : ConnectionType) :
      ConnectMove c (c.discover type)
  | cancel (connecting : c.base.state = .connecting) (pending : c.base.wantDisconnect = true) :
      ConnectMove c (c.withBase c.base.cancelPendingDisconnect)

theorem acts_connectConnection {N : Prop} {P : ApiMessage → Prop} {address : UInt64}
    (silent : ∀ m, m.isReport = false → P m)
    (up : c.base.Up → P (.deviceConnection address true 0 ESP_OK))
    (here : p.connections[i]? = some c) (type : ConnectionType) :
    ∃ d, ConnectMove c d ∧ Acts N P i p c (p.connectConnection i address type) d := by
  unfold connectConnection
  rw [withConnection_of here]
  have isUp : c.base.Up → Acts N P i p c
      (p.sendDeviceConnection address true 0 ESP_OK).sendConnectionsFree c := fun holds =>
    have told := acts_sendIfConnected (N := N) here (up holds)
    told.trans (acts_sendIfConnected told.there (silent _ rfl))
  cases state : c.base.state with
  | connected => exact ⟨c, .same, isUp (.inl state)⟩
  | established => exact ⟨c, .same, isUp (.inr state)⟩
  | connecting =>
      simp only
      split
      · rename_i pending
        exact ⟨_, .cancel state pending, acts_update here _⟩
      · exact ⟨c, .same, .refl here⟩
  | init =>
      have found := acts_update (N := N) (P := P) here (·.discover type)
      exact ⟨_, .discover state type,
        found.trans (acts_sendIfConnected found.there (silent _ rfl))⟩
  | idle | disconnecting | discovered => exact ⟨c, .same, .refl here⟩

theorem acts_reserveConnection {N : Prop} {P : ApiMessage → Prop} {address : UInt64}
    (here : p.connections[i]? = some c) :
    Acts N P i p c (p.reserveConnection i address) (c.reserve address) := by
  unfold reserveConnection
  rw [withConnection_of here]
  have reserved := acts_update (N := N) (P := P) here (·.reserve address)
  exact reserved.trans (.of_speaks reserved.there (.silent rfl rfl) rfl)

section Connect

variable {address : UInt64} {kind : DeviceRequestType} {hasAddressType : Bool} {now : UInt32}

theorem reservation_of_free (reserves : (ApiRequest.device address kind hasAddressType).reserves)
    (found : p.findConnection address true = some i) (here : p.connections[i]? = some c)
    (other : c.base.address ≠ address) :
    p.reservation (.request (.device address kind hasAddressType) now) = some (i, address) := by
  simp [reservation, reserves, ApiRequest.address, found, here, other]

theorem cancellation_of_pending (reserves : (ApiRequest.device address kind true).reserves)
    (found : p.findConnection address true = some i) (here : p.connections[i]? = some c)
    (serves : c.base.address = address) (connecting : c.base.state = .connecting)
    (pending : c.base.wantDisconnect = true) :
    p.cancellation (.request (.device address kind true) now) = some i := by
  simp [cancellation, reserves, found, here, serves, connecting, pending]

theorem effect_connectRequest (type : ConnectionType)
    (reserves : (ApiRequest.device address kind hasAddressType).reserves) :
    StepEffect p (.request (.device address kind hasAddressType) now)
      (p.connectRequest address hasAddressType type) := by
  unfold connectRequest getConnection
  cases found : p.findConnection address true with
  | none => exact effect_sendIfConnected (may_of_silent _ rfl)
  | some i =>
      obtain ⟨c, here, -⟩ := findConnection_some found
      simp only [withConnection_of here]
      by_cases serves : c.base.address = address
      · rw [if_pos serves]
        cases hasAddressType with
        | false => exact effect_sendIfConnected (may_of_silent _ rfl)
        | true =>
            -- the slot already serves the device
            have named : p.findConnection (ApiRequest.device address kind true).address
                (ApiRequest.device address kind true).reserves = some i := by
              rw [reserves]
              exact found
            obtain ⟨d, move, acts⟩ := acts_connectConnection may_of_silent
              (fun up _ => .up named here serves up) here type
            refine .of_acts acts ?_
            cases move with
            | same => exact .alike c.alike_refl
            | discover reserved type => exact .discover reserved type
            | cancel connecting pending =>
                exact .cancel
                  (cancellation_of_pending reserves found here serves connecting pending)
      · -- the slot is free, and is taken for the device
        rw [if_neg serves]
        have taken : p.reservation (.request (.device address kind hasAddressType) now) =
            some (i, address) := reservation_of_free reserves found here serves
        have reserved : StepActs p (.request (.device address kind hasAddressType) now) i c
            (p.reserveConnection i address) (c.reserve address) := acts_reserveConnection here
        cases hasAddressType with
        | false =>
            exact .of_acts (reserved.trans (acts_sendIfConnected reserved.there
              (may_of_silent _ rfl))) (.reserve taken)
        | true =>
            obtain ⟨d, move, acts⟩ := acts_connectConnection may_of_silent
              (fun up => by rcases up with up | up <;> cases up) reserved.there type
            refine .of_acts (reserved.trans acts) ?_
            cases move with
            | same => exact .reserve taken
            | discover _ type => exact .reserveDiscover taken type
            | cancel connecting => cases connecting

end Connect

section Requests

variable {address : UInt64} {now : UInt32} {hasAddressType : Bool}

theorem effect_disconnectRequest :
    StepEffect p (.request (.device address .disconnect hasAddressType) now)
      (p.disconnectRequest now address) := by
  unfold disconnectRequest
  cases found : p.findConnection address false with
  | none =>
      refine .of_speaks ?_ (by simp)
      exact (speaks_sendIfConnected (may_of_silent _ rfl)).trans
        (speaks_sendIfConnected (may_of_silent _ rfl))
  | some i =>
      obtain ⟨c, here, -⟩ := findConnection_some found
      simp only [withConnection_of here]
      split
      · exact .of_acts (acts_update here _) (.disconnect now)
      · rename_i idle
        have freed : StepActs p (.request (.device address .disconnect hasAddressType) now) i c
            (p.setAddress i 0) (c.setAddress 0) := acts_setAddress here 0
        have told := freed.trans (acts_sendIfConnected freed.there
          (may_of_silent (.deviceConnection address false 0 ESP_OK) rfl))
        exact .of_acts (told.trans (acts_sendIfConnected told.there (may_of_silent _ rfl)))
          (.free (not_not.mp idle))

theorem effect_pairRequest :
    StepEffect p (.request (.device address .pair hasAddressType) now) (p.pairRequest address) := by
  unfold pairRequest
  cases found : p.findConnection address false with
  | none => exact effect_refl
  | some i =>
      obtain ⟨c, here, serves⟩ := findConnection_serves found
      simp only [withConnection_of here]
      split
      · exact .of_acts (acts_update here _) (.enqueue .pair)
      · rename_i paired
        exact effect_sendIfConnected fun _ =>
          .paired (r := .device address .pair hasAddressType) found here serves
            (Bool.eq_true_of_not_eq_false paired)

theorem effect_unpairRequest :
    StepEffect p (.request (.device address .unpair hasAddressType) now)
      (p.unpairRequest address) := by
  unfold unpairRequest
  cases found : p.findConnection address false with
  | none => exact effect_sendIfConnected fun _ => .unpaired _
  | some i =>
      obtain ⟨c, here, -⟩ := findConnection_some found
      have queued : StepActs p (.request (.device address .unpair hasAddressType) now) i c _ _ :=
        acts_update here fun c => c.withBase c.base.removeBond.2
      exact .of_acts (queued.trans (acts_sendIfConnected queued.there fun _ => .unpaired _))
        (.enqueue .removeBond)

theorem effect_gattRequest {r : ApiRequest} {handle : UInt16}
    {op : BLEClientBase Origin → Int × BLEClientBase Origin}
    (queues : ∀ b, (op b).2 = b ∨ ∃ cmd, (op b).2 = b.enqueue cmd) :
    StepEffect p (.request r now) (p.gattRequest r.address handle op) := by
  unfold gattRequest
  cases found : p.findConnection r.address false with
  | none => exact effect_sendIfConnected fun _ => .refused _ _
  | some i =>
      obtain ⟨c, here, -⟩ := findConnection_some found
      simp only [withConnection_of here]
      have queued : StepActs p (.request r now) i c _ _ :=
        acts_update here fun c => c.withBase (op c.base).2
      have move : SlotMove p (.request r now) i c (c.withBase (op c.base).2) := by
        rcases queues c.base with same | ⟨cmd, enqueued⟩
        · rw [same]
          exact .alike c.alike_refl
        · rw [enqueued]
          exact .enqueue cmd
      split
      · exact .of_acts (queued.trans (acts_sendIfConnected queued.there fun _ => .refused _ _)) move
      · exact .of_acts queued move

theorem effect_bluetoothGattSendServices :
    StepEffect p (.request (.gattGetServices address) now)
      (p.bluetoothGattSendServices address) := by
  unfold bluetoothGattSendServices
  have refused : StepEffect p (.request (.gattGetServices address) now)
      (p.handleGattNotConnected address 0) :=
    effect_sendIfConnected fun _ => .refused (r := .gattGetServices address) _ _
  cases found : p.findConnection address false with
  | none => exact refused
  | some i =>
      obtain ⟨c, here, -⟩ := findConnection_some found
      simp only [withConnection_of here]
      split
      · exact refused
      · split
        · exact effect_sendIfConnected (may_of_silent _ rfl)
        · split
          · refine .of_acts (acts_update here fun c => { c with sendService := 0 }) (.alike ?_)
            exact ⟨⟨c.base.services, rfl⟩, rfl, rfl, rfl, rfl⟩
          · exact effect_refl

theorem effect_bluetoothSetConnectionParams {minInterval maxInterval latency timeout : UInt32} :
    StepEffect p
      (.request (.setConnectionParams address minInterval maxInterval latency timeout) now)
      (p.bluetoothSetConnectionParams address) := by
  unfold bluetoothSetConnectionParams
  split
  · exact effect_refl
  · rename_i connected
    have answer : ∀ error, StepEffect p
        (.request (.setConnectionParams address minInterval maxInterval latency timeout) now)
        (p.sendMessage (.setConnectionParams address error)) := fun error =>
      .of_speaks (speaks_sendMessage (fun none => absurd none connected) (may_of_silent _ rfl))
        (p.sendMessage_connections _)
    cases found : p.findConnection address false with
    | none => exact answer _
    | some i =>
        obtain ⟨c, here, -⟩ := findConnection_some found
        simp only [withConnection_of here]
        split <;> exact answer _

theorem effect_request (r : ApiRequest) : StepEffect p (.request r now) (p.request now r) := by
  cases r with
  | device address type hasAddressType =>
      cases type with
      | connectV3WithCache => exact effect_connectRequest .v3WithCache rfl
      | connectV3WithoutCache => exact effect_connectRequest .v3WithoutCache rfl
      | disconnect => exact effect_disconnectRequest
      | pair => exact effect_pairRequest
      | unpair => exact effect_unpairRequest
      | clearCache =>
          exact .of_speaks (speaks_sendMessage (fun none => ⟨rfl, none⟩) (may_of_silent _ rfl))
            (p.sendMessage_connections _)
      | connect => exact effect_sendIfConnected (may_of_silent _ rfl)
  | gattRead | gattWrite | gattReadDescriptor | gattWriteDescriptor | gattNotify =>
      exact effect_gattRequest fun b => (b.primitive_snd _).imp id fun queued => ⟨_, queued⟩
  | gattGetServices => exact effect_bluetoothGattSendServices
  | setConnectionParams => exact effect_bluetoothSetConnectionParams

end Requests

/-! ## Steps -/

theorem slotStep_some {f : BluetoothConnection → Option BluetoothProxy}
    (step : p.slotStep i f = some q) : ∃ c, p.connections[i]? = some c ∧ f c = some q :=
  Option.bind_eq_some_iff.mp step

theorem afterDrain_some {r : BluetoothProxy} (step : p.afterDrain i r = some q) :
    ∃ c, p.connections[i]? = some c ∧ c.drained = [] ∧ q = r := by
  obtain ⟨c, here, found⟩ := slotStep_some step
  obtain ⟨empty, same⟩ := Option.ite_none_right_eq_some.mp found
  exact ⟨c, here, empty, (Option.some.inj same).symm⟩

/-- A step that moves every slot alike. -/
theorem StepEffect.of_map {f : BluetoothConnection → BluetoothConnection}
    (speaks : Speaks (p.ClearsUnsubscribed l) (May p l) p q)
    (mapped : q.connections = p.connections.map f) (move : ∀ i c, SlotMove p l i c (f c)) :
    StepEffect p l q := by
  refine ⟨speaks, fun i d there => ?_⟩
  rw [mapped, List.getElem?_map] at there
  obtain ⟨c, here, rfl⟩ := Option.map_eq_some_iff.mp there
  exact ⟨c, here, move i c⟩

theorem effect_onScannerState {state : ScannerState} {scanActive : Bool} :
    StepEffect p (.scannerState state scanActive) (p.onScannerState state scanActive) := by
  unfold onScannerState
  split
  · rename_i connected
    exact .of_speaks (speaks_sendMessage (fun none => absurd none connected) (may_of_silent _ rfl))
      (p.sendMessage_connections _)
  · exact effect_refl

theorem effect_subscribeApiConnection {client : Nat} {state : ScannerState} {scanActive : Bool} :
    StepEffect p (.subscribe client state scanActive)
      (p.subscribeApiConnection client state scanActive) := by
  unfold subscribeApiConnection
  split
  · exact effect_refl
  · refine .of_speaks ?_ (sendMessage_connections _ _)
    have stored : Speaks (p.ClearsUnsubscribed (.subscribe client state scanActive))
        (May p (.subscribe client state scanActive)) p { p with apiConnection := some client } :=
      .silent rfl rfl
    exact stored.trans (speaks_sendMessage nofun (may_of_silent _ rfl))

theorem speaks_parseDevice {N : Prop} {P : ApiMessage → Prop}
    (silent : ∀ m, m.isReport = false → P m) (cfg : ProxyConfig) (serverConnected : Bool)
    (device : ESPBTDevice) :
    Speaks N P p (p.parseDevice cfg serverConnected device) ∧
      (p.parseDevice cfg serverConnected device).connections = p.connections := by
  unfold parseDevice
  split
  · exact ⟨.refl, rfl⟩
  · rename_i open_
    obtain ⟨-, connected⟩ := not_or.mp open_
    have stored : Speaks N P p
        { p with advertisements := p.advertisements ++ [rawAdvertisement device] } :=
      .silent rfl rfl
    simp only
    split
    · exact ⟨stored.trans (speaks_flushPendingAdvertisements connected (silent _ rfl)),
        flushPendingAdvertisements_connections _⟩
    · exact ⟨stored, rfl⟩

theorem effect_advertisement (cfg : ProxyConfig) {serverConnected : Bool} {device : ESPBTDevice}
    (step : p.proxyStep cfg (.advertisement serverConnected device) = some q) :
    StepEffect p (.advertisement serverConnected device) q := by
  obtain rfl := Option.some.inj step
  obtain ⟨speaks, same⟩ := speaks_parseDevice may_of_silent cfg serverConnected device
  exact .of_map (speaks.trans (.silent rfl rfl)) (congrArg _ same) fun i c => .parseDevice device

theorem effect_loop {serverConnected : Bool} {now : UInt32} :
    StepEffect p (.loop serverConnected now) (p.loop serverConnected now) := by
  unfold loop
  split
  · exact effect_refl
  · have stamped : Speaks (p.ClearsUnsubscribed (.loop serverConnected now))
        (May p (.loop serverConnected now)) p { p with lastAdvertisementFlushTime := now } :=
      .silent rfl rfl
    simp only
    split
    · rename_i connected
      exact .of_speaks (stamped.trans
        (speaks_flushPendingAdvertisements connected.2 (may_of_silent _ rfl)))
        (flushPendingAdvertisements_connections _)
    · refine .of_map (stamped.trans (.silent rfl rfl)) rfl fun i c => ?_
      split
      · exact .disconnect now
      · exact .alike c.alike_refl

/-- The worker does `f` to its slot, and touches only the queues. -/
structure WorkerStep (p : BluetoothProxy) (l : ProxyLabel) (q : BluetoothProxy) (i : Nat)
    (c : BluetoothConnection) (f : BluetoothConnection → BluetoothConnection) : Prop where
  here : p.connections[i]? = some c
  moved : q = p.update i f
  move : SlotMove p l i c (f c)
  quiet : ∀ d, Quiet d.base (f d).base
  sendService : ∀ d, (f d).sendService = d.sendService

/-- **What the worker of a slot can do.** -/
theorem worker_step {cfg : ProxyConfig} {i : Nat} (worker : l.workerSlot = some i)
    (step : p.proxyStep cfg l = some q) : ∃ c f, WorkerStep p l q i c f := by
  cases l with
  | take j =>
      obtain rfl := Option.some.inj worker
      obtain ⟨c, here, found⟩ := slotStep_some step
      split at found
      · rename_i h host waiting
        exact ⟨c, _, here, (Option.some.inj found).symm, .take host waiting,
          fun _ => ⟨rfl, rfl, rfl, rfl, rfl, rfl⟩, fun _ => rfl⟩
      · cases found
  | post j ev =>
      obtain rfl := Option.some.inj worker
      obtain ⟨c, here, found⟩ := slotStep_some step
      split at found
      · rename_i h x rest host running
        obtain ⟨kind, moved⟩ := Option.ite_none_right_eq_some.mp found
        exact ⟨c, _, here, (Option.some.inj moved).symm, .post host running kind,
          fun _ => ⟨rfl, rfl, rfl, rfl, rfl, rfl⟩, fun _ => rfl⟩
      · cases found
  | finish j =>
      obtain rfl := Option.some.inj worker
      obtain ⟨c, here, found⟩ := slotStep_some step
      split at found
      · cases found
      · rename_i x rest running
        exact ⟨c, _, here, (Option.some.inj found).symm, .finish running,
          fun d => .refl d.base, fun _ => rfl⟩
  | signal j ev =>
      obtain rfl := Option.some.inj worker
      obtain ⟨c, here, found⟩ := slotStep_some step
      split at found
      · rename_i h host
        obtain ⟨kind, moved⟩ := Option.ite_none_right_eq_some.mp found
        exact ⟨c, _, here, (Option.some.inj moved).symm, .signal host kind,
          fun _ => ⟨rfl, rfl, rfl, rfl, rfl, rfl⟩, fun _ => rfl⟩
      · cases found
  | _ => cases worker

/-- **The effect of every step.** -/
theorem proxyStep_effect (cfg : ProxyConfig) (step : p.proxyStep cfg l = some q) :
    StepEffect p l q := by
  cases l with
  | request r now =>
      obtain rfl := Option.some.inj step
      exact effect_request r
  | scannerSetMode active =>
      obtain rfl := Option.some.inj step
      exact effect_refl
  | connectionsFree client =>
      obtain rfl := Option.some.inj step
      exact .of_speaks ⟨.inl, _, rfl, by simpa using may_of_silent _ rfl⟩ rfl
  | subscribe client state scanActive =>
      obtain rfl := Option.some.inj step
      exact effect_subscribeApiConnection
  | unsubscribe client =>
      obtain rfl := Option.some.inj step
      unfold unsubscribeApiConnection
      split
      · exact effect_refl
      · exact .of_speaks (.silent rfl rfl) rfl
  | scannerState state scanActive =>
      obtain rfl := Option.some.inj step
      exact effect_onScannerState
  | advertisement serverConnected device => exact effect_advertisement cfg step
  | loop serverConnected now =>
      obtain rfl := Option.some.inj step
      exact effect_loop
  | promote i now =>
      obtain ⟨c, here, found⟩ := slotStep_some step
      obtain ⟨discovered, same⟩ := Option.ite_none_right_eq_some.mp found
      obtain rfl := Option.some.inj same
      exact .of_acts (acts_update here _) (.promote discovered now)
  | drain i =>
      obtain ⟨c, here, empty, rfl⟩ := afterDrain_some step
      exact .of_acts (acts_update here _) (.drain empty)
  | dispatch i now =>
      obtain ⟨c, here, found⟩ := slotStep_some step
      cases head : c.drained with
      | nil => simp [head] at found
      | cons x rest =>
          simp only [head, Option.some.injEq] at found
          obtain rfl := found
          have popped := acts_update (N := p.ClearsUnsubscribed (.dispatch i now))
            (P := May p (.dispatch i now)) here fun c => { c with drained := rest }
          exact .of_acts (popped.trans (acts_dispatchEvent may_of_silent popped.there now x
            fun m reports _ => .event here head reports)) (.dispatch rfl head)
  | connectTimeout i now =>
      obtain ⟨c, here, empty, rfl⟩ := afterDrain_some step
      exact .of_acts (acts_checkConnectTimeout may_of_silent here now) (.connectTimeout now)
  | disconnectTimeout i now =>
      obtain ⟨c, here, empty, rfl⟩ := afterDrain_some step
      exact .of_acts (acts_checkDisconnectTimeout may_of_silent here now) (.disconnectTimeout now)
  | stream i =>
      obtain ⟨c, here, empty, rfl⟩ := afterDrain_some step
      obtain ⟨d, same, acts⟩ := acts_streamServices may_of_silent cfg here
      exact .of_acts acts (.alike same)
  | take i | post i ev | finish i | signal i ev =>
      obtain ⟨c, f, worker⟩ := worker_step rfl step
      rw [worker.moved]
      exact .of_acts (acts_update worker.here f) worker.move

end BluetoothProxy

end EsphomeHost

import EsphomeHost.Proxy.Services
import EsphomeHost.Proxy.Handlers
import EsphomeHost.Proxy.Paths

/-!
# Streaming the services

`bluetooth_gatt_send_services` sets `send_service_` to 0, and from then on every `loop` of the slot
sends one batch of services, until the list is exhausted.

* `Aside p q`: from `p` to `q` nothing was streamed and the subscription stayed.  Every handler but
  the streaming itself is aside, whatever slot it runs for.
* `undisturbed_step`: a step that is not a tick of the slot leaves its streaming where it is.
* `advance_step`: a tick sends the next batch, or the services-done message after the last.
* `starts_bluetoothGattSendServices`: the call leaves the slot at the start of such a list.
* `streamed_iff`: **every service is sent once and in order, in nonempty batches, and then the
  services-done message, exactly if no UUID is sent as zero**.
-/

namespace EsphomeHost

namespace BluetoothProxy

variable {p q r : BluetoothProxy} {i j : Nat} {c : BluetoothConnection}

/-! ## Handlers that stream nothing -/

/-- Nothing was streamed, and the subscription stayed. -/
structure Aside (p q : BluetoothProxy) : Prop where
  speaks : Speaks True (fun m => m.isStreaming = false) p q
  subscription : q.apiConnection = p.apiConnection

theorem Aside.refl : Aside p p := ⟨.refl, rfl⟩

theorem Aside.trans (left : Aside p q) (right : Aside q r) : Aside p r :=
  ⟨left.speaks.trans right.speaks, right.subscription.trans left.subscription⟩

theorem Aside.silent (outbox : q.outbox = p.outbox) (deref : q.nullDeref = p.nullDeref)
    (subscription : q.apiConnection = p.apiConnection) : Aside p q :=
  ⟨.silent deref outbox, subscription⟩

theorem aside_update (f : BluetoothConnection → BluetoothConnection) : Aside p (p.update i f) :=
  .silent rfl rfl rfl

theorem sendMessage_apiConnection (m : ApiMessage) :
    (p.sendMessage m).apiConnection = p.apiConnection := by
  unfold sendMessage
  split <;> rfl

theorem aside_sendMessage {m : ApiMessage} (other : m.isStreaming = false) :
    Aside p (p.sendMessage m) :=
  ⟨speaks_sendMessage (fun _ => trivial) other, sendMessage_apiConnection m⟩

theorem aside_flushPendingAdvertisements : Aside p p.flushPendingAdvertisements := by
  unfold flushPendingAdvertisements
  split
  · exact .refl
  · exact (aside_sendMessage rfl).trans (.silent rfl rfl rfl)

theorem aside_parseDevice {cfg : ProxyConfig} {serverConnected : Bool} {device : ESPBTDevice} :
    Aside p (p.parseDevice cfg serverConnected device) := by
  unfold parseDevice
  split
  · exact .refl
  · have stored : Aside p
        { p with advertisements := p.advertisements ++ [rawAdvertisement device] } :=
      .silent rfl rfl rfl
    simp only
    split
    · exact stored.trans aside_flushPendingAdvertisements
    · exact stored

/-- The handlers that stream nothing are aside. -/
theorem aside_rule : HandlerRule Aside where
  refl _ := .refl
  trans := .trans
  update _ _ f := aside_update f
  ledger _ _ := .silent rfl rfl rfl
  send _ _ plain := aside_sendMessage plain.streaming

/-- No handler changes the subscription. -/
theorem subscription_rule : HandlerRule fun p q => q.apiConnection = p.apiConnection where
  refl _ := rfl
  trans left right := right.trans left
  update _ _ _ := rfl
  ledger _ _ := rfl
  send _ m _ := sendMessage_apiConnection m

/-! ## Steps that leave a slot's streaming alone -/

/-- An event that ends the link, begins to end it, or brings a new list of services. -/
def Disturbs (c : BluetoothConnection) : HostGattEvent → Bool
  | .disconnected _ | .servicesDiscovered _ _ => true
  | .connected => c.base.wantDisconnect
  | _ => false

/-- The API connection stays up, and neither a request nor a disconnect reaches slot `i`. -/
def Undisturbed (i : Nat) (p : BluetoothProxy) : ProxyLabel → Prop
  | .request _ _ => False
  | .unsubscribe client => p.apiConnection ≠ some client
  | .loop serverConnected _ => serverConnected = true
  | .dispatch j _ => j = i → ∀ c, p.connections[i]? = some c →
      ∀ x ∈ c.drained.head?, Disturbs c x.val = false
  | _ => True

/-- What the streaming reads of a slot is as before, and its link is still up. -/
structure Unmoved (c d : BluetoothConnection) : Prop where
  address : d.base.address = c.base.address
  services : d.base.services = c.base.services
  sendService : d.sendService = c.sendService
  up : c.base.Up → d.base.Up

variable {cfg : ProxyConfig} {l : ProxyLabel} {d e : BluetoothConnection} {client : Nat}

theorem unmoved_refl (c : BluetoothConnection) : Unmoved c c := ⟨rfl, rfl, rfl, id⟩

theorem unmoved_of_quiet (quiet : Quiet c.base d.base)
    (sendService : d.sendService = c.sendService) : Unmoved c d :=
  ⟨quiet.address, quiet.services, sendService, fun up => by
    unfold BLEClientBase.Up
    rwa [quiet.state]⟩

/-- A step on one slot leaves the others alone. -/
theorem unmoved_of_acts {N : Prop} {P : ApiMessage → Prop} (acts : Acts N P j p d q e)
    (here : p.connections[i]? = some c) (same : j = i → d = c → Unmoved d e) :
    ∃ f, q.connections[i]? = some f ∧ Unmoved c f := by
  rcases eq_or_ne j i with rfl | other
  · obtain rfl : d = c := Option.some.inj (acts.before.symm.trans here)
    exact ⟨e, acts.there, same rfl rfl⟩
  · exact ⟨c, (acts.others other).trans here, unmoved_refl c⟩

theorem unmoved_dispatched (now : UInt32) {x : Stamped Origin HostGattEvent}
    {rest : List (Stamped Origin HostGattEvent)} (calm : Disturbs c x.val = false) :
    Unmoved c ({ c with drained := rest }.dispatched now x) := by
  obtain ⟨stamp, ev⟩ := x
  cases ev with
  | disconnected | servicesDiscovered => cases calm
  | connected =>
      have wanted : c.base.wantDisconnect = false := calm
      have kept : c.base.dispatchEvent now .connected = (c.base.setState .connected, none) :=
        if_neg (by rw [wanted]; exact Bool.false_ne_true)
      unfold BluetoothConnection.dispatched BluetoothConnection.outcome
      rw [kept]
      exact ⟨rfl, rfl, rfl, fun _ => .inl rfl⟩
  | pairingComplete success reason => cases success <;> exact ⟨rfl, rfl, rfl, id⟩
  | _ => exact ⟨rfl, rfl, rfl, id⟩

/-- A link that is up does not time out. -/
theorem unmoved_timeouts (now : UInt32) (up : c.base.Up) :
    Unmoved c (c.outcome (c.base.checkConnectTimeout now)) ∧
      Unmoved c (c.outcome (c.base.checkDisconnectTimeout now)) := by
  have connecting : c.base.connectTimedOut now = false := by
    rcases up with up | up <;> simp [BLEClientBase.connectTimedOut, up]
  have disconnecting : c.base.disconnectTimedOut now = false := by
    rcases up with up | up <;> simp [BLEClientBase.disconnectTimedOut, up]
  rw [BLEClientBase.checkConnectTimeout, connecting, BLEClientBase.checkDisconnectTimeout,
    disconnecting]
  exact ⟨unmoved_refl c, unmoved_refl c⟩

/-- **A step that is not a tick of the slot** leaves its streaming where it is. -/
theorem unmoved_step (guard : Undisturbed i p l) (other : l ≠ .stream i)
    (here : p.connections[i]? = some c) (up : c.base.Up)
    (subscribed : p.apiConnection = some client) (step : p.proxyStep cfg l = some q) :
    ∃ d, q.connections[i]? = some d ∧ Unmoved c d := by
  have still : ∀ {q : BluetoothProxy}, q.connections = p.connections →
      ∃ d, q.connections[i]? = some d ∧ Unmoved c d := fun same =>
    ⟨c, same ▸ here, unmoved_refl c⟩
  cases l with
  | request r now => exact guard.elim
  | scannerSetMode active | connectionsFree asking =>
      obtain rfl := Option.some.inj step
      exact still rfl
  | subscribe asking state scanActive =>
      obtain rfl := Option.some.inj step
      refine still ?_
      rw [subscribeApiConnection, if_pos (by rw [subscribed]; exact Option.some_ne_none _)]
  | unsubscribe asking =>
      obtain rfl := Option.some.inj step
      refine still ?_
      unfold unsubscribeApiConnection
      split <;> rfl
  | scannerState state scanActive =>
      obtain rfl := Option.some.inj step
      refine still ?_
      unfold onScannerState
      split
      · exact sendMessage_connections _ _
      · rfl
  | advertisement serverConnected device =>
      obtain rfl := Option.some.inj step
      have same := (speaks_parseDevice (p := p) (N := True) (P := fun _ => True)
        (fun _ _ => trivial) cfg serverConnected device).2
      refine ⟨c.parseDevice device, ?_, ?_⟩
      · simp only [List.getElem?_map, same, here, Option.map_some]
      · rcases c.base.parseDevice_cases device with kept | ⟨idle, -⟩
        · unfold BluetoothConnection.parseDevice
          rw [kept]
          exact unmoved_refl c
        · rcases up with up | up <;> cases idle.symm.trans up
  | loop serverConnected now =>
      obtain rfl := Option.some.inj step
      refine still ?_
      have connected : serverConnected = true := guard
      unfold loop
      split
      · rfl
      · simp only [connected, subscribed, ne_eq, reduceCtorEq, not_false_eq_true, and_self,
          if_true, flushPendingAdvertisements_connections]
  | promote j now =>
      obtain ⟨d, there, found⟩ := slotStep_some step
      obtain ⟨discovered, same⟩ := Option.ite_none_right_eq_some.mp found
      obtain rfl := Option.some.inj same
      refine unmoved_of_acts (acts_update (N := True) (P := fun _ => True) there _) here ?_
      rintro rfl rfl
      rcases up with up | up <;> cases discovered.symm.trans up
  | drain j =>
      obtain ⟨d, there, empty, rfl⟩ := afterDrain_some step
      refine unmoved_of_acts (acts_update (N := True) (P := fun _ => True) there _) here ?_
      intro _ _
      unfold BluetoothConnection.drain BLEClientBase.drain
      split <;> exact ⟨rfl, rfl, rfl, id⟩
  | dispatch j now =>
      obtain ⟨d, there, found⟩ := slotStep_some step
      cases head : d.drained with
      | nil => simp [head] at found
      | cons x rest =>
          simp only [head, Option.some.injEq] at found
          obtain rfl := found
          have popped := acts_update (N := True) (P := fun _ => True) there fun c =>
            { c with drained := rest }
          refine unmoved_of_acts (popped.trans (acts_dispatchEvent (fun _ _ => trivial)
            popped.there now x fun _ _ => trivial)) here ?_
          rintro rfl rfl
          exact unmoved_dispatched now (guard rfl d here x (by simp [head]))
  | connectTimeout j now =>
      obtain ⟨d, there, empty, rfl⟩ := afterDrain_some step
      refine unmoved_of_acts (acts_checkConnectTimeout (N := True) (P := fun _ => True)
        (fun _ _ => trivial) there now) here ?_
      rintro rfl rfl
      exact (unmoved_timeouts now up).1
  | disconnectTimeout j now =>
      obtain ⟨d, there, empty, rfl⟩ := afterDrain_some step
      refine unmoved_of_acts (acts_checkDisconnectTimeout (N := True) (P := fun _ => True)
        (fun _ _ => trivial) there now) here ?_
      rintro rfl rfl
      exact (unmoved_timeouts now up).2
  | stream j =>
      obtain ⟨d, there, empty, rfl⟩ := afterDrain_some step
      obtain ⟨e, -, acts⟩ := acts_streamServices (N := True) (P := fun _ => True)
        (fun _ _ => trivial) cfg there
      refine unmoved_of_acts acts here ?_
      rintro rfl
      exact absurd rfl other
  | take j | post j ev | finish j | signal j ev =>
      obtain ⟨d, f, worker⟩ := worker_step rfl step
      rw [worker.moved]
      exact unmoved_of_acts (acts_update (N := True) (P := fun _ => True) worker.here f) here
        fun _ _ => unmoved_of_quiet (worker.quiet d) (worker.sendService d)

/-- Such a step streams nothing, unless it is the tick of another slot, and the client stays
subscribed. -/
theorem aside_step (guard : Undisturbed i p l) (subscribed : p.apiConnection = some client)
    (step : p.proxyStep cfg l = some q) :
    q.apiConnection = p.apiConnection ∧ ((∀ j, l ≠ .stream j) → Aside p q) := by
  have aside : Aside p q → q.apiConnection = p.apiConnection ∧ ((∀ j, l ≠ .stream j) → Aside p q) :=
    fun aside => ⟨aside.subscription, fun _ => aside⟩
  cases l with
  | request r now => exact guard.elim
  | connectionsFree asking =>
      obtain rfl := Option.some.inj step
      exact aside ⟨⟨.inl, _, rfl, by simp [ApiMessage.isStreaming]⟩, rfl⟩
  | subscribe asking state scanActive =>
      obtain rfl := Option.some.inj step
      have kept : p.subscribeApiConnection asking state scanActive = p :=
        if_pos (by rw [subscribed]; exact Option.some_ne_none _)
      exact aside (kept.symm ▸ .refl)
  | unsubscribe asking =>
      obtain rfl := Option.some.inj step
      have kept : p.unsubscribeApiConnection asking = p := if_pos guard
      exact aside (kept.symm ▸ .refl)
  | advertisement serverConnected device =>
      obtain rfl := Option.some.inj step
      have heard : Aside p (p.parseDevice cfg serverConnected device) := aside_parseDevice
      exact aside (heard.trans (.silent rfl rfl rfl))
  | loop serverConnected now =>
      obtain rfl := Option.some.inj step
      refine aside ?_
      unfold loop
      split
      · exact .refl
      · have stamped : Aside p { p with lastAdvertisementFlushTime := now } :=
          .silent rfl rfl rfl
        simp only
        split
        · exact stamped.trans aside_flushPendingAdvertisements
        · exact .silent rfl rfl rfl
  | stream j =>
      exact ⟨subscription_rule.step rfl (.inr fun _ m _ => sendMessage_apiConnection m) step,
        fun other => absurd rfl (other j)⟩
  | scannerSetMode | scannerState | promote | drain | dispatch | connectTimeout
  | disconnectTimeout | take | post | finish | signal =>
      exact aside (aside_rule.step rfl (.inl rfl) step)

/-! ## Ticks of the slot -/

/-- One services message per batch. -/
def transcript (client : Nat) (address : UInt64) (batches : List (List GattServiceMessage)) :
    List (Nat × ApiMessage) :=
  batches.map fun batch => (client, .gattServices address batch)

/-- How far the streaming of `services` is: `ticks` ticks have sent `sent`, and slot `c` is where
they left it. -/
inductive Streaming (efficient : Bool) (client : Nat) (address : UInt64)
    (services : List DiscoveredService) (c : BluetoothConnection) (sent : List (Nat × ApiMessage))
    (ticks : Nat) : Prop
  | running (batches : List (List GattServiceMessage)) (n : Nat)
      (told : sent = transcript client address batches) (nonempty : [] ∉ batches)
      (batched : batches.flatten = (services.take n).map (gattServiceMessage efficient))
      (position : c.sendService = Int16.ofNat n) (bound : n ≤ services.length)
      (tree : c.base.services = services) (progress : ticks ≤ n) :
      Streaming efficient client address services c sent ticks
  | done (batches : List (List GattServiceMessage))
      (told : sent = transcript client address batches ++ [(client, .gattServicesDone address)])
      (nonempty : [] ∉ batches)
      (batched : batches.flatten = services.map (gattServiceMessage efficient))
      (position : c.sendService = DONE_SENDING_SERVICES) :
      Streaming efficient client address services c sent ticks

variable {efficient : Bool} {address : UInt64} {services : List DiscoveredService}
  {sent : List (Nat × ApiMessage)} {ticks : Nat}

theorem Streaming.of_unmoved (streaming : Streaming efficient client address services c sent ticks)
    (unmoved : Unmoved c d) : Streaming efficient client address services d sent ticks := by
  cases streaming with
  | running batches n told nonempty batched position bound tree progress =>
      exact .running batches n told nonempty batched (unmoved.sendService.trans position) bound
        (unmoved.services.trans tree) progress
  | done batches told nonempty batched position =>
      exact .done batches told nonempty batched (unmoved.sendService.trans position)

/-- Where `loop` calls `send_service_for_discovery_`. -/
theorem streams_of_position {n : Nat} (short : services.length < 32768)
    (position : c.sendService = Int16.ofNat n) (bound : n ≤ services.length) :
    c.sendService.toInt = n ∧
      (c.sendService ≥ 0 ∧ c.sendService ≤ Int16.ofNat services.length) := by
  have value : c.sendService.toInt = n := by
    rw [position, Int16.toInt_ofNat_of_lt (by omega)]
  refine ⟨value, Int16.le_iff_toInt_le.mpr ?_, Int16.le_iff_toInt_le.mpr ?_⟩
  · rw [value]
    exact Int.natCast_nonneg n
  · rw [value, Int16.toInt_ofNat_of_lt (by omega)]
    exact Int.ofNat_le.mpr bound

/-- **A tick of the slot** sends the next batch, or after the last the services-done message. -/
theorem streaming_tick (here : p.connections[i]? = some c) (serves : c.base.address = address)
    (known : address ≠ 0) (up : c.base.Up) (subscribed : p.apiConnection = some client)
    (short : services.length < 32768)
    (streaming : Streaming (cfg.supportsEfficientUuids client) client address services c sent
      ticks) :
    ∃ d new, (p.streamServices cfg i).connections[i]? = some d ∧
      (p.streamServices cfg i).outbox = p.outbox ++ new ∧ (∀ m ∈ new, m.2.isStreaming = true) ∧
        d.base.address = address ∧ d.base.Up ∧
          Streaming (cfg.supportsEfficientUuids client) client address services d (sent ++ new)
            (ticks + 1) := by
  have alive : c.base.address ≠ 0 := serves ▸ known
  cases streaming with
  | done batches told nonempty batched position =>
      have idle : ¬ (c.sendService ≥ 0 ∧
          c.sendService ≤ Int16.ofNat c.base.services.length) := by
        rw [position]
        exact fun ready => absurd ready.1 (by decide)
      have kept : p.streamServices cfg i = p := by
        rw [streamServices, withConnection_of here, if_neg alive, if_neg idle]
      rw [kept]
      refine ⟨c, [], here, (List.append_nil _).symm, by simp, serves, up, ?_⟩
      rw [List.append_nil]
      exact .done batches told nonempty batched position
  | running batches n told nonempty batched position bound tree progress =>
      obtain ⟨value, ready⟩ := streams_of_position short position bound
      rw [← tree] at ready
      have tick : p.streamServices cfg i = p.sendServiceForDiscovery cfg i := by
        rw [streamServices, withConnection_of here, if_neg alive, if_pos ready]
      have nonnegative : ¬ c.sendService < 0 := Int16.not_lt.mpr ready.1
      rw [tick, sendServiceForDiscovery, withConnection_of here]
      by_cases last : n = services.length
      · -- the list is exhausted
        have exhausted : c.sendService < 0 ∨ c.sendService.toInt ≥ c.base.services.length := by
          rw [value, tree, last]
          exact .inr (Int.le_refl _)
        rw [if_pos exhausted]
        have marked := acts_update (N := True) (P := fun _ => True) here fun c =>
          { c with sendService := DONE_SENDING_SERVICES }
        have told' := marked.trans (acts_sendIfConnected marked.there
          (m := .gattServicesDone c.base.address) trivial)
        have released := told'.trans (acts_update told'.there fun c =>
          c.withBase c.base.releaseServices)
        refine ⟨_, [(client, .gattServicesDone address)], released.there, ?_, by simp
          [ApiMessage.isStreaming], serves, up, ?_⟩
        · rw [← serves]
          show (sendIfConnected _ _).outbox = _
          simp only [sendIfConnected, sendMessage, update, subscribed, reduceCtorEq, if_false]
        · refine .done batches (by rw [told]) nonempty ?_ rfl
          rw [batched, last, List.take_length]
      · -- the next batch
        have more : ¬ (c.sendService < 0 ∨ c.sendService.toInt ≥ c.base.services.length) := by
          rw [value, tree]
          exact not_or.mpr ⟨nonnegative, by omega⟩
        rw [if_neg more]
        simp only [subscribed]
        obtain ⟨k, inside, batch, positive⟩ := serviceBatch_eq cfg
          (cfg.supportsEfficientUuids client) (services.drop n) [] (cfg.responseSize address)
        rw [value, Int.toNat_natCast, tree, serves, batch, List.nil_append]
        rw [List.length_drop] at inside
        have length : ((services.drop n).take k).length = k := by
          rw [List.length_take, List.length_drop]
          omega
        have advanced := acts_update (N := True) (P := fun _ => True) here fun c =>
          { c with sendService := c.sendService + Int16.ofNat k }
        have nonzero : 0 < k := positive rfl (by
          intro empty
          have := List.drop_eq_nil_iff.mp empty
          omega)
        rw [List.length_map, length]
        refine ⟨{ c with sendService := c.sendService + Int16.ofNat k },
          [(client, .gattServices address (((services.drop n).take k).map
            (gattServiceMessage (cfg.supportsEfficientUuids client))))],
          ?_, ?_, by simp [ApiMessage.isStreaming], serves, up, ?_⟩
        · rw [sendMessage_connections]
          exact advanced.there
        · simp only [sendMessage, update, subscribed]
        · refine .running (batches ++ [((services.drop n).take k).map
            (gattServiceMessage (cfg.supportsEfficientUuids client))]) (n + k) ?_ ?_ ?_ ?_
            (by omega) tree (by omega)
          · rw [told, transcript, transcript, List.map_append]
            rfl
          · intro mem
            rcases List.mem_append.mp mem with old | new
            · exact nonempty old
            · have empty := congrArg List.length (List.mem_singleton.mp new)
              rw [List.length_map, length] at empty
              exact absurd empty nonzero.ne
          · rw [List.flatten_append, batched, List.flatten_singleton, ← List.map_append,
              ← List.take_add]
          · rw [Int16.ofNat_add, ← position]

/-! ## Runs -/

/-- A proxy, what the streaming of one of its slots has sent, and the ticks the slot had. -/
structure Ticked where
  proxy : BluetoothProxy
  sent : List (Nat × ApiMessage) := []
  ticks : Nat := 0

/-- What a step streams for slot `i`; the ticks of the other slots stream for their own devices. -/
def streamed (i : Nat) (p q : BluetoothProxy) : ProxyLabel → List (Nat × ApiMessage)
  | .stream j => if j = i then (newMessages p q).filter (·.2.isStreaming) else []
  | _ => (newMessages p q).filter (·.2.isStreaming)

/-- The machine of the proxy, with a record of the streaming of slot `i`. -/
def tickMachine (cfg : ProxyConfig) (i : Nat) : Machine Ticked ProxyLabel where
  init t := t.sent = [] ∧ t.ticks = 0
  step t l := (t.proxy.proxyStep cfg l).map fun q =>
    { proxy := q
      sent := t.sent ++ streamed i t.proxy q l
      ticks := if l = .stream i then t.ticks + 1 else t.ticks }

/-- The steps while the API connection stays up and no disconnect or request arrives. -/
def Quietly (i : Nat) (t : Ticked) (l : ProxyLabel) : Prop := Undisturbed i t.proxy l

/-- `bluetooth_gatt_send_services` has set `send_service_` of slot `i` to 0. -/
structure Starts (i client : Nat) (c : BluetoothConnection) (p : BluetoothProxy) : Prop where
  slot : p.connections[i]? = some c
  subscribed : p.apiConnection = some client
  known : c.base.address ≠ 0
  established : c.base.state = .established
  started : c.sendService = 0
  drained : c.drained = []
  short : c.base.services.length < 32768
  lens : ∀ svc ∈ c.base.services, ∀ u ∈ svc.uuids, u.len = 2 ∨ u.len = 4 ∨ u.len = 16

/-- What `bluetooth_gatt_send_services` leaves of a slot that it starts. -/
theorem starts_bluetoothGattSendServices (here : p.connections[i]? = some c)
    (found : p.findConnection c.base.address false = some i)
    (subscribed : p.apiConnection = some client)
    (known : c.base.address ≠ 0) (established : c.base.state = .established)
    (nonempty : c.base.services ≠ []) (waiting : c.sendService = INIT_SENDING_SERVICES)
    (drained : c.drained = []) (short : c.base.services.length < 32768)
    (lens : ∀ svc ∈ c.base.services, ∀ u ∈ svc.uuids, u.len = 2 ∨ u.len = 4 ∨ u.len = 16) :
    Starts i client { c with sendService := 0 } (p.bluetoothGattSendServices c.base.address) := by
  have connected : c.base.connected ≠ false := by simp [BLEClientBase.connected, established]
  have started : p.bluetoothGattSendServices c.base.address =
      p.update i fun c => { c with sendService := 0 } := by
    rw [bluetoothGattSendServices, found]
    simp only [withConnection_of here]
    rw [if_neg connected, if_neg (by simpa using nonempty), if_pos waiting]
  rw [started]
  have acts := acts_update (N := True) (P := fun _ => True) here fun c =>
    { c with sendService := 0 }
  exact ⟨acts.there, subscribed, known, established, rfl, drained, short, lens⟩

/-- The batches that were sent. -/
def announced (sent : List (Nat × ApiMessage)) : List (List GattServiceMessage) :=
  sent.filterMap fun m => match m.2 with
    | .gattServices _ batch => some batch
    | _ => none

/-- **What the client is told.**  Nonempty batches list the services from the first one on, each
once and in order; the services-done message comes after the last, at the latest in the tick after
as many as there are services, and then `send_service_` is -2. -/
structure Told (client : Nat) (address : UInt64) (services : List DiscoveredService)
    (sendService : Int16) (t : Ticked) : Prop where
  sent : t.sent = transcript client address (announced t.sent) ++
    if sendService = DONE_SENDING_SERVICES then [(client, .gattServicesDone address)] else []
  nonempty : [] ∉ announced t.sent
  listed : (announced t.sent).flatten.Forall₂ GattServiceMessage.Lists
    (services.take (announced t.sent).flatten.length)
  position : sendService = DONE_SENDING_SERVICES ∧
      (announced t.sent).flatten.length = services.length ∨
    sendService.toInt = (announced t.sent).flatten.length
  progress : services.length < t.ticks → sendService = DONE_SENDING_SERVICES

def Streamed (i client : Nat) (address : UInt64) (services : List DiscoveredService) (t : Ticked) :
    Prop :=
  ∃ c, t.proxy.connections[i]? = some c ∧ Told client address services c.sendService t

/-- The invariant of a run. -/
def Underway (cfg : ProxyConfig) (i client : Nat) (address : UInt64)
    (services : List DiscoveredService) (t : Ticked) : Prop :=
  t.proxy.apiConnection = some client ∧ ∃ c, t.proxy.connections[i]? = some c ∧
    c.base.address = address ∧ c.base.Up ∧
      Streaming (cfg.supportsEfficientUuids client) client address services c t.sent t.ticks

theorem underway_start (starts : Starts i client c p) :
    Underway cfg i client c.base.address c.base.services ⟨p, [], 0⟩ := by
  refine ⟨starts.subscribed, c, starts.slot, rfl, .inr starts.established, ?_⟩
  exact .running [] 0 rfl (by simp) rfl starts.started (Nat.zero_le _) rfl (Nat.le_refl 0)

/-- The streaming is underway after every step. -/
theorem underway_step {t u : Ticked} (known : address ≠ 0) (short : services.length < 32768)
    (underway : Underway cfg i client address services t) (guard : Quietly i t l)
    (step : (tickMachine cfg i).step t l = some u) :
    Underway cfg i client address services u := by
  obtain ⟨subscribed, c, here, serves, up, streaming⟩ := underway
  obtain ⟨q, moved, rfl⟩ := Option.map_eq_some_iff.mp step
  obtain ⟨stays, aside⟩ := aside_step guard subscribed moved
  refine ⟨stays.trans subscribed, ?_⟩
  by_cases tick : l = .stream i
  · subst tick
    obtain ⟨d, there, empty, rfl⟩ := afterDrain_some moved
    obtain ⟨e, new, after, outbox, kinds, serves', up', streaming'⟩ :=
      streaming_tick here serves known up subscribed short streaming
    refine ⟨e, after, serves', up', ?_⟩
    have told : streamed i t.proxy (t.proxy.streamServices cfg i) (.stream i) = new := by
      rw [streamed, if_pos rfl, newMessages, outbox, List.drop_left]
      exact List.filter_eq_self.mpr kinds
    simp only [told, if_true]
    exact streaming'
  · obtain ⟨d, after, unmoved⟩ := unmoved_step guard tick here up subscribed moved
    have silent : streamed i t.proxy q l = [] := by
      have speechless : (∀ j, l ≠ .stream j) →
          (newMessages t.proxy q).filter (·.2.isStreaming) = [] := fun other =>
        List.filter_eq_nil_iff.mpr fun m mem => by
          rw [(aside other).speaks.newMessages m mem]
          exact Bool.false_ne_true
      unfold streamed
      split
      · rw [if_neg fun same => tick (by rw [same])]
      · rename_i other
        exact speechless other
    refine ⟨d, after, unmoved.address.trans serves, unmoved.up up, ?_⟩
    simp only [silent, if_neg tick, List.append_nil]
    exact streaming.of_unmoved unmoved

theorem underway_reach {t : Ticked} (starts : Starts i client c p)
    (reach : (tickMachine cfg i).Reach (Quietly i) ⟨p, [], 0⟩ t) :
    Underway cfg i client c.base.address c.base.services t :=
  reach.invariant (fun _ _ _ underway guard step =>
    underway_step starts.known starts.short underway guard step) (underway_start starts)

/-! ## What the client is told -/

theorem announced_transcript (batches : List (List GattServiceMessage)) :
    announced (transcript client address batches) = batches := by
  induction batches with
  | nil => rfl
  | cons batch rest ih => exact congrArg (batch :: ·) ih

theorem announced_done (batches : List (List GattServiceMessage)) :
    announced (transcript client address batches ++ [(client, .gattServicesDone address)]) =
      batches := by
  rw [announced, List.filterMap_append, ← announced, announced_transcript]
  exact List.append_nil batches

theorem lists_map (lens : ∀ svc ∈ services, ∀ u ∈ svc.uuids, u.len = 2 ∨ u.len = 4 ∨ u.len = 16) :
    (services.map (gattServiceMessage efficient)).Forall₂ GattServiceMessage.Lists services ↔
      ∀ svc ∈ services, ∀ u ∈ svc.uuids, ¬ SentAsZero efficient u := by
  rw [List.forall₂_map_left_iff, List.forall₂_same]
  exact forall₂_congr fun svc mem => lists_gattServiceMessage efficient (lens svc mem)

/-- A streaming that is underway has told the client what it should, if no UUID is sent as zero. -/
theorem told_of_underway {t : Ticked}
    (lens : ∀ svc ∈ services, ∀ u ∈ svc.uuids, u.len = 2 ∨ u.len = 4 ∨ u.len = 16)
    (plain : ∀ svc ∈ services, ∀ u ∈ svc.uuids,
      ¬ SentAsZero (cfg.supportsEfficientUuids client) u)
    (short : services.length < 32768) (underway : Underway cfg i client address services t) :
    Streamed i client address services t := by
  obtain ⟨-, c, here, -, -, streaming⟩ := underway
  refine ⟨c, here, ?_⟩
  have lists := (lists_map lens).mpr plain
  cases streaming with
  | running batches n told nonempty batched position bound tree progress =>
      have same : announced t.sent = batches := by rw [told, announced_transcript]
      have count : batches.flatten.length = n := by
        rw [batched, List.length_map, List.length_take, Nat.min_eq_left bound]
      obtain ⟨value, ready⟩ := streams_of_position short position bound
      have unfinished : c.sendService ≠ DONE_SENDING_SERVICES := by
        intro finished
        rw [finished] at ready
        exact absurd ready.1 (by decide)
      refine ⟨?_, same ▸ nonempty, ?_, .inr ?_, fun late => absurd progress (by omega)⟩
      · rw [same, if_neg unfinished, List.append_nil, told]
      · rw [same, count, batched, List.map_take]
        exact List.forall₂_take n lists
      · rw [same, count, value]
  | done batches told nonempty batched position =>
      have same : announced t.sent = batches := by rw [told, announced_done]
      have count : batches.flatten.length = services.length := by rw [batched, List.length_map]
      refine ⟨?_, same ▸ nonempty, ?_, .inl ⟨position, ?_⟩, fun _ => position⟩
      · rw [same, if_pos position, told]
      · rw [same, count, batched, List.take_length]
        exact lists
      · rw [same, count]

/-- The slot can tick any number of times. -/
theorem reach_ticks (cfg : ProxyConfig) (starts : Starts i client c p) (n : Nat) :
    ∃ t d, (tickMachine cfg i).Reach (Quietly i) ⟨p, [], 0⟩ t ∧ t.ticks = n ∧
      t.proxy.connections[i]? = some d ∧ d.drained = [] := by
  induction n with
  | zero => exact ⟨_, c, .refl, rfl, starts.slot, starts.drained⟩
  | succ n ih =>
      obtain ⟨t, d, reach, count, here, drained⟩ := ih
      obtain ⟨e, alike, acts⟩ := acts_streamServices (N := True) (P := fun _ => True)
        (fun _ _ => trivial) cfg here
      have moved : t.proxy.proxyStep cfg (.stream i) = some (t.proxy.streamServices cfg i) := by
        simp [proxyStep, afterDrain, slotStep, here, drained]
      have step : (tickMachine cfg i).step t (.stream i) = some _ :=
        congrArg (Option.map _) moved
      have quiet : Quietly i t (.stream i) := trivial
      refine ⟨_, e, .tail reach quiet step, ?_, acts.there, alike.drained.trans drained⟩
      simp [count]

/-- **Every service is listed once and in order, and then the services-done message is sent**, in
every run while nothing interferes, exactly if no UUID of theirs is sent as zero. -/
theorem streamed_iff (starts : Starts i client c p) :
    (∀ t, (tickMachine cfg i).Reach (Quietly i) ⟨p, [], 0⟩ t →
        Streamed i client c.base.address c.base.services t) ↔
      ∀ svc ∈ c.base.services, ∀ u ∈ svc.uuids,
        ¬ SentAsZero (cfg.supportsEfficientUuids client) u := by
  constructor
  · intro always
    obtain ⟨t, -, reach, late, -⟩ := reach_ticks cfg starts (c.base.services.length + 1)
    obtain ⟨d, here, told⟩ := always t reach
    have finished := told.progress (by omega)
    obtain ⟨-, e, there, -, -, streaming⟩ := underway_reach starts reach
    obtain rfl : d = e := Option.some.inj (here.symm.trans there)
    cases streaming with
    | running batches n _ _ _ _ bound _ progress => omega
    | done batches sent _ batched _ =>
        have same : announced t.sent = batches := by rw [sent, announced_done]
        have listed := told.listed
        rw [same, batched, List.length_map, List.take_length] at listed
        exact (lists_map starts.lens).mp listed
  · intro plain t reach
    exact told_of_underway starts.lens plain starts.short (underway_reach starts reach)

/-! ## Two runs -/

/-- The slot connects, and its services are asked for. -/
def servicesAsked (services : List DiscoveredService) : List ProxyLabel :=
  .subscribe 7 .running true :: connectTo deviceA ++
    [.take 0, .post 0 .connected, .post 0 (.servicesDiscovered 247 services), .finish 0, .drain 0,
      .dispatch 0 5, .dispatch 0 5, .request (.gattGetServices deviceA) 10]

def batteryService : DiscoveredService := ⟨.fromUint16 0x180F, 1, 4, []⟩

def zeroService : DiscoveredService := ⟨.fromUint16 0, 1, 4, []⟩

theorem streamed_battery : ∃ p c,
    (proxyMachine plainConfig).run oneSlot (servicesAsked [batteryService]) = some p ∧
      p.connections = [c] ∧ c.base.services = [batteryService] ∧
        ∀ t, (tickMachine plainConfig 0).Reach (Quietly 0) ⟨p, [], 0⟩ t →
          Streamed 0 7 deviceA [batteryService] t := by
  obtain ⟨p, c, ran, only, starts, address, services⟩ : ∃ p c,
      (proxyMachine plainConfig).run oneSlot (servicesAsked [batteryService]) = some p ∧
        p.connections = [c] ∧ Starts 0 7 c p ∧ c.base.address = deviceA ∧
          c.base.services = [batteryService] :=
    ⟨_, _, rfl, rfl, ⟨rfl, rfl, by decide, rfl, rfl, rfl, by decide, by decide⟩, rfl, rfl⟩
  refine ⟨p, c, ran, only, services, ?_⟩
  rw [← address, ← services]
  refine (streamed_iff starts).mpr ?_
  rw [services]
  unfold SentAsZero
  decide

/-- A service whose UUID is the 16-bit zero is sent as one without a UUID. -/
theorem not_streamed_zero : ∃ p c, (proxyMachine plainConfig).Reachable p ∧ Starts 0 7 c p ∧
    c.base.services = [zeroService] ∧
      ∃ t, (tickMachine plainConfig 0).Reach (Quietly 0) ⟨p, [], 0⟩ t ∧
        ¬ Streamed 0 7 c.base.address c.base.services t := by
  obtain ⟨p, c, ran, starts, services, t, ticked, told⟩ : ∃ p c,
      (proxyMachine plainConfig).run oneSlot (servicesAsked [zeroService]) = some p ∧
        Starts 0 7 c p ∧ c.base.services = [zeroService] ∧
          ∃ t, (tickMachine plainConfig 0).step ⟨p, [], 0⟩ (.stream 0) = some t ∧
            announced t.sent = [[gattServiceMessage true zeroService]] :=
    ⟨_, _, rfl, ⟨rfl, rfl, by decide, rfl, rfl, rfl, by decide, by decide⟩, rfl, _, rfl, rfl⟩
  refine ⟨p, c, ⟨_, oneSlot_init, Machine.run_reach ran⟩, starts, services, t,
    .single (show Quietly 0 ⟨p, [], 0⟩ (.stream 0) from trivial) ticked, ?_⟩
  rintro ⟨d, -, told'⟩
  have listed := told'.listed
  rw [told, services] at listed
  obtain ⟨⟨uuid, -⟩, -⟩ := List.forall₂_cons.mp listed
  exact absurd uuid (by decide)

end BluetoothProxy

end EsphomeHost

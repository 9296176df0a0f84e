import EsphomeHost.Proxy.Moves

/-!
# The handlers as a whole

Most handlers only update slots, write the slot accounting and send.  A fact about the proxy that
these keep is kept by every handler.

* `HandlerRule R`: the relation `R` between two states of the proxy is kept by each of the three.
* `HandlerRule.step`: **then every step of a handler is in `R`**.
-/

namespace EsphomeHost

namespace ApiMessage

/-- The messages of the service streaming. -/
def isStreaming : ApiMessage → Bool
  | gattServices _ _ | gattServicesDone _ => true
  | _ => false

/-- The advertisements of a batch. -/
def advertisements : ApiMessage → List BluetoothProxy.BluetoothLERawAdvertisement
  | rawAdvertisements advertisements => advertisements
  | _ => []

/-- Neither streamed nor a batch. -/
structure Plain (m : ApiMessage) : Prop where
  streaming : m.isStreaming = false
  advertisements : m.advertisements = []

end ApiMessage

namespace ProxyLabel

/-- The steps that are not about a client's subscription or the batch. -/
def isHandler : ProxyLabel → Bool
  | connectionsFree _ | subscribe _ _ _ | unsubscribe _ | advertisement _ _ | loop _ _ => false
  | _ => true

/-- The steps that may send the messages of the service streaming. -/
def streams : ProxyLabel → Bool
  | request (.gattGetServices _) _ | stream _ => true
  | _ => false

end ProxyLabel

namespace BluetoothProxy

/-- A relation that is kept by what the handlers are made of. -/
structure HandlerRule (R : BluetoothProxy → BluetoothProxy → Prop) : Prop where
  refl : ∀ p, R p p
  trans : ∀ {p q r}, R p q → R q r → R p r
  update : ∀ p i f, R p (p.update i f)
  ledger : ∀ p ledger, R p { p with connectionsFree := ledger }
  send : ∀ p m, m.Plain → R p (p.sendMessage m)

namespace HandlerRule

variable {R : BluetoothProxy → BluetoothProxy → Prop} {cfg : ProxyConfig} {p q : BluetoothProxy}
  {l : ProxyLabel} {i : Nat}

theorem sendIfConnected (rule : HandlerRule R) (p : BluetoothProxy) {m : ApiMessage}
    (plain : m.Plain) : R p (p.sendIfConnected m) := by
  unfold BluetoothProxy.sendIfConnected
  split
  · exact rule.refl p
  · exact rule.send p m plain

theorem withConnection (rule : HandlerRule R) {f : BluetoothConnection → BluetoothProxy}
    (each : ∀ c, p.connections[i]? = some c → R p (f c)) : R p (p.withConnection i f) := by
  unfold BluetoothProxy.withConnection
  split
  · exact each _ ‹_›
  · exact rule.refl p

theorem deviceConnection (rule : HandlerRule R) (p : BluetoothProxy) (address : UInt64)
    (connected : Bool) (mtu : UInt16) (error : Int) :
    R p (p.sendDeviceConnection address connected mtu error) := rule.sendIfConnected p ⟨rfl, rfl⟩

theorem connectionsFree (rule : HandlerRule R) (p : BluetoothProxy) :
    R p p.sendConnectionsFree := rule.sendIfConnected p ⟨rfl, rfl⟩

/-! ## The methods of a slot -/

theorem setAddress (rule : HandlerRule R) (p : BluetoothProxy) (address : UInt64) :
    R p (p.setAddress i address) :=
  rule.withConnection fun _ _ => rule.trans (rule.update p i _) (rule.ledger _ _)

theorem resetConnection (rule : HandlerRule R) (p : BluetoothProxy) (reason : Int) :
    R p (p.resetConnection i reason) := by
  refine rule.withConnection fun c _ => ?_
  refine rule.trans (rule.deviceConnection p c.base.address false 0 reason) ?_
  exact rule.trans (rule.trans (rule.setAddress _ 0) (rule.update _ i _)) (rule.connectionsFree _)

theorem applyBase (rule : HandlerRule R) (p : BluetoothProxy)
    (o : BLEClientBase Origin × Option Int) : R p (p.applyBase i o) := by
  unfold BluetoothProxy.applyBase
  refine rule.trans (rule.update p i (·.withBase o.1)) ?_
  split
  · refine rule.withConnection fun c _ => ?_
    split
    · exact rule.refl _
    · exact rule.resetConnection _ _
  · exact rule.refl _

theorem sendResult (rule : HandlerRule R) (p : BluetoothProxy) {address : UInt64}
    {handle : UInt16} {status : Int} {response : ApiMessage} (plain : response.Plain) :
    R p (p.sendResult address handle status response) := by
  unfold BluetoothProxy.sendResult
  split
  · exact rule.sendIfConnected p ⟨rfl, rfl⟩
  · split
    · exact rule.send p _ plain
    · exact rule.refl p

theorem fanOut (rule : HandlerRule R) (p : BluetoothProxy) (ev : HostGattEvent) :
    R p (p.fanOut i ev) := by
  refine rule.withConnection fun c _ => ?_
  cases ev with
  | servicesDiscovered mtu services =>
      exact rule.trans (rule.deviceConnection p _ _ _ _) (rule.connectionsFree _)
  | readComplete | descRead | writeComplete | descWrite | notifyRegistered =>
      exact rule.sendResult p ⟨rfl, rfl⟩
  | notify handle data =>
      simp only
      split
      · exact rule.send p _ ⟨rfl, rfl⟩
      · exact rule.refl p
  | pairingComplete success reason => exact rule.sendIfConnected p ⟨rfl, rfl⟩
  | connected | disconnected | rssi | passkeyRequest | passkeyNotify | numericCompare =>
      exact rule.refl p

theorem dispatchEvent (rule : HandlerRule R) (p : BluetoothProxy) (now : UInt32)
    (x : Stamped Origin HostGattEvent) : R p (p.dispatchEvent i now x) :=
  rule.withConnection fun _ _ =>
    rule.trans (rule.trans (rule.update p i _) (rule.applyBase _ _)) (rule.fanOut _ _)

theorem streamServices (rule : HandlerRule R) (p : BluetoothProxy)
    (streams : ∀ p m, m.isStreaming = true → R p (p.sendMessage m)) :
    R p (p.streamServices cfg i) := by
  refine rule.withConnection fun c _ => ?_
  split
  · exact rule.refl p
  · split
    · refine rule.withConnection fun c _ => ?_
      split
      · refine rule.trans ?_ (rule.update _ i _)
        refine rule.trans (rule.update p i fun c =>
          { c with sendService := DONE_SENDING_SERVICES }) ?_
        unfold sendGattServicesDone BluetoothProxy.sendIfConnected
        split
        · exact rule.refl _
        · exact streams _ _ rfl
      · split
        · exact rule.update p i _
        · exact rule.trans (rule.update p i _) (streams _ _ rfl)
    · exact rule.refl p

/-! ## Requests -/

theorem getConnection (rule : HandlerRule R) (p : BluetoothProxy) (address : UInt64)
    (reserve : Bool) : R p (p.getConnection address reserve).2 := by
  unfold BluetoothProxy.getConnection
  cases p.findConnection address reserve with
  | none => exact rule.refl p
  | some i =>
      refine rule.withConnection fun c _ => ?_
      split
      · exact rule.refl p
      · exact rule.withConnection fun c _ =>
          rule.trans (rule.update p i _) (rule.ledger _ _)

theorem connectConnection (rule : HandlerRule R) (p : BluetoothProxy) (address : UInt64)
    (type : ConnectionType) : R p (p.connectConnection i address type) := by
  refine rule.withConnection fun c _ => ?_
  cases c.base.state with
  | connected | established =>
      exact rule.trans (rule.deviceConnection p _ _ _ _) (rule.connectionsFree _)
  | connecting =>
      simp only
      split
      · exact rule.update p i _
      · exact rule.refl p
  | init => exact rule.trans (rule.update p i _) (rule.connectionsFree _)
  | idle | disconnecting | discovered => exact rule.refl p

theorem connectRequest (rule : HandlerRule R) (p : BluetoothProxy) (address : UInt64)
    (hasAddressType : Bool) (type : ConnectionType) :
    R p (p.connectRequest address hasAddressType type) := by
  have got := rule.getConnection p address true
  unfold BluetoothProxy.connectRequest
  split
  · rename_i q scanned
    rw [scanned] at got
    exact rule.trans got (rule.deviceConnection q _ _ _ _)
  · rename_i i q scanned
    rw [scanned] at got
    split
    · exact rule.trans got (rule.connectConnection q address type)
    · exact rule.trans got (rule.deviceConnection q _ _ _ _)

theorem disconnectRequest (rule : HandlerRule R) (p : BluetoothProxy) (now : UInt32)
    (address : UInt64) : R p (p.disconnectRequest now address) := by
  unfold BluetoothProxy.disconnectRequest
  split
  · exact rule.trans (rule.deviceConnection p _ _ _ _) (rule.connectionsFree _)
  · refine rule.withConnection fun c _ => ?_
    split
    · exact rule.update p _ _
    · exact rule.trans (rule.trans (rule.setAddress p 0) (rule.deviceConnection _ _ _ _ _))
        (rule.connectionsFree _)

theorem pairRequest (rule : HandlerRule R) (p : BluetoothProxy) (address : UInt64) :
    R p (p.pairRequest address) := by
  unfold BluetoothProxy.pairRequest
  split
  · exact rule.refl p
  · refine rule.withConnection fun c _ => ?_
    split
    · simp only
      split
      · exact rule.trans (rule.update p _ _) (rule.sendIfConnected _ ⟨rfl, rfl⟩)
      · exact rule.update p _ _
    · exact rule.sendIfConnected p ⟨rfl, rfl⟩

theorem unpairRequest (rule : HandlerRule R) (p : BluetoothProxy) (address : UInt64) :
    R p (p.unpairRequest address) := by
  unfold BluetoothProxy.unpairRequest
  split
  · exact rule.sendIfConnected p ⟨rfl, rfl⟩
  · exact rule.trans (rule.update p _ _) (rule.sendIfConnected _ ⟨rfl, rfl⟩)

theorem gattRequest (rule : HandlerRule R) {address : UInt64} {handle : UInt16}
    {op : BLEClientBase Origin → Int × BLEClientBase Origin} :
    R p (p.gattRequest address handle op) := by
  unfold BluetoothProxy.gattRequest
  split
  · exact rule.sendIfConnected p ⟨rfl, rfl⟩
  · refine rule.withConnection fun c _ => ?_
    simp only
    split
    · exact rule.trans (rule.update p _ _) (rule.sendIfConnected _ ⟨rfl, rfl⟩)
    · exact rule.update p _ _

theorem bluetoothGattSendServices (rule : HandlerRule R) (p : BluetoothProxy) (address : UInt64)
    (streams : ∀ p m, m.isStreaming = true → R p (p.sendMessage m)) :
    R p (p.bluetoothGattSendServices address) := by
  unfold BluetoothProxy.bluetoothGattSendServices
  split
  · exact rule.sendIfConnected p ⟨rfl, rfl⟩
  · refine rule.withConnection fun c _ => ?_
    split
    · exact rule.sendIfConnected p ⟨rfl, rfl⟩
    · split
      · unfold sendGattServicesDone BluetoothProxy.sendIfConnected
        split
        · exact rule.refl p
        · exact streams _ _ rfl
      · split
        · exact rule.update p _ _
        · exact rule.refl p

theorem bluetoothSetConnectionParams (rule : HandlerRule R) (p : BluetoothProxy)
    (address : UInt64) : R p (p.bluetoothSetConnectionParams address) := by
  unfold BluetoothProxy.bluetoothSetConnectionParams
  split
  · exact rule.refl p
  · split
    · exact rule.send p _ ⟨rfl, rfl⟩
    · refine rule.withConnection fun c _ => ?_
      split <;> exact rule.send p _ ⟨rfl, rfl⟩

theorem request (rule : HandlerRule R) (p : BluetoothProxy) (now : UInt32) (r : ApiRequest)
    (streams : (ProxyLabel.request r now).streams = false ∨
      ∀ p m, m.isStreaming = true → R p (p.sendMessage m)) : R p (p.request now r) := by
  cases r with
  | device address type hasAddressType =>
      cases type with
      | connectV3WithCache | connectV3WithoutCache => exact rule.connectRequest p address _ _
      | disconnect => exact rule.disconnectRequest p now address
      | pair => exact rule.pairRequest p address
      | unpair => exact rule.unpairRequest p address
      | clearCache => exact rule.send p _ ⟨rfl, rfl⟩
      | connect => exact rule.deviceConnection p _ _ _ _
  | gattRead | gattWrite | gattReadDescriptor | gattWriteDescriptor | gattNotify =>
      simp only [BluetoothProxy.request, bluetoothGattRead, bluetoothGattWrite,
        bluetoothGattReadDescriptor, bluetoothGattWriteDescriptor, bluetoothGattNotify]
      exact rule.gattRequest
  | gattGetServices address =>
      exact rule.bluetoothGattSendServices p address (streams.resolve_left Bool.noConfusion)
  | setConnectionParams address => exact rule.bluetoothSetConnectionParams p address

/-! ## Steps -/

/-- **Every step of a handler keeps what updates, the accounting and sends keep.** -/
theorem step (rule : HandlerRule R) (handler : l.isHandler = true)
    (streams : l.streams = false ∨ ∀ p m, m.isStreaming = true → R p (p.sendMessage m))
    (step : p.proxyStep cfg l = some q) : R p q := by
  cases l with
  | request r now =>
      obtain rfl := Option.some.inj step
      exact rule.request p now r streams
  | scannerSetMode active =>
      obtain rfl := Option.some.inj step
      exact rule.refl p
  | connectionsFree | subscribe | unsubscribe | advertisement | loop => cases handler
  | scannerState state scanActive =>
      obtain rfl := Option.some.inj step
      unfold onScannerState
      split
      · exact rule.send p _ ⟨rfl, rfl⟩
      · exact rule.refl p
  | promote i now =>
      obtain ⟨c, here, found⟩ := slotStep_some step
      obtain ⟨discovered, same⟩ := Option.ite_none_right_eq_some.mp found
      obtain rfl := Option.some.inj same
      exact rule.update p i _
  | drain i =>
      obtain ⟨c, here, empty, rfl⟩ := afterDrain_some step
      exact rule.update p i _
  | dispatch i now =>
      obtain ⟨c, here, found⟩ := slotStep_some step
      split at found
      · cases found
      · rename_i x rest head
        obtain rfl := Option.some.inj found
        exact rule.trans (rule.update p i _) (rule.dispatchEvent _ now x)
  | connectTimeout i now | disconnectTimeout i now =>
      obtain ⟨c, here, empty, rfl⟩ := afterDrain_some step
      exact rule.withConnection fun c _ => rule.applyBase p _
  | stream i =>
      obtain ⟨c, here, empty, rfl⟩ := afterDrain_some step
      exact rule.streamServices p (streams.resolve_left Bool.noConfusion)
  | take i | post i ev | finish i | signal i ev =>
      obtain ⟨c, f, worker⟩ := worker_step rfl step
      rw [worker.moved]
      exact rule.update p i f

end HandlerRule

end BluetoothProxy

end EsphomeHost

import EsphomeHost.Proxy.Requests

/-!
# Runs of the proxy

The atomic steps of a `BluetoothProxy` and its slots: the API requests and subscriptions, the
callbacks of the tracker, the two loops in pieces, and the accesses of each slot's worker to its
two queues.

* `proxyStep` is the step function, `proxyMachine` the machine that starts after `setup`.
* An event is stamped with the origin of the command the worker is executing, or, if a signal
  raised it, with the device the worker object is bound to and the slot's tenancy at that moment.
* `reservation` and `cancellation`: the slot a request takes for a new device, and the slot whose
  pending disconnect it cancels.
-/

namespace EsphomeHost

namespace BluetoothConnection

variable (c : BluetoothConnection)

def parseDevice (device : ESPBTDevice) : BluetoothConnection :=
  c.withBase (c.base.parseDevice device).2

def drain : BluetoothConnection :=
  { c.withBase c.base.drain.2 with drained := c.base.drain.1 }

/-- The worker swaps the command queue of its host out. -/
def take (h : BLEGattHost Origin) : BluetoothConnection :=
  { c.withBase { c.base with host := some { h with commands := [] } } with taken := h.commands }

/-- The worker posts an event. -/
def post (h : BLEGattHost Origin) (e : Stamped Origin HostGattEvent) : BluetoothConnection :=
  c.withBase { c.base with host := some (h.postEvent e.stamp e.val) }

/-- The origin of an event that a signal of `h`'s device raises now. -/
def signalOrigin (h : BLEGattHost Origin) : Origin := ⟨h.owner.address, c.base.stamp.tenancy⟩

end BluetoothConnection

inductive ProxyLabel
  | request (r : ApiRequest) (now : UInt32)
  | scannerSetMode (active : Bool)
  | connectionsFree (client : Nat)
  | subscribe (client : Nat) (state : ScannerState) (scanActive : Bool)
  | unsubscribe (client : Nat)
  | scannerState (state : ScannerState) (scanActive : Bool)
  /-- The tracker hands an advertisement to its listeners and clients. -/
  | advertisement (serverConnected : Bool) (device : ESPBTDevice)
  | loop (serverConnected : Bool) (now : UInt32)
  /-- The tracker promotes a discovered client. -/
  | promote (i : Nat) (now : UInt32)
  | drain (i : Nat)
  | dispatch (i : Nat) (now : UInt32)
  | connectTimeout (i : Nat) (now : UInt32)
  | disconnectTimeout (i : Nat) (now : UInt32)
  | stream (i : Nat)
  | take (i : Nat)
  | post (i : Nat) (ev : HostGattEvent)
  | finish (i : Nat)
  | signal (i : Nat) (ev : HostGattEvent)
deriving DecidableEq

def ProxyLabel.isClearCache : ProxyLabel → Bool
  | request (.device _ .clearCache _) _ => true
  | _ => false

/-- The slot a step dispatches an event of. -/
def ProxyLabel.dispatches : ProxyLabel → Option Nat
  | dispatch i _ => some i
  | _ => none

namespace BluetoothProxy

variable (cfg : ProxyConfig) (p : BluetoothProxy)

/-- The step of one slot; `none` if there is no such slot or the step is not enabled there. -/
def slotStep (i : Nat) (f : BluetoothConnection → Option BluetoothProxy) : Option BluetoothProxy :=
  p.connections[i]?.bind f

/-- Once the local queue of the slot's `loop` is empty. -/
def afterDrain (i : Nat) (q : BluetoothProxy) : Option BluetoothProxy :=
  p.slotStep i fun c => if c.drained = [] then some q else none

def proxyStep : ProxyLabel → Option BluetoothProxy
  | .request r now => some (p.request now r)
  | .scannerSetMode active => some (p.bluetoothScannerSetMode active)
  | .connectionsFree client => some (p.sendConnectionsFreeTo client)
  | .subscribe client state scanActive => some (p.subscribeApiConnection client state scanActive)
  | .unsubscribe client => some (p.unsubscribeApiConnection client)
  | .scannerState state scanActive => some (p.onScannerState state scanActive)
  | .advertisement serverConnected device =>
      let p := p.parseDevice cfg serverConnected device
      some { p with connections := p.connections.map (·.parseDevice device) }
  | .loop serverConnected now => some (p.loop serverConnected now)
  | .promote i now => p.slotStep i fun c =>
      if c.base.state = .discovered then
        some (p.update i fun c => c.withBase (c.base.connect now))
      else none
  | .drain i => p.afterDrain i (p.update i (·.drain))
  | .dispatch i now => p.slotStep i fun c =>
      match c.drained with
      | [] => none
      | e :: rest => some ((p.update i fun c => { c with drained := rest }).dispatchEvent i now e)
  | .connectTimeout i now => p.afterDrain i (p.checkConnectTimeout i now)
  | .disconnectTimeout i now => p.afterDrain i (p.checkDisconnectTimeout i now)
  | .stream i => p.afterDrain i (p.streamServices cfg i)
  | .take i => p.slotStep i fun c =>
      match c.base.host, c.taken with
      | some h, [] => some (p.update i (·.take h))
      | _, _ => none
  | .post i ev => p.slotStep i fun c =>
      match c.base.host, c.taken with
      | some h, x :: _ =>
          if x.val.posts ev then some (p.update i (·.post h ⟨x.stamp, ev⟩)) else none
      | _, _ => none
  | .finish i => p.slotStep i fun c =>
      match c.taken with
      | [] => none
      | _ :: rest => some (p.update i fun c => { c with taken := rest })
  | .signal i ev => p.slotStep i fun c =>
      match c.base.host with
      | some h =>
          if ev.isSignalled then some (p.update i (·.post h ⟨c.signalOrigin h, ev⟩)) else none
      | none => none

/-- A slot after `setup`, on any adapter. -/
def freshConnection (adapter : List Char) : BluetoothConnection :=
  { base := BLEClientBase.setup { adapter := adapter, stamp := ⟨0, 0⟩ } }

/-- A proxy after `setup`: `limit` is `BLUETOOTH_PROXY_MAX_CONNECTIONS`, which the `uint8_t` count
of slots can hold, and `register_connection` ignored the slots beyond it. -/
def setup (limit : UInt8) (adapters : List (List Char)) (scanActive : Bool) : BluetoothProxy where
  connections := (adapters.take limit.toNat).map freshConnection
  connectionsFree := ⟨limit.toUInt32, limit.toUInt32, List.replicate limit.toNat 0⟩
  configuredScanActive := scanActive

/-- A proxy after `setup`. -/
def proxyMachine : Machine BluetoothProxy ProxyLabel where
  init p := ∃ limit adapters scanActive, p = setup limit adapters scanActive
  step p l := p.proxyStep cfg l

/-! ## Reading a request -/

/-- The slot a request takes for a new device, and the device. -/
def reservation : ProxyLabel → Option (Nat × UInt64)
  | .request r _ =>
      if r.reserves then
        (p.findConnection r.address true).bind fun i =>
          if p.connections[i]?.any (·.base.address ≠ r.address) then some (i, r.address) else none
      else none
  | _ => none

/-- The slot whose pending disconnect a request cancels. -/
def cancellation : ProxyLabel → Option Nat
  | .request (.device address type true) _ =>
      if (ApiRequest.device address type true).reserves then
        (p.findConnection address true).bind fun i =>
          if p.connections[i]?.any fun c => c.base.address = address ∧
              c.base.state = .connecting ∧ c.base.wantDisconnect = true
          then some i else none
      else none
  | _ => none

/-- The slot whose handler runs. -/
def speaker : ProxyLabel → Option Nat
  | .request r _ => p.findConnection r.address r.reserves
  | .dispatch i _ | .connectTimeout i _ | .disconnectTimeout i _ | .stream i => some i
  | _ => none

end BluetoothProxy

end EsphomeHost

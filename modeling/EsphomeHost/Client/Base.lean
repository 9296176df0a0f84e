import EsphomeHost.Client.GattEvent
import EsphomeHost.Tracker.Device

/-!
# `BLEClientBase`

The state machine of one GATT client on the main thread.  Every function takes the client and, where
the source reads the clock, the value of `millis()`, and returns the client afterwards.

* `dispatchEvent` also returns the reason `on_disconnect_complete` is called with, if it is called:
  the hook is the subclass's.
* `loop` is the source's loop with the dispatch function as a parameter, since `dispatch_event_` is
  virtual.
* The `_state` and `_host` lemmas say what each function does to the fields the invariants are
  about.
-/

namespace EsphomeHost

inductive ClientState
  | init
  | disconnecting
  | idle
  | discovered
  | connecting
  | connected
  | established
deriving DecidableEq

inductive ConnectionType
  | v1
  | v3WithCache
  | v3WithoutCache
deriving DecidableEq

def CONNECT_TIMEOUT_MS : UInt32 := 20000
def DISCONNECT_TIMEOUT_MS : UInt32 := 10000
def UNSET_CONN_ID : UInt16 := 0xFFFF

/-- `stamp` goes on the commands the client queues; `stateVersion` counts its state changes, which
is what it adds to the tracker's shared counter. -/
structure BLEClientBase (τ : Type) where
  state : ClientState := .init
  wantDisconnect : Bool := false
  stateVersion : UInt8 := 0
  address : UInt64 := 0
  adapter : List Char := "hci0".toList
  devicePath : List Char := []
  services : List DiscoveredService := []
  host : Option (BLEGattHost τ) := none
  disconnectingStarted : UInt32 := 0
  connectingStarted : UInt32 := 0
  connId : UInt16 := UNSET_CONN_ID
  mtu : UInt16 := 23
  connectionType : ConnectionType := .v1
  autoConnect : Bool := false
  paired : Bool := false
  stamp : τ
deriving DecidableEq

/-- Byte `i` of `remote_bda_`, most significant first. -/
def remoteBda (address : UInt64) (i : UInt64) : UInt8 :=
  ((address >>> ((5 - i) * 8)) &&& 0xff).toUInt8

/-- `/org/bluez/<adapter>/dev_AA_BB_CC_DD_EE_FF`. -/
def devicePathOf (adapter : List Char) (address : UInt64) : List Char :=
  "/org/bluez/".toList ++ adapter ++ "/".toList ++ "dev".toList ++
    [0, 1, 2, 3, 4, 5].flatMap fun i => '_' :: Hex.byteUpper (remoteBda address i)

namespace BLEClientBase

variable {τ : Type} (c : BLEClientBase τ)

/-! ## The functions of the source -/

/-- `ESPBTClient::set_state`. -/
def setState (st : ClientState) : BLEClientBase τ :=
  { c with
    state := st
    stateVersion := c.stateVersion + 1
    wantDisconnect := if st = .idle then false else c.wantDisconnect }

def cancelPendingDisconnect : BLEClientBase τ := { c with wantDisconnect := false }

def setIdle : BLEClientBase τ := { c.setState .idle with connId := UNSET_CONN_ID }

def setup : BLEClientBase τ := c.setIdle

def setAddress (address : UInt64) : BLEClientBase τ :=
  { c with
    address := address
    devicePath := if address = 0 then [] else devicePathOf c.adapter address }

/-- `parse_device`: whether the device is this client's, and the client. -/
def parseDevice (device : ESPBTDevice) : Bool × BLEClientBase τ :=
  if c.address = 0 then (false, c)
  else if device.addressUint64 ≠ c.address then (false, c)
  else if c.state = .idle ∧ c.autoConnect then (true, c.setState .discovered)
  else (true, c)

/-- Queue a command for the worker, if there is one. -/
def enqueue (cmd : HostGattCommand) : BLEClientBase τ :=
  { c with host := c.host.map fun h => h.enqueueCommand c.stamp cmd }

/-- The worker object is created by the first `connect` and kept. -/
def connect (now : UInt32) : BLEClientBase τ :=
  let c := { c.setState .connecting with connectingStarted := now }
  let host := c.host.getD { owner := c.stamp, adapter := c.adapter, devicePath := c.devicePath }
  { c with host := some (host.enqueueCommand c.stamp .connect) }

def setDisconnecting (now : UInt32) : BLEClientBase τ :=
  { c with disconnectingStarted := now }.setState .disconnecting

def unconditionalDisconnect (now : UInt32) : BLEClientBase τ :=
  (c.setDisconnecting now).enqueue .disconnect

def disconnect (now : UInt32) : BLEClientBase τ :=
  if c.state = .idle then c
  else if c.state = .connecting then { c with wantDisconnect := true }
  else c.unconditionalDisconnect now

def releaseServices : BLEClientBase τ := { c with services := [] }

/-- `dispatch_event_`.  The wrapper tree built from a snapshot carries the snapshot's data. -/
def dispatchEvent (now : UInt32) : HostGattEvent → BLEClientBase τ × Option Int
  | .connected =>
      if c.wantDisconnect then (c.unconditionalDisconnect now, none)
      else (c.setState .connected, none)
  | .servicesDiscovered mtu services =>
      ({ c with mtu := mtu, services := services }.setState .established, none)
  | .disconnected reason => (c.releaseServices.setIdle, some reason)
  | .pairingComplete success _ => ({ c with paired := success }, none)
  | _ => (c, none)

def connectTimedOut (now : UInt32) : Bool :=
  c.state = .connecting ∧ now - c.connectingStarted > CONNECT_TIMEOUT_MS

def disconnectTimedOut (now : UInt32) : Bool :=
  c.state = .disconnecting ∧ now - c.disconnectingStarted > DISCONNECT_TIMEOUT_MS

/-- The event both timeouts dispatch. -/
def timeoutEvent : HostGattEvent := .disconnected ESP_GATT_CONN_TIMEOUT

/-- The drain at the start of `loop`. -/
def drain : List (Stamped τ HostGattEvent) × BLEClientBase τ :=
  match c.host with
  | some h => (h.drainEvents.1, { c with host := some h.drainEvents.2 })
  | none => ([], c)

def connected : Bool := c.state = .established

def pair : Int × BLEClientBase τ := (ESP_GATT_OK, c.enqueue .pair)

/-- The handle-based primitives queue their command only on an established link. -/
def primitive (cmd : HostGattCommand) : Int × BLEClientBase τ :=
  if c.state ≠ .established ∨ c.host.isNone then (ESP_GATT_NOT_CONNECTED, c)
  else (ESP_GATT_OK, c.enqueue cmd)

def readCharacteristic (handle : UInt16) : Int × BLEClientBase τ := c.primitive (.readChar handle)

def writeCharacteristic (handle : UInt16) (data : List UInt8) (response : Bool) :
    Int × BLEClientBase τ := c.primitive (.writeChar handle data response)

def readDescriptor (handle : UInt16) : Int × BLEClientBase τ := c.primitive (.readDesc handle)

def writeDescriptor (handle : UInt16) (data : List UInt8) (response : Bool) :
    Int × BLEClientBase τ := c.primitive (.writeDesc handle data response)

def notifyCharacteristic (handle : UInt16) (enable : Bool) : Int × BLEClientBase τ :=
  c.primitive (.setNotify handle enable)

def passkeyReply (passkey : UInt32) : Int × BLEClientBase τ :=
  (ESP_GATT_OK, c.enqueue (.passkeyReply passkey))

def confirmReply (accept : Bool) : Int × BLEClientBase τ :=
  (ESP_GATT_OK, c.enqueue (.confirmReply accept))

def removeBond : Int × BLEClientBase τ := (ESP_GATT_OK, c.enqueue .removeBond)

def readRssi : BLEClientBase τ := if c.state = .established then c.enqueue .readRssi else c

/-- Connected or established. -/
def Up : Prop := c.state = .connected ∨ c.state = .established

instance : Decidable c.Up := inferInstanceAs (Decidable (_ ∨ _))

/-- `get_characteristic` by handle. -/
def getCharacteristic (handle : UInt16) : Option DiscoveredCharacteristic :=
  c.services.findSome? fun svc => svc.characteristics.find? (·.handle = handle)

/-- `get_descriptor` by handle. -/
def getDescriptor (handle : UInt16) : Option DiscoveredDescriptor :=
  c.services.findSome? fun svc => svc.characteristics.findSome? fun chr =>
    chr.descriptors.find? (·.handle = handle)

/-! ## What each function does to the state -/

section Fields

variable (now : UInt32) (cmd : HostGattCommand) (st : ClientState)

@[simp] theorem setState_state : (c.setState st).state = st := rfl
@[simp] theorem setState_services : (c.setState st).services = c.services := rfl
@[simp] theorem setState_host : (c.setState st).host = c.host := rfl
@[simp] theorem setState_address : (c.setState st).address = c.address := rfl
@[simp] theorem setState_stamp : (c.setState st).stamp = c.stamp := rfl

@[simp] theorem setIdle_state : c.setIdle.state = .idle := rfl
@[simp] theorem setIdle_services : c.setIdle.services = c.services := rfl
@[simp] theorem setIdle_stamp : c.setIdle.stamp = c.stamp := rfl

@[simp] theorem enqueue_state : (c.enqueue cmd).state = c.state := rfl
@[simp] theorem enqueue_services : (c.enqueue cmd).services = c.services := rfl
@[simp] theorem enqueue_wantDisconnect : (c.enqueue cmd).wantDisconnect = c.wantDisconnect := rfl
@[simp] theorem enqueue_address : (c.enqueue cmd).address = c.address := rfl
@[simp] theorem enqueue_stamp : (c.enqueue cmd).stamp = c.stamp := rfl

@[simp] theorem connect_state : (c.connect now).state = .connecting := rfl
@[simp] theorem connect_services : (c.connect now).services = c.services := rfl
@[simp] theorem connect_wantDisconnect : (c.connect now).wantDisconnect = c.wantDisconnect := rfl
@[simp] theorem connect_address : (c.connect now).address = c.address := rfl
@[simp] theorem connect_stamp : (c.connect now).stamp = c.stamp := rfl

@[simp] theorem unconditionalDisconnect_state :
    (c.unconditionalDisconnect now).state = .disconnecting := rfl
@[simp] theorem unconditionalDisconnect_services :
    (c.unconditionalDisconnect now).services = c.services := rfl
@[simp] theorem unconditionalDisconnect_stamp :
    (c.unconditionalDisconnect now).stamp = c.stamp := rfl

/-- `disconnect` leaves an idle client alone, defers on a connecting one and tears down any
other. -/
theorem disconnect_cases :
    (c.state = .idle ∧ c.disconnect now = c) ∨
      (c.state = .connecting ∧ c.disconnect now = { c with wantDisconnect := true }) ∨
        (c.state ≠ .idle ∧ c.state ≠ .connecting ∧
          c.disconnect now = c.unconditionalDisconnect now) := by
  unfold disconnect
  split
  · exact .inl ⟨‹_›, rfl⟩
  · split
    · exact .inr (.inl ⟨‹_›, rfl⟩)
    · exact .inr (.inr ⟨‹_›, ‹_›, rfl⟩)

/-- `parse_device` only ever promotes an idle auto-connecting client whose address it is given. -/
theorem parseDevice_cases (device : ESPBTDevice) :
    (c.parseDevice device).2 = c ∨
      (c.state = .idle ∧ c.autoConnect = true ∧ c.address ≠ 0 ∧ device.addressUint64 = c.address ∧
        (c.parseDevice device).2 = c.setState .discovered) := by
  unfold parseDevice
  split
  · exact .inl rfl
  · split
    · exact .inl rfl
    · split
      · rename_i known same promote
        exact .inr ⟨promote.1, promote.2, known, not_not.mp same, rfl⟩
      · exact .inl rfl

/-- Only link events touch the state and the service tree. -/
theorem dispatchEvent_of_not_link {ev : HostGattEvent} (other : ev.isLink = false) :
    (c.dispatchEvent now ev).1.state = c.state ∧
      (c.dispatchEvent now ev).1.services = c.services ∧
        (c.dispatchEvent now ev).1.wantDisconnect = c.wantDisconnect ∧
          (c.dispatchEvent now ev).2 = none := by
  cases ev <;> first | exact ⟨rfl, rfl, rfl, rfl⟩ | cases other

theorem primitive_snd (cmd : HostGattCommand) :
    (c.primitive cmd).2 = c ∨ (c.primitive cmd).2 = c.enqueue cmd := by
  unfold primitive
  split
  · exact .inl rfl
  · exact .inr rfl

end Fields

end BLEClientBase

end EsphomeHost

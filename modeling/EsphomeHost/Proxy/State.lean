import EsphomeHost.Client.Run
import EsphomeHost.Proxy.Advertisement

/-!
# The Bluetooth proxy: state and messages

A `BluetoothProxy` holds its connection slots, the advertisements waiting to be sent, the slot
accounting it reports and the API connection it reports to.  What it sends is appended to `outbox`;
a send through a null `api_connection_` sets `nullDeref` instead.

A slot's commands and events are stamped with an `Origin`: the address the slot served and the
number of that tenancy.  `owner`, `pairedBy`, `linkedBy` and the stamps are records for the proofs;
no function of the source reads them.

* `Speaks N P p q`: from `p` to `q` nothing but messages that satisfy `P` was sent, and a null
  pointer was dereferenced only if `N` holds.  Every handler has a lemma of this form.
-/

namespace EsphomeHost

/-! ## Messages to the API client -/

inductive ScannerState
  | idle
  | starting
  | running
  | failed
  | stopping
deriving DecidableEq

/-- The two forms a UUID is sent in; the unused one keeps its zero default. -/
structure GattUuid where
  uuid : UInt64 × UInt64 := (0, 0)
  shortUuid : UInt32 := 0
deriving DecidableEq

structure GattDescriptorMessage where
  uuid : GattUuid
  handle : UInt16
deriving DecidableEq

structure GattCharacteristicMessage where
  uuid : GattUuid
  handle : UInt16
  properties : UInt8
  descriptors : List GattDescriptorMessage
deriving DecidableEq

structure GattServiceMessage where
  uuid : GattUuid
  handle : UInt16
  characteristics : List GattCharacteristicMessage
deriving DecidableEq

/-- `BluetoothConnectionsFreeResponse`. -/
structure ConnectionsFree where
  free : UInt32
  limit : UInt32
  allocated : List UInt64
deriving DecidableEq

inductive ApiMessage
  | scannerState (state : ScannerState) (active configuredActive : Bool)
  | rawAdvertisements (advertisements : List BluetoothProxy.BluetoothLERawAdvertisement)
  | deviceConnection (address : UInt64) (connected : Bool) (mtu : UInt16) (error : Int)
  | connectionsFree (response : ConnectionsFree)
  | gattRead (address : UInt64) (handle : UInt16) (data : List UInt8)
  | gattWrite (address : UInt64) (handle : UInt16)
  | gattNotify (address : UInt64) (handle : UInt16)
  | gattNotifyData (address : UInt64) (handle : UInt16) (data : List UInt8)
  | gattServices (address : UInt64) (services : List GattServiceMessage)
  | gattServicesDone (address : UInt64)
  | gattError (address : UInt64) (handle : UInt16) (error : Int)
  | devicePairing (address : UInt64) (paired : Bool) (error : Int)
  | deviceClearCache (address : UInt64) (success : Bool) (error : Int)
  | setConnectionParams (address : UInt64) (error : Int)
deriving DecidableEq

namespace ApiMessage

/-- The device a message is about. -/
def address? : ApiMessage → Option UInt64
  | deviceConnection a _ _ _ | gattRead a _ _ | gattWrite a _ | gattNotify a _
  | gattNotifyData a _ _ | gattServices a _ | gattServicesDone a | gattError a _ _
  | devicePairing a _ _ | deviceClearCache a _ _ | setConnectionParams a _ => some a
  | scannerState _ _ _ | rawAdvertisements _ | connectionsFree _ => none

/-- A report that the link is up. -/
def isUp : ApiMessage → Bool
  | deviceConnection _ connected _ _ => connected
  | _ => false

/-- The messages that report on a device's GATT operations, its pairing, or its link being up. -/
def isReport : ApiMessage → Bool
  | deviceConnection _ connected _ _ => connected
  | gattRead _ _ _ | gattWrite _ _ | gattNotify _ _ | gattNotifyData _ _ _ | gattError _ _ _
  | devicePairing _ _ _ => true
  | _ => false

end ApiMessage

/-! ## State -/

/-- Which device a queue item belongs to, and which of the slot's tenancies. -/
structure Origin where
  address : UInt64
  tenancy : Nat
deriving DecidableEq

def DONE_SENDING_SERVICES : Int16 := -2
def INIT_SENDING_SERVICES : Int16 := -3

/-- One slot.  `drained` is the local queue of its `loop`, `taken` the local queue of the worker's
`worker_process_commands`; `pairedBy` and `linkedBy` are the origins of the events that last set the
pairing flag and raised the link. -/
structure BluetoothConnection where
  base : BLEClientBase Origin := { stamp := ⟨0, 0⟩ }
  sendService : Int16 := INIT_SENDING_SERVICES
  seenServices : Bool := false
  drained : List (Stamped Origin HostGattEvent) := []
  taken : List (Stamped Origin HostGattCommand) := []
  pairedBy : Option Origin := none
  linkedBy : Option Origin := none
deriving DecidableEq

/-- `apiConnection` is the identity of the subscribed client. -/
structure BluetoothProxy where
  apiConnection : Option Nat := none
  connections : List BluetoothConnection
  advertisements : List BluetoothProxy.BluetoothLERawAdvertisement := []
  lastAdvertisementFlushTime : UInt32 := 0
  connectionsFree : ConnectionsFree
  configuredScanActive : Bool := false
  outbox : List (Nat × ApiMessage) := []
  nullDeref : Bool := false
deriving DecidableEq

/-- What the proxy is built with, and the generated code it calls: the sizes of the messages it
batches and the API version check. -/
structure ProxyConfig where
  advertisementBatchSize : Nat
  responseSize : UInt64 → Nat
  serviceSize : GattServiceMessage → Nat
  supportsEfficientUuids : Nat → Bool

namespace BluetoothProxy

variable (p : BluetoothProxy)

/-- Apply `f` to slot `i`. -/
def update (i : Nat) (f : BluetoothConnection → BluetoothConnection) : BluetoothProxy :=
  { p with connections := p.connections.modify i f }

/-! ## Sending -/

/-- `api_connection_->send_message`. -/
def sendMessage (m : ApiMessage) : BluetoothProxy :=
  match p.apiConnection with
  | some client => { p with outbox := p.outbox ++ [(client, m)] }
  | none => { p with nullDeref := true }

/-- A send behind a null check. -/
def sendIfConnected (m : ApiMessage) : BluetoothProxy :=
  if p.apiConnection = none then p else p.sendMessage m

def sendDeviceConnection (address : UInt64) (connected : Bool) (mtu : UInt16) (error : Int) :
    BluetoothProxy := p.sendIfConnected (.deviceConnection address connected mtu error)

def sendConnectionsFree : BluetoothProxy := p.sendIfConnected (.connectionsFree p.connectionsFree)

def sendGattServicesDone (address : UInt64) : BluetoothProxy :=
  p.sendIfConnected (.gattServicesDone address)

def sendGattError (address : UInt64) (handle : UInt16) (error : Int) : BluetoothProxy :=
  p.sendIfConnected (.gattError address handle error)

def sendDevicePairing (address : UInt64) (paired : Bool) (error : Int) : BluetoothProxy :=
  p.sendIfConnected (.devicePairing address paired error)

def sendBluetoothScannerState (state : ScannerState) (scanActive : Bool) : BluetoothProxy :=
  p.sendMessage (.scannerState state scanActive p.configuredScanActive)

/-- `flush_pending_advertisements_` has no check of its own. -/
def flushPendingAdvertisements : BluetoothProxy :=
  if p.advertisements = [] then p
  else { p.sendMessage (.rawAdvertisements p.advertisements) with advertisements := [] }

def handleGattNotConnected (address : UInt64) (handle : UInt16) : BluetoothProxy :=
  p.sendGattError address handle ESP_GATT_NOT_CONNECTED

/-! ## What was sent -/

/-- From `p` to `q` only messages that satisfy `P` were sent, and no null pointer was dereferenced
unless `N` holds. -/
structure Speaks (N : Prop) (P : ApiMessage → Prop) (p q : BluetoothProxy) : Prop where
  deref : q.nullDeref = true → p.nullDeref = true ∨ N
  sent : ∃ ms, q.outbox = p.outbox ++ ms ∧ ∀ m ∈ ms, P m.2

/-- What was sent from `p` to `q`. -/
def newMessages (p q : BluetoothProxy) : List (Nat × ApiMessage) := q.outbox.drop p.outbox.length

section Speaks

variable {p} {N : Prop} {P : ApiMessage → Prop} {q r : BluetoothProxy}

theorem Speaks.silent (deref : q.nullDeref = p.nullDeref) (outbox : q.outbox = p.outbox) :
    Speaks N P p q :=
  ⟨fun null => .inl (deref ▸ null), [], by rw [outbox, List.append_nil], by simp⟩

theorem Speaks.refl : Speaks N P p p := .silent rfl rfl

theorem Speaks.trans (left : Speaks N P p q) (right : Speaks N P q r) : Speaks N P p r := by
  obtain ⟨ms, sent, all⟩ := left.sent
  obtain ⟨ms', sent', all'⟩ := right.sent
  refine ⟨fun null => (right.deref null).elim left.deref .inr, ms ++ ms', ?_, ?_⟩
  · rw [sent', sent, List.append_assoc]
  · intro m mem
    exact (List.mem_append.mp mem).elim (all m) (all' m)

theorem Speaks.newMessages (speaks : Speaks N P p q) :
    ∀ m ∈ BluetoothProxy.newMessages p q, P m.2 := by
  obtain ⟨ms, outbox, all⟩ := speaks.sent
  unfold BluetoothProxy.newMessages
  rw [outbox, List.drop_left]
  exact all

theorem speaks_update (i : Nat) (f : BluetoothConnection → BluetoothConnection) :
    Speaks N P p (p.update i f) := .silent rfl rfl

theorem speaks_sendMessage {m : ApiMessage} (null : p.apiConnection = none → N) (holds : P m) :
    Speaks N P p (p.sendMessage m) := by
  unfold sendMessage
  split
  · exact ⟨.inl, _, rfl, by simpa using holds⟩
  · rename_i none
    exact ⟨fun _ => .inr (null none), [], by simp, by simp⟩

theorem speaks_sendIfConnected {m : ApiMessage} (holds : P m) :
    Speaks N P p (p.sendIfConnected m) := by
  unfold sendIfConnected
  split
  · exact .refl
  · rename_i connected
    exact speaks_sendMessage (fun none => absurd none connected) holds

theorem speaks_flushPendingAdvertisements (connected : p.apiConnection ≠ none)
    (holds : P (.rawAdvertisements p.advertisements)) :
    Speaks N P p p.flushPendingAdvertisements := by
  unfold flushPendingAdvertisements
  split
  · exact .refl
  · exact (speaks_sendMessage (fun none => absurd none connected) holds).trans (.silent rfl rfl)

end Speaks

/-! ## Sending leaves the slots alone -/

@[simp] theorem sendMessage_connections (m : ApiMessage) :
    (p.sendMessage m).connections = p.connections := by
  unfold sendMessage
  split <;> rfl

@[simp] theorem sendIfConnected_connections (m : ApiMessage) :
    (p.sendIfConnected m).connections = p.connections := by
  unfold sendIfConnected
  split
  · rfl
  · exact p.sendMessage_connections m

@[simp] theorem sendDeviceConnection_connections (address : UInt64) (connected : Bool)
    (mtu : UInt16) (error : Int) :
    (p.sendDeviceConnection address connected mtu error).connections = p.connections :=
  p.sendIfConnected_connections _

@[simp] theorem sendConnectionsFree_connections :
    p.sendConnectionsFree.connections = p.connections := p.sendIfConnected_connections _

@[simp] theorem sendGattServicesDone_connections (address : UInt64) :
    (p.sendGattServicesDone address).connections = p.connections := p.sendIfConnected_connections _

@[simp] theorem sendGattError_connections (address : UInt64) (handle : UInt16) (error : Int) :
    (p.sendGattError address handle error).connections = p.connections :=
  p.sendIfConnected_connections _

@[simp] theorem sendDevicePairing_connections (address : UInt64) (paired : Bool) (error : Int) :
    (p.sendDevicePairing address paired error).connections = p.connections :=
  p.sendIfConnected_connections _

@[simp] theorem flushPendingAdvertisements_connections :
    p.flushPendingAdvertisements.connections = p.connections := by
  unfold flushPendingAdvertisements
  split
  · rfl
  · exact p.sendMessage_connections _

@[simp] theorem update_connections (i : Nat) (f : BluetoothConnection → BluetoothConnection) :
    (p.update i f).connections = p.connections.modify i f := rfl

end BluetoothProxy

end EsphomeHost

import EsphomeHost.Ble.Uuid

/-!
# Commands and events

What crosses the two queues between the main thread and the BlueZ worker: `HostGattCommand` on the
way there, `HostGattEvent` on the way back, each kind with the fields the source reads for it.

A queued item carries a stamp of a type that no function of the source looks at; a development
that has to say which request an item belongs to chooses the stamp.
-/

namespace EsphomeHost

/-! ## Status codes -/

def ESP_OK : Int := 0
def ESP_GATT_OK : Int := 0
def ESP_GATT_INVALID_HANDLE : Int := 0x01
def ESP_GATT_NOT_FOUND : Int := 0x0a
def ESP_GATT_ERROR : Int := 0x85
def ESP_GATT_CONN_TIMEOUT : Int := 0x93
def ESP_GATT_NOT_CONNECTED : Int := 0x9f

/-! ## The discovery snapshot -/

structure DiscoveredDescriptor where
  uuid : ESPBTUUID
  handle : UInt16
deriving DecidableEq

structure DiscoveredCharacteristic where
  uuid : ESPBTUUID
  handle : UInt16
  properties : UInt8
  descriptors : List DiscoveredDescriptor
deriving DecidableEq

structure DiscoveredService where
  uuid : ESPBTUUID
  startHandle : UInt16
  endHandle : UInt16
  characteristics : List DiscoveredCharacteristic
deriving DecidableEq

/-! ## Queue items -/

inductive HostGattCommand
  | connect
  | disconnect
  | readChar (handle : UInt16)
  | readDesc (handle : UInt16)
  | writeChar (handle : UInt16) (data : List UInt8) (response : Bool)
  | writeDesc (handle : UInt16) (data : List UInt8) (response : Bool)
  | setNotify (handle : UInt16) (enable : Bool)
  | readRssi
  | pair
  | passkeyReply (passkey : UInt32)
  | confirmReply (accept : Bool)
  | removeBond
deriving DecidableEq

inductive HostGattEvent
  | connected
  | disconnected (reason : Int)
  | servicesDiscovered (mtu : UInt16) (services : List DiscoveredService)
  | readComplete (handle : UInt16) (status : Int) (data : List UInt8)
  | writeComplete (handle : UInt16) (status : Int)
  | descRead (handle : UInt16) (status : Int) (data : List UInt8)
  | descWrite (handle : UInt16) (status : Int)
  | notify (handle : UInt16) (data : List UInt8)
  | notifyRegistered (handle : UInt16) (status : Int)
  | rssi (value : Int8)
  | passkeyRequest
  | passkeyNotify (passkey : UInt32)
  | numericCompare (passkey : UInt32)
  | pairingComplete (success : Bool) (reason : Int)
deriving DecidableEq

namespace HostGattEvent

/-- The three kinds that report the state of the link. -/
def isLink : HostGattEvent → Bool
  | connected | disconnected _ | servicesDiscovered _ _ => true
  | _ => false

def isServicesDiscovered : HostGattEvent → Bool
  | servicesDiscovered _ _ => true
  | _ => false

/-- The kinds the worker posts from a D-Bus signal or an agent call. -/
def isSignalled : HostGattEvent → Bool
  | connected | disconnected _ | servicesDiscovered _ _ | notify _ _ | passkeyRequest
  | passkeyNotify _ | numericCompare _ => true
  | _ => false

end HostGattEvent

/-- The events the worker posts while it executes a command. -/
def HostGattCommand.posts : HostGattCommand → HostGattEvent → Bool
  | connect, .connected | connect, .servicesDiscovered _ _ | connect, .disconnected _ => true
  | disconnect, .disconnected _ => true
  | readChar handle, .readComplete h _ _ | readDesc handle, .descRead h _ _
  | writeChar handle _ _, .writeComplete h _ | writeDesc handle _ _, .descWrite h _
  | setNotify handle _, .notifyRegistered h _ => handle = h
  | readRssi, .rssi _ => true
  | pair, .pairingComplete _ _ => true
  | _, _ => false

/-- A queue item with the stamp it was queued under. -/
structure Stamped (τ α : Type) where
  stamp : τ
  val : α
deriving DecidableEq

/-- The main thread's side of a `BLEGattHost`: the device it was created for and the two queues.
`owner` is the stamp it was created under. -/
structure BLEGattHost (τ : Type) where
  owner : τ
  adapter : List Char
  devicePath : List Char
  commands : List (Stamped τ HostGattCommand) := []
  events : List (Stamped τ HostGattEvent) := []
deriving DecidableEq

namespace BLEGattHost

variable {τ : Type} (h : BLEGattHost τ)

def enqueueCommand (stamp : τ) (cmd : HostGattCommand) : BLEGattHost τ :=
  { h with commands := h.commands ++ [⟨stamp, cmd⟩] }

def postEvent (stamp : τ) (ev : HostGattEvent) : BLEGattHost τ :=
  { h with events := h.events ++ [⟨stamp, ev⟩] }

/-- `drain_events`: the queued events, and the host without them. -/
def drainEvents : List (Stamped τ HostGattEvent) × BLEGattHost τ :=
  (h.events, { h with events := [] })

end BLEGattHost

end EsphomeHost

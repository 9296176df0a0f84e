import EsphomeHost.Proxy.State

/-!
# `BluetoothConnection`

The methods of a slot.  They act on the proxy as well as on the slot, so each takes the proxy and
the index of the slot.
-/

namespace EsphomeHost

/-! ## UUIDs on the wire -/

/-- Bytes `hi`, `hi - 1`, .. shifted into one word, most significant first. -/
def packBytes (bytes : List UInt8) : UInt64 :=
  bytes.foldl (fun v b => (v <<< 8) ||| b.toUInt64) 0

/-- `fill_128bit_uuid_array` on `get_uuid()`. -/
def fill128bitUuidArray (u : ESPBTUUID) : UInt64 × UInt64 :=
  if u.len = 16 then
    (packBytes (u.raw.toList.drop 8).reverse, packBytes (u.raw.toList.take 8).reverse)
  else
    (((if u.len = 2 then u.get16bit.toUInt64 else u.get32bit.toUInt64) <<< 32) ||| 0x00001000,
      0x800000805F9B34FB)

/-- `fill_gatt_uuid`. -/
def fillGattUuid (u : ESPBTUUID) (useEfficientUuids : Bool) : GattUuid :=
  if useEfficientUuids = false ∨ u.len = 16 then { uuid := fill128bitUuidArray u }
  else if u.len = 2 then { shortUuid := u.get16bit.toUInt32 }
  else if u.len = 4 then { shortUuid := u.get32bit }
  else {}

def gattServiceMessage (efficient : Bool) (svc : DiscoveredService) : GattServiceMessage :=
  { uuid := fillGattUuid svc.uuid efficient
    handle := svc.startHandle
    characteristics := svc.characteristics.map fun chr =>
      { uuid := fillGattUuid chr.uuid efficient
        handle := chr.handle
        properties := chr.properties
        descriptors := chr.descriptors.map fun d =>
          { uuid := fillGattUuid d.uuid efficient, handle := d.handle } } }

def MAX_PACKET_SIZE : Nat := 1360

/-- The `while` loop of `send_service_for_discovery_`: the services of one message, given the ones
already in it and the size so far. -/
def serviceBatch (cfg : ProxyConfig) (efficient : Bool) :
    List DiscoveredService → List GattServiceMessage → Nat → List GattServiceMessage
  | [], batch, _ => batch
  | svc :: rest, batch, size =>
      if batch ≠ [] ∧ size + (25 + svc.characteristics.length * 60) > MAX_PACKET_SIZE then batch
      else
        let m := gattServiceMessage efficient svc
        serviceBatch cfg efficient rest (batch ++ [m]) (size + cfg.serviceSize m + 1)

/-! ## Slot accounting -/

/-- `update_allocated_slot_`: the first entry equal to `find` becomes `set`. -/
def updateAllocatedSlot (find set : UInt64) : List UInt64 → List UInt64
  | [] => []
  | slot :: rest => if slot = find then set :: rest else slot :: updateAllocatedSlot find set rest

/-- The accounting of `set_address`. -/
def ConnectionsFree.setAddress (r : ConnectionsFree) (old new : UInt64) : ConnectionsFree :=
  if new = 0 ∧ old ≠ 0 then
    { r with free := r.free + 1, allocated := updateAllocatedSlot old 0 r.allocated }
  else if new ≠ 0 ∧ old = 0 then
    { r with free := r.free - 1, allocated := updateAllocatedSlot 0 new r.allocated }
  else r

namespace BluetoothConnection

variable (c : BluetoothConnection)

def withBase (base : BLEClientBase Origin) : BluetoothConnection := { c with base := base }

/-- The slot's part of `set_address`; taking a free slot starts a tenancy. -/
def setAddress (address : UInt64) : BluetoothConnection :=
  c.withBase { c.base.setAddress address with
    stamp := ⟨address, if address ≠ 0 ∧ c.base.address = 0 then c.base.stamp.tenancy + 1
      else c.base.stamp.tenancy⟩ }

/-- Remember where the pairing flag and the state of the link come from. -/
def note (e : Stamped Origin HostGattEvent) : BluetoothConnection :=
  match e.val with
  | .connected | .servicesDiscovered _ _ => { c with linkedBy := some e.stamp }
  | .pairingComplete true _ => { c with pairedBy := some e.stamp }
  | _ => c

end BluetoothConnection

namespace BluetoothProxy

variable (p : BluetoothProxy)

/-- Act on slot `i`, if there is one. -/
def withConnection (i : Nat) (f : BluetoothConnection → BluetoothProxy) : BluetoothProxy :=
  match p.connections[i]? with
  | some c => f c
  | none => p

/-- `BluetoothConnection::set_address`. -/
def setAddress (i : Nat) (address : UInt64) : BluetoothProxy :=
  p.withConnection i fun c =>
    { p.update i (·.setAddress address) with
      connectionsFree := p.connectionsFree.setAddress c.base.address address }

/-- `reset_connection_`. -/
def resetConnection (i : Nat) (reason : Int) : BluetoothProxy :=
  p.withConnection i fun c =>
    let p := p.sendDeviceConnection c.base.address false 0 reason
    let p := p.setAddress i 0
    let p := p.update i fun c =>
      { c with sendService := INIT_SENDING_SERVICES, seenServices := false }
    p.sendConnectionsFree

/-- `on_disconnect_complete`. -/
def onDisconnectComplete (i : Nat) (reason : Int) : BluetoothProxy :=
  p.withConnection i fun c => if c.base.address = 0 then p else p.resetConnection i reason

/-- Store what the base class made of an event, and call `on_disconnect_complete` if it did. -/
def applyBase (i : Nat) (outcome : BLEClientBase Origin × Option Int) : BluetoothProxy :=
  let p := p.update i (·.withBase outcome.1)
  match outcome.2 with
  | some reason => p.onDisconnectComplete i reason
  | none => p

/-- A read, write or notify result: an error, or the response if somebody is subscribed. -/
def sendResult (address : UInt64) (handle : UInt16) (status : Int) (response : ApiMessage) :
    BluetoothProxy :=
  if status ≠ ESP_GATT_OK then p.sendGattError address handle status
  else if p.apiConnection ≠ none then p.sendMessage response
  else p

/-- The `switch` of `BluetoothConnection::dispatch_event_`. -/
def fanOut (i : Nat) (ev : HostGattEvent) : BluetoothProxy :=
  p.withConnection i fun c =>
    let address := c.base.address
    match ev with
    | .servicesDiscovered _ _ =>
        (p.sendDeviceConnection address true c.base.mtu ESP_OK).sendConnectionsFree
    | .readComplete handle status data | .descRead handle status data =>
        p.sendResult address handle status (.gattRead address handle data)
    | .writeComplete handle status | .descWrite handle status =>
        p.sendResult address handle status (.gattWrite address handle)
    | .notifyRegistered handle status =>
        p.sendResult address handle status (.gattNotify address handle)
    | .notify handle data =>
        if p.apiConnection ≠ none then p.sendMessage (.gattNotifyData address handle data) else p
    | .pairingComplete success reason =>
        p.sendDevicePairing address success (if success then ESP_OK else reason)
    | _ => p

/-- `BluetoothConnection::dispatch_event_`. -/
def dispatchEvent (i : Nat) (now : UInt32) (e : Stamped Origin HostGattEvent) : BluetoothProxy :=
  p.withConnection i fun c =>
    ((p.update i (·.note e)).applyBase i (c.base.dispatchEvent now e.val)).fanOut i e.val

/-- The connect timeout check of `loop`, whose event goes through the virtual dispatch. -/
def checkConnectTimeout (i : Nat) (now : UInt32) : BluetoothProxy :=
  p.withConnection i fun c => p.applyBase i (c.base.checkConnectTimeout now)

def checkDisconnectTimeout (i : Nat) (now : UInt32) : BluetoothProxy :=
  p.withConnection i fun c => p.applyBase i (c.base.checkDisconnectTimeout now)

/-- `send_service_for_discovery_`. -/
def sendServiceForDiscovery (cfg : ProxyConfig) (i : Nat) : BluetoothProxy :=
  p.withConnection i fun c =>
    if c.sendService < 0 ∨ c.sendService.toInt ≥ c.base.services.length then
      ((p.update i fun c => { c with sendService := DONE_SENDING_SERVICES }).sendGattServicesDone
        c.base.address).update i fun c => c.withBase c.base.releaseServices
    else
      match p.apiConnection with
      | none => p.update i fun c => { c with sendService := DONE_SENDING_SERVICES }
      | some client =>
          let batch := serviceBatch cfg (cfg.supportsEfficientUuids client)
            (c.base.services.drop c.sendService.toInt.toNat) [] (cfg.responseSize c.base.address)
          (p.update i fun c =>
            { c with sendService := c.sendService + Int16.ofNat batch.length }).sendMessage
              (.gattServices c.base.address batch)

/-- The end of `BluetoothConnection::loop`. -/
def streamServices (cfg : ProxyConfig) (i : Nat) : BluetoothProxy :=
  p.withConnection i fun c =>
    if c.base.address = 0 then p
    else if c.sendService ≥ 0 ∧ c.sendService ≤ Int16.ofNat c.base.services.length then
      p.sendServiceForDiscovery cfg i
    else p

end BluetoothProxy

end EsphomeHost

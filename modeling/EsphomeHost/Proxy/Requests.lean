import EsphomeHost.Proxy.Connection

/-!
# `BluetoothProxy`

The handlers of the API requests, the proxy's own loop and its advertisement listener.
-/

namespace EsphomeHost

inductive DeviceRequestType
  | connect
  | disconnect
  | pair
  | unpair
  | connectV3WithCache
  | connectV3WithoutCache
  | clearCache
deriving DecidableEq

/-- The requests of an API client about one device. -/
inductive ApiRequest
  | device (address : UInt64) (type : DeviceRequestType) (hasAddressType : Bool)
  | gattRead (address : UInt64) (handle : UInt16)
  | gattWrite (address : UInt64) (handle : UInt16) (data : List UInt8) (response : Bool)
  | gattReadDescriptor (address : UInt64) (handle : UInt16)
  | gattWriteDescriptor (address : UInt64) (handle : UInt16) (data : List UInt8)
  | gattGetServices (address : UInt64)
  | gattNotify (address : UInt64) (handle : UInt16) (enable : Bool)
  | setConnectionParams (address : UInt64) (minInterval maxInterval latency timeout : UInt32)
deriving DecidableEq

/-- The device a request names. -/
def ApiRequest.address : ApiRequest → UInt64
  | device a _ _ | gattRead a _ | gattWrite a _ _ _ | gattReadDescriptor a _
  | gattWriteDescriptor a _ _ | gattGetServices a | gattNotify a _ _
  | setConnectionParams a _ _ _ _ => a

/-- Only the two `CONNECT_V3` requests may reserve a slot. -/
def ApiRequest.reserves : ApiRequest → Bool
  | device _ .connectV3WithCache _ | device _ .connectV3WithoutCache _ => true
  | _ => false

/-- A slot taken for a new device. -/
def BluetoothConnection.reserve (c : BluetoothConnection) (address : UInt64) :
    BluetoothConnection :=
  let c := { c with sendService := INIT_SENDING_SERVICES }.setAddress address
  c.withBase (c.base.setState .init)

/-- A reserved slot handed to the tracker. -/
def BluetoothConnection.discover (c : BluetoothConnection) (type : ConnectionType) :
    BluetoothConnection :=
  c.withBase ({ c.base with connectionType := type }.setState .discovered)

namespace BluetoothProxy

variable (p : BluetoothProxy)

/-- Where the loop of `get_connection_` stops. -/
def findConnection (address : UInt64) (reserve : Bool) : Option Nat :=
  p.connections.findIdx? fun c =>
    c.base.address = address ∨ (reserve = true ∧ c.base.address = 0)

/-- `get_connection_` reserving slot `i`. -/
def reserveConnection (i : Nat) (address : UInt64) : BluetoothProxy :=
  p.withConnection i fun c =>
    { p.update i (·.reserve address) with
      connectionsFree := p.connectionsFree.setAddress c.base.address address }

/-- `get_connection_`: the slot it returns, and the proxy with the slot reserved if it had to be. -/
def getConnection (address : UInt64) (reserve : Bool) : Option Nat × BluetoothProxy :=
  match p.findConnection address reserve with
  | none => (none, p)
  | some i =>
      (some i, p.withConnection i fun c =>
        if c.base.address = address then p else p.reserveConnection i address)

/-- The rest of a `CONNECT_V3` request, once its slot is known. -/
def connectConnection (i : Nat) (address : UInt64) (type : ConnectionType) : BluetoothProxy :=
  p.withConnection i fun c =>
    match c.base.state with
    | .connected | .established =>
        (p.sendDeviceConnection address true 0 ESP_OK).sendConnectionsFree
    | .connecting =>
        if c.base.wantDisconnect then
          p.update i fun c => c.withBase c.base.cancelPendingDisconnect
        else p
    | .init => (p.update i (·.discover type)).sendConnectionsFree
    | _ => p

def connectRequest (address : UInt64) (hasAddressType : Bool) (type : ConnectionType) :
    BluetoothProxy :=
  match p.getConnection address true with
  | (none, p) => p.sendDeviceConnection address false 0 ESP_OK
  | (some i, p) =>
      if hasAddressType then p.connectConnection i address type
      else p.sendDeviceConnection address false 0 ESP_OK

def disconnectRequest (now : UInt32) (address : UInt64) : BluetoothProxy :=
  match p.findConnection address false with
  | none => (p.sendDeviceConnection address false 0 ESP_OK).sendConnectionsFree
  | some i =>
      p.withConnection i fun c =>
        if c.base.state ≠ .idle then p.update i fun c => c.withBase (c.base.disconnect now)
        else
          ((p.setAddress i 0).sendDeviceConnection address false 0 ESP_OK).sendConnectionsFree

def pairRequest (address : UInt64) : BluetoothProxy :=
  match p.findConnection address false with
  | none => p
  | some i =>
      p.withConnection i fun c =>
        if c.base.paired = false then
          let p := p.update i fun c => c.withBase c.base.pair.2
          if c.base.pair.1 ≠ ESP_OK then p.sendDevicePairing address false c.base.pair.1 else p
        else p.sendDevicePairing address true ESP_OK

def unpairRequest (address : UInt64) : BluetoothProxy :=
  match p.findConnection address false with
  | none => p.sendDevicePairing address false ESP_GATT_NOT_FOUND
  | some i =>
      (p.update i fun c => c.withBase c.base.removeBond.2).sendDevicePairing address false ESP_OK

/-- `bluetooth_device_request`. -/
def bluetoothDeviceRequest (now : UInt32) (address : UInt64) (hasAddressType : Bool) :
    DeviceRequestType → BluetoothProxy
  | .connectV3WithCache => p.connectRequest address hasAddressType .v3WithCache
  | .connectV3WithoutCache => p.connectRequest address hasAddressType .v3WithoutCache
  | .disconnect => p.disconnectRequest now address
  | .pair => p.pairRequest address
  | .unpair => p.unpairRequest address
  | .clearCache => p.sendMessage (.deviceClearCache address true ESP_OK)
  | .connect => p.sendDeviceConnection address false 0 ESP_OK

/-- The five GATT operations: queue the command of the slot that serves the address, and report the
error if there is no such slot or the operation is refused. -/
def gattRequest (address : UInt64) (handle : UInt16)
    (op : BLEClientBase Origin → Int × BLEClientBase Origin) : BluetoothProxy :=
  match p.findConnection address false with
  | none => p.handleGattNotConnected address handle
  | some i =>
      p.withConnection i fun c =>
        let p := p.update i fun c => c.withBase (op c.base).2
        if (op c.base).1 ≠ ESP_OK then p.sendGattError address handle (op c.base).1 else p

def bluetoothGattRead (address : UInt64) (handle : UInt16) : BluetoothProxy :=
  p.gattRequest address handle (·.readCharacteristic handle)

def bluetoothGattWrite (address : UInt64) (handle : UInt16) (data : List UInt8)
    (response : Bool) : BluetoothProxy :=
  p.gattRequest address handle (·.writeCharacteristic handle data response)

def bluetoothGattReadDescriptor (address : UInt64) (handle : UInt16) : BluetoothProxy :=
  p.gattRequest address handle (·.readDescriptor handle)

def bluetoothGattWriteDescriptor (address : UInt64) (handle : UInt16) (data : List UInt8) :
    BluetoothProxy := p.gattRequest address handle (·.writeDescriptor handle data true)

def bluetoothGattNotify (address : UInt64) (handle : UInt16) (enable : Bool) : BluetoothProxy :=
  p.gattRequest address handle (·.notifyCharacteristic handle enable)

def bluetoothGattSendServices (address : UInt64) : BluetoothProxy :=
  match p.findConnection address false with
  | none => p.handleGattNotConnected address 0
  | some i =>
      p.withConnection i fun c =>
        if c.base.connected = false then p.handleGattNotConnected address 0
        else if c.base.services.length = 0 then p.sendGattServicesDone address
        else if c.sendService = INIT_SENDING_SERVICES then
          p.update i fun c => { c with sendService := 0 }
        else p

/-- The parameters themselves go nowhere: tuning is a no-op on the host. -/
def bluetoothSetConnectionParams (address : UInt64) : BluetoothProxy :=
  if p.apiConnection = none then p
  else
    match p.findConnection address false with
    | none => p.sendMessage (.setConnectionParams address ESP_GATT_NOT_CONNECTED)
    | some i =>
        p.withConnection i fun c =>
          if c.base.connected = false then
            p.sendMessage (.setConnectionParams address ESP_GATT_NOT_CONNECTED)
          else p.sendMessage (.setConnectionParams address ESP_OK)

def request (now : UInt32) : ApiRequest → BluetoothProxy
  | .device address type hasAddressType =>
      p.bluetoothDeviceRequest now address hasAddressType type
  | .gattRead address handle => p.bluetoothGattRead address handle
  | .gattWrite address handle data response => p.bluetoothGattWrite address handle data response
  | .gattReadDescriptor address handle => p.bluetoothGattReadDescriptor address handle
  | .gattWriteDescriptor address handle data => p.bluetoothGattWriteDescriptor address handle data
  | .gattGetServices address => p.bluetoothGattSendServices address
  | .gattNotify address handle enable => p.bluetoothGattNotify address handle enable
  | .setConnectionParams address _ _ _ _ => p.bluetoothSetConnectionParams address

/-- `bluetooth_scanner_set_mode` only logs. -/
def bluetoothScannerSetMode (_active : Bool) : BluetoothProxy := p

/-- `send_connections_free` to the client that asks for it. -/
def sendConnectionsFreeTo (client : Nat) : BluetoothProxy :=
  { p with outbox := p.outbox ++ [(client, .connectionsFree p.connectionsFree)] }

/-- `subscribe_api_connection`: only one subscription at a time. -/
def subscribeApiConnection (client : Nat) (state : ScannerState) (scanActive : Bool) :
    BluetoothProxy :=
  if p.apiConnection ≠ none then p
  else { p with apiConnection := some client }.sendBluetoothScannerState state scanActive

def unsubscribeApiConnection (client : Nat) : BluetoothProxy :=
  if p.apiConnection ≠ some client then p else { p with apiConnection := none }

/-- `on_scanner_state`. -/
def onScannerState (state : ScannerState) (scanActive : Bool) : BluetoothProxy :=
  if p.apiConnection ≠ none then p.sendBluetoothScannerState state scanActive else p

/-- `parse_device`; `serverConnected` is `global_api_server->is_connected()`. -/
def parseDevice (cfg : ProxyConfig) (serverConnected : Bool) (device : ESPBTDevice) :
    BluetoothProxy :=
  if serverConnected = false ∨ p.apiConnection = none then p
  else
    let p := { p with advertisements := p.advertisements ++ [rawAdvertisement device] }
    if p.advertisements.length ≥ cfg.advertisementBatchSize then p.flushPendingAdvertisements
    else p

/-- `loop`: every 100 ms flush to the subscriber, or without one disconnect every slot in use. -/
def loop (serverConnected : Bool) (now : UInt32) : BluetoothProxy :=
  if now - p.lastAdvertisementFlushTime < 100 then p
  else
    let p := { p with lastAdvertisementFlushTime := now }
    if serverConnected = true ∧ p.apiConnection ≠ none then p.flushPendingAdvertisements
    else
      { p with connections := p.connections.map fun c =>
          if c.base.address ≠ 0 ∧ c.base.wantDisconnect = false then
            c.withBase (c.base.disconnect now)
          else c }

end BluetoothProxy

end EsphomeHost

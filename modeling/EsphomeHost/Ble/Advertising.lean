import EsphomeHost.Ble.Uuid

/-!
# `ESP32BLE`

The holder of the advertising payload.  A call changes it and, with a backend attached, passes a
copy on: every function below returns the holder together with the copy that is pushed, if any.
-/

namespace EsphomeHost

structure HostAdvertisement where
  manufacturerData : List UInt8 := []
  manufacturerCompany : UInt16 := 0
  serviceData : List UInt8 := []
  serviceUuids : List ESPBTUUID := []
  appearance : UInt16 := 0
  localName : List Char := []
  includeName : Bool := false
  active : Bool := false
deriving DecidableEq

/-- `advBackend` says whether `adv_backend_` is set. -/
structure ESP32BLE where
  adv : HostAdvertisement := {}
  advBackend : Bool := false
deriving DecidableEq

namespace ESP32BLE

variable (ble : ESP32BLE)

def setAdvertisingBackend : ESP32BLE := { ble with advBackend := true }

/-- `push_advertising_`. -/
def pushAdvertising : ESP32BLE × Option HostAdvertisement :=
  (ble, if ble.advBackend then some ble.adv else none)

def advertisingStart : ESP32BLE × Option HostAdvertisement :=
  pushAdvertising { ble with adv := { ble.adv with active := true } }

def advertisingSetServiceData (data : List UInt8) : ESP32BLE × Option HostAdvertisement :=
  pushAdvertising { ble with adv := { ble.adv with serviceData := data } }

def advertisingSetManufacturerData (data : List UInt8) : ESP32BLE × Option HostAdvertisement :=
  pushAdvertising { ble with adv := { ble.adv with manufacturerData := data } }

/-- The one mutator that does not push. -/
def advertisingSetAppearance (appearance : UInt16) : ESP32BLE × Option HostAdvertisement :=
  ({ ble with adv := { ble.adv with appearance := appearance } }, none)

def advertisingSetServiceDataAndName (data : List UInt8) (includeName : Bool) :
    ESP32BLE × Option HostAdvertisement :=
  pushAdvertising
    { ble with adv := { ble.adv with serviceData := data, includeName := includeName } }

def advertisingAddServiceUuid (uuid : ESPBTUUID) : ESP32BLE × Option HostAdvertisement :=
  if ble.adv.serviceUuids.any (· == uuid) then (ble, none)
  else pushAdvertising
    { ble with adv := { ble.adv with serviceUuids := ble.adv.serviceUuids ++ [uuid] } }

/-- The first equal entry is erased. -/
def advertisingRemoveServiceUuid (uuid : ESPBTUUID) : ESP32BLE × Option HostAdvertisement :=
  pushAdvertising
    { ble with adv := { ble.adv with serviceUuids := ble.adv.serviceUuids.eraseP (· == uuid) } }

end ESP32BLE

end EsphomeHost

import EsphomeHost.Ble.Uuid

/-!
# Scanned devices

`ESPBTDevice` is what both scanner backends hand to the listeners: an address, a signal strength
and the decoded advertisement fields.  The setters only append or overwrite one field each.
-/

namespace EsphomeHost

structure ServiceData where
  uuid : ESPBTUUID
  data : List UInt8
deriving DecidableEq

/-- The address is stored least significant byte first. -/
structure ESPBTDevice where
  address : Vector UInt8 6 := Vector.replicate 6 0
  rssi : Int := 0
  name : List UInt8 := []
  txPowers : List Int8 := []
  appearance : Option UInt16 := none
  adFlag : Option UInt8 := none
  serviceUuids : List ESPBTUUID := []
  manufacturerDatas : List ServiceData := []
  serviceDatas : List ServiceData := []
deriving DecidableEq

namespace ESPBTDevice

variable (d : ESPBTDevice)

/-- The six bytes at the pointer. -/
def setAddress (addr : List UInt8) : ESPBTDevice :=
  { d with address := Vector.ofFn fun i => addr.getD i 0 }

def setRssi (rssi : Int8) : ESPBTDevice := { d with rssi := rssi.toInt }
def setName (name : List UInt8) : ESPBTDevice := { d with name := name }
def setAppearance (a : UInt16) : ESPBTDevice := { d with appearance := some a }
def setAdFlag (f : UInt8) : ESPBTDevice := { d with adFlag := some f }
def addTxPower (p : Int8) : ESPBTDevice := { d with txPowers := d.txPowers ++ [p] }

def addServiceUuid (uuid : ESPBTUUID) : ESPBTDevice :=
  { d with serviceUuids := d.serviceUuids ++ [uuid] }

def addManufacturerData (sd : ServiceData) : ESPBTDevice :=
  { d with manufacturerDatas := d.manufacturerDatas ++ [sd] }

def addServiceData (sd : ServiceData) : ESPBTDevice :=
  { d with serviceDatas := d.serviceDatas ++ [sd] }

/-- `for (i = 5; i >= 0; i--) v = (v << 8) | address_[i]`. -/
def addressUint64 : UInt64 :=
  d.address.toList.reverse.foldl (fun v b => (v <<< 8) ||| b.toUInt64) 0

/-- Append each UUID in turn. -/
def addServiceUuids (uuids : List ESPBTUUID) : ESPBTDevice := uuids.foldl addServiceUuid d

theorem addServiceUuids_eq (uuids : List ESPBTUUID) :
    d.addServiceUuids uuids = { d with serviceUuids := d.serviceUuids ++ uuids } := by
  induction uuids generalizing d with
  | nil => simp [addServiceUuids]
  | cons u us ih =>
      have step := ih (d.addServiceUuid u)
      simp only [addServiceUuids, List.foldl_cons] at step ⊢
      rw [step]
      simp [addServiceUuid]

end ESPBTDevice

end EsphomeHost

import EsphomeHost.Lib.Cut
import EsphomeHost.Tracker.Device1
import Mathlib.Data.List.Induction

/-!
# The signals of BlueZ

The D-Bus scanner hears two signals: `InterfacesAdded`, with the properties of a new device, and
`PropertiesChanged`, with those that changed, on the object path of the device.  Each becomes a
device of its own.

* `parseDevice1Props_rssi` and `parseDevice1Props_address`: two fields of a device, read off its
  dictionary.
* `BluezSignal.devices_updates`: the devices a signal delivers are those of its updates, which are
  the dictionaries that are read and the addresses they are about.
-/

namespace EsphomeHost

def DEVICE1 : List Char := "org.bluez.Device1".toList

/-- The text `on_properties_changed_` makes of what follows `/dev_` in the path; `%c` of the
terminator ends the text for `sscanf`. -/
def macText (dev : List Char) : List Char :=
  let c (i : Nat) : Char := dev.getD i (Char.ofNat 0)
  [c 0, c 1, ':', c 3, c 4, ':', c 6, c 7, ':', c 9, c 10, ':', c 12, c 13, ':', c 15, c 16]

/-- The address in an object path, behind the first `/dev_`. -/
def addressOfPath (path : List Char) : Option (List UInt8) :=
  (Cut.cut "/dev_".toList path).bind fun parts => parseBdaddr (macText parts.2)

/-- `on_interfaces_added_`, for one entry of the interface dictionary. -/
def interfaceAdded (iface : List Char) (props : List Device1Prop) : Option ESPBTDevice :=
  if iface = DEVICE1 then
    let (haveAddress, device) := parseDevice1Props props {}
    if haveAddress then some device else none
  else none

/-- `on_interfaces_added_`: the devices it delivers. -/
def onInterfacesAdded (interfaces : List (List Char × List Device1Prop)) : List ESPBTDevice :=
  interfaces.filterMap fun i => interfaceAdded i.1 i.2

/-- `on_properties_changed_`: the device it delivers. -/
def onPropertiesChanged (iface path : List Char) (changed : List Device1Prop) :
    Option ESPBTDevice :=
  if iface = DEVICE1 then
    (addressOfPath path).map fun bd =>
      (parseDevice1Props changed (ESPBTDevice.setAddress {} bd)).2
  else none

inductive BluezSignal
  | interfacesAdded (interfaces : List (List Char × List Device1Prop))
  | propertiesChanged (iface path : List Char) (changed : List Device1Prop)

/-- The devices a signal delivers. -/
def BluezSignal.devices : BluezSignal → List ESPBTDevice
  | .interfacesAdded interfaces => onInterfacesAdded interfaces
  | .propertiesChanged iface path changed => (onPropertiesChanged iface path changed).toList

/-! ## The fields of a device, read off its dictionary -/

namespace Device1Prop

/-- The value of an `RSSI` entry. -/
def rssi? : Device1Prop → Option Int16
  | .rssi value => some value
  | _ => none

/-- The address in an `Address` entry. -/
def address? : Device1Prop → Option (List UInt8)
  | .address value => parseBdaddr value
  | _ => none

end Device1Prop

/-- The RSSI entry that counts. -/
def lastRssi (props : List Device1Prop) : Option Int16 :=
  (props.filterMap Device1Prop.rssi?).getLast?

/-- The address entry that counts. -/
def lastAddress (props : List Device1Prop) : Option (List UInt8) :=
  (props.filterMap Device1Prop.address?).getLast?

section Fields

variable {props : List Device1Prop} {device : ESPBTDevice}

theorem parseDevice1Props_concat (p : Device1Prop) :
    parseDevice1Props (props ++ [p]) device = device1Prop (parseDevice1Props props device) p := by
  rw [parseDevice1Props, List.foldl_append]
  rfl

theorem device1Prop_rssi (acc : Bool × ESPBTDevice) (p : Device1Prop) :
    (device1Prop acc p).2.rssi = (p.rssi?.map fun v => v.toInt8.toInt).getD acc.2.rssi := by
  cases p with
  | uuids value => rw [device1Prop_uuids]; rfl
  | manufacturerData value => rw [device1Prop_manufacturerData]; rfl
  | serviceData value => rw [device1Prop_serviceData]; rfl
  | address value => rw [device1Prop_address]; rfl
  | _ => rfl

theorem device1Prop_addressOf (acc : Bool × ESPBTDevice) (p : Device1Prop) :
    (device1Prop acc p).1 = (p.address?.isSome || acc.1) ∧
      (device1Prop acc p).2.address =
        (p.address?.map fun bd => (acc.2.setAddress bd).address).getD acc.2.address := by
  cases p with
  | uuids value => rw [device1Prop_uuids]; exact ⟨rfl, rfl⟩
  | manufacturerData value => rw [device1Prop_manufacturerData]; exact ⟨rfl, rfl⟩
  | serviceData value => rw [device1Prop_serviceData]; exact ⟨rfl, rfl⟩
  | address value => rw [device1Prop_address]; exact ⟨rfl, rfl⟩
  | _ => exact ⟨rfl, rfl⟩

/-- **The RSSI of a device** is the low byte of its last RSSI entry, or what it was before. -/
theorem parseDevice1Props_rssi (props : List Device1Prop) (device : ESPBTDevice) :
    (parseDevice1Props props device).2.rssi =
      ((lastRssi props).map fun v => v.toInt8.toInt).getD device.rssi := by
  induction props using List.reverseRecOn with
  | nil => rfl
  | append_singleton props p ih =>
      rw [parseDevice1Props_concat, device1Prop_rssi, ih, lastRssi, lastRssi,
        List.filterMap_append]
      cases found : p.rssi? with
      | none => simp [found]
      | some v => simp [found]

/-- **The address of a device** is that of its last address entry, or what it was before. -/
theorem parseDevice1Props_address (props : List Device1Prop) (device : ESPBTDevice) :
    (parseDevice1Props props device).1 = (lastAddress props).isSome ∧
      (parseDevice1Props props device).2.address =
        ((lastAddress props).map fun bd => (device.setAddress bd).address).getD
          device.address := by
  induction props using List.reverseRecOn with
  | nil => exact ⟨rfl, rfl⟩
  | append_singleton props p ih =>
      obtain ⟨flag, address⟩ := device1Prop_addressOf (parseDevice1Props props device) p
      rw [parseDevice1Props_concat, flag, address, ih.1, ih.2, lastAddress, lastAddress,
        List.filterMap_append]
      cases found : p.address? with
      | none => simp [found]
      | some bd =>
          have last : (List.filterMap Device1Prop.address? props ++
              [p].filterMap Device1Prop.address?).getLast? = some bd := by
            simp [found]
          rw [last]
          exact ⟨rfl, rfl⟩

end Fields

/-! ## Updates -/

/-- A dictionary that is read for a device, and the address it is about. -/
structure DeviceUpdate where
  address : Vector UInt8 6
  props : List Device1Prop

def DeviceUpdate.of (bd : List UInt8) (props : List Device1Prop) : DeviceUpdate :=
  ⟨(ESPBTDevice.setAddress {} bd).address, props⟩

/-- The values that are given for the RSSI. -/
def DeviceUpdate.rssis (u : DeviceUpdate) : List Int16 := u.props.filterMap Device1Prop.rssi?

def interfaceUpdate (iface : List Char) (props : List Device1Prop) : Option DeviceUpdate :=
  if iface = DEVICE1 then (lastAddress props).map fun bd => .of bd props else none

/-- An address in the dictionary goes before the one in the path. -/
def changedUpdate (iface path : List Char) (changed : List Device1Prop) : Option DeviceUpdate :=
  if iface = DEVICE1 then
    (addressOfPath path).map fun bd => .of ((lastAddress changed).getD bd) changed
  else none

/-- The dictionaries of a signal that make a device. -/
def BluezSignal.updates : BluezSignal → List DeviceUpdate
  | .interfacesAdded interfaces => interfaces.filterMap fun i => interfaceUpdate i.1 i.2
  | .propertiesChanged iface path changed => (changedUpdate iface path changed).toList

/-- A device carries what its update tells. -/
structure DeviceUpdate.Makes (u : DeviceUpdate) (d : ESPBTDevice) : Prop where
  address : d.address = u.address
  rssi : d.rssi = ((lastRssi u.props).map fun v => v.toInt8.toInt).getD 0

theorem interfaceAdded_makes (iface : List Char) (props : List Device1Prop) :
    Option.Rel DeviceUpdate.Makes (interfaceUpdate iface props) (interfaceAdded iface props) := by
  unfold interfaceUpdate interfaceAdded
  split
  · obtain ⟨flag, address⟩ := parseDevice1Props_address props {}
    have rssi := parseDevice1Props_rssi props {}
    simp only [flag]
    cases last : lastAddress props with
    | none => exact .none
    | some bd =>
        rw [last] at address
        exact .some ⟨address, rssi⟩
  · exact .none

theorem onPropertiesChanged_makes (iface path : List Char) (changed : List Device1Prop) :
    Option.Rel DeviceUpdate.Makes (changedUpdate iface path changed)
      (onPropertiesChanged iface path changed) := by
  unfold changedUpdate onPropertiesChanged
  split
  · cases addressOfPath path with
    | none => exact .none
    | some bd =>
        refine .some ⟨?_, parseDevice1Props_rssi changed _⟩
        rw [(parseDevice1Props_address changed _).2]
        cases lastAddress changed <;> rfl
  · exact .none

/-- **Each device that a signal delivers carries what one of its updates tells.** -/
theorem BluezSignal.devices_updates (signal : BluezSignal) :
    List.Forall₂ DeviceUpdate.Makes signal.updates signal.devices := by
  cases signal with
  | interfacesAdded interfaces =>
      show List.Forall₂ _ (interfaces.filterMap _) (interfaces.filterMap _)
      induction interfaces with
      | nil => exact .nil
      | cons i interfaces ih =>
          rw [List.filterMap_cons, List.filterMap_cons]
          have makes := interfaceAdded_makes i.1 i.2
          generalize interfaceUpdate i.1 i.2 = update, interfaceAdded i.1 i.2 = device at makes
          cases makes with
          | none => exact ih
          | some makes => exact .cons makes ih
  | propertiesChanged iface path changed =>
      show List.Forall₂ _ (Option.toList _) (Option.toList _)
      have makes := onPropertiesChanged_makes iface path changed
      generalize changedUpdate iface path changed = update,
        onPropertiesChanged iface path changed = device at makes
      cases makes with
      | none => exact .nil
      | some makes => exact .cons makes .nil

end EsphomeHost

import EsphomeHost.Client.Base
import EsphomeHost.Tracker.DevicePath

/-!
# The address of a client and of its device

One address is written as an object path by the client, as text by the device, and stored in six
bytes, least significant first.

* `addressOfPath_devicePathOf`: the tracker reads the address back from the path.
* `addressUint64_eq`: the six bytes of an address make the address.
* `sees_own_device`: **a client sees the device that is reported on its path, and no other client
  does**.
* `not_sees_own_device`: an adapter with the name of a device, and a signal with an address of its
  own.
-/

namespace EsphomeHost

open LittleEndian

/-- The six bytes of an address, as `ESPBTDevice` stores them. -/
def addressBytes (a : UInt64) : List UInt8 :=
  [remoteBda a 5, remoteBda a 4, remoteBda a 3, remoteBda a 2, remoteBda a 1, remoteBda a 0]

/-! ## The path -/

/-- The name of a device in its path, behind `dev_`. -/
def deviceName (a : UInt64) : List Char :=
  Hex.byteUpper (remoteBda a 0) ++ '_' :: (Hex.byteUpper (remoteBda a 1) ++ '_' ::
    (Hex.byteUpper (remoteBda a 2) ++ '_' :: (Hex.byteUpper (remoteBda a 3) ++ '_' ::
      (Hex.byteUpper (remoteBda a 4) ++ '_' :: Hex.byteUpper (remoteBda a 5)))))

/-- Where BlueZ keeps the devices of an adapter. -/
def adapterPath (adapter : List Char) : List Char := "/org/bluez/".toList ++ adapter

theorem devicePathOf_eq (adapter : List Char) (a : UInt64) :
    devicePathOf adapter a = adapterPath adapter ++ ("/dev_".toList ++ deviceName a) := by
  have name : ([0, 1, 2, 3, 4, 5].flatMap fun i => '_' :: Hex.byteUpper (remoteBda a i)) =
      '_' :: deviceName a := by
    simp [deviceName]
  have dev (rest : List Char) :
      "/".toList ++ ("dev".toList ++ '_' :: rest) = "/dev_".toList ++ rest := by
    simp
  unfold devicePathOf adapterPath
  rw [name, List.append_assoc, List.append_assoc, dev]

/-- The name of a device spells its address. -/
theorem namesAddress_deviceName (a : UInt64) :
    NamesAddress (deviceName a) (addressBytes a).reverse := by
  let upTo (n : List UInt64) : List UInt8 := n.map (remoteBda a)
  exact ⟨(upTo [0, 1, 2, 3, 4]).map hexPair, hexPair (remoteBda a 5), rfl,
    spells_hexPair (upTo [0, 1, 2, 3, 4, 5]), List.prefix_rfl⟩

/-- The text made of the name is the printed address. -/
theorem parseBdaddr_macText (a : UInt64) :
    parseBdaddr (macText (deviceName a)) = some (addressBytes a) := by
  rw [parseBdaddr_of_names (namesAddress_deviceName a), List.reverse_reverse]

theorem cut_devicePathOf {adapter : List Char}
    (plain : Cut.cut "/dev_".toList (adapterPath adapter) = none) (a : UInt64) :
    Cut.cut "/dev_".toList (devicePathOf adapter a) = some (adapterPath adapter, deviceName a) := by
  rw [devicePathOf_eq]
  exact Cut.cut_behind (by decide) plain

/-- **The tracker reads the address back from the path**, unless it finds `/dev_` before the name
of the device. -/
theorem addressOfPath_devicePathOf {adapter : List Char}
    (plain : Cut.cut "/dev_".toList (adapterPath adapter) = none) (a : UInt64) :
    addressOfPath (devicePathOf adapter a) = some (addressBytes a) := by
  rw [addressOfPath, cut_devicePathOf plain]
  exact parseBdaddr_macText a

/-! ## The six bytes -/

theorem remoteBda_toNat (a : UInt64) {i : UInt64} {k : Nat} (shift : ((5 - i) * 8).toNat % 64 = k) :
    (remoteBda a i).toNat = a.toNat / 2 ^ k % 256 := by
  rw [remoteBda, UInt64.toNat_toUInt8, UInt64.toNat_and, UInt64.toNat_shiftRight, shift,
    Nat.shiftRight_eq_div_pow]
  exact and_mask_toNat _

/-- **The six bytes of an address make the address.** -/
theorem addressUint64_eq {a : UInt64} (fits : a.toNat < 2 ^ 48) {d : ESPBTDevice}
    (bytes : d.address.toList = addressBytes a) : d.addressUint64 = a := by
  have digits : d.addressUint64.toNat =
      Nat.ofDigits 256 ((addressBytes a).map UInt8.toNat) := by
    rw [ESPBTDevice.addressUint64, bytes]
    exact shiftIn_toNat (show 6 ≤ 8 by decide)
  have b0 : (remoteBda a 0).toNat = a.toNat / 2 ^ 40 % 256 := remoteBda_toNat a rfl
  have b1 : (remoteBda a 1).toNat = a.toNat / 2 ^ 32 % 256 := remoteBda_toNat a rfl
  have b2 : (remoteBda a 2).toNat = a.toNat / 2 ^ 24 % 256 := remoteBda_toNat a rfl
  have b3 : (remoteBda a 3).toNat = a.toNat / 2 ^ 16 % 256 := remoteBda_toNat a rfl
  have b4 : (remoteBda a 4).toNat = a.toNat / 2 ^ 8 % 256 := remoteBda_toNat a rfl
  have b5 : (remoteBda a 5).toNat = a.toNat / 2 ^ 0 % 256 := remoteBda_toNat a rfl
  apply UInt64.toNat_inj.mp
  rw [digits]
  simp only [addressBytes, List.map_cons, List.map_nil, Nat.ofDigits_cons, Nat.ofDigits_nil,
    b0, b1, b2, b3, b4, b5]
  omega

/-! ## Clients and devices -/

section Clients

variable {τ : Type} {a b : UInt64} {d : ESPBTDevice}

/-- A client knows the devices of its address. -/
theorem parseDevice_setAddress (c : BLEClientBase τ) (nonzero : a ≠ 0)
    (address : d.addressUint64 = a) : ((c.setAddress b).parseDevice d).1 = true ↔ a = b := by
  have same : (c.setAddress b).address = b := rfl
  rw [BLEClientBase.parseDevice, same, address]
  by_cases zero : b = 0
  · rw [if_pos zero, zero]
    exact iff_of_false Bool.false_ne_true nonzero
  · rw [if_neg zero]
    by_cases other : a ≠ b
    · rw [if_pos other]
      exact iff_of_false Bool.false_ne_true other
    · rw [if_neg other]
      refine iff_of_true ?_ (not_not.mp other)
      split <;> rfl

/-- The device that is reported on the path of an address, in a signal that names no other. -/
theorem onPropertiesChanged_devicePathOf {adapter : List Char}
    (plain : Cut.cut "/dev_".toList (adapterPath adapter) = none) {changed : List Device1Prop}
    (silent : ∀ bd, lastAddress changed = some bd → bd = addressBytes a) :
    ∃ d, onPropertiesChanged DEVICE1 (devicePathOf adapter a) changed = some d ∧
      d.address.toList = addressBytes a := by
  have delivered : onPropertiesChanged DEVICE1 (devicePathOf adapter a) changed =
      some (parseDevice1Props changed (ESPBTDevice.setAddress {} (addressBytes a))).2 := by
    rw [onPropertiesChanged, if_pos rfl, addressOfPath_devicePathOf plain]
    rfl
  refine ⟨_, delivered, ?_⟩
  rw [(parseDevice1Props_address changed _).2]
  cases last : lastAddress changed with
  | none => rfl
  | some bd =>
      rw [silent bd last]
      rfl

/-- **A client sees the device that is reported on its path, and no other client does.** -/
theorem sees_own_device (c : BLEClientBase τ) (nonzero : a ≠ 0) (fits : a.toNat < 2 ^ 48)
    (plain : Cut.cut "/dev_".toList (adapterPath c.adapter) = none) {changed : List Device1Prop}
    (silent : ∀ bd, lastAddress changed = some bd → bd = addressBytes a) :
    (∃ d, onPropertiesChanged DEVICE1 (c.setAddress a).devicePath changed = some d ∧
      d.addressUint64 = a ∧
        ∀ (c' : BLEClientBase τ) b, ((c'.setAddress b).parseDevice d).1 = true ↔ a = b) ∧
      ∀ d : ESPBTDevice, parseBdaddr d.addressStr = some d.address.toList := by
  have path : (c.setAddress a).devicePath = devicePathOf c.adapter a := if_neg nonzero
  obtain ⟨d, delivered, bytes⟩ := onPropertiesChanged_devicePathOf plain silent
  have address := addressUint64_eq fits bytes
  refine ⟨⟨d, path ▸ delivered, address, fun c' b => ?_⟩, parseBdaddr_addressStr⟩
  exact parseDevice_setAddress c' nonzero address

theorem sees_own_device_hci0 :
    ∃ d, onPropertiesChanged DEVICE1
        (BLEClientBase.setAddress { stamp := () } 0xAABBCCDDEEFF).devicePath [.rssi (-60)] =
          some d ∧ d.addressUint64 = 0xAABBCCDDEEFF ∧
        ∀ (c' : BLEClientBase Unit) b,
          ((c'.setAddress b).parseDevice d).1 = true ↔ 0xAABBCCDDEEFF = b :=
  (sees_own_device { stamp := () } (by decide) (by decide) (by decide +kernel)
    (by simp [lastAddress, Device1Prop.address?])).1

/-- An adapter with the name of a device hides the device, and a signal with an address of its own
is about that. -/
theorem not_sees_own_device :
    onPropertiesChanged DEVICE1
        (BLEClientBase.setAddress { stamp := (), adapter := "dev_0".toList }
          0xAABBCCDDEEFF).devicePath [.rssi (-60)] = none ∧
      (onPropertiesChanged DEVICE1
        (BLEClientBase.setAddress { stamp := () } 0xAABBCCDDEEFF).devicePath
          [.address "11:22:33:44:55:66".toList]).map ESPBTDevice.addressUint64 =
            some 0x112233445566 := by
  decide +kernel

end Clients

end EsphomeHost

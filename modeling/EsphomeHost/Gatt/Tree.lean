import EsphomeHost.Client.GattEvent

/-!
# The service tree of a device

The part of `walk_gatt_tree_` that makes no D-Bus call: reading the objects of a `GetManagedObjects`
reply, linking them by their parents' paths, and the synthetic GAP service.

A `Handle`, `UUID` or parent property is decoded with the type BlueZ declares for it.  `handle_map_`
is an association list in the order of insertion; the order in which the source iterates over it is
unspecified.
-/

namespace EsphomeHost

/-! ## Objects -/

/-- The interfaces of an object; only three matter. -/
inductive GattInterface
  | service1
  | characteristic1
  | descriptor1
  | other
deriving DecidableEq

/-- One entry of an interface's property dictionary. -/
inductive GattProp
  | uuid (s : List Char)
  | handle (h : UInt16)
  | service (path : List Char)
  | characteristic (path : List Char)
  | flags (flags : List (List Char))
  | other

/-- An entry of a `GetManagedObjects` reply. -/
structure ManagedObject where
  path : List Char
  interfaces : List (GattInterface × List GattProp)

inductive GattKind
  | service
  | characteristic
  | descriptor
  | other
deriving DecidableEq

/-- `GattObj`. -/
structure GattObj where
  path : List Char
  kind : GattKind := .other
  uuid : ESPBTUUID := ⟨.replicate 16 0, 0⟩
  handle : UInt16 := 0
  hasHandle : Bool := false
  parent : List Char := []
  props : UInt8 := 0

/-- `flag_to_prop`. -/
def flagToProp (flag : List Char) : UInt8 :=
  if flag = "broadcast".toList then 0x01
  else if flag = "read".toList then 0x02
  else if flag = "write-without-response".toList then 0x04
  else if flag = "write".toList then 0x08
  else if flag = "notify".toList then 0x10
  else if flag = "indicate".toList then 0x20
  else if flag = "authenticated-signed-writes".toList then 0x40
  else if flag = "extended-properties".toList then 0x80
  else 0

/-- One round of the loop of `parse_gatt_iface_props`. -/
def gattProp (isChar : Bool) (obj : GattObj) : GattProp → GattObj
  | .uuid s => { obj with uuid := ESPBTUUID.fromUuidStr s }
  | .handle h => { obj with handle := h, hasHandle := true }
  | .service path | .characteristic path => { obj with parent := path }
  | .flags flags =>
      if isChar then
        { obj with props := flags.foldl (fun props flag => props ||| flagToProp flag) obj.props }
      else obj
  | .other => obj

/-- `parse_gatt_iface_props`. -/
def parseGattIfaceProps (kind : GattKind) (props : List GattProp) (obj : GattObj) : GattObj :=
  props.foldl (gattProp (kind = .characteristic)) { obj with kind := kind }

/-- The loop over an object's interfaces. -/
def gattInterface (obj : GattObj) : GattInterface × List GattProp → GattObj
  | (.service1, props) => parseGattIfaceProps .service props obj
  | (.characteristic1, props) => parseGattIfaceProps .characteristic props obj
  | (.descriptor1, props) => parseGattIfaceProps .descriptor props obj
  | (.other, _) => obj

/-- The device's GATT objects in a reply. -/
def gattObjects (devicePath : List Char) (reply : List ManagedObject) : List GattObj :=
  ((reply.filter fun o => (devicePath ++ ['/']) <+: o.path).map fun o =>
    o.interfaces.foldl gattInterface { path := o.path }).filter (·.kind ≠ .other)

/-! ## Linking -/

/-- `ObjEntry`. -/
structure ObjEntry where
  path : List Char
  kind : GattKind
  parentCharHandle : UInt16
deriving DecidableEq

abbrev HandleMap := List (UInt16 × ObjEntry)

/-- `handle_map_[handle] = entry`. -/
def HandleMap.set (m : HandleMap) (handle : UInt16) (entry : ObjEntry) : HandleMap :=
  m.filter (·.1 ≠ handle) ++ [(handle, entry)]

/-- The loop over the descriptors of `c`.  A descriptor without a handle stops the walk. -/
def linkDescriptors (c : GattObj) : List GattObj → HandleMap →
    HandleMap × Option (List DiscoveredDescriptor)
  | [], m => (m, some [])
  | d :: rest, m =>
      if d.kind ≠ .descriptor ∨ d.parent ≠ c.path then linkDescriptors c rest m
      else if d.hasHandle = false then (m, none)
      else
        let r := linkDescriptors c rest (m.set d.handle ⟨d.path, .descriptor, c.handle⟩)
        (r.1, r.2.map (⟨d.uuid, d.handle⟩ :: ·))

/-- The loop over the characteristics of `o`. -/
def linkCharacteristics (objs : List GattObj) (o : GattObj) : List GattObj → HandleMap →
    HandleMap × Option (List DiscoveredCharacteristic)
  | [], m => (m, some [])
  | c :: rest, m =>
      if c.kind ≠ .characteristic ∨ c.parent ≠ o.path then linkCharacteristics objs o rest m
      else if c.hasHandle = false then (m, none)
      else
        match linkDescriptors c objs (m.set c.handle ⟨c.path, .characteristic, c.handle⟩) with
        | (m, none) => (m, none)
        | (m, some descriptors) =>
            let r := linkCharacteristics objs o rest m
            (r.1, r.2.map (⟨c.uuid, c.handle, c.props, descriptors⟩ :: ·))

/-- The loop over the services. -/
def linkServices (objs : List GattObj) : List GattObj → HandleMap →
    HandleMap × Option (List DiscoveredService)
  | [], m => (m, some [])
  | o :: rest, m =>
      if o.kind ≠ .service then linkServices objs rest m
      else
        match linkCharacteristics objs o objs m with
        | (m, none) => (m, none)
        | (m, some characteristics) =>
            let r := linkServices objs rest m
            (r.1, r.2.map (⟨o.uuid, o.handle, o.handle, characteristics⟩ :: ·))

/-! ## The synthetic GAP service -/

def GAP_UUID : UInt16 := 0x1800

/-- BlueZ exported a GAP service of its own. -/
def exportsGap (tree : List DiscoveredService) : Bool :=
  tree.any fun s => s.uuid == ESPBTUUID.fromUint16 GAP_UUID

def gapCharacteristic (handle uuid16 : UInt16) : DiscoveredCharacteristic :=
  ⟨ESPBTUUID.fromUint16 uuid16, handle, 0x02, []⟩

def gapService : DiscoveredService :=
  ⟨ESPBTUUID.fromUint16 GAP_UUID, 0xFF00, 0xFF03,
    [gapCharacteristic 0xFF01 0x2A00, gapCharacteristic 0xFF02 0x2A01,
      gapCharacteristic 0xFF03 0x2AA6]⟩

/-- The values the synthetic characteristics are read as. -/
def gapReads (name : List UInt8) (appearance : UInt16) : List (UInt16 × List UInt8) :=
  [(0xFF01, name), (0xFF02, [LittleEndian.byte16 appearance 0, LittleEndian.byte16 appearance 1]),
    (0xFF03, [0x01])]

/-- The characteristics `acquire_mtu_` asks for their MTU. -/
def HandleMap.characteristicPaths (m : HandleMap) : List (List Char) :=
  (m.filter (·.2.kind = .characteristic)).map (·.2.path)

end EsphomeHost

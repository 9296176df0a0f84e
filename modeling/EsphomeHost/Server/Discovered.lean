import EsphomeHost.Gatt.Routing
import EsphomeHost.Lib.Owned
import EsphomeHost.Server.Tree

/-!
# A server and a client

BlueZ reads the objects that the server exports, and on another host it lists them again as objects
of a device, under paths and with handles of its own and next to objects that it adds.  There the
client walks them.

* `exportedObjects`: the objects of the server, as the getters of its vtables answer for them.
* `Relay` and `Listed`: what is relied on of BlueZ.
* `discovers_exported`: **the client discovers every service, characteristic and descriptor of the
  server once, below its owner and with its UUID and properties, and besides what BlueZ adds and the
  GAP service that the client makes up**.
-/

namespace EsphomeHost

open Owned

/-! ## The objects of the server -/

namespace BLEGattServer

variable {κ : Type}

def PROPERTY_READ : UInt32 := 0x01
def PROPERTY_WRITE : UInt32 := 0x02
def PROPERTY_NOTIFY : UInt32 := 0x04
def PROPERTY_BROADCAST : UInt32 := 0x08
def PROPERTY_INDICATE : UInt32 := 0x10
def PROPERTY_WRITE_NR : UInt32 := 0x20

/-- `chr_get_flags_`. -/
def chrGetFlags (properties : UInt32) : List (List Char) :=
  (if properties &&& PROPERTY_BROADCAST ≠ 0 then ["broadcast".toList] else []) ++
    (if properties &&& PROPERTY_READ ≠ 0 then ["read".toList] else []) ++
    (if properties &&& PROPERTY_WRITE_NR ≠ 0 then ["write-without-response".toList] else []) ++
    (if properties &&& PROPERTY_WRITE ≠ 0 then ["write".toList] else []) ++
    (if properties &&& PROPERTY_NOTIFY ≠ 0 then ["notify".toList] else []) ++
    (if properties &&& PROPERTY_INDICATE ≠ 0 then ["indicate".toList] else [])

/-- `Primary` is of no interest to a client. -/
def serviceObject (es : ExportedService κ) : ManagedObject :=
  ⟨es.path, [(.service1, [.uuid es.uuidStr, .other])]⟩

/-- `Value` and `Notifying` are of no interest to a client. -/
def charObject (ec : ExportedChar κ) : ManagedObject :=
  ⟨ec.path, [(.characteristic1, [.uuid ec.uuidStr, .service ec.servicePath,
    .flags (chrGetFlags ec.properties), .other, .other])]⟩

/-- The client does not look at the `Flags` of a descriptor either. -/
def descObject (ed : ExportedDesc) : ManagedObject :=
  ⟨ed.path, [(.descriptor1, [.uuid ed.uuidStr, .characteristic ed.charPath, .other, .other])]⟩

/-- What the object manager of the server lists. -/
def exportedObjects (s : BLEGattServer κ) : List ManagedObject :=
  s.services.map serviceObject ++ s.chars.map charObject ++ s.descs.map descObject

/-- The bits of the GATT properties for the properties of a characteristic. -/
def gattProperties (properties : UInt32) : UInt8 :=
  (if properties &&& PROPERTY_BROADCAST ≠ 0 then 0x01 else 0) |||
    (if properties &&& PROPERTY_READ ≠ 0 then 0x02 else 0) |||
    (if properties &&& PROPERTY_WRITE_NR ≠ 0 then 0x04 else 0) |||
    (if properties &&& PROPERTY_WRITE ≠ 0 then 0x08 else 0) |||
    (if properties &&& PROPERTY_NOTIFY ≠ 0 then 0x10 else 0) |||
    (if properties &&& PROPERTY_INDICATE ≠ 0 then 0x20 else 0)

theorem foldl_flag (listed : Prop) [Decidable listed] (flag : List Char) (bits : UInt8) :
    (if listed then [flag] else []).foldl (fun bits flag => bits ||| flagToProp flag) bits =
      bits ||| if listed then flagToProp flag else 0 := by
  split
  · rfl
  · exact (UInt8.or_zero).symm

/-- The flags are read as the bits they were made from. -/
theorem foldl_chrGetFlags (properties : UInt32) :
    (chrGetFlags properties).foldl (fun bits flag => bits ||| flagToProp flag) 0 =
      gattProperties properties := by
  unfold chrGetFlags gattProperties
  simp only [List.foldl_append, foldl_flag, UInt8.zero_or]
  rfl

variable (es : ExportedService κ) (ec : ExportedChar κ) (ed : ExportedDesc)

@[simp] theorem serviceObject_kind : (serviceObject es).kind = .service := rfl
@[simp] theorem charObject_kind : (charObject ec).kind = .characteristic := rfl
@[simp] theorem descObject_kind : (descObject ed).kind = .descriptor := rfl

theorem serviceObject_uuid : (serviceObject es).uuid = .fromUuidStr es.uuidStr := rfl
theorem charObject_uuid : (charObject ec).uuid = .fromUuidStr ec.uuidStr := rfl
theorem descObject_uuid : (descObject ed).uuid = .fromUuidStr ed.uuidStr := rfl

theorem charObject_flags :
    characteristicFlags (charObject ec).interfaces = chrGetFlags ec.properties := by
  simp [characteristicFlags, charObject, GattProp.flags?]

end BLEGattServer

/-! ## The rows of a tree -/

/-- A tree without its nesting: every attribute with the handle of the one it belongs to. -/
def serviceRows (tree : List DiscoveredService) : List (UInt16 × ESPBTUUID) :=
  tree.map fun s => (s.startHandle, s.uuid)

def characteristicRows (tree : List DiscoveredService) :
    List (UInt16 × UInt16 × ESPBTUUID × UInt8) :=
  tree.flatMap fun s => s.characteristics.map fun c =>
    (s.startHandle, c.handle, c.uuid, c.properties)

def descriptorRows (tree : List DiscoveredService) : List (UInt16 × UInt16 × ESPBTUUID) :=
  (tree.flatMap (·.characteristics)).flatMap fun c =>
    c.descriptors.map fun d => (c.handle, d.handle, d.uuid)

namespace ManagedObject

/-- The handle that is emitted for an object. -/
def emitted (o : ManagedObject) : UInt16 := o.handle?.getD 0

def serviceRow (s : ManagedObject) : UInt16 × ESPBTUUID := (s.emitted, s.uuid)

def characteristicRow (sc : ManagedObject × ManagedObject) : UInt16 × UInt16 × ESPBTUUID × UInt8 :=
  (sc.1.emitted, sc.2.emitted, sc.2.uuid, sc.2.flagBits)

def descriptorRow (cd : ManagedObject × ManagedObject) : UInt16 × UInt16 × ESPBTUUID :=
  (cd.1.emitted, cd.2.emitted, cd.2.uuid)

end ManagedObject

section Rows

open ManagedObject

/-- The objects of one kind. -/
def ofKind (kind : GattKind) (objects : List ManagedObject) : List ManagedObject :=
  objects.filter (·.kind = kind)

/-- Parents with their children. -/
def linked (parents children : List ManagedObject) : List (ManagedObject × ManagedObject) :=
  pairs ManagedObject.path ManagedObject.parent? parents children

/-- The characteristics that belong to a service. -/
def characteristicsIn (objects : List ManagedObject) : List (ManagedObject × ManagedObject) :=
  linked (ofKind .service objects) (ofKind .characteristic objects)

/-- The descriptors that belong to such a characteristic. -/
def descriptorsIn (objects : List ManagedObject) : List (ManagedObject × ManagedObject) :=
  linked ((characteristicsIn objects).map Prod.snd) (ofKind .descriptor objects)

variable (devicePath : List Char) (reply : List ManagedObject)

/-- What the walk looks at. -/
def deviceObjects : List ManagedObject :=
  reply.filter fun o => (devicePath ++ ['/']) <+: o.path ∧ o.kind ≠ .other

variable {devicePath reply}

theorem ofKind_deviceObjects {kind : GattKind} (gatt : kind ≠ .other) :
    ofKind kind (deviceObjects devicePath reply) =
      reply.filter fun o => (devicePath ++ ['/']) <+: o.path ∧ o.kind = kind := by
  rw [ofKind, deviceObjects, List.filter_filter]
  refine List.filter_congr fun o _ => ?_
  rw [← Bool.decide_and, decide_eq_decide]
  constructor
  · rintro ⟨same, under, -⟩
    exact ⟨under, same⟩
  · rintro ⟨under, same⟩
    exact ⟨same, under, fun other => gatt (same.symm.trans other)⟩

theorem replyServices_eq :
    replyServices devicePath reply = ofKind .service (deviceObjects devicePath reply) :=
  have gatt : GattKind.service ≠ .other := nofun
  (ofKind_deviceObjects gatt).symm

theorem filter_owned {kind : GattKind} (gatt : kind ≠ .other) (p : ManagedObject) :
    (reply.filter fun o =>
        (devicePath ++ ['/']) <+: o.path ∧ o.kind = kind ∧ o.parent? = some p.path) =
      (ofKind kind (deviceObjects devicePath reply)).filter (·.parent? = some p.path) := by
  rw [ofKind_deviceObjects gatt, List.filter_filter]
  refine List.filter_congr fun o _ => ?_
  rw [← Bool.decide_and, decide_eq_decide]
  constructor
  · rintro ⟨under, same, own⟩
    exact ⟨own, under, same⟩
  · rintro ⟨own, under, same⟩
    exact ⟨under, same, own⟩

theorem replyCharacteristics_eq (s : ManagedObject) : replyCharacteristics devicePath reply s =
    (ofKind .characteristic (deviceObjects devicePath reply)).filter (·.parent? = some s.path) :=
  have gatt : GattKind.characteristic ≠ .other := nofun
  filter_owned gatt s

theorem replyDescriptors_eq (c : ManagedObject) : replyDescriptors devicePath reply c =
    (ofKind .descriptor (deviceObjects devicePath reply)).filter (·.parent? = some c.path) :=
  have gatt : GattKind.descriptor ≠ .other := nofun
  filter_owned gatt c

theorem serviceRows_described : serviceRows (describedServices devicePath reply) =
    (ofKind .service (deviceObjects devicePath reply)).map serviceRow := by
  rw [serviceRows, describedServices, replyServices_eq, List.map_map]
  rfl

theorem characteristicRows_described : characteristicRows (describedServices devicePath reply) =
    (characteristicsIn (deviceObjects devicePath reply)).map characteristicRow := by
  rw [characteristicRows, describedServices, replyServices_eq, List.flatMap_map,
    characteristicsIn, linked, pairs, List.map_flatMap]
  refine List.flatMap_congr fun s _ => ?_
  rw [describedService, replyCharacteristics_eq, List.map_map, List.map_map]
  rfl

theorem descriptorRows_described : descriptorRows (describedServices devicePath reply) =
    (descriptorsIn (deviceObjects devicePath reply)).map descriptorRow := by
  have members : (describedServices devicePath reply).flatMap (·.characteristics) =
      ((characteristicsIn (deviceObjects devicePath reply)).map Prod.snd).map
        (describedCharacteristic devicePath reply) := by
    rw [describedServices, replyServices_eq, List.flatMap_map, characteristicsIn, linked, pairs,
      List.map_flatMap, List.map_flatMap]
    refine List.flatMap_congr fun s _ => ?_
    rw [describedService, replyCharacteristics_eq, List.map_map, List.map_map]
    rfl
  rw [descriptorRows, members, List.flatMap_map, descriptorsIn, linked, pairs, List.map_flatMap]
  refine List.flatMap_congr fun c _ => ?_
  rw [describedCharacteristic, replyDescriptors_eq, List.map_map, List.map_map]
  rfl

end Rows

/-! ## Two hosts -/

/-- What BlueZ makes of the objects a server exports when it lists them as objects of a device: it
gives each a path of its own below that of the device, and a handle. -/
structure Relay (devicePath : List Char) (objects : List ManagedObject) where
  path : List Char → List Char
  object : ManagedObject → ManagedObject
  placed : ∀ o ∈ objects, (object o).path = path o.path
  below : ∀ o ∈ objects, (devicePath ++ ['/']) <+: path o.path
  distinct : (objects.map fun o => path o.path).Nodup
  kind : ∀ o ∈ objects, (object o).kind = o.kind
  uuid : ∀ o ∈ objects, (object o).uuid = o.uuid
  parent : ∀ o ∈ objects, (object o).parent? = o.parent?.map path
  flags : ∀ o ∈ objects,
    (characteristicFlags (object o).interfaces).Perm (characteristicFlags o.interfaces)
  known : ∀ o ∈ objects, (object o).handle?.isSome

/-- The handle that an object of the server gets. -/
def Relay.handle {devicePath : List Char} {objects : List ManagedObject}
    (r : Relay devicePath objects) (o : ManagedObject) : UInt16 := (r.object o).emitted

/-- A reply lists what was relayed, and objects that BlueZ adds.  To a service that was relayed it
adds no characteristics; to its characteristics it adds descriptors, such as the CCCD. -/
structure Listed {devicePath : List Char} {objects : List ManagedObject}
    (r : Relay devicePath objects) (added reply : List ManagedObject) : Prop where
  all : (deviceObjects devicePath reply).Perm
    (objects.map r.object ++ deviceObjects devicePath added)
  fresh : ∀ a ∈ added, a.path ∉ objects.map fun o => r.path o.path
  apart : ∀ a ∈ added, a.kind = .characteristic →
    ∀ o ∈ objects, a.parent? ≠ some (r.path o.path)
  known : ∀ a ∈ added, a.handle?.isSome

namespace BLEGattServer

variable {κ : Type} {devicePath : List Char}

/-- The services of a table, as a client should see them. -/
def tableServiceRows (t : GattTable κ) (handle : ManagedObject → UInt16) :
    List (UInt16 × ESPBTUUID) :=
  (serviceNodes t.services 0).map fun e => (handle (serviceObject e), e.svc.uuid.as128bit)

def tableCharacteristicRows (t : GattTable κ) (handle : ManagedObject → UInt16) :
    List (UInt16 × UInt16 × ESPBTUUID × UInt8) :=
  (serviceNodes t.services 0).flatMap fun e => (charsBelow e).map fun n =>
    (handle (serviceObject e), handle (charObject n), n.chr.uuid.as128bit,
      gattProperties n.chr.properties)

def tableDescriptorRows (t : GattTable κ) (handle : ManagedObject → UInt16) :
    List (UInt16 × UInt16 × ESPBTUUID) :=
  (tableNodes t).flatMap fun n => (descsBelow n).map fun d =>
    (handle (charObject n), handle (descObject d), d.desc.uuid.as128bit)

/-- The descriptors that BlueZ has added to a characteristic of the table. -/
def addedDescriptorRows (t : GattTable κ) (handle : ManagedObject → UInt16)
    (path : List Char → List Char) (added : List ManagedObject) :
    List (UInt16 × UInt16 × ESPBTUUID) :=
  (tableNodes t).flatMap fun n =>
    ((ofKind .descriptor added).filter (·.parent? = some (path n.path))).map fun d =>
      (handle (charObject n), d.emitted, d.uuid)

/-- The objects of the tree of a table. -/
def tableObjects (t : GattTable κ) : List ManagedObject :=
  (serviceNodes t.services 0).map serviceObject ++ (tableNodes t).map charObject ++
    ((tableNodes t).flatMap descsBelow).map descObject

/-- They are exported, and notifications do not change them. -/
theorem exportedObjects_run [DecidableEq κ] (t : GattTable κ) (actions : List (Action κ)) :
    exportedObjects ((start t.services {}).run actions) = tableObjects t := by
  have begin : Follows (start t.services {}) {} (start t.services {}) := by
    rw [start_eq]
    rfl
  have follows := begin.run (handed_start t) actions
  obtain ⟨services, chars, descs, -, -⟩ := by
    simpa only [Follows, gattPart, Prod.mk.injEq] using follows
  have blind (calls : List (κ × List UInt8)) (nodes : List (ExportedChar κ)) :
      (calls.foldl setValue nodes).map charObject = nodes.map charObject := by
    induction calls generalizing nodes with
    | nil => rfl
    | cons call calls ih =>
        rw [List.foldl_cons, ih]
        exact map_setValue charObject (fun _ _ => rfl) nodes call
  rw [exportedObjects, services, chars, descs, blind, start_eq]
  rfl

theorem ofKind_append (kind : GattKind) (l l' : List ManagedObject) :
    ofKind kind (l ++ l') = ofKind kind l ++ ofKind kind l' := List.filter_append ..

theorem ofKind_map {α : Type} (kind : GattKind) (object : α → ManagedObject) (l : List α)
    {made : GattKind} (same : ∀ a ∈ l, (object a).kind = made) :
    ofKind kind (l.map object) = if made = kind then l.map object else [] := by
  have each : ∀ o ∈ l.map object, o.kind = made := List.forall_mem_map.mpr same
  split
  · next is => exact List.filter_eq_self.mpr fun o mem => decide_eq_true ((each o mem).trans is)
  · next isNot =>
      refine List.filter_eq_nil_iff.mpr fun o mem => ?_
      simpa [each o mem] using isNot

section Discover

variable (t : GattTable κ) (r : Relay devicePath (tableObjects t))

theorem ofKind_tableObjects : ofKind .service (tableObjects t) =
      (serviceNodes t.services 0).map serviceObject ∧
    ofKind .characteristic (tableObjects t) = (tableNodes t).map charObject ∧
    ofKind .descriptor (tableObjects t) = ((tableNodes t).flatMap descsBelow).map descObject := by
  have services (kind : GattKind) := ofKind_map kind serviceObject (serviceNodes t.services 0)
    fun e _ => serviceObject_kind e
  have chars (kind : GattKind) := ofKind_map kind charObject (tableNodes t)
    fun n _ => charObject_kind n
  have descs (kind : GattKind) := ofKind_map kind descObject ((tableNodes t).flatMap descsBelow)
    fun d _ => descObject_kind d
  simp [tableObjects, ofKind_append, services, chars, descs]

variable {t}

theorem ofKind_relayed (kind : GattKind) : ofKind kind ((tableObjects t).map r.object) =
    (ofKind kind (tableObjects t)).map r.object := by
  rw [ofKind, List.filter_map, ofKind]
  exact congrArg _ (List.filter_congr fun o mem => by rw [Function.comp_apply, r.kind o mem])

theorem mem_service {e : ExportedService κ} (mem : e ∈ serviceNodes t.services 0) :
    serviceObject e ∈ tableObjects t :=
  List.mem_append_left _ (List.mem_append_left _ (List.mem_map_of_mem mem))

theorem mem_char {n : ExportedChar κ} (mem : n ∈ tableNodes t) : charObject n ∈ tableObjects t :=
  List.mem_append_left _ (List.mem_append_right _ (List.mem_map_of_mem mem))

theorem mem_desc {d : ExportedDesc} (mem : d ∈ (tableNodes t).flatMap descsBelow) :
    descObject d ∈ tableObjects t :=
  List.mem_append_right _ (List.mem_map_of_mem mem)

theorem mem_tableNodes {e : ExportedService κ} (mem : e ∈ serviceNodes t.services 0)
    {n : ExportedChar κ} (child : n ∈ charsBelow e) : n ∈ tableNodes t :=
  List.mem_flatMap.mpr ⟨e, mem, child⟩

theorem charsBelow_servicePath {e : ExportedService κ} {n : ExportedChar κ}
    (child : n ∈ charsBelow e) : n.servicePath = e.path := by
  obtain ⟨c, -, rfl⟩ := List.mem_map.mp child
  rfl

theorem descsBelow_charPath {n : ExportedChar κ} {d : ExportedDesc} (child : d ∈ descsBelow n) :
    d.charPath = n.path := by
  obtain ⟨c, -, rfl⟩ := List.mem_map.mp child
  rfl

/-- An object of the server names another one as its owner. -/
theorem owner_exported {o : ManagedObject} (mem : o ∈ tableObjects t) {q : List Char}
    (owned : o.parent? = some q) : ∃ p ∈ tableObjects t, p.path = q := by
  rcases List.mem_append.mp mem with upper | desc
  · rcases List.mem_append.mp upper with service | char
    · obtain ⟨e, -, rfl⟩ := List.mem_map.mp service
      cases owned
    · obtain ⟨n, listed, rfl⟩ := List.mem_map.mp char
      obtain ⟨e, node, child⟩ := List.mem_flatMap.mp listed
      obtain rfl := Option.some.inj owned
      exact ⟨_, mem_service node, (charsBelow_servicePath child).symm⟩
  · obtain ⟨d, listed, rfl⟩ := List.mem_map.mp desc
    obtain ⟨n, node, child⟩ := List.mem_flatMap.mp listed
    obtain rfl := Option.some.inj owned
    exact ⟨_, mem_char node, (descsBelow_charPath child).symm⟩

/-! ### What the nodes become -/

theorem serviceNodes_uuid {e : ExportedService κ} (mem : e ∈ serviceNodes t.services 0) :
    (r.object (serviceObject e)).uuid = e.svc.uuid.as128bit := by
  rw [r.uuid _ (mem_service mem), serviceObject_uuid]
  obtain ⟨s, -, rfl⟩ := List.mem_map.mp mem
  rw [uuidToBluezStr_eq, ESPBTUUID.fromUuidStr_toStr]

theorem tableNodes_uuid {n : ExportedChar κ} (mem : n ∈ tableNodes t) :
    (r.object (charObject n)).uuid = n.chr.uuid.as128bit := by
  rw [r.uuid _ (mem_char mem), charObject_uuid]
  obtain ⟨e, -, child⟩ := List.mem_flatMap.mp mem
  obtain ⟨c, -, rfl⟩ := List.mem_map.mp child
  rw [uuidToBluezStr_eq, ESPBTUUID.fromUuidStr_toStr]

theorem descsBelow_uuid {d : ExportedDesc} (mem : d ∈ (tableNodes t).flatMap descsBelow) :
    (r.object (descObject d)).uuid = d.desc.uuid.as128bit := by
  rw [r.uuid _ (mem_desc mem), descObject_uuid]
  obtain ⟨n, -, child⟩ := List.mem_flatMap.mp mem
  obtain ⟨c, -, rfl⟩ := List.mem_map.mp child
  rw [uuidToBluezStr_eq, ESPBTUUID.fromUuidStr_toStr]

theorem tableNodes_flagBits {n : ExportedChar κ} (mem : n ∈ tableNodes t) :
    (r.object (charObject n)).flagBits = gattProperties n.chr.properties := by
  have same := r.flags _ (mem_char mem)
  rw [charObject_flags] at same
  have properties : n.properties = n.chr.properties := by
    obtain ⟨e, -, child⟩ := List.mem_flatMap.mp mem
    obtain ⟨c, -, rfl⟩ := List.mem_map.mp child
    rfl
  rw [ManagedObject.flagBits, ← properties, ← foldl_chrGetFlags]
  exact same.foldl_eq' (fun a _ b _ bits => by rw [UInt8.or_assoc, UInt8.or_comm (flagToProp _),
    ← UInt8.or_assoc]) 0

/-! ### How they are linked -/

theorem path_nodup {α : Type} {object : α → ManagedObject} {nodes : List α}
    (part : (nodes.map object).Sublist (tableObjects t)) :
    (nodes.map fun a => r.path (object a).path).Nodup := by
  have sub := part.map fun o => r.path o.path
  rw [List.map_map] at sub
  exact r.distinct.sublist sub

/-- The relayed characteristics belong to the relayed services. -/
theorem characteristicsIn_relayed : characteristicsIn ((tableObjects t).map r.object) =
    (serviceNodes t.services 0).flatMap fun e => (charsBelow e).map fun n =>
      (r.object (serviceObject e), r.object (charObject n)) := by
  obtain ⟨services, chars, -⟩ := ofKind_tableObjects t
  have part : ((serviceNodes t.services 0).map serviceObject).Sublist (tableObjects t) :=
    (List.sublist_append_left _ _).trans (List.sublist_append_left _ _)
  have distinct : ((serviceNodes t.services 0).map fun e => r.path e.path).Nodup :=
    path_nodup r part
  rw [characteristicsIn, ofKind_relayed, ofKind_relayed, services, chars, List.map_map,
    List.map_map, linked, pairs_map]
  simp only [Function.comp_apply]
  rw [pairs_congr (fun e => r.path e.path) (fun n => some (r.path n.servicePath))
    (fun e mem => r.placed _ (mem_service mem)) (fun n mem => r.parent _ (mem_char mem)),
    tableNodes, pairs_flatMap distinct, List.map_flatMap]
  · simp only [List.map_map]
    rfl
  · intro e _ n child
    rw [charsBelow_servicePath child]

/-- The relayed descriptors belong to the relayed characteristics. -/
theorem descriptors_relayed :
    linked ((tableNodes t).map (r.object ∘ charObject))
        (ofKind .descriptor ((tableObjects t).map r.object)) =
      (tableNodes t).flatMap fun n => (descsBelow n).map fun d =>
        (r.object (charObject n), r.object (descObject d)) := by
  obtain ⟨-, -, descs⟩ := ofKind_tableObjects t
  have part : ((tableNodes t).map charObject).Sublist (tableObjects t) :=
    (List.sublist_append_right _ _).trans (List.sublist_append_left _ _)
  have distinct : ((tableNodes t).map fun n => r.path n.path).Nodup := path_nodup r part
  rw [ofKind_relayed, descs, List.map_map, linked, pairs_map]
  simp only [Function.comp_apply]
  rw [pairs_congr (fun n => r.path n.path) (fun d => some (r.path d.charPath))
    (fun n mem => r.placed _ (mem_char mem)) (fun d mem => r.parent _ (mem_desc mem)),
    pairs_flatMap distinct, List.map_flatMap]
  · simp only [List.map_map]
    rfl
  · intro n _ d child
    rw [descsBelow_charPath child]

theorem map_snd_characteristicsIn :
    (characteristicsIn ((tableObjects t).map r.object)).map Prod.snd =
      (tableNodes t).map (r.object ∘ charObject) := by
  rw [characteristicsIn_relayed, tableNodes, List.map_flatMap, List.map_flatMap]
  simp only [List.map_map]
  rfl

/-! ### Next to what BlueZ adds -/

section Reply

variable {r} {added reply : List ManagedObject}

/-- What was relayed does not belong to what is added. -/
theorem foreign_added (listed : Listed r added reply) (kind kind' : GattKind) :
    Foreign ManagedObject.path ManagedObject.parent? (ofKind kind (deviceObjects devicePath added))
      (ofKind kind' ((tableObjects t).map r.object)) := by
  intro a mem c child owned
  obtain ⟨there, -⟩ := List.mem_filter.mp (List.mem_filter.mp mem).1
  obtain ⟨o, exported, rfl⟩ := List.mem_map.mp (List.mem_filter.mp child).1
  rw [r.parent o exported, Option.map_eq_some_iff] at owned
  obtain ⟨q, names, same⟩ := owned
  obtain ⟨p, listed', rfl⟩ := owner_exported exported names
  exact listed.fresh a there (same ▸ List.mem_map_of_mem listed')

/-- What is added as a characteristic does not belong to what was relayed. -/
theorem foreign_relayed (listed : Listed r added reply) (kind : GattKind) :
    Foreign ManagedObject.path ManagedObject.parent? (ofKind kind ((tableObjects t).map r.object))
      (ofKind .characteristic (deviceObjects devicePath added)) := by
  intro p mem a child owned
  obtain ⟨o, exported, rfl⟩ := List.mem_map.mp (List.mem_filter.mp mem).1
  obtain ⟨inside, isChar⟩ := List.mem_filter.mp child
  rw [r.placed o exported] at owned
  exact listed.apart a (List.mem_filter.mp inside).1 (of_decide_eq_true isChar) o exported owned

theorem characteristicsIn_listed (listed : Listed r added reply) :
    (characteristicsIn (deviceObjects devicePath reply)).Perm
      (characteristicsIn ((tableObjects t).map r.object) ++
        characteristicsIn (deviceObjects devicePath added)) := by
  refine (pairs_perm (listed.all.filter _) (listed.all.filter _)).trans ?_
  rw [List.filter_append, List.filter_append]
  exact pairs_apart (foreign_relayed listed .service)
    (foreign_added listed .service .characteristic)

/-- Descriptors come with what was relayed, are added to it, or come with what is added. -/
theorem descriptorsIn_listed (listed : Listed r added reply) :
    (descriptorsIn (deviceObjects devicePath reply)).Perm
      (linked ((tableNodes t).map (r.object ∘ charObject))
          (ofKind .descriptor ((tableObjects t).map r.object)) ++
        linked ((tableNodes t).map (r.object ∘ charObject))
          (ofKind .descriptor (deviceObjects devicePath added)) ++
        descriptorsIn (deviceObjects devicePath added)) := by
  have members := (characteristicsIn_listed listed).map Prod.snd
  rw [List.map_append, map_snd_characteristicsIn] at members
  refine (pairs_perm members (listed.all.filter _)).trans ?_
  rw [List.filter_append, pairs_append_left]
  refine List.Perm.append pairs_append_right ?_
  refine pairs_append_right.trans ?_
  have none : pairs ManagedObject.path ManagedObject.parent?
      ((characteristicsIn (deviceObjects devicePath added)).map Prod.snd)
      (ofKind .descriptor ((tableObjects t).map r.object)) = [] := by
    refine pairs_foreign fun a mem => ?_
    obtain ⟨sc, linked, rfl⟩ := List.mem_map.mp mem
    obtain ⟨s, -, linked⟩ := List.mem_flatMap.mp linked
    obtain ⟨c, child, rfl⟩ := List.mem_map.mp linked
    exact foreign_added listed .characteristic .descriptor c (List.mem_filter.mp child).1
  rw [show List.filter _ _ = ofKind .descriptor ((tableObjects t).map r.object) from rfl, none,
    List.nil_append]
  exact List.Perm.refl _

/-! ### The rows -/

theorem serviceRows_listed (listed : Listed r added reply) :
    (serviceRows (describedServices devicePath reply)).Perm
      (tableServiceRows t r.handle ++ serviceRows (describedServices devicePath added)) := by
  obtain ⟨services, -, -⟩ := ofKind_tableObjects t
  have all := listed.all.filter (·.kind = .service)
  rw [List.filter_append] at all
  rw [serviceRows_described, serviceRows_described]
  refine (all.map ManagedObject.serviceRow).trans (List.Perm.of_eq ?_)
  rw [List.map_append]
  refine congrArg (· ++ _) ?_
  show (ofKind .service ((tableObjects t).map r.object)).map _ = _
  rw [ofKind_relayed, services, List.map_map, List.map_map, tableServiceRows]
  refine List.map_congr_left fun e mem => ?_
  exact congrArg (r.handle (serviceObject e), ·) (serviceNodes_uuid r mem)

theorem characteristicRows_listed (listed : Listed r added reply) :
    (characteristicRows (describedServices devicePath reply)).Perm
      (tableCharacteristicRows t r.handle ++
        characteristicRows (describedServices devicePath added)) := by
  rw [characteristicRows_described, characteristicRows_described]
  refine ((characteristicsIn_listed listed).map _).trans (List.Perm.of_eq ?_)
  rw [List.map_append]
  refine congrArg (· ++ _) ?_
  rw [characteristicsIn_relayed, tableCharacteristicRows, List.map_flatMap]
  refine List.flatMap_congr fun e mem => ?_
  rw [List.map_map]
  refine List.map_congr_left fun n child => ?_
  have node := mem_tableNodes mem child
  rw [Function.comp_apply, ManagedObject.characteristicRow, tableNodes_uuid r node,
    tableNodes_flagBits r node]
  rfl

theorem descriptorRows_listed (listed : Listed r added reply) :
    (descriptorRows (describedServices devicePath reply)).Perm
      (tableDescriptorRows t r.handle ++
        addedDescriptorRows t r.handle r.path (deviceObjects devicePath added) ++
        descriptorRows (describedServices devicePath added)) := by
  rw [descriptorRows_described, descriptorRows_described]
  refine ((descriptorsIn_listed listed).map _).trans (List.Perm.of_eq ?_)
  rw [List.map_append, List.map_append]
  refine congrArg (· ++ _) ?_
  refine congrArg₂ (· ++ ·) ?_ ?_
  · rw [descriptors_relayed, tableDescriptorRows, List.map_flatMap]
    refine List.flatMap_congr fun n mem => ?_
    rw [List.map_map]
    refine List.map_congr_left fun d child => ?_
    rw [Function.comp_apply, ManagedObject.descriptorRow,
      descsBelow_uuid r (List.mem_flatMap.mpr ⟨n, mem, child⟩)]
    rfl
  · rw [linked, pairs, List.flatMap_map, List.map_flatMap, addedDescriptorRows]
    refine List.flatMap_congr fun n mem => ?_
    rw [List.map_map, Function.comp_apply, r.placed _ (mem_char mem)]
    rfl

/-- BlueZ prints 128-bit UUIDs, so no relayed service is taken for the GAP service. -/
theorem exportsGap_listed (listed : Listed r added reply) :
    exportsGap (describedServices devicePath reply) =
      exportsGap (describedServices devicePath added) := by
  have rows (tree : List DiscoveredService) : exportsGap tree =
      (serviceRows tree).any fun row => row.2 == ESPBTUUID.fromUint16 GAP_UUID := by
    rw [serviceRows, List.any_map]
    rfl
  have long : ((tableServiceRows t r.handle).any
      fun row => row.2 == ESPBTUUID.fromUint16 GAP_UUID) = false := by
    rw [List.any_eq_false]
    intro row mem
    obtain ⟨e, -, rfl⟩ := List.mem_map.mp mem
    rw [ESPBTUUID.beq_of_len_ne (by simp)]
    exact Bool.false_ne_true
  rw [rows, rows, (serviceRows_listed listed).any_eq, List.any_append, long, Bool.false_or]

theorem known_listed (listed : Listed r added reply) : ¬ LacksHandle devicePath reply := by
  have known {o : ManagedObject} (mem : o ∈ replyAttributes devicePath reply) :
      o.handle? ≠ none := by
    obtain ⟨there, under, kinds⟩ : o ∈ reply ∧ (devicePath ++ ['/']) <+: o.path ∧
        (o.kind = .characteristic ∨ o.kind = .descriptor) := by
      simpa [replyAttributes] using mem
    have gatt : o.kind ≠ .other := by
      rcases kinds with kind | kind <;> simp [kind]
    have device : o ∈ deviceObjects devicePath reply :=
      List.mem_filter.mpr ⟨there, decide_eq_true ⟨under, gatt⟩⟩
    rcases List.mem_append.mp (listed.all.mem_iff.mp device) with relayed | new
    · obtain ⟨p, exported, rfl⟩ := List.mem_map.mp relayed
      exact Option.isSome_iff_ne_none.mp (r.known p exported)
    · exact Option.isSome_iff_ne_none.mp (listed.known o (List.mem_filter.mp new).1)
  rintro ⟨s, -, c, child, lacks | ⟨d, grandchild, lacks⟩⟩
  · exact known (attribute_of_characteristic child).1 lacks
  · exact known (attribute_of_descriptor grandchild).1 lacks

end Reply

end Discover

/-- A client's tree has the rows of the table under the handles that BlueZ gave, besides them those
of the other services, and the descriptors that BlueZ added to characteristics of the table. -/
structure Discovers (t : GattTable κ) (handle : ManagedObject → UInt16)
    (path : List Char → List Char) (added : List ManagedObject)
    (others tree : List DiscoveredService) : Prop where
  services : (serviceRows tree).Perm (tableServiceRows t handle ++ serviceRows others)
  characteristics : (characteristicRows tree).Perm
    (tableCharacteristicRows t handle ++ characteristicRows others)
  descriptors : (descriptorRows tree).Perm
    (tableDescriptorRows t handle ++ addedDescriptorRows t handle path added ++
      descriptorRows others)

variable [DecidableEq κ]

/-- **What a server exports is what a client discovers**, whatever was notified before and in
whatever order BlueZ lists its objects.  The other services are those a client would see if BlueZ
listed the added objects alone: the services among them and, if none is the 16-bit 0x1800, the
synthetic GAP service. -/
theorem discovers_exported (t : GattTable κ) (actions : List (Action κ)) {w : Worker}
    (isOpen : w.busOpen = true)
    (r : Relay w.devicePath (exportedObjects ((start t.services {}).run actions)))
    {added reply : List ManagedObject} (listed : Listed r added reply)
    (name otherName appearance : Reply) :
    ∃ w' tree, w.walkGattTree (.objects reply) name otherName appearance = (w', some tree) ∧
      Discovers t r.handle r.path (deviceObjects w.devicePath added)
        (emittedTree w.devicePath added) tree := by
  have same := exportedObjects_run t actions
  generalize exportedObjects _ = objects at r listed same
  subst same
  refine ⟨_, _, Worker.walkGattTree_eq isOpen (known_listed listed) name otherName appearance, ?_⟩
  unfold emittedTree
  rw [exportsGap_listed listed]
  generalize (if exportsGap _ then [] else [gapService]) = gap
  constructor
  · rw [serviceRows, List.map_append, serviceRows, List.map_append, ← List.append_assoc]
    exact (serviceRows_listed listed).append_right _
  · rw [characteristicRows, List.flatMap_append, characteristicRows, List.flatMap_append,
      ← List.append_assoc]
    exact (characteristicRows_listed listed).append_right _
  · rw [descriptorRows, List.flatMap_append, List.flatMap_append, descriptorRows,
      List.flatMap_append, List.flatMap_append, ← List.append_assoc]
    exact (descriptorRows_listed listed).append_right _

/-! ### A battery service -/

/-- Its characteristic can be read and notifies, and has a description. -/
def batteryTable : GattTable Nat where
  services := [⟨.fromUint16 0x180F, [⟨0, .fromUint16 0x2A19, PROPERTY_READ ||| PROPERTY_NOTIFY,
    [100], [⟨.fromUint16 0x2901⟩]⟩]⟩]
  distinct := by decide

def batteryPath (path : List Char) : List Char := "/d".toList ++ path

def batteryProp : GattProp → GattProp
  | .service path => .service (batteryPath path)
  | .characteristic path => .characteristic (batteryPath path)
  | p => p

/-- The object of the client's host, with its handle. -/
def batteryObject (o : ManagedObject) : ManagedObject :=
  let handle := match o.kind with
    | .service => 0x10
    | .characteristic => 0x11
    | .descriptor | .other => 0x13
  ⟨batteryPath o.path, o.interfaces.map fun i => (i.1, .handle handle :: i.2.map batteryProp)⟩

def batteryRelay :
    Relay "/d".toList (exportedObjects ((start batteryTable.services {}).run [])) where
  path := batteryPath
  object := batteryObject
  placed := by decide +kernel
  below := by decide +kernel
  distinct := by decide +kernel
  kind := by decide +kernel
  uuid := by decide +kernel
  parent := by decide +kernel
  flags := by decide +kernel
  known := by decide +kernel

/-- BlueZ adds the CCCD of the characteristic. -/
def batteryCccd : ManagedObject :=
  ⟨"/d/cccd".toList, [(.descriptor1, [.uuid (uuidToBluezStr (.fromUint16 0x2902)), .handle 0x12,
    .characteristic (batteryPath (numbered (numbered appRoot "/service" 0) "/char" 0))])]⟩

def batteryReply : List ManagedObject :=
  batteryCccd :: (exportedObjects ((start batteryTable.services {}).run [])).map batteryObject

theorem listed_battery : Listed batteryRelay [batteryCccd] batteryReply where
  all := by
    have under : deviceObjects "/d".toList batteryReply = batteryReply := by rfl
    have own : deviceObjects "/d".toList [batteryCccd] = [batteryCccd] := by rfl
    rw [under, own]
    exact (List.perm_append_singleton _ _).symm
  fresh := by decide +kernel
  apart := by decide +kernel
  known := by decide +kernel

theorem discovers_battery :
    ∃ w' tree, ({ devicePath := "/d".toList, busOpen := true } : Worker).walkGattTree
        (.objects batteryReply) .done .done .done = (w', some tree) ∧
      Discovers batteryTable batteryRelay.handle batteryRelay.path
        (deviceObjects "/d".toList [batteryCccd]) (emittedTree "/d".toList [batteryCccd]) tree :=
  discovers_exported batteryTable [] (w := { devicePath := "/d".toList, busOpen := true }) rfl
    batteryRelay listed_battery .done .done .done

end BLEGattServer

end EsphomeHost

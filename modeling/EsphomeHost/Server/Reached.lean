import EsphomeHost.Client.ConfiguredUuid
import EsphomeHost.Server.Discovered

/-!
# A sensor and the server it reads

The characteristic that a server was configured with is exported, listed by BlueZ on another host
and discovered there, and the sensor of a client looks it up by the texts of its configuration.

* `Names`: an entry names one characteristic of a server, and nothing that BlueZ adds.
* `ofKind_listed`: the objects of one kind in what BlueZ lists.
* `sensor_reaches`: **the sensor of such an entry comes by the handle of that characteristic**.
-/

namespace EsphomeHost.BLEGattServer

open Owned

variable {κ : Type} {t : GattTable κ} {devicePath : List Char}
  {r : Relay devicePath (tableObjects t)} {added reply : List ManagedObject}

/-- The texts of an entry have 36 characters and name a service of the server, a characteristic
below it, and no others. -/
structure Names (entry : SensorEntry) (t : GattTable κ) (added : List ManagedObject)
    (e : ExportedService κ) (n : ExportedChar κ) : Prop where
  long : entry.serviceUuid.1.length = 36 ∧ entry.characteristicUuid.1.length = 36
  alone : entry.descriptorUuid = none
  service : e ∈ serviceNodes t.services 0
  char : n ∈ charsBelow e
  onlyService : ∀ e' ∈ serviceNodes t.services 0,
    entry.serviceUuid.names e'.svc.uuid = true ↔ e' = e
  onlyChar : ∀ n' ∈ charsBelow e, entry.characteristicUuid.names n'.chr.uuid = true ↔ n' = n
  foreign : ∀ a ∈ added, a.kind = .service → entry.serviceUuid.names a.uuid = false

/-! ## What is listed -/

/-- The objects of one kind. -/
theorem ofKind_listed (listed : Listed r added reply) (kind : GattKind) :
    (ofKind kind (deviceObjects devicePath reply)).Perm
      ((ofKind kind (tableObjects t)).map r.object ++
        ofKind kind (deviceObjects devicePath added)) := by
  have all := listed.all.filter (·.kind = kind)
  rw [List.filter_append] at all
  rw [← ofKind_relayed]
  exact all

theorem mem_replyServices (listed : Listed r added reply) {o : ManagedObject} :
    o ∈ replyServices devicePath reply ↔
      (∃ e ∈ serviceNodes t.services 0, o = r.object (serviceObject e)) ∨
        o ∈ ofKind .service (deviceObjects devicePath added) := by
  rw [replyServices_eq, (ofKind_listed listed .service).mem_iff, (ofKind_tableObjects t).1,
    List.map_map, List.mem_append, List.mem_map]
  simp only [Function.comp_apply, eq_comm]

theorem mem_replyCharacteristics (listed : Listed r added reply) {s o : ManagedObject} :
    o ∈ replyCharacteristics devicePath reply s ↔
      ((∃ n ∈ tableNodes t, o = r.object (charObject n)) ∨
        o ∈ ofKind .characteristic (deviceObjects devicePath added)) ∧
          o.parent? = some s.path := by
  rw [replyCharacteristics_eq, List.mem_filter, (ofKind_listed listed .characteristic).mem_iff,
    (ofKind_tableObjects t).2.1, List.map_map, List.mem_append, List.mem_map,
    decide_eq_true_iff]
  simp only [Function.comp_apply, eq_comm]

/-- Different services are listed under different paths. -/
theorem service_of_path {e e' : ExportedService κ} (mem : e ∈ serviceNodes t.services 0)
    (mem' : e' ∈ serviceNodes t.services 0) (same : r.path e.path = r.path e'.path) : e = e' := by
  have part : ((serviceNodes t.services 0).map serviceObject).Sublist (tableObjects t) :=
    (List.sublist_append_left _ _).trans (List.sublist_append_left _ _)
  exact List.inj_on_of_nodup_map (path_nodup r part) mem mem' same

/-- A characteristic that is listed below a service belongs to it. -/
theorem below_of_parent {e : ExportedService κ} (mem : e ∈ serviceNodes t.services 0)
    {n : ExportedChar κ} (node : n ∈ tableNodes t)
    (owned : (r.object (charObject n)).parent? = some (r.path e.path)) : n ∈ charsBelow e := by
  obtain ⟨e', listed, child⟩ := List.mem_flatMap.mp node
  rw [r.parent _ (mem_char node)] at owned
  have same : r.path n.servicePath = r.path e.path := Option.some.inj owned
  rw [charsBelow_servicePath child] at same
  exact service_of_path listed mem same ▸ child

/-! ## What is named -/

theorem find?_unique {α : Type} {l : List α} {p : α → Bool} {x : α} (mem : x ∈ l)
    (holds : p x = true) (only : ∀ y ∈ l, p y = true → y = x) : l.find? p = some x := by
  cases found : l.find? p with
  | none => exact absurd holds (List.find?_eq_none.mp found x mem)
  | some y => rw [only y (List.mem_of_find?_eq_some found) (List.find?_some found)]

theorem names_as128bit (u : UuidText) (v : ESPBTUUID) : u.names v.as128bit = u.names v := by
  rw [UuidText.names, UuidText.names, toStr_as128bit]

section Lookup

variable {entry : SensorEntry} {e : ExportedService κ} {n : ExportedChar κ}

/-- The service that is named is found. -/
theorem find?_service (listed : Listed r added reply) (names : Names entry t added e n) :
    (describedServices devicePath reply).find? (entry.serviceUuid.names ·.uuid) =
      some (describedService devicePath reply (r.object (serviceObject e))) := by
  have there := (mem_replyServices listed).mpr (.inl ⟨e, names.service, rfl⟩)
  apply find?_unique
  · exact List.mem_map_of_mem there
  · show entry.serviceUuid.names (r.object (serviceObject e)).uuid = true
    rw [serviceNodes_uuid r names.service, names_as128bit]
    exact (names.onlyService e names.service).mpr rfl
  · intro svc mem named
    obtain ⟨o, inside, rfl⟩ := List.mem_map.mp mem
    rcases (mem_replyServices listed).mp inside with ⟨e', service', rfl⟩ | new
    · have named : entry.serviceUuid.names (r.object (serviceObject e')).uuid = true := named
      rw [serviceNodes_uuid r service', names_as128bit] at named
      rw [(names.onlyService e' service').mp named]
    · obtain ⟨device, kind⟩ := List.mem_filter.mp new
      have silent := names.foreign o (List.mem_filter.mp device).1 (of_decide_eq_true kind)
      exact absurd (silent.symm.trans named) Bool.false_ne_true

/-- In it the characteristic that is named is found. -/
theorem find?_characteristic (listed : Listed r added reply) (names : Names entry t added e n) :
    (describedService devicePath reply (r.object (serviceObject e))).characteristics.find?
        (entry.characteristicUuid.names ·.uuid) =
      some (describedCharacteristic devicePath reply (r.object (charObject n))) := by
  have node := mem_tableNodes names.service names.char
  have path : (r.object (serviceObject e)).path = r.path e.path :=
    r.placed _ (mem_service names.service)
  apply find?_unique
  · refine List.mem_map_of_mem ((mem_replyCharacteristics listed).mpr ⟨.inl ⟨n, node, rfl⟩, ?_⟩)
    rw [r.parent _ (mem_char node), path, ← charsBelow_servicePath names.char]
    rfl
  · show entry.characteristicUuid.names (r.object (charObject n)).uuid = true
    rw [tableNodes_uuid r node, names_as128bit]
    exact (names.onlyChar n names.char).mpr rfl
  · intro chr mem named
    obtain ⟨o, inside, rfl⟩ := List.mem_map.mp mem
    obtain ⟨origin, owned⟩ := (mem_replyCharacteristics listed).mp inside
    rw [path] at owned
    rcases origin with ⟨n', node', rfl⟩ | new
    · have named : entry.characteristicUuid.names (r.object (charObject n')).uuid = true := named
      rw [tableNodes_uuid r node', names_as128bit] at named
      rw [(names.onlyChar n' (below_of_parent names.service node' owned)).mp named]
    · obtain ⟨device, kind⟩ := List.mem_filter.mp new
      exact absurd owned (listed.apart o (List.mem_filter.mp device).1 (of_decide_eq_true kind) _
        (mem_service names.service))

end Lookup

variable [DecidableEq κ]

/-- **A sensor reaches the characteristic that it names**, and keeps its handle. -/
theorem sensor_reaches {φ τ : Type} (t : GattTable κ) (actions : List (Action κ)) {w : Worker}
    (isOpen : w.busOpen = true)
    (r : Relay w.devicePath (exportedObjects ((start t.services {}).run actions)))
    {added reply : List ManagedObject} (listed : Listed r added reply)
    (canonical : CanonicalUuids reply) (name otherName appearance : Reply) {entry : SensorEntry}
    {e : ExportedService κ} {n : ExportedChar κ} (names : Names entry t added e n) :
    ∃ w' tree, w.walkGattTree (.objects reply) name otherName appearance = (w', some tree) ∧
      entry.config.target tree = some (r.handle (charObject n), false) ∧
      ∀ (b : BLEClientBase τ) (sensor : BLESensor φ), b.services = tree →
        sensor.config = entry.config →
          (sensor.onServicesDiscovered b).1.handle = r.handle (charObject n) := by
  have same := exportedObjects_run t actions
  generalize exportedObjects _ = objects at r listed same
  subst same
  have target : entry.config.target (emittedTree w.devicePath reply) =
      some (r.handle (charObject n), false) := by
    rw [target_long entry canonical names.long.1, if_pos names.long.2, SensorEntry.named,
      find?_service listed names, Option.bind_some, find?_characteristic listed names,
      Option.map_some, SensorEntry.attribute, SensorEntry.descriptor, names.alone]
    rfl
  refine ⟨_, _, Worker.walkGattTree_eq isOpen (known_listed listed) name otherName appearance,
    target, ?_⟩
  intro b sensor discovered configured
  have looked : sensor.config.target b.services = some (r.handle (charObject n), false) := by
    rw [configured, discovered, target]
  exact (onServicesDiscovered_sensor sensor b).2 _ _ looked

theorem sensor_reaches_battery :
    ∃ w' tree, ({ devicePath := "/d".toList, busOpen := true } : Worker).walkGattTree
        (.objects batteryReply) .done .done .done = (w', some tree) ∧
      batteryEntry.config.target tree = some (0x11, false) ∧
      ∀ (b : BLEClientBase Unit) (sensor : BLESensor Nat), b.services = tree →
        sensor.config = batteryEntry.config → (sensor.onServicesDiscovered b).1.handle = 0x11 := by
  have canonical : CanonicalUuids batteryReply := canonicalUuids_of_len (by decide +kernel)
  have long : batteryEntry.serviceUuid.1.length = 36 ∧
      batteryEntry.characteristicUuid.1.length = 36 := by decide
  refine sensor_reaches batteryTable [] (w := { devicePath := "/d".toList, busOpen := true }) rfl
    batteryRelay listed_battery canonical .done .done .done
    ⟨long, rfl, .head _, .head _, ?_, ?_, ?_⟩
  · intro e mem
    rw [List.mem_singleton.mp mem]
    exact iff_of_true (by decide +kernel) rfl
  · intro n mem
    rw [List.mem_singleton.mp mem]
    exact iff_of_true (by decide +kernel) rfl
  · exact List.forall_mem_singleton.mpr fun service => nomatch service

end EsphomeHost.BLEGattServer

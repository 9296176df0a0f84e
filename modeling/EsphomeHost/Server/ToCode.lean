import EsphomeHost.Server.Build
import EsphomeHost.Server.Config

/-!
# The generated code

What `to_code` makes the program do before `setup`: it creates the services, characteristics and
descriptors of a configuration, each under the pointer that the call before returned.

* `ServerConfig.toCode`: the calls.  `create_service` can return a null pointer, which is given to
  member functions all the same; such a program does not get as far as `setup`.
* `BLEServer.Mirrors`, `toCode_mirrors`: **what is created is what is configured**, in its order.
* `toCode_isSome`: no pointer is null when no UUID is stored for more than 255 services.
-/

namespace EsphomeHost

open BLEServer

/-! ## The calls -/

/-- `parse_properties`. -/
def CharacteristicConfig.parseProperties (chr : CharacteristicConfig) : UInt32 :=
  let bits := [(chr.read, 1), (chr.write, 2), (chr.notify, 4), (chr.broadcast, 8),
    (chr.indicate, 16), (chr.writeNoResponse, 32)]
  ((bits.filter (·.1)).map (·.2)).foldl (· + ·) 0

def toCodeDescriptor (chr : Nat) (server : BLEServer) (desc : DescriptorConfig) : BLEServer :=
  server.addDescriptor chr ⟨desc.uuid.parseUuid⟩

def toCodeCharacteristic (service : Nat) (server : BLEServer) (chr : CharacteristicConfig) :
    BLEServer :=
  let address := server.allocated
  let server := server.createCharacteristic service chr.uuid.parseUuid chr.parseProperties
  let server := match chr.value with
    | none => server
    | some value => server.setValue address value
  chr.descriptors.foldl (toCodeDescriptor address) server

/-- A null pointer is harmless only where `set_device_information_service` is all it is used for;
`setup` starts the others. -/
def toCodeService (server : BLEServer) (svc : ServiceConfig) : Option BLEServer :=
  match server.createService svc.uuid.parseUuid with
  | (server, some address) =>
      let server := svc.characteristics.foldl (toCodeCharacteristic address) server
      some (if uuidIs svc.uuid 0x180A then server.setDeviceInformationService address else server)
  | (server, none) =>
      if svc.characteristics.isEmpty && uuidIs svc.uuid 0x180A then
        some { server with deviceInformationService := none }
      else none

/-- The calls of `to_code`, or nothing if they are made through a null pointer. -/
def ServerConfig.toCode (conf : ServerConfig) : Option BLEServer :=
  conf.services.foldlM toCodeService BLEServer.empty

/-! ## One characteristic -/

/-- The object of a characteristic at an address. -/
def CharacteristicConfig.object (chr : CharacteristicConfig) (address : Nat) :
    BLECharacteristic Nat :=
  ⟨address, chr.uuid.parseUuid, newProperties chr.parseProperties, chr.value.getD [],
    chr.descriptors.map fun desc => ⟨desc.uuid.parseUuid⟩⟩

namespace BLEServer

variable {server server' : BLEServer} {before : List ServiceEntry} {address : Nat}
  {uuid svcUuid : ESPBTUUID} {instId : UInt8} {chrs : List (BLECharacteristic Nat)}
  {chr : BLECharacteristic Nat}

/-- A characteristic is created below the service that was created last. -/
theorem services_createCharacteristic (uuid : ESPBTUUID) (properties : UInt32)
    (last : server.services = before ++ [⟨address, svcUuid, instId, ⟨svcUuid, chrs⟩⟩]) :
    (server.createCharacteristic address uuid properties).services =
      before ++ [⟨address, svcUuid, instId, ⟨svcUuid, chrs ++
        [⟨server.allocated, uuid, newProperties properties, [], []⟩]⟩⟩] := by
  have apart := server.apart
  rw [last, List.map_append] at apart
  have fresh : address ∉ before.map (·.address) := fun mem =>
    (List.nodup_append.mp apart).2.2 _ mem _ List.mem_cons_self rfl
  show server.services.map _ = _
  rw [last, List.map_append, charAddresses_of_not_mem _ fresh, List.map_singleton, addChar,
    if_pos rfl]

theorem charAddresses_append (entries entries' : List ServiceEntry) :
    charAddresses (entries ++ entries') = charAddresses entries ++ charAddresses entries' := by
  rw [charAddresses, List.flatMap_append, List.map_append, charAddresses, charAddresses]

theorem changeChar_of_fresh {f : BLECharacteristic Nat → BLECharacteristic Nat}
    {entries : List ServiceEntry} (fresh : address ∉ charAddresses entries) :
    entries.map (changeChar address f) = entries := by
  induction entries with
  | nil => rfl
  | cons e entries ih =>
      rw [charAddresses_cons, List.mem_append, not_or] at fresh
      rw [List.map_cons, ih fresh.2, changeChar, Keyed.map_of_fresh _ fresh.1]

/-- A change to the characteristic that was created last. -/
theorem services_changeCharacteristic (f : BLECharacteristic Nat → BLECharacteristic Nat)
    (last : server.services = before ++ [⟨address, svcUuid, instId, ⟨svcUuid, chrs ++ [chr]⟩⟩]) :
    (server.changeCharacteristic chr.self f).services =
      before ++ [⟨address, svcUuid, instId, ⟨svcUuid, chrs ++ [{ f chr with self := chr.self }]⟩⟩]
      := by
  have apart := server.charsApart
  rw [last, charAddresses_append] at apart
  obtain ⟨-, inside, outside⟩ := List.nodup_append.mp apart
  have here : chr.self ∈ charAddresses
      [⟨address, svcUuid, instId, ⟨svcUuid, chrs ++ [chr]⟩⟩] := by simp [charAddresses]
  have freshBefore : chr.self ∉ charAddresses before := fun mem => outside _ mem _ here rfl
  have freshBeside : chr.self ∉ chrs.map (·.self) := by
    rw [charAddresses_cons, List.map_append] at inside
    exact fun mem => (List.nodup_append.mp (List.nodup_append.mp inside).1).2.2 _ mem _
      List.mem_cons_self rfl
  show server.services.map _ = _
  rw [last, List.map_append, changeChar_of_fresh freshBefore, List.map_singleton, changeChar,
    List.map_append, Keyed.map_of_fresh _ freshBeside, List.map_singleton, if_pos rfl]

theorem services_descriptors (descs : List DescriptorConfig)
    (last : server.services = before ++ [⟨address, svcUuid, instId, ⟨svcUuid, chrs ++ [chr]⟩⟩]) :
    (descs.foldl (toCodeDescriptor chr.self) server).services =
      before ++ [⟨address, svcUuid, instId, ⟨svcUuid, chrs ++
        [{ chr with descriptors := chr.descriptors ++ descs.map (⟨·.uuid.parseUuid⟩) }]⟩⟩] := by
  induction descs generalizing server chr with
  | nil => simpa using last
  | cons desc descs ih =>
      have one := services_changeCharacteristic
        (fun c => { c with descriptors := c.descriptors ++ [⟨desc.uuid.parseUuid⟩] }) last
      rw [List.foldl_cons]
      refine (ih one).trans ?_
      simp

/-- **One characteristic of the configuration becomes one object, the last of its service.** -/
theorem services_toCodeCharacteristic (conf : CharacteristicConfig)
    (last : server.services = before ++ [⟨address, svcUuid, instId, ⟨svcUuid, chrs⟩⟩]) :
    (toCodeCharacteristic address server conf).services =
      before ++ [⟨address, svcUuid, instId, ⟨svcUuid, chrs ++ [conf.object server.allocated]⟩⟩]
      := by
  have created := services_createCharacteristic conf.uuid.parseUuid conf.parseProperties last
  rw [toCodeCharacteristic]
  rcases given : conf.value with _ | value
  · have described := services_descriptors conf.descriptors created
    simpa [CharacteristicConfig.object, given] using described
  · have valued := services_changeCharacteristic (fun c => { c with value := value }) created
    refine (services_descriptors conf.descriptors valued).trans ?_
    simp [CharacteristicConfig.object, given]

/-! ## All services -/

/-- `chr` is the object of `conf`. -/
def IsObject (chr : BLECharacteristic Nat) (conf : CharacteristicConfig) : Prop :=
  chr = conf.object chr.self

theorem services_characteristics (confs : List CharacteristicConfig)
    (last : server.services = before ++ [⟨address, svcUuid, instId, ⟨svcUuid, chrs⟩⟩]) :
    ∃ new, List.Forall₂ IsObject new confs ∧
      (confs.foldl (toCodeCharacteristic address) server).services =
        before ++ [⟨address, svcUuid, instId, ⟨svcUuid, chrs ++ new⟩⟩] := by
  induction confs generalizing server chrs with
  | nil => exact ⟨[], .nil, by simpa using last⟩
  | cons conf confs ih =>
      obtain ⟨new, objects, services⟩ := ih (services_toCodeCharacteristic conf last)
      refine ⟨conf.object server.allocated :: new, .cons rfl objects, ?_⟩
      rw [List.foldl_cons, services, List.append_assoc, List.singleton_append]

/-- One service of the configuration: it becomes the last one, or it is an empty Device Information
Service of which there are too many instances. -/
theorem services_toCodeService {svc : ServiceConfig}
    (made : toCodeService server svc = some server') :
    (∃ instId chrs, server.freeInstId svc.uuid.parseUuid = some instId ∧
      List.Forall₂ IsObject chrs svc.characteristics ∧
      server'.services = server.services ++
        [⟨server.allocated, svc.uuid.parseUuid, instId, ⟨svc.uuid.parseUuid, chrs⟩⟩]) ∨
      server.freeInstId svc.uuid.parseUuid = none ∧ server'.services = server.services ∧
        svc.characteristics = [] ∧ uuidIs svc.uuid 0x180A = true := by
  rw [toCodeService, createService] at made
  cases free : server.freeInstId svc.uuid.parseUuid with
  | none =>
      right
      rw [free] at made
      dsimp only at made
      split at made
      · next harmless =>
          obtain rfl := Option.some.inj made
          rw [Bool.and_eq_true, List.isEmpty_iff] at harmless
          exact ⟨rfl, rfl, harmless⟩
      · cases made
  | some instId =>
      left
      rw [free] at made
      have pushed : (server.pushService svc.uuid.parseUuid instId).services = server.services ++
          [⟨server.allocated, svc.uuid.parseUuid, instId, ⟨svc.uuid.parseUuid, []⟩⟩] := rfl
      obtain ⟨chrs, objects, services⟩ := services_characteristics svc.characteristics pushed
      refine ⟨instId, chrs, rfl, objects, ?_⟩
      obtain rfl := Option.some.inj made
      rw [List.nil_append] at services
      rw [← services]
      split <;> rfl

/-- The services of `server` are those of a configuration. -/
structure Mirrors (server : BLEServer) (services : List ServiceConfig) : Prop where
  created : ∀ e ∈ server.services, ∃ svc ∈ services, e.service.uuid = svc.uuid.parseUuid
  kept : ∀ svc ∈ services, (∃ e ∈ server.services, e.service.uuid = svc.uuid.parseUuid) ∨
    uuidIs svc.uuid 0x180A = true
  characteristics : List.Forall₂ IsObject (server.services.flatMap (·.service.characteristics))
    (services.flatMap (·.characteristics))

theorem mirrors_empty : Mirrors BLEServer.empty [] := ⟨nofun, nofun, .nil⟩

theorem Mirrors.step {services : List ServiceConfig} {svc : ServiceConfig}
    (mirrors : server.Mirrors services) (made : toCodeService server svc = some server') :
    server'.Mirrors (services ++ [svc]) := by
  rcases services_toCodeService made with ⟨instId, chrs, -, objects, grown⟩ | ⟨-, same, empty, dis⟩
  · refine ⟨fun e mem => ?_, fun conf mem => ?_, ?_⟩
    · rw [grown] at mem
      rcases List.mem_append.mp mem with old | new
      · obtain ⟨conf, inside, uuids⟩ := mirrors.created e old
        exact ⟨conf, List.mem_append_left _ inside, uuids⟩
      · obtain rfl := List.mem_singleton.mp new
        exact ⟨svc, List.mem_append_right _ List.mem_cons_self, rfl⟩
    · rw [grown]
      rcases List.mem_append.mp mem with old | new
      · rcases mirrors.kept conf old with ⟨e, inside, uuids⟩ | dis
        · exact .inl ⟨e, List.mem_append_left _ inside, uuids⟩
        · exact .inr dis
      · obtain rfl := List.mem_singleton.mp new
        exact .inl ⟨_, List.mem_append_right _ List.mem_cons_self, rfl⟩
    · rw [grown, List.flatMap_append, List.flatMap_append, List.flatMap_singleton,
        List.flatMap_singleton]
      exact List.rel_append mirrors.characteristics objects
  · refine ⟨fun e mem => ?_, fun conf mem => ?_, ?_⟩
    · obtain ⟨conf, inside, uuids⟩ := mirrors.created e (same ▸ mem)
      exact ⟨conf, List.mem_append_left _ inside, uuids⟩
    · rw [same]
      rcases List.mem_append.mp mem with old | new
      · exact mirrors.kept conf old
      · obtain rfl := List.mem_singleton.mp new
        exact .inr dis
    · rw [same, List.flatMap_append, List.flatMap_singleton, empty, List.append_nil]
      exact mirrors.characteristics

theorem Mirrors.run {services rest : List ServiceConfig} (mirrors : server.Mirrors services)
    (made : rest.foldlM toCodeService server = some server') :
    server'.Mirrors (services ++ rest) := by
  induction rest generalizing server services with
  | nil =>
      cases made
      rw [List.append_nil]
      exact mirrors
  | cons svc rest ih =>
      rw [List.foldlM_cons] at made
      obtain ⟨next, first, others⟩ := Option.bind_eq_some_iff.mp made
      have built := ih (mirrors.step first) others
      rwa [List.append_assoc, List.singleton_append] at built

/-! ## Instances -/

/-- The instance numbers of a UUID, in the order of creation. -/
def instances (server : BLEServer) (uuid : ESPBTUUID) : List UInt8 :=
  (server.services.filter (·.uuid == uuid)).map (·.instId)

/-- The instances of every UUID are numbered from zero. -/
def Numbered (server : BLEServer) : Prop :=
  ∀ u, server.instances u = (List.range (server.instances u).length).map UInt8.ofNat

theorem getService_isNone_iff (instId : UInt8) :
    (server.getService uuid instId).isNone = true ↔ instId ∉ server.instances uuid := by
  simp only [getService, Option.isNone_map, Option.isNone_iff_eq_none, List.find?_eq_none,
    instances, List.mem_map, List.mem_filter, Bool.and_eq_true, beq_iff_eq, not_exists, not_and]
  exact ⟨fun none e there => none e there.1 there.2, fun none e mem there => none e ⟨mem, there⟩⟩

theorem freeInstId_eq (numbered : server.Numbered) (room : (server.instances uuid).length < 255) :
    server.freeInstId uuid = some (UInt8.ofNat (server.instances uuid).length) := by
  have taken {k : Nat} (small : k < 255) :
      (server.getService uuid (UInt8.ofNat k)).isNone = true ↔
        (server.instances uuid).length ≤ k := by
    rw [getService_isNone_iff, numbered uuid, List.mem_map, List.length_map, List.length_range]
    constructor
    · intro absent
      by_contra less
      exact absent ⟨k, List.mem_range.mpr (by omega), rfl⟩
    · rintro above ⟨j, inside, same⟩
      have less := List.mem_range.mp inside
      have value := congrArg UInt8.toNat same
      rw [UInt8.toNat_ofNat', UInt8.toNat_ofNat'] at value
      omega
  rw [freeInstId, List.find?_map, Option.map_eq_some_iff]
  refine ⟨_, List.find?_range_eq_some.mpr ⟨?_, List.mem_range.mpr room, ?_⟩, rfl⟩
  · exact (taken room).mpr le_rfl
  · intro j less
    have present := mt (taken (by omega : j < 255)).mp (by omega)
    rw [Bool.not_eq_true, Option.isNone_eq_false_iff] at present
    simpa using present

theorem instances_push (entry : ServiceEntry)
    (grown : server'.services = server.services ++ [entry]) (u : ESPBTUUID) :
    server'.instances u =
      server.instances u ++ if entry.uuid == u then [entry.instId] else [] := by
  rw [instances, grown, List.filter_append, List.map_append, instances]
  cases same : entry.uuid == u <;> simp [same]

theorem Numbered.push (numbered : server.Numbered) {entry : ServiceEntry}
    (grown : server'.services = server.services ++ [entry])
    (free : server.freeInstId entry.uuid = some entry.instId)
    (room : (server.instances entry.uuid).length < 255) : server'.Numbered := by
  intro u
  rw [instances_push entry grown]
  by_cases same : (entry.uuid == u) = true
  · have one : server.instances entry.uuid = server.instances u := by
      rw [instances, instances]
      exact congrArg (List.map _) (List.filter_congr fun e _ => ESPBTUUID.beq_congr same e.uuid)
    have next := Option.some.inj (free.symm.trans (freeInstId_eq numbered room))
    rw [if_pos same, List.length_append, List.length_singleton, List.range_succ, List.map_append,
      ← numbered u, next, one]
    rfl
  · rw [if_neg same, List.append_nil]
    exact numbered u

/-- Each UUID has a number left for every service that is still to come. -/
theorem toCode_run_isSome {services : List ServiceConfig} (numbered : server.Numbered)
    (few : ∀ u, (server.instances u).length +
      services.countP (fun svc => svc.uuid.parseUuid == u) ≤ 255) :
    (services.foldlM toCodeService server).isSome = true := by
  induction services generalizing server with
  | nil => rfl
  | cons svc rest ih =>
      have self : (svc.uuid.parseUuid == svc.uuid.parseUuid) = true :=
        ESPBTUUID.beq_iff.mpr ⟨rfl, rfl⟩
      have room : (server.instances svc.uuid.parseUuid).length < 255 := by
        have bound := few svc.uuid.parseUuid
        rw [List.countP_cons, if_pos self] at bound
        omega
      have free := freeInstId_eq numbered room
      obtain ⟨next, made⟩ : ∃ next, toCodeService server svc = some next := by
        rw [toCodeService, createService, free]
        exact ⟨_, rfl⟩
      rcases services_toCodeService made with ⟨instId, chrs, number, -, grown⟩ | ⟨full, -⟩
      · rw [List.foldlM_cons, made]
        refine ih (numbered.push grown number room) fun u => ?_
        have bound := few u
        rw [List.countP_cons] at bound
        rw [instances_push _ grown, List.length_append]
        by_cases same : (svc.uuid.parseUuid == u) = true
        · rw [if_pos same] at bound ⊢
          rw [List.length_singleton]
          omega
        · rw [if_neg same] at bound ⊢
          rw [List.length_nil]
          omega
      · cases full.symm.trans free

end BLEServer

/-- **What is created is what is configured.** -/
theorem toCode_mirrors {conf : ServerConfig} {server : BLEServer}
    (made : conf.toCode = some server) : server.Mirrors conf.services :=
  mirrors_empty.run made

/-- **The calls go through when no UUID is stored for more than 255 services.** -/
theorem toCode_isSome {conf : ServerConfig}
    (few : ∀ u, conf.services.countP (fun svc => svc.uuid.parseUuid == u) ≤ 255) :
    conf.toCode.isSome = true := by
  rw [ServerConfig.toCode]
  refine toCode_run_isSome (fun u => rfl) fun u => ?_
  have bound := few u
  show 0 + _ ≤ 255
  omega

end EsphomeHost

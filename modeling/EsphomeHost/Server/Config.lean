import EsphomeHost.Server.UuidText

/-!
# The schema of a server configuration

What `CONFIG_SCHEMA` checks and completes once every key has been validated by itself: descriptors
get a maximal length, a characteristic with a description a 0x2901 descriptor, one that notifies or
indicates a 0x2902 descriptor, and the server a Device Information Service.

* `ServerConfig.validate`: the schema.
* `uuids_validate`: **the UUIDs of an accepted configuration are those given, in their order, and
  those of what was added**.
-/

namespace EsphomeHost

open LittleEndian

/-! ## Configurations -/

/-- A value is the bytes it encodes; `value_schema` lets no lambda through here. -/
structure DescriptorConfig where
  uuid : ConfUuid
  read : Bool := true
  write : Bool := true
  onWrite : Bool := false
  value : List UInt8
  maxLength : Option Nat := none

/-- Of a value that is a lambda, the bytes are those that it returns. -/
structure CharacteristicConfig where
  uuid : ConfUuid
  value : Option (List UInt8) := none
  descriptors : List DescriptorConfig := []
  onWrite : Bool := false
  description : Option (List UInt8) := none
  read : Bool := false
  write : Bool := false
  notify : Bool := false
  broadcast : Bool := false
  indicate : Bool := false
  writeNoResponse : Bool := false

structure ServiceConfig where
  uuid : ConfUuid
  characteristics : List CharacteristicConfig := []

structure ServerConfig where
  manufacturer : Option (List UInt8) := none
  model : Option (List UInt8) := none
  firmwareVersion : Option (List UInt8) := none
  services : List ServiceConfig := []

/-- The project of the `esphome` section, and the version of ESPHome. -/
structure Project where
  name : Option (List UInt8)
  version : Option (List UInt8)
  esphomeVersion : String

/-- What the schema raises `cv.Invalid` for. -/
inductive Invalid
  | descriptorOnWrite
  | charOnWrite
  | cudPresent (chr : ConfUuid)
  | cccdNotWritable (chr : ConfUuid)
  | deviceInformationPresent

/-- The text of the exception, given the `str` of a UUID. -/
def Invalid.message (str : ConfUuid → String) : Invalid → String
  | .descriptorOnWrite => "on_write requires the write property to be set"
  | .charOnWrite => "on_write requires the write or write_no_response property to be set"
  | .cudPresent chr => "Characteristic " ++ str chr ++
      " has a description, but a CUD descriptor is already present"
  | .cccdNotWritable chr => "Characteristic " ++ str chr ++
      " has notify actions, but the CCCD descriptor does not have the write property set"
  | .deviceInformationPresent => "Device information service already present, " ++
      "cannot add manufacturer, model or firmware version"

/-! ## `uuid_is` -/

/-- `_BASE_UUID_SUFFIX`. -/
def baseUuidSuffix : List Char := "-0000-1000-8000-00805F9B34FB".toList

/-- The three texts of a 16-bit UUID. -/
def uuidTexts (uuid16 : UInt16) : List (List Char) :=
  let short := hexUpper [byte16 uuid16 1, byte16 uuid16 0]
  let long := hexUpper [0, 0, byte16 uuid16 1, byte16 uuid16 0]
  [short, long, long ++ baseUuidSuffix]

/-- `uuid_is`: whether a validated UUID refers to the given 16-bit one. -/
def uuidIs : ConfUuid → UInt16 → Bool
  | .number value, uuid16 => value = uuid16.toUInt32
  | .text value _, uuid16 => (uuidTexts uuid16).contains (value.map Char.toUpper)

/-! ## Descriptors and characteristics -/

/-- `validate_descriptor`.  There is no template to reject. -/
def validateDescriptor (desc : DescriptorConfig) : Except Invalid DescriptorConfig :=
  if desc.onWrite && !desc.write then .error .descriptorOnWrite
  else .ok { desc with maxLength := some (desc.maxLength.getD desc.value.length) }

def validateCharOnWrite (chr : CharacteristicConfig) : Except Invalid CharacteristicConfig :=
  if chr.onWrite && !chr.write && !chr.writeNoResponse then .error .charOnWrite else .ok chr

/-- The descriptor of `create_description_cud`. -/
def cud (description : List UInt8) : DescriptorConfig :=
  { uuid := .number 0x2901, read := true, write := false, value := description }

/-- The descriptor of `create_notify_cccd`. -/
def cccd : DescriptorConfig :=
  { uuid := .number 0x2902, read := true, write := true, maxLength := some 2, value := [0, 0] }

def createDescriptionCud (chr : CharacteristicConfig) : Except Invalid CharacteristicConfig :=
  match chr.description with
  | none => .ok chr
  | some description =>
      if chr.descriptors.any (uuidIs ·.uuid 0x2901) then .error (.cudPresent chr.uuid)
      else do
        let desc ← validateDescriptor (cud description)
        return { chr with descriptors := chr.descriptors ++ [desc] }

/-- The first descriptor that refers to the CCCD decides. -/
def createNotifyCccd (chr : CharacteristicConfig) : Except Invalid CharacteristicConfig :=
  if !chr.notify && !chr.indicate then .ok chr
  else
    match chr.descriptors.find? (uuidIs ·.uuid 0x2902) with
    | some desc => if !desc.write then .error (.cccdNotWritable chr.uuid) else .ok chr
    | none => do
        let desc ← validateDescriptor cccd
        return { chr with descriptors := chr.descriptors ++ [desc] }

/-- `CHARACTERISTIC_SCHEMA`. -/
def characteristicSchema (chr : CharacteristicConfig) : Except Invalid CharacteristicConfig := do
  let descriptors ← chr.descriptors.mapM validateDescriptor
  let chr ← validateCharOnWrite { chr with descriptors := descriptors }
  let chr ← createDescriptionCud chr
  createNotifyCccd chr

/-! ## Services and the server -/

/-- `SERVICE_SCHEMA`. -/
def serviceSchema (svc : ServiceConfig) : Except Invalid ServiceConfig := do
  let characteristics ← svc.characteristics.mapM characteristicSchema
  return { svc with characteristics := characteristics }

/-- The service of `create_device_information_service`. -/
def deviceInformation (project : Project) (conf : ServerConfig) : ServiceConfig where
  uuid := .number 0x180A
  characteristics :=
    [{ uuid := .number 0x2A29, read := true,
       value := some (conf.manufacturer.getD "ESPHome".toUTF8.toList) },
     { uuid := .number 0x2A24, read := true,
       value := some (conf.model.getD (project.name.getD "ESPHome Host".toUTF8.toList)) },
     { uuid := .number 0x2A26, read := true,
       value := some (conf.firmwareVersion.getD
        (project.version.getD ("ESPHome " ++ project.esphomeVersion).toUTF8.toList)) }]

def createDeviceInformationService (project : Project) (conf : ServerConfig) :
    Except Invalid ServerConfig :=
  if conf.services.any (uuidIs ·.uuid 0x180A) then
    if conf.model.isSome || conf.manufacturer.isSome || conf.firmwareVersion.isSome then
      .error .deviceInformationPresent
    else .ok conf
  else do
    let svc ← serviceSchema (deviceInformation project conf)
    return { conf with services := conf.services ++ [svc] }

/-- `CONFIG_SCHEMA`. -/
def ServerConfig.validate (project : Project) (conf : ServerConfig) :
    Except Invalid ServerConfig := do
  let services ← conf.services.mapM serviceSchema
  createDeviceInformationService project { conf with services := services }

/-! ## What is added -/

section Except

variable {ε α β γ : Type}

theorem bind_eq_ok {x : Except ε α} {f : α → Except ε β} {b : β} :
    (x >>= f) = .ok b ↔ ∃ a, x = .ok a ∧ f a = .ok b := by
  cases x with
  | error e => exact ⟨nofun, fun ⟨a, wrong, _⟩ => nomatch wrong⟩
  | ok a => exact ⟨fun done => ⟨a, rfl, done⟩, fun ⟨_, same, done⟩ => Except.ok.inj same ▸ done⟩

/-- What every step keeps, the loop keeps. -/
theorem map_of_mapM {f : α → Except ε β} {g : β → γ} {h : α → γ}
    (step : ∀ a b, f a = .ok b → g b = h a) {l : List α} {l' : List β} (done : l.mapM f = .ok l') :
    l'.map g = l.map h := by
  induction l generalizing l' with
  | nil =>
      cases done
      rfl
  | cons a l ih =>
      rw [List.mapM_cons] at done
      obtain ⟨b, first, done⟩ := bind_eq_ok.mp done
      obtain ⟨bs, rest, done⟩ := bind_eq_ok.mp done
      cases done
      rw [List.map_cons, List.map_cons, step a b first, ih rest]

end Except

/-- The UUIDs of the descriptors that a characteristic gets. -/
def CharacteristicConfig.addedUuids (chr : CharacteristicConfig) : List ConfUuid :=
  (if chr.description.isSome then [.number 0x2901] else []) ++
    if (chr.notify || chr.indicate) && !chr.descriptors.any (uuidIs ·.uuid 0x2902) then
      [.number 0x2902]
    else []

def CharacteristicConfig.uuids (chr : CharacteristicConfig) : List ConfUuid :=
  chr.uuid :: chr.descriptors.map (·.uuid)

def ServiceConfig.uuids (svc : ServiceConfig) : List ConfUuid :=
  svc.uuid :: svc.characteristics.flatMap (·.uuids)

def ServerConfig.uuids (conf : ServerConfig) : List ConfUuid := conf.services.flatMap (·.uuids)

/-- The UUIDs of a service and of what is added to it. -/
def ServiceConfig.completed (svc : ServiceConfig) : List ConfUuid :=
  svc.uuid :: svc.characteristics.flatMap fun chr => chr.uuids ++ chr.addedUuids

def ServerConfig.completed (conf : ServerConfig) : List ConfUuid :=
  conf.services.flatMap (·.completed) ++
    if conf.services.any (uuidIs ·.uuid 0x180A) then []
    else [.number 0x180A, .number 0x2A29, .number 0x2A24, .number 0x2A26]

theorem validateDescriptor_uuid (desc desc' : DescriptorConfig)
    (accepted : validateDescriptor desc = .ok desc') : desc'.uuid = desc.uuid := by
  rw [validateDescriptor] at accepted
  split at accepted
  · cases accepted
  · cases accepted
    rfl

theorem createDescriptionCud_eq {chr chr' : CharacteristicConfig}
    (accepted : createDescriptionCud chr = .ok chr') :
    ∃ descs : List DescriptorConfig, chr' = { chr with descriptors := chr.descriptors ++ descs } ∧
      descs.map (·.uuid) = if chr.description.isSome then [.number 0x2901] else [] := by
  rw [createDescriptionCud] at accepted
  split at accepted
  · next absent =>
      cases accepted
      exact ⟨[], by simp, by simp [absent]⟩
  · next description present =>
      split at accepted
      · cases accepted
      · obtain ⟨desc, checked, done⟩ := bind_eq_ok.mp accepted
        cases done
        refine ⟨[desc], rfl, ?_⟩
        rw [List.map_singleton, validateDescriptor_uuid _ _ checked, present]
        rfl

theorem createNotifyCccd_eq {chr chr' : CharacteristicConfig}
    (accepted : createNotifyCccd chr = .ok chr') :
    ∃ descs : List DescriptorConfig, chr' = { chr with descriptors := chr.descriptors ++ descs } ∧
      descs.map (·.uuid) =
        if (chr.notify || chr.indicate) && !chr.descriptors.any (uuidIs ·.uuid 0x2902) then
          [.number 0x2902]
        else [] := by
  rw [createNotifyCccd] at accepted
  split at accepted
  · next quiet =>
      cases accepted
      refine ⟨[], by simp, ?_⟩
      rw [if_neg (by simpa using fun loud => absurd loud (by simpa using quiet))]
      rfl
  · next loud =>
      split at accepted
      · next desc found =>
          split at accepted
          · cases accepted
          · cases accepted
            have refers : uuidIs desc.uuid 0x2902 = true := by simpa using List.find?_some found
            have named : chr.descriptors.any (uuidIs ·.uuid 0x2902) = true :=
              List.any_eq_true.mpr ⟨desc, List.mem_of_find?_eq_some found, refers⟩
            exact ⟨[], by simp, by simp [named]⟩
      · next missing =>
          have unnamed : chr.descriptors.any (uuidIs ·.uuid 0x2902) = false := by
            simpa using missing
          obtain ⟨desc, checked, done⟩ := bind_eq_ok.mp accepted
          cases done
          refine ⟨[desc], rfl, ?_⟩
          rw [List.map_singleton, validateDescriptor_uuid _ _ checked, unnamed,
            if_pos (by revert loud; cases chr.notify <;> cases chr.indicate <;> simp)]
          rfl

theorem uuids_characteristicSchema (chr chr' : CharacteristicConfig)
    (accepted : characteristicSchema chr = .ok chr') :
    chr'.uuids = chr.uuids ++ chr.addedUuids := by
  rw [characteristicSchema] at accepted
  obtain ⟨descriptors, checked, accepted⟩ := bind_eq_ok.mp accepted
  obtain ⟨chr₁, written, accepted⟩ := bind_eq_ok.mp accepted
  obtain ⟨chr₂, described, notified⟩ := bind_eq_ok.mp accepted
  have kept : chr₁ = { chr with descriptors := descriptors } := by
    rw [validateCharOnWrite] at written
    split at written
    · cases written
    · exact (Except.ok.inj written).symm
  subst kept
  have same := map_of_mapM validateDescriptor_uuid checked
  obtain ⟨cuds, rfl, cudUuids⟩ := createDescriptionCud_eq described
  obtain ⟨cccds, rfl, cccdUuids⟩ := createNotifyCccd_eq notified
  -- A 0x2901 descriptor does not refer to the CCCD.
  have named : (descriptors ++ cuds).any (uuidIs ·.uuid 0x2902) =
      chr.descriptors.any (uuidIs ·.uuid 0x2902) := by
    have byUuid (descs : List DescriptorConfig) : descs.any (uuidIs ·.uuid 0x2902) =
        (descs.map (·.uuid)).any (uuidIs · 0x2902) := by rw [List.any_map]; rfl
    rw [byUuid, byUuid, List.map_append, List.any_append, same, cudUuids]
    cases chr.description <;> simp [uuidIs]
  simp only [named] at cccdUuids
  simp only [CharacteristicConfig.uuids, CharacteristicConfig.addedUuids, List.map_append, same,
    cudUuids, cccdUuids, List.cons_append, List.append_assoc]

theorem uuids_serviceSchema (svc svc' : ServiceConfig) (accepted : serviceSchema svc = .ok svc') :
    svc'.uuid = svc.uuid ∧ svc'.uuids = svc.completed := by
  rw [serviceSchema] at accepted
  obtain ⟨characteristics, checked, done⟩ := bind_eq_ok.mp accepted
  cases done
  refine ⟨rfl, ?_⟩
  rw [ServiceConfig.uuids, ServiceConfig.completed, List.flatMap_def, List.flatMap_def,
    map_of_mapM uuids_characteristicSchema checked]

/-- **The UUIDs of an accepted configuration.** -/
theorem uuids_validate {project : Project} {conf conf' : ServerConfig}
    (accepted : conf.validate project = .ok conf') : conf'.uuids = conf.completed := by
  rw [ServerConfig.validate] at accepted
  obtain ⟨services, checked, accepted⟩ := bind_eq_ok.mp accepted
  have same := map_of_mapM (fun a b done => (uuids_serviceSchema a b done).1) checked
  have given := map_of_mapM (fun a b done => (uuids_serviceSchema a b done).2) checked
  have present :
      services.any (uuidIs ·.uuid 0x180A) = conf.services.any (uuidIs ·.uuid 0x180A) := by
    have byUuid (svcs : List ServiceConfig) : svcs.any (uuidIs ·.uuid 0x180A) =
        (svcs.map (·.uuid)).any (uuidIs · 0x180A) := by rw [List.any_map]; rfl
    rw [byUuid, byUuid, same]
  rw [createDeviceInformationService] at accepted
  simp only [present] at accepted
  rw [ServerConfig.completed, List.flatMap_def, ← given]
  split at accepted
  · next there =>
      split at accepted
      · cases accepted
      · cases accepted
        rw [if_pos there, List.append_nil]
        exact List.flatMap_def
  · next missing =>
      obtain ⟨svc, built, done⟩ := bind_eq_ok.mp accepted
      cases done
      rw [if_neg missing, ServerConfig.uuids, List.flatMap_append, List.flatMap_singleton,
        (uuids_serviceSchema _ _ built).2]
      rfl

end EsphomeHost

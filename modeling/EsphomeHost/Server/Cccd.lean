import EsphomeHost.Server.ToCode

/-!
# The CCCD in the exported tree

`build_tree_` leaves out the descriptors whose UUID equals the 16-bit 0x2902.  The schema hands on
UUIDs of four shapes, and only one of them is ever stored in 16 bits.

* `ServerConfig.CccdKept`: no node has the string of the CCCD, and every other descriptor has a
  node.
* `bluez_eq_cccd_iff`: which UUIDs are printed as the CCCD.
* `cccdKept_iff`: **the tree of an accepted configuration is so exactly if the configuration has
  none of these and lists a CCCD, as 2902 or 00002902, wherever one would be added**.
* `not_cccdKept_notify`: a characteristic that notifies is enough.
-/

namespace EsphomeHost

open ESPBTUUID LittleEndian

/-! ## UUIDs printed as the CCCD -/

def cccdStr : List Char := "00002902-0000-1000-8000-00805f9b34fb".toList

/-- The texts printed as the CCCD: two of them spell 0229 in 16 and 32 bits. -/
def cccdTexts : List (List Char) :=
  ["0229".toList, "02290000".toList, "00002902-0000-1000-8000-00805F9B34FB".toList]

def ConfUuid.PrintsCccd : ConfUuid → Prop
  | .text value _ => value ∈ cccdTexts
  | .number value => value = 0x2902

theorem cccdStr_eq : cccdStr = hexBytes [0x00, 0x00, 0x29, 0x02] ++ baseSuffix := by
  decide +kernel

theorem hexUpper_inj {xs ys : List UInt8} (length : xs.length = ys.length)
    (same : hexUpper xs = hexUpper ys) : xs = ys := by
  have lowered := congrArg (·.map Char.toLower) same
  simp only [map_toLower_hexUpper] at lowered
  exact hexBytes_append_inj length (show hexBytes xs ++ [] = hexBytes ys ++ [] by rw [lowered])

/-- A text of the 128-bit format is determined by its lower-case form. -/
theorem map_toUpper_map_toLower {value : List Char}
    (digits : ∀ c ∈ value, isUpperDigit c = true ∨ c = '-') :
    (value.map Char.toLower).map Char.toUpper = value := by
  rw [List.map_map]
  refine (List.map_congr_left fun c mem => ?_).trans (List.map_id value)
  rcases digits c mem with digit | rfl
  · obtain ⟨n, hn, rfl⟩ := exists_upper_of_isUpperDigit digit
    exact Hex.forall_nibble
      (p := fun n => (Char.toUpper ∘ Char.toLower) (Hex.upper n) = id (Hex.upper n)) (by decide) hn
  · rfl

theorem mem_cccdTexts_iff (value : List Char) :
    value ∈ cccdTexts ↔ value = hexUpper [0x02, 0x29] ∨ value = hexUpper [0x02, 0x29, 0x00, 0x00] ∨
      value = cccdStr.map Char.toUpper := by
  have texts : cccdTexts = [hexUpper [0x02, 0x29], hexUpper [0x02, 0x29, 0x00, 0x00],
      cccdStr.map Char.toUpper] := by decide +kernel
  rw [texts]
  simp only [List.mem_cons, List.not_mem_nil, or_false]

theorem length_cccdStr : cccdStr.length = 36 := by decide +kernel

theorem bluez_eq_cccd_iff (u : ConfUuid) :
    uuidToBluezStr u.parseUuid = cccdStr ↔ u.PrintsCccd := by
  rcases u.shapes with ⟨a, b, accepted, rfl⟩ | ⟨a, b, c, d, accepted, rfl⟩ |
    ⟨value, accepted, rfl, length, checked⟩ | ⟨value, rfl⟩
  · rw [ConfUuid.parseUuid, bluez_text16, cccdStr_eq, ConfUuid.PrintsCccd, mem_cccdTexts_iff]
    constructor
    · intro same
      have bytes := hexBytes_append_inj (by rfl) same
      simp only [List.cons.injEq, true_and, and_true] at bytes
      exact .inl (by rw [bytes.1, bytes.2])
    · rintro (same | same | same)
      · have bytes := hexUpper_inj (by rfl) same
        simp only [List.cons.injEq, and_true] at bytes
        rw [bytes.1, bytes.2]
      · have lengths := congrArg List.length same
        simp at lengths
      · have lengths := congrArg List.length same
        simp [length_cccdStr] at lengths
  · rw [ConfUuid.parseUuid, bluez_text32, cccdStr_eq, ConfUuid.PrintsCccd, mem_cccdTexts_iff]
    constructor
    · intro same
      have bytes := hexBytes_append_inj (by rfl) same
      simp only [List.cons.injEq, and_true] at bytes
      obtain ⟨rfl, rfl, rfl, rfl⟩ := bytes
      exact .inr (.inl rfl)
    · rintro (same | same | same)
      · have lengths := congrArg List.length same
        simp at lengths
      · have bytes := hexUpper_inj (by rfl) same
        simp only [List.cons.injEq, and_true] at bytes
        obtain ⟨rfl, rfl, rfl, rfl⟩ := bytes
        rfl
      · have lengths := congrArg List.length same
        simp [length_cccdStr] at lengths
  · rw [ConfUuid.parseUuid, bluez_text128 length checked, ConfUuid.PrintsCccd, mem_cccdTexts_iff]
    constructor
    · intro same
      rw [← same, map_toUpper_map_toLower (upperDigit_or_dash length checked)]
      exact .inr (.inr rfl)
    · rintro (same | same | same)
      · rw [same, length_hexUpper] at length
        simp at length
      · rw [same, length_hexUpper] at length
        simp at length
      · rw [same]
        decide +kernel
  · rw [ConfUuid.parseUuid, ConfUuid.PrintsCccd, bluez_number, cccdStr_eq]
    constructor
    · intro same
      have bytes := hexBytes_append_inj (by rfl) same
      simp only [List.cons.injEq, and_true] at bytes
      obtain ⟨b3, b2, b1, b0⟩ := bytes
      rw [← le32_bytes value, b0, b1, b2, b3]
      decide
    · rintro rfl
      decide +kernel

/-- What `build_tree_` leaves out is printed as the CCCD. -/
theorem printsCccd_of_beq {u : ConfUuid} (dropped : (u.parseUuid == fromUint16 0x2902) = true) :
    u.PrintsCccd := by
  have denoted := ((beq_iff_denotes (sized_fromUint16 _)).mp dropped).1
  have same : u.parseUuid.as128bit = (fromUint16 0x2902).as128bit := of_decide_eq_true denoted
  rw [← bluez_eq_cccd_iff, uuidToBluezStr_eq, ← toStr_as128bit, same, toStr_as128bit]
  decide +kernel

/-- What is printed as the CCCD is exported, or should be. -/
theorem ConfUuid.PrintsCccd.cases {u : ConfUuid} (prints : u.PrintsCccd) :
    (u.parseUuid == fromUint16 0x2902) = false ∨ u.canonicalForm ≠ cccdStr := by
  cases u with
  | number value =>
      rw [ConfUuid.PrintsCccd] at prints
      subst prints
      exact .inl (by decide +kernel)
  | text value accepted =>
      rcases (mem_cccdTexts_iff value).mp prints with rfl | rfl | rfl
      · right
        rw [ConfUuid.canonicalForm_text16]
        decide +kernel
      · left
        rw [ConfUuid.parseUuid]
        decide +kernel
      · left
        rw [ConfUuid.parseUuid]
        decide +kernel

/-! ## The tree of a server -/

namespace BLEServer

open BLEGattServer

/-- What `setup` makes of the services. -/
def tree (server : BLEServer) : BLEGattServer Nat := start server.table.services {}

variable {server : BLEServer} {confs : List CharacteristicConfig}
  {chrs : List (BLECharacteristic Nat)}

theorem tree_services :
    server.tree.services.map (·.uuidStr) =
      server.all.map fun e => uuidToBluezStr e.service.uuid := by
  have owner := serviceNodes_svc server.table.services 0
  have printed : (serviceNodes server.table.services 0).map (·.uuidStr) =
      ((serviceNodes server.table.services 0).map (·.svc)).map (uuidToBluezStr ·.uuid) := by
    rw [serviceNodes, List.map_map, List.map_map, List.map_map]
    rfl
  rw [tree, start_eq]
  show (serviceNodes server.table.services 0).map (·.uuidStr) = _
  rw [printed, owner, table, List.map_map]
  rfl

theorem tree_chars :
    server.tree.chars.map (·.chr) = server.all.flatMap (·.service.characteristics) := by
  rw [tree, start_eq]
  show (tableNodes server.table).map (·.chr) = _
  rw [tableNodes_chr, table, List.flatMap_map]

theorem tree_descs :
    server.tree.descs.map (·.desc) =
      (server.all.flatMap (·.service.characteristics)).flatMap exportedDescs := by
  rw [← tree_chars, tree, start_eq, List.flatMap_map, List.map_flatMap]
  exact congrArg ((tableNodes server.table).flatMap ·) (funext descsBelow_desc)

theorem tree_chars_uuidStr :
    server.tree.chars.map (·.uuidStr) = server.tree.chars.map (uuidToBluezStr ·.chr.uuid) := by
  rw [tree, start_eq]
  refine List.map_congr_left fun n mem => ?_
  obtain ⟨e, -, mem⟩ := List.mem_flatMap.mp mem
  obtain ⟨c, -, rfl⟩ := List.mem_map.mp mem
  rfl

theorem tree_descs_uuidStr :
    server.tree.descs.map (·.uuidStr) = server.tree.descs.map (uuidToBluezStr ·.desc.uuid) := by
  rw [tree, start_eq]
  refine List.map_congr_left fun n mem => ?_
  obtain ⟨c, -, mem⟩ := List.mem_flatMap.mp mem
  obtain ⟨d, -, rfl⟩ := List.mem_map.mp mem
  rfl

/-- What holds of every object holds of the objects of a configuration. -/
theorem map_of_objects {γ : Type} {g : BLECharacteristic Nat → γ} {h : CharacteristicConfig → γ}
    (each : ∀ conf address, g (conf.object address) = h conf)
    (objects : List.Forall₂ IsObject chrs confs) : chrs.map g = confs.map h := by
  induction objects with
  | nil => rfl
  | @cons chr conf _ _ object _ ih =>
      rw [List.map_cons, List.map_cons, ih, show chr = conf.object chr.self from object, each]

end BLEServer

/-! ## The property -/

namespace ServerConfig

/-- The descriptors of all characteristics. -/
def descriptors (conf : ServerConfig) : List DescriptorConfig :=
  (conf.services.flatMap (·.characteristics)).flatMap (·.descriptors)

/-- No node has the string of the CCCD, and each descriptor that is something else has a node of its
own. -/
structure CccdKept (conf : ServerConfig) (tree : BLEGattServer Nat) : Prop where
  hidden : cccdStr ∉ tree.services.map (·.uuidStr) ++ tree.chars.map (·.uuidStr) ++
    tree.descs.map (·.uuidStr)
  others : ((conf.descriptors.filter fun desc => desc.uuid.canonicalForm ≠ cccdStr).map
    (·.uuid.parseUuid)).Subperm (tree.descs.map (·.desc.uuid))

variable {conf : ServerConfig} {server : BLEServer}

theorem chars_uuidStr_perm (mirrors : server.Mirrors conf.services) :
    (server.tree.chars.map (·.uuidStr)).Perm
      ((conf.services.flatMap (·.characteristics)).map (uuidToBluezStr ·.uuid.parseUuid)) := by
  have objects := BLEServer.map_of_objects (g := (uuidToBluezStr ·.uuid))
    (h := (uuidToBluezStr ·.uuid.parseUuid)) (fun _ _ => rfl) mirrors.characteristics
  have printed : server.tree.chars.map (·.uuidStr) =
      (server.all.flatMap (·.service.characteristics)).map (uuidToBluezStr ·.uuid) := by
    rw [BLEServer.tree_chars_uuidStr, ← BLEServer.tree_chars, List.map_map]
    rfl
  rw [printed, ← objects]
  exact (server.all_perm.flatMap_right _).map _

/-- The exported descriptors are those that are not stored as the 16-bit 0x2902. -/
theorem descs_perm (mirrors : server.Mirrors conf.services) :
    (server.tree.descs.map (·.desc.uuid)).Perm
      ((conf.descriptors.map (·.uuid.parseUuid)).filter (!· == fromUint16 0x2902)) := by
  have objects := BLEServer.map_of_objects
    (g := fun chr => (BLEGattServer.exportedDescs chr).map (·.uuid))
    (h := fun chr => (chr.descriptors.map (·.uuid.parseUuid)).filter (!· == fromUint16 0x2902))
    (fun chr address => by
      rw [BLEGattServer.exportedDescs, CharacteristicConfig.object, List.filter_map, List.map_map,
        List.filter_map]
      rfl) mirrors.characteristics
  have exported : server.tree.descs.map (·.desc.uuid) =
      (server.all.flatMap (·.service.characteristics)).flatMap fun chr =>
        (BLEGattServer.exportedDescs chr).map (·.uuid) := by
    rw [← List.map_flatMap, ← BLEServer.tree_descs, List.map_map]
    rfl
  have configured : (conf.descriptors.map (·.uuid.parseUuid)).filter (!· == fromUint16 0x2902) =
      (conf.services.flatMap (·.characteristics)).flatMap fun chr =>
        (chr.descriptors.map (·.uuid.parseUuid)).filter (!· == fromUint16 0x2902) := by
    rw [descriptors, List.map_flatMap, List.filter_flatMap]
  rw [exported, configured, List.flatMap_def (l := conf.services.flatMap _), ← objects,
    ← List.flatMap_def]
  exact (server.all_perm.flatMap_right _).flatMap_right _

theorem mem_descs_iff (mirrors : server.Mirrors conf.services) (uuid : ESPBTUUID) :
    uuid ∈ server.tree.descs.map (·.desc.uuid) ↔
      uuid ∈ conf.descriptors.map (·.uuid.parseUuid) ∧ (uuid == fromUint16 0x2902) = false := by
  rw [(descs_perm mirrors).mem_iff, List.mem_filter, Bool.not_eq_true']

theorem printsCccd_ne_dis {u : ConfUuid} (dis : uuidIs u 0x180A = true) : ¬ u.PrintsCccd := by
  intro prints
  cases u with
  | number value =>
      rw [ConfUuid.PrintsCccd] at prints
      subst prints
      exact absurd dis (by decide)
  | text value accepted =>
      rw [uuidIs] at dis
      rcases (mem_cccdTexts_iff value).mp prints with rfl | rfl | rfl <;>
        exact absurd dis (by decide +kernel)

theorem mem_uuids_iff {u : ConfUuid} :
    u ∈ conf.uuids ↔ (∃ svc ∈ conf.services, u = svc.uuid) ∨
      (∃ chr ∈ conf.services.flatMap (·.characteristics), u = chr.uuid) ∨
      ∃ desc ∈ conf.descriptors, u = desc.uuid := by
  simp only [uuids, ServiceConfig.uuids, CharacteristicConfig.uuids, descriptors, List.mem_flatMap,
    List.mem_cons, List.mem_map]
  constructor
  · rintro ⟨svc, inside, rfl | ⟨chr, below, rfl | ⟨desc, under, rfl⟩⟩⟩
    · exact .inl ⟨svc, inside, rfl⟩
    · exact .inr (.inl ⟨chr, ⟨svc, inside, below⟩, rfl⟩)
    · exact .inr (.inr ⟨desc, ⟨chr, ⟨svc, inside, below⟩, under⟩, rfl⟩)
  · rintro (⟨svc, inside, rfl⟩ | ⟨chr, ⟨svc, inside, below⟩, rfl⟩ |
      ⟨desc, ⟨chr, ⟨svc, inside, below⟩, under⟩, rfl⟩)
    · exact ⟨svc, inside, .inl rfl⟩
    · exact ⟨svc, inside, .inr ⟨chr, below, .inl rfl⟩⟩
    · exact ⟨svc, inside, .inr ⟨chr, below, .inr ⟨desc, under, rfl⟩⟩⟩

/-- The tree of what was configured is as it should be exactly if no UUID is printed as the CCCD. -/
theorem cccdKept_iff_uuids (mirrors : server.Mirrors conf.services) :
    conf.CccdKept server.tree ↔ ∀ u ∈ conf.uuids, ¬ u.PrintsCccd := by
  have printed : server.tree.descs.map (·.uuidStr) =
      (server.tree.descs.map (·.desc.uuid)).map uuidToBluezStr := by
    rw [BLEServer.tree_descs_uuidStr, List.map_map]
    rfl
  constructor
  · rintro ⟨hidden, others⟩ u mem prints
    simp only [List.mem_append, not_or] at hidden
    obtain ⟨⟨services, chars⟩, descs⟩ := hidden
    have bluez := (bluez_eq_cccd_iff u).mpr prints
    rcases mem_uuids_iff.mp mem with ⟨svc, inside, rfl⟩ | ⟨chr, inside, rfl⟩ | ⟨desc, inside, rfl⟩
    · rcases mirrors.kept svc inside with ⟨e, created, same⟩ | dis
      · refine services ?_
        rw [BLEServer.tree_services, List.mem_map]
        exact ⟨e, server.all_perm.mem_iff.mpr created, same ▸ bluez⟩
      · exact printsCccd_ne_dis dis prints
    · exact chars ((chars_uuidStr_perm mirrors).mem_iff.mpr (List.mem_map.mpr ⟨chr, inside, bluez⟩))
    · have configured := List.mem_map_of_mem (f := (·.uuid.parseUuid)) inside
      have exported : desc.uuid.parseUuid ∈ server.tree.descs.map (·.desc.uuid) := by
        rcases prints.cases with kept | other
        · exact (mem_descs_iff mirrors _).mpr ⟨configured, kept⟩
        · have checked : desc ∈ conf.descriptors.filter fun d => d.uuid.canonicalForm ≠ cccdStr :=
            List.mem_filter.mpr ⟨inside, decide_eq_true other⟩
          exact others.subset (List.mem_map.mpr ⟨desc, checked, rfl⟩)
      refine descs ?_
      rw [printed]
      exact bluez ▸ List.mem_map_of_mem exported
  · intro none
    have silent {u : ConfUuid} (mem : u ∈ conf.uuids) : uuidToBluezStr u.parseUuid ≠ cccdStr :=
      mt (bluez_eq_cccd_iff u).mp (none u mem)
    refine ⟨?_, ?_⟩
    · simp only [List.mem_append, not_or]
      refine ⟨⟨fun mem => ?_, fun mem => ?_⟩, fun mem => ?_⟩
      · rw [BLEServer.tree_services, List.mem_map] at mem
        obtain ⟨e, created, same⟩ := mem
        obtain ⟨svc, inside, uuids⟩ := mirrors.created e (server.all_perm.mem_iff.mp created)
        exact silent (mem_uuids_iff.mpr (.inl ⟨svc, inside, rfl⟩)) (uuids ▸ same)
      · obtain ⟨chr, inside, same⟩ :=
          List.mem_map.mp ((chars_uuidStr_perm mirrors).mem_iff.mp mem)
        exact silent (mem_uuids_iff.mpr (.inr (.inl ⟨chr, inside, rfl⟩))) same
      · rw [printed, List.mem_map] at mem
        obtain ⟨uuid, exported, same⟩ := mem
        obtain ⟨desc, inside, rfl⟩ :=
          List.mem_map.mp ((mem_descs_iff mirrors uuid).mp exported).1
        exact silent (mem_uuids_iff.mpr (.inr (.inr ⟨desc, inside, rfl⟩))) same
    · have all : (conf.descriptors.map (·.uuid.parseUuid)).filter (!· == fromUint16 0x2902) =
          conf.descriptors.map (·.uuid.parseUuid) := by
        refine List.filter_eq_self.mpr fun uuid mem => ?_
        obtain ⟨desc, inside, rfl⟩ := List.mem_map.mp mem
        rw [Bool.not_eq_true', Bool.eq_false_iff]
        exact fun dropped => none _ (mem_uuids_iff.mpr (.inr (.inr ⟨desc, inside, rfl⟩)))
          (printsCccd_of_beq dropped)
      have exported := descs_perm mirrors
      rw [all] at exported
      exact (List.filter_sublist.map _).subperm.trans exported.symm.subperm

/-- The condition: no UUID is one of the four printed as the CCCD, and where a CCCD is needed one is
listed. -/
structure AvoidsCccd (conf : ServerConfig) : Prop where
  unprinted : ∀ u ∈ conf.uuids, ¬ u.PrintsCccd
  listed : ∀ chr ∈ conf.services.flatMap (·.characteristics),
    chr.notify = true ∨ chr.indicate = true →
      ∃ desc ∈ chr.descriptors, uuidIs desc.uuid 0x2902 = true

theorem addedUuids_unprinted_iff (chr : CharacteristicConfig) :
    (∀ u ∈ chr.addedUuids, ¬ u.PrintsCccd) ↔
      (chr.notify = true ∨ chr.indicate = true →
        ∃ desc ∈ chr.descriptors, uuidIs desc.uuid 0x2902 = true) := by
  have cud : ∀ u ∈ (if chr.description.isSome then [.number 0x2901] else [] : List ConfUuid),
      ¬ u.PrintsCccd := by
    intro u mem
    split at mem
    · obtain rfl := List.mem_singleton.mp mem
      rw [ConfUuid.PrintsCccd]
      decide
    · cases mem
  rw [CharacteristicConfig.addedUuids]
  simp only [List.forall_mem_append, iff_true_intro cud, true_and]
  split
  · next needed =>
      rw [Bool.and_eq_true, Bool.or_eq_true, Bool.not_eq_true'] at needed
      constructor
      · intro none
        exact absurd rfl (none (.number 0x2902) List.mem_cons_self)
      · intro listed
        have named := List.any_eq_true.mpr (listed needed.1)
        exact absurd (named.symm.trans needed.2) (by decide)
  · next unneeded =>
      refine iff_of_true (fun u absent => absurd absent List.not_mem_nil) fun loud => ?_
      rw [Bool.and_eq_true, Bool.or_eq_true, Bool.not_eq_true', not_and] at unneeded
      exact List.any_eq_true.mp (Bool.not_eq_false _ ▸ unneeded loud)

theorem completed_unprinted_iff (conf : ServerConfig) :
    (∀ u ∈ conf.completed, ¬ u.PrintsCccd) ↔ conf.AvoidsCccd := by
  have dis : ∀ u ∈ (if conf.services.any (uuidIs ·.uuid 0x180A) then []
      else [.number 0x180A, .number 0x2A29, .number 0x2A24, .number 0x2A26] : List ConfUuid),
      ¬ u.PrintsCccd := by
    intro u mem
    split at mem
    · cases mem
    · simp only [List.mem_cons, List.not_mem_nil, or_false] at mem
      rcases mem with rfl | rfl | rfl | rfl <;> rw [ConfUuid.PrintsCccd] <;> decide
  rw [completed]
  simp only [List.forall_mem_append, iff_true_intro dis, and_true, List.forall_mem_flatMap,
    ServiceConfig.completed, List.forall_mem_cons, addedUuids_unprinted_iff]
  have given : (∀ u ∈ conf.uuids, ¬ u.PrintsCccd) ↔ ∀ svc ∈ conf.services, ¬ svc.uuid.PrintsCccd ∧
      ∀ chr ∈ svc.characteristics, ∀ u ∈ chr.uuids, ¬ u.PrintsCccd := by
    simp only [uuids, ServiceConfig.uuids, List.forall_mem_flatMap, List.forall_mem_cons]
  constructor
  · intro all
    refine ⟨given.mpr fun svc inside => ⟨(all svc inside).1, fun chr below =>
      ((all svc inside).2 chr below).1⟩, fun chr mem => ?_⟩
    obtain ⟨svc, inside, below⟩ := List.mem_flatMap.mp mem
    exact ((all svc inside).2 chr below).2
  · rintro ⟨unprinted, listed⟩ svc inside
    obtain ⟨service, chars⟩ := given.mp unprinted svc inside
    exact ⟨service, fun chr below =>
      ⟨chars chr below, listed chr (List.mem_flatMap.mpr ⟨svc, inside, below⟩)⟩⟩

/-- **The CCCD is kept out of the tree, and it alone, exactly if the configuration avoids it.** -/
theorem cccdKept_iff {project : Project} {conf conf' : ServerConfig} {server : BLEServer}
    (accepted : conf.validate project = .ok conf') (made : conf'.toCode = some server) :
    conf'.CccdKept server.tree ↔ conf.AvoidsCccd := by
  rw [cccdKept_iff_uuids (toCode_mirrors made), uuids_validate accepted, completed_unprinted_iff]

/-- A battery service that notifies its level, with the CCCD as `descriptors` list it. -/
def batteryConfig (descriptors : List DescriptorConfig) : ServerConfig where
  services := [{ uuid := .number 0x180F, characteristics :=
    [{ uuid := .number 0x2A19, notify := true, descriptors := descriptors }] }]

/-- A battery service whose CCCD is listed as 2902. -/
theorem cccdKept_listed :
    ∃ desc : DescriptorConfig, ∃ conf' server,
      (batteryConfig [desc]).validate ⟨none, none, ""⟩ = .ok conf' ∧
        conf'.toCode = some server ∧ conf'.CccdKept server.tree := by
  have short : IsUuidText "2902".toList := by decide +kernel
  let desc : DescriptorConfig := { uuid := .text "2902".toList short, value := [0, 0] }
  obtain ⟨conf', accepted, few⟩ : ∃ conf', (batteryConfig [desc]).validate ⟨none, none, ""⟩ =
      .ok conf' ∧ conf'.services.length ≤ 255 := ⟨_, rfl, show 2 ≤ 255 by decide⟩
  obtain ⟨server, made⟩ := Option.isSome_iff_exists.mp
    (toCode_isSome fun _ => List.countP_le_length.trans few)
  refine ⟨desc, conf', server, accepted, made, (cccdKept_iff accepted made).mpr ⟨?_, ?_⟩⟩
  · rw [show (batteryConfig [desc]).uuids = [.number 0x180F, .number 0x2A19, desc.uuid] from rfl]
    simp only [List.forall_mem_cons, List.not_mem_nil, false_implies, implies_true, and_true]
    exact ⟨show ¬ (0x180F : UInt32) = 0x2902 by decide, show ¬ (0x2A19 : UInt32) = 0x2902 by decide,
      show ¬ "2902".toList ∈ cccdTexts by decide +kernel⟩
  · intro chr mem _
    obtain rfl := List.mem_singleton.mp mem
    refine ⟨desc, List.mem_cons_self, ?_⟩
    show (uuidTexts 0x2902).contains ("2902".toList.map Char.toUpper) = true
    decide +kernel

/-- The CCCD that the schema adds to a characteristic that notifies is exported. -/
theorem not_cccdKept_notify :
    ¬ ∀ (project : Project) (conf conf' : ServerConfig) (server : BLEServer),
      conf.validate project = .ok conf' → conf'.toCode = some server →
        conf'.CccdKept server.tree := by
  intro all
  obtain ⟨conf', accepted, few⟩ : ∃ conf', (batteryConfig []).validate ⟨none, none, ""⟩ =
      .ok conf' ∧ conf'.services.length ≤ 255 := ⟨_, rfl, by decide⟩
  obtain ⟨server, made⟩ := Option.isSome_iff_exists.mp
    (toCode_isSome fun _ => List.countP_le_length.trans few)
  have kept := all _ _ _ _ accepted made
  rw [cccdKept_iff_uuids (toCode_mirrors made), uuids_validate accepted] at kept
  exact kept (.number 0x2902) (.tail _ (.tail _ (.head _))) rfl

end ServerConfig

end EsphomeHost

import EsphomeHost.Gatt.Tree

/-!
# What the walk of a reply links

The objects of a reply by what BlueZ says about them, and the tree and routing map that
`walk_gatt_tree_` makes of them.

* `gattObject_eq`: an object is parsed as its properties say.
* `linkServices_eq`: the walk succeeds exactly if every attribute it emits has a handle, and then it
  emits the `discoveredServices` of the reply and routes their `entries`.
-/

namespace EsphomeHost

/-! ## Objects by their properties -/

def GattInterface.kind : GattInterface → GattKind
  | service1 => .service
  | characteristic1 => .characteristic
  | descriptor1 => .descriptor
  | other => .other

namespace GattProp

def handle? : GattProp → Option UInt16
  | handle h => some h
  | _ => none

def parent? : GattProp → Option (List Char)
  | service path | characteristic path => some path
  | _ => none

def uuid? : GattProp → Option ESPBTUUID
  | uuid s => some (ESPBTUUID.fromUuidStr s)
  | _ => none

def flags? : GattProp → List (List Char)
  | flags fs => fs
  | _ => []

end GattProp

/-- The GATT interfaces of an object.  BlueZ's objects have at most one; of several the last one
counts. -/
def gattEntries (interfaces : List (GattInterface × List GattProp)) :
    List (GattInterface × List GattProp) := interfaces.filter (·.1 ≠ .other)

def lastKind (entries : List (GattInterface × List GattProp)) : Option GattKind :=
  entries.getLast?.map (·.1.kind)

/-- The `Flags` of the characteristic interfaces. -/
def characteristicFlags (interfaces : List (GattInterface × List GattProp)) : List (List Char) :=
  ((interfaces.filter (·.1 = .characteristic1)).flatMap (·.2)).flatMap GattProp.flags?

namespace ManagedObject

variable (o : ManagedObject)

def kind : GattKind := (lastKind (gattEntries o.interfaces)).getD .other

def props : List GattProp := (gattEntries o.interfaces).flatMap (·.2)

def handle? : Option UInt16 := (o.props.filterMap GattProp.handle?).getLast?

/-- `Service` of a characteristic, `Characteristic` of a descriptor. -/
def parent? : Option (List Char) := (o.props.filterMap GattProp.parent?).getLast?

def uuid : ESPBTUUID := (o.props.filterMap GattProp.uuid?).getLast?.getD ⟨.replicate 16 0, 0⟩

/-- The bits of the flags. -/
def flagBits : UInt8 :=
  (characteristicFlags o.interfaces).foldl (fun bits flag => bits ||| flagToProp flag) 0

/-- The object as it is parsed. -/
def parsed : GattObj where
  path := o.path
  kind := o.kind
  uuid := o.uuid
  handle := o.handle?.getD 0
  hasHandle := o.handle?.isSome
  parent := o.parent?.getD []
  props := o.flagBits

end ManagedObject

/-- `obj` after the properties `ps`, of which `flags` are flags of a characteristic. -/
def GattObj.afterProps (obj : GattObj) (ps : List GattProp) (flags : List (List Char)) : GattObj :=
  { obj with
    uuid := (ps.filterMap GattProp.uuid?).getLast?.getD obj.uuid
    handle := (ps.filterMap GattProp.handle?).getLast?.getD obj.handle
    hasHandle := obj.hasHandle || (ps.filterMap GattProp.handle?).getLast?.isSome
    parent := (ps.filterMap GattProp.parent?).getLast?.getD obj.parent
    props := flags.foldl (fun bits flag => bits ||| flagToProp flag) obj.props }

theorem afterProps_nil (obj : GattObj) : obj.afterProps [] [] = obj := by
  simp [GattObj.afterProps]

theorem afterProps_afterProps (obj : GattObj) (ps qs : List GattProp)
    (flags flags' : List (List Char)) :
    (obj.afterProps ps flags).afterProps qs flags' =
      obj.afterProps (ps ++ qs) (flags ++ flags') := by
  simp only [GattObj.afterProps, List.filterMap_append, List.getLast?_append, Option.getD_or,
    List.foldl_append, Option.isSome_or]
  rw [Bool.or_assoc, Bool.or_comm (Option.isSome _)]

theorem gattProp_eq (isChar : Bool) (obj : GattObj) (p : GattProp) :
    gattProp isChar obj p = obj.afterProps [p] (if isChar then p.flags? else []) := by
  cases p with
  | _ =>
      cases isChar <;>
        simp [gattProp, GattObj.afterProps, GattProp.uuid?, GattProp.handle?, GattProp.parent?,
          GattProp.flags?]

theorem gattProp_foldl (isChar : Bool) (ps : List GattProp) (obj : GattObj) :
    ps.foldl (gattProp isChar) obj =
      obj.afterProps ps (if isChar then ps.flatMap GattProp.flags? else []) := by
  induction ps generalizing obj with
  | nil =>
      rw [List.flatMap_nil, ite_self]
      exact (afterProps_nil obj).symm
  | cons p ps ih =>
      rw [List.foldl_cons, ih, gattProp_eq, afterProps_afterProps]
      cases isChar <;> simp

theorem gattInterface_eq (obj : GattObj) (i : GattInterface) (ps : List GattProp)
    (gatt : i ≠ .other) :
    gattInterface obj (i, ps) = GattObj.afterProps { obj with kind := i.kind } ps
      (if i = .characteristic1 then ps.flatMap GattProp.flags? else []) := by
  cases i with
  | other => exact absurd rfl gatt
  | service1 | characteristic1 | descriptor1 => exact gattProp_foldl _ ps _

theorem lastKind_cons (i : GattInterface) (ps : List GattProp)
    (entries : List (GattInterface × List GattProp)) (none : GattKind) :
    (lastKind ((i, ps) :: entries)).getD none = (lastKind entries).getD i.kind := by
  unfold lastKind
  rw [List.getLast?_cons]
  cases entries.getLast? <;> rfl

theorem gattInterface_foldl (interfaces : List (GattInterface × List GattProp)) (obj : GattObj) :
    interfaces.foldl gattInterface obj =
      GattObj.afterProps
        { obj with kind := (lastKind (gattEntries interfaces)).getD obj.kind }
        ((gattEntries interfaces).flatMap (·.2)) (characteristicFlags interfaces) := by
  induction interfaces generalizing obj with
  | nil => exact (afterProps_nil obj).symm
  | cons entry rest ih =>
      obtain ⟨i, ps⟩ := entry
      rw [List.foldl_cons, ih]
      by_cases gatt : i = .other
      · subst gatt
        rfl
      · have entries : gattEntries ((i, ps) :: rest) = (i, ps) :: gattEntries rest :=
          List.filter_cons_of_pos (decide_eq_true gatt)
        have flags : characteristicFlags ((i, ps) :: rest) =
            (if i = .characteristic1 then ps.flatMap GattProp.flags? else []) ++
              characteristicFlags rest := by
          by_cases isChar : i = .characteristic1 <;> simp [characteristicFlags, isChar]
        rw [gattInterface_eq obj i ps gatt, entries, flags, lastKind_cons, List.flatMap_cons,
          ← afterProps_afterProps]
        rfl

/-- **An object is parsed as its properties say.** -/
theorem gattObject_eq (o : ManagedObject) :
    o.interfaces.foldl gattInterface { path := o.path } = o.parsed := by
  rw [gattInterface_foldl]
  rfl

/-! ## The routing map -/

namespace HandleMap

/-- Several entries stored one after the other. -/
def setAll (m : HandleMap) (entries : List (UInt16 × ObjEntry)) : HandleMap :=
  entries.foldl (fun m entry => m.set entry.1 entry.2) m

theorem setAll_append (m : HandleMap) (entries entries' : List (UInt16 × ObjEntry)) :
    m.setAll (entries ++ entries') = (m.setAll entries).setAll entries' := List.foldl_append

theorem lookup_filter_ne (m : HandleMap) {handle other : UInt16} (different : other ≠ handle) :
    (m.filter (·.1 ≠ handle)).lookup other = m.lookup other := by
  induction m with
  | nil => rfl
  | cons entry rest ih =>
      obtain ⟨h, e⟩ := entry
      by_cases same : h = handle
      · subst same
        rw [List.filter_cons_of_neg (by simp), ih, List.lookup_cons, beq_false_of_ne different]
      · rw [List.filter_cons_of_pos (by simpa using same), List.lookup_cons, List.lookup_cons, ih]

theorem lookup_filter_self (m : HandleMap) (handle : UInt16) :
    (m.filter (·.1 ≠ handle)).lookup handle = none := by
  rw [List.lookup_eq_none_iff]
  intro entry mem
  have different := of_decide_eq_true (List.mem_filter.mp mem).2
  exact bne_iff_ne.mpr (Ne.symm different)

theorem lookup_set (m : HandleMap) (handle : UInt16) (entry : ObjEntry) (other : UInt16) :
    (m.set handle entry).lookup other = if other = handle then some entry else m.lookup other := by
  rw [HandleMap.set, List.lookup_append]
  by_cases same : other = handle
  · subst same
    rw [if_pos rfl, lookup_filter_self, Option.none_or, List.lookup_cons_self]
  · rw [if_neg same, lookup_filter_ne m same, List.lookup_cons, beq_false_of_ne same,
      List.lookup_nil, Option.or_none]

/-- A handle is routed to an entry stored for it. -/
theorem mem_of_lookup_setAll {entries : List (UInt16 × ObjEntry)} {m : HandleMap}
    {handle : UInt16} {entry : ObjEntry} (found : (m.setAll entries).lookup handle = some entry) :
    (handle, entry) ∈ entries ∨ m.lookup handle = some entry := by
  induction entries generalizing m with
  | nil => exact .inr found
  | cons e rest ih =>
      rcases ih found with mem | before
      · exact .inl (List.mem_cons_of_mem _ mem)
      · rw [lookup_set] at before
        split at before
        · rename_i same
          obtain rfl := Option.some.inj before
          exact .inl (by rw [same]; exact List.mem_cons_self)
        · exact .inr before

/-- What was stored is routed. -/
theorem lookup_setAll_isSome {entries : List (UInt16 × ObjEntry)} {m : HandleMap}
    {handle : UInt16} (stored : handle ∈ entries.map Prod.fst ∨ (m.lookup handle).isSome) :
    ((m.setAll entries).lookup handle).isSome := by
  induction entries generalizing m with
  | nil => exact stored.resolve_left (by simp)
  | cons e rest ih =>
      refine ih ?_
      rw [lookup_set]
      rcases stored with mem | before
      · rcases List.mem_cons.mp mem with same | mem
        · exact .inr (by simp [same])
        · exact .inl mem
      · refine .inr ?_
        split
        · rfl
        · exact before

end HandleMap

/-! ## Linking -/

section Link

variable (objs : List GattObj)

def serviceObjs : List GattObj := objs.filter (·.kind = .service)

def characteristicObjs (o : GattObj) : List GattObj :=
  objs.filter fun c => c.kind = .characteristic ∧ c.parent = o.path

def descriptorObjs (c : GattObj) : List GattObj :=
  objs.filter fun d => d.kind = .descriptor ∧ d.parent = c.path

def linkedDescriptor (d : GattObj) : DiscoveredDescriptor := ⟨d.uuid, d.handle⟩

def linkedCharacteristic (c : GattObj) : DiscoveredCharacteristic :=
  ⟨c.uuid, c.handle, c.props, (descriptorObjs objs c).map linkedDescriptor⟩

def linkedService (o : GattObj) : DiscoveredService :=
  ⟨o.uuid, o.handle, o.handle, (characteristicObjs objs o).map (linkedCharacteristic objs)⟩

def descriptorRoute (c d : GattObj) : UInt16 × ObjEntry :=
  (d.handle, ⟨d.path, .descriptor, c.handle⟩)

def characteristicRoutes (c : GattObj) : List (UInt16 × ObjEntry) :=
  (c.handle, ⟨c.path, .characteristic, c.handle⟩) ::
    (descriptorObjs objs c).map (descriptorRoute c)

def serviceRoutes (o : GattObj) : List (UInt16 × ObjEntry) :=
  (characteristicObjs objs o).flatMap (characteristicRoutes objs)

/-- The characteristic and its descriptors have handles. -/
def HasHandles (c : GattObj) : Prop :=
  c.hasHandle = true ∧ ∀ d ∈ descriptorObjs objs c, d.hasHandle = true

variable {objs}

theorem linkDescriptors_eq (c : GattObj) (l : List GattObj) (m : HandleMap) :
    ((∀ d ∈ descriptorObjs l c, d.hasHandle = true) → linkDescriptors c l m =
      (m.setAll ((descriptorObjs l c).map (descriptorRoute c)),
        some ((descriptorObjs l c).map linkedDescriptor))) ∧
    ((∃ d ∈ descriptorObjs l c, d.hasHandle = false) → (linkDescriptors c l m).2 = none) := by
  induction l generalizing m with
  | nil => exact ⟨fun _ => rfl, fun ⟨_, mem, _⟩ => nomatch mem⟩
  | cons d rest ih =>
      by_cases mine : d.kind = .descriptor ∧ d.parent = c.path
      · have here : descriptorObjs (d :: rest) c = d :: descriptorObjs rest c :=
          List.filter_cons_of_pos (decide_eq_true mine)
        have skip : ¬ (d.kind ≠ .descriptor ∨ d.parent ≠ c.path) := by simpa using mine
        rw [here, linkDescriptors, if_neg skip]
        cases has : d.hasHandle with
        | false =>
            refine ⟨fun all => ?_, fun _ => rfl⟩
            have := all d List.mem_cons_self
            rw [has] at this
            cases this
        | true =>
            obtain ⟨whole, missing⟩ := ih (m.set d.handle ⟨d.path, .descriptor, c.handle⟩)
            constructor
            · intro all
              rw [if_neg (by simp), whole fun e mem => all e (List.mem_cons_of_mem _ mem)]
              rfl
            · rintro ⟨e, mem, lacks⟩
              rcases List.mem_cons.mp mem with rfl | mem
              · rw [has] at lacks
                cases lacks
              · rw [if_neg (by simp)]
                show Option.map _ (linkDescriptors c rest _).2 = none
                rw [missing ⟨e, mem, lacks⟩]
                rfl
      · have here : descriptorObjs (d :: rest) c = descriptorObjs rest c :=
          List.filter_cons_of_neg (by simpa using mine)
        have skip : d.kind ≠ .descriptor ∨ d.parent ≠ c.path := by
          by_cases kind : d.kind = .descriptor
          · exact .inr fun parent => mine ⟨kind, parent⟩
          · exact .inl kind
        rw [here, linkDescriptors, if_pos skip]
        exact ih m

theorem linkCharacteristics_eq (o : GattObj) (l : List GattObj) (m : HandleMap) :
    ((∀ c ∈ characteristicObjs l o, HasHandles objs c) → linkCharacteristics objs o l m =
      (m.setAll ((characteristicObjs l o).flatMap (characteristicRoutes objs)),
        some ((characteristicObjs l o).map (linkedCharacteristic objs)))) ∧
    ((∃ c ∈ characteristicObjs l o, ¬ HasHandles objs c) →
      (linkCharacteristics objs o l m).2 = none) := by
  induction l generalizing m with
  | nil => exact ⟨fun _ => rfl, fun ⟨_, mem, _⟩ => nomatch mem⟩
  | cons c rest ih =>
      by_cases mine : c.kind = .characteristic ∧ c.parent = o.path
      · have here : characteristicObjs (c :: rest) o = c :: characteristicObjs rest o :=
          List.filter_cons_of_pos (decide_eq_true mine)
        have skip : ¬ (c.kind ≠ .characteristic ∨ c.parent ≠ o.path) := by simpa using mine
        rw [here, linkCharacteristics, if_neg skip]
        obtain ⟨linked, failed⟩ := linkDescriptors_eq c objs
          (m.set c.handle ⟨c.path, .characteristic, c.handle⟩)
        obtain ⟨whole, missing⟩ := ih ((m.set c.handle ⟨c.path, .characteristic, c.handle⟩).setAll
          ((descriptorObjs objs c).map (descriptorRoute c)))
        constructor
        · intro all
          obtain ⟨has, descriptors⟩ := all c List.mem_cons_self
          rw [if_neg (by simp [has]), linked descriptors]
          dsimp only
          rw [whole fun e mem => all e (List.mem_cons_of_mem _ mem), List.flatMap_cons,
            HandleMap.setAll_append]
          rfl
        · rintro ⟨e, mem, lacks⟩
          cases has : c.hasHandle with
          | false => rfl
          | true =>
              rw [if_neg (by simp)]
              by_cases descriptors : ∀ d ∈ descriptorObjs objs c, d.hasHandle = true
              · rw [linked descriptors]
                rcases List.mem_cons.mp mem with rfl | mem
                · exact absurd ⟨has, descriptors⟩ lacks
                · show Option.map _ (linkCharacteristics objs o rest _).2 = none
                  rw [missing ⟨e, mem, lacks⟩]
                  rfl
              · obtain ⟨d, here, none⟩ : ∃ d ∈ descriptorObjs objs c, d.hasHandle = false := by
                  simpa using descriptors
                have stopped := failed ⟨d, here, none⟩
                generalize linkDescriptors c objs _ = r at stopped
                obtain ⟨m', tree⟩ := r
                obtain rfl : tree = Option.none := stopped
                rfl
      · have here : characteristicObjs (c :: rest) o = characteristicObjs rest o :=
          List.filter_cons_of_neg (by simpa using mine)
        have skip : c.kind ≠ .characteristic ∨ c.parent ≠ o.path := by
          by_cases kind : c.kind = .characteristic
          · exact .inr fun parent => mine ⟨kind, parent⟩
          · exact .inl kind
        rw [here, linkCharacteristics, if_pos skip]
        exact ih m

/-- **What the walk links.**  It succeeds exactly if every characteristic and descriptor it emits
has a handle. -/
theorem linkServices_eq (l : List GattObj) (m : HandleMap) :
    ((∀ o ∈ serviceObjs l, ∀ c ∈ characteristicObjs objs o, HasHandles objs c) →
      linkServices objs l m = (m.setAll ((serviceObjs l).flatMap (serviceRoutes objs)),
        some ((serviceObjs l).map (linkedService objs)))) ∧
    ((∃ o ∈ serviceObjs l, ∃ c ∈ characteristicObjs objs o, ¬ HasHandles objs c) →
      (linkServices objs l m).2 = none) := by
  induction l generalizing m with
  | nil => exact ⟨fun _ => rfl, fun ⟨_, mem, _⟩ => nomatch mem⟩
  | cons o rest ih =>
      by_cases service : o.kind = .service
      · have here : serviceObjs (o :: rest) = o :: serviceObjs rest :=
          List.filter_cons_of_pos (decide_eq_true service)
        rw [here, linkServices, if_neg (not_not.mpr service)]
        obtain ⟨linked, failed⟩ := @linkCharacteristics_eq objs o objs m
        obtain ⟨whole, missing⟩ :=
          ih (m.setAll ((characteristicObjs objs o).flatMap (characteristicRoutes objs)))
        constructor
        · intro all
          rw [linked (all o List.mem_cons_self)]
          dsimp only
          rw [whole fun e mem => all e (List.mem_cons_of_mem _ mem), List.flatMap_cons,
            HandleMap.setAll_append]
          rfl
        · rintro ⟨e, mem, c, child, lacks⟩
          by_cases complete : ∀ c ∈ characteristicObjs objs o, HasHandles objs c
          · rw [linked complete]
            rcases List.mem_cons.mp mem with rfl | mem
            · exact absurd (complete c child) lacks
            · show Option.map _ (linkServices objs rest _).2 = none
              rw [missing ⟨e, mem, c, child, lacks⟩]
              rfl
          · obtain ⟨c, child, lacks⟩ : ∃ c ∈ characteristicObjs objs o, ¬ HasHandles objs c := by
              simpa using complete
            have stopped := failed ⟨c, child, lacks⟩
            generalize linkCharacteristics objs o objs m = r at stopped
            obtain ⟨m', tree⟩ := r
            obtain rfl : tree = Option.none := stopped
            rfl
      · have here : serviceObjs (o :: rest) = serviceObjs rest :=
          List.filter_cons_of_neg (by simpa using service)
        rw [here, linkServices, if_pos service]
        exact ih m

end Link

/-! ## What a reply describes -/

section Reply

variable (devicePath : List Char) (reply : List ManagedObject)

/-- The device's services. -/
def replyServices : List ManagedObject :=
  reply.filter fun o => (devicePath ++ ['/']) <+: o.path ∧ o.kind = .service

/-- The characteristics whose `Service` is the path of `s`. -/
def replyCharacteristics (s : ManagedObject) : List ManagedObject :=
  reply.filter fun o =>
    (devicePath ++ ['/']) <+: o.path ∧ o.kind = .characteristic ∧ o.parent? = some s.path

/-- The descriptors whose `Characteristic` is the path of `c`. -/
def replyDescriptors (c : ManagedObject) : List ManagedObject :=
  reply.filter fun o =>
    (devicePath ++ ['/']) <+: o.path ∧ o.kind = .descriptor ∧ o.parent? = some c.path

/-- The device's characteristics and descriptors, linked or not. -/
def replyAttributes : List ManagedObject :=
  reply.filter fun o =>
    (devicePath ++ ['/']) <+: o.path ∧ (o.kind = .characteristic ∨ o.kind = .descriptor)

def describedDescriptor (d : ManagedObject) : DiscoveredDescriptor := ⟨d.uuid, d.handle?.getD 0⟩

def describedCharacteristic (c : ManagedObject) : DiscoveredCharacteristic :=
  ⟨c.uuid, c.handle?.getD 0, c.flagBits,
    (replyDescriptors devicePath reply c).map describedDescriptor⟩

def describedService (s : ManagedObject) : DiscoveredService :=
  ⟨s.uuid, s.handle?.getD 0, s.handle?.getD 0,
    (replyCharacteristics devicePath reply s).map (describedCharacteristic devicePath reply)⟩

/-- The services of the device, each with what belongs to it, in the order of the reply. -/
def describedServices : List DiscoveredService :=
  (replyServices devicePath reply).map (describedService devicePath reply)

/-- The entries of the routing map, in the order they are stored in. -/
def describedRoutes : List (UInt16 × ObjEntry) :=
  (replyServices devicePath reply).flatMap fun s =>
    (replyCharacteristics devicePath reply s).flatMap fun c =>
      (c.handle?.getD 0, ⟨c.path, .characteristic, c.handle?.getD 0⟩) ::
        (replyDescriptors devicePath reply c).map fun d =>
          (d.handle?.getD 0, ⟨d.path, .descriptor, c.handle?.getD 0⟩)

/-- A characteristic or descriptor that would be emitted has no handle. -/
def LacksHandle : Prop :=
  ∃ s ∈ replyServices devicePath reply, ∃ c ∈ replyCharacteristics devicePath reply s,
    c.handle? = none ∨ ∃ d ∈ replyDescriptors devicePath reply c, d.handle? = none

variable {devicePath reply}

theorem gattObjects_eq : gattObjects devicePath reply =
    (reply.filter fun o => (devicePath ++ ['/']) <+: o.path ∧ o.kind ≠ .other).map
      ManagedObject.parsed := by
  have parsed : (fun o : ManagedObject => o.interfaces.foldl gattInterface { path := o.path }) =
      ManagedObject.parsed := funext gattObject_eq
  rw [gattObjects, parsed, List.filter_map, List.filter_filter]
  congr 1
  refine List.filter_congr fun o _ => ?_
  rw [Bool.decide_and, Bool.and_comm]
  rfl

/-- The objects of one kind that meet a condition. -/
theorem filter_gattObjects {kind : GattKind} (gatt : kind ≠ .other) (P : GattObj → Prop)
    [DecidablePred P] (Q : ManagedObject → Prop) [DecidablePred Q]
    (same : ∀ o ∈ reply, P o.parsed ↔ Q o) :
    (gattObjects devicePath reply).filter (fun o => o.kind = kind ∧ P o) =
      (reply.filter fun o => (devicePath ++ ['/']) <+: o.path ∧ o.kind = kind ∧ Q o).map
        ManagedObject.parsed := by
  rw [gattObjects_eq, List.filter_map, List.filter_filter]
  congr 1
  refine List.filter_congr fun o mem => ?_
  show (decide (o.kind = kind ∧ P o.parsed) && _) = _
  rw [← Bool.decide_and, decide_eq_decide, same o mem]
  constructor
  · rintro ⟨⟨isKind, holds⟩, under, -⟩
    exact ⟨under, isKind, holds⟩
  · rintro ⟨under, isKind, holds⟩
    exact ⟨⟨isKind, holds⟩, under, fun other => gatt (isKind.symm.trans other)⟩

/-- Under the device path no object is named by the empty path. -/
theorem parent_iff {o p : ManagedObject} (under : (devicePath ++ ['/']) <+: p.path) :
    o.parsed.parent = p.parsed.path ↔ o.parent? = some p.path := by
  show o.parent?.getD [] = p.path ↔ _
  cases o.parent? with
  | some path => simp
  | none =>
      constructor
      · intro empty
        obtain ⟨rest, path⟩ := under
        rw [← path] at empty
        simp at empty
      · exact nofun

theorem serviceObjs_eq : serviceObjs (gattObjects devicePath reply) =
    (replyServices devicePath reply).map ManagedObject.parsed := by
  have gatt : GattKind.service ≠ .other := nofun
  have filtered := @filter_gattObjects devicePath reply .service gatt (fun _ => True) _
    (fun _ => True) _ fun _ _ => Iff.rfl
  simpa only [and_true, serviceObjs, replyServices] using filtered

theorem characteristicObjs_eq {s : ManagedObject} (under : (devicePath ++ ['/']) <+: s.path) :
    characteristicObjs (gattObjects devicePath reply) s.parsed =
      (replyCharacteristics devicePath reply s).map ManagedObject.parsed :=
  have gatt : GattKind.characteristic ≠ .other := nofun
  filter_gattObjects gatt (·.parent = s.path) (·.parent? = some s.path) fun _ _ => parent_iff under

theorem descriptorObjs_eq {c : ManagedObject} (under : (devicePath ++ ['/']) <+: c.path) :
    descriptorObjs (gattObjects devicePath reply) c.parsed =
      (replyDescriptors devicePath reply c).map ManagedObject.parsed :=
  have gatt : GattKind.descriptor ≠ .other := nofun
  filter_gattObjects gatt (·.parent = c.path) (·.parent? = some c.path) fun _ _ => parent_iff under

theorem under_of_service {s : ManagedObject} (mem : s ∈ replyServices devicePath reply) :
    (devicePath ++ ['/']) <+: s.path := (of_decide_eq_true (List.mem_filter.mp mem).2).1

theorem under_of_characteristic {s c : ManagedObject}
    (mem : c ∈ replyCharacteristics devicePath reply s) : (devicePath ++ ['/']) <+: c.path :=
  (of_decide_eq_true (List.mem_filter.mp mem).2).1

theorem linkedService_parsed {s : ManagedObject} (mem : s ∈ replyServices devicePath reply) :
    linkedService (gattObjects devicePath reply) s.parsed =
      describedService devicePath reply s := by
  unfold linkedService describedService
  rw [characteristicObjs_eq (under_of_service mem), List.map_map]
  congr 1
  refine List.map_congr_left fun c child => ?_
  show linkedCharacteristic _ c.parsed = _
  unfold linkedCharacteristic describedCharacteristic
  rw [descriptorObjs_eq (under_of_characteristic child), List.map_map]
  rfl

theorem serviceRoutes_parsed : (serviceObjs (gattObjects devicePath reply)).flatMap
    (serviceRoutes (gattObjects devicePath reply)) = describedRoutes devicePath reply := by
  rw [serviceObjs_eq, List.flatMap_map]
  refine List.flatMap_congr fun s mem => ?_
  unfold serviceRoutes
  rw [characteristicObjs_eq (under_of_service mem), List.flatMap_map]
  refine List.flatMap_congr fun c child => ?_
  unfold characteristicRoutes
  rw [descriptorObjs_eq (under_of_characteristic child), List.map_map]
  rfl

/-- **The walk of a reply** emits what the reply describes, unless an attribute lacks a handle. -/
theorem linkServices_gattObjects :
    (¬ LacksHandle devicePath reply →
      linkServices (gattObjects devicePath reply) (gattObjects devicePath reply) [] =
        (HandleMap.setAll [] (describedRoutes devicePath reply),
          some (describedServices devicePath reply))) ∧
    (LacksHandle devicePath reply →
      (linkServices (gattObjects devicePath reply)
        (gattObjects devicePath reply) []).2 = none) := by
  have handles : ∀ s ∈ replyServices devicePath reply,
      ∀ c ∈ replyCharacteristics devicePath reply s,
        HasHandles (gattObjects devicePath reply) c.parsed ↔
          c.handle?.isSome ∧ ∀ d ∈ replyDescriptors devicePath reply c, d.handle?.isSome := by
    intro s _ c child
    unfold HasHandles
    rw [descriptorObjs_eq (under_of_characteristic child), List.forall_mem_map]
    rfl
  obtain ⟨whole, missing⟩ := @linkServices_eq (gattObjects devicePath reply)
    (gattObjects devicePath reply) []
  rw [serviceRoutes_parsed, serviceObjs_eq, List.map_map] at whole
  constructor
  · intro complete
    rw [whole, describedServices]
    · congr 2
      exact List.map_congr_left fun s mem => linkedService_parsed mem
    · simp only [List.forall_mem_map]
      intro s mem c
      rw [characteristicObjs_eq (under_of_service mem), List.mem_map]
      rintro ⟨c, child, rfl⟩
      refine (handles s mem c child).mpr ⟨?_, fun d grandchild => ?_⟩
      · exact Option.isSome_iff_ne_none.mpr fun lacks =>
          complete ⟨s, mem, c, child, .inl lacks⟩
      · exact Option.isSome_iff_ne_none.mpr fun lacks =>
          complete ⟨s, mem, c, child, .inr ⟨d, grandchild, lacks⟩⟩
  · rintro ⟨s, mem, c, child, lacks⟩
    refine missing ⟨s.parsed, ?_, c.parsed, ?_, ?_⟩
    · rw [serviceObjs_eq]
      exact List.mem_map_of_mem mem
    · rw [characteristicObjs_eq (under_of_service mem)]
      exact List.mem_map_of_mem child
    · rw [handles s mem c child]
      rintro ⟨has, all⟩
      rcases lacks with lacks | ⟨d, grandchild, lacks⟩
      · rw [lacks] at has
        cases has
      · have has := all d grandchild
        rw [lacks] at has
        cases has

end Reply

end EsphomeHost

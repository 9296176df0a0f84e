import EsphomeHost.Client.Base
import EsphomeHost.Gatt.Discovery
import EsphomeHost.Gatt.Walk
import Mathlib.Data.List.Nodup

/-!
# Two views of the attributes

The walk leaves the emitted tree to the client and the routing map to the worker.  Both are looked
into by handle later, on different threads.

* `walkGattTree`: `walk_gatt_tree_` on the answers to its calls; `walkGattTree_run` finds it in the
  runs of the worker.
* `walk_agrees`: **what the client finds under a handle is the attribute with that handle, and what
  the worker does to a handle it does to the object with that handle**.
-/

namespace EsphomeHost

/-! ## The walk as one function -/

/-- What `Device1.Name` or `Device1.Alias` was read as. -/
def Reply.name : Reply → List UInt8
  | .string s => s
  | _ => []

/-- What `Device1.Appearance` was read as. -/
def Reply.appearance : Reply → UInt16
  | .uint16 v => v
  | _ => 0

namespace Worker

variable (w : Worker)

/-- `walk_gatt_tree_` on the answers to `GetManagedObjects`, `Name`, `Alias` and `Appearance`;
`none` if it returns false. -/
def walkGattTree (objects name otherName appearance : Reply) :
    Worker × Option (List DiscoveredService) :=
  if w.busOpen = false then (w, none)
  else
    match objects with
    | .objects reply =>
        let objs := gattObjects w.devicePath reply
        match linkServices objs objs [] with
        | (m, some tree) =>
            if exportsGap tree then ({ w with handleMap := m, syntheticReads := [] }, some tree)
            else
              let gapName := if name.name = [] then otherName.name else name.name
              ({ w with handleMap := m, syntheticReads := gapReads gapName appearance.appearance },
                some (tree ++ [gapService]))
        | (m, none) => ({ w with handleMap := m }, none)
    | _ => (w, none)

/-- What `try_start_discovery_` does with the result. -/
def walked : Worker × Option (List DiscoveredService) → Worker × List Output
  | (w, some tree) => w.treeWalked tree
  | (w, none) => w.walkFailed

variable {w}

theorem gapNamed_resume (tree : List DiscoveredService) (second : Bool) (r : Reply) :
    w.resume (.gapName tree second) r = w.gapNamed tree second r.name := by
  cases r <;> rfl

theorem gapFinished_resume (tree : List DiscoveredService) (name : List UInt8) (r : Reply) :
    w.resume (.gapAppearance tree name) r = w.gapFinished tree name r.appearance := by
  cases r <;> rfl

/-- The innermost function goes on once its call is answered. -/
theorem run_resume (c : Call) (r : Reply) (rest : List Frame) (posted : List HostGattEvent)
    (ls : List WorkerLabel) :
    hostMachine.run ⟨{ w with stack := .call c none :: rest }, posted⟩
        (.answer 0 r :: .advance :: ls) =
      hostMachine.run ⟨({ w with stack := rest }.resume c r).1,
        posted ++ ({ w with stack := rest }.resume c r).2.filterMap Output.event?⟩ ls := by
  have answered : hostMachine.step ⟨{ w with stack := .call c none :: rest }, posted⟩
      (.answer 0 r) = some ⟨{ w with stack := .call c (some r) :: rest }, posted ++ []⟩ := rfl
  rw [Machine.run, answered, List.append_nil]
  rfl

/-- The answers to a synthetic GAP service. -/
theorem gapService_run (tree : List DiscoveredService) (rest : List Frame)
    (posted : List HostGattEvent) (name otherName appearance : Reply) :
    let gapName := if name.name = [] then otherName.name else name.name
    let r := { w with stack := rest }.gapFinished tree gapName appearance.appearance
    ∃ labels, (∀ l ∈ labels, l = .advance ∨ ∃ a, l = WorkerLabel.answer 0 a) ∧
      hostMachine.run
          ⟨{ w with stack := .call (.gapName tree false) none :: rest }, posted⟩ labels =
        some ⟨r.1, posted ++ r.2.filterMap Output.event?⟩ := by
  intro gapName r
  have asked : ∀ called, hostMachine.run
      ⟨{ w with stack := .call (.gapAppearance tree called) none :: rest }, posted⟩
        [.answer 0 appearance, .advance] =
      some ⟨({ w with stack := rest }.gapFinished tree called appearance.appearance).1, posted ++
        ({ w with stack := rest }.gapFinished tree called appearance.appearance).2.filterMap
          Output.event?⟩ := by
    intro called
    rw [run_resume, gapFinished_resume]
    rfl
  by_cases empty : name.name = []
  · have chosen : gapName = otherName.name := if_pos empty
    refine ⟨[.answer 0 name, .advance, .answer 0 otherName, .advance, .answer 0 appearance,
      .advance], by simp, ?_⟩
    have again : { w with stack := rest }.gapNamed tree false [] =
        ({ w with stack := .call (.gapName tree true) none :: rest }, []) := rfl
    have named : { w with stack := rest }.gapNamed tree true otherName.name =
        ({ w with stack := .call (.gapAppearance tree otherName.name) none :: rest }, []) := by
      unfold gapNamed
      rw [if_neg (by simp)]
      rfl
    rw [run_resume, gapNamed_resume, empty, again]
    dsimp only [List.filterMap_nil]
    rw [List.append_nil, run_resume, gapNamed_resume, named]
    dsimp only [List.filterMap_nil]
    rw [List.append_nil, asked, ← chosen]
  · have chosen : gapName = name.name := if_neg empty
    refine ⟨[.answer 0 name, .advance, .answer 0 appearance, .advance], by simp, ?_⟩
    have named : { w with stack := rest }.gapNamed tree false name.name =
        ({ w with stack := .call (.gapAppearance tree name.name) none :: rest }, []) := by
      unfold gapNamed
      rw [if_neg fun h => empty h.1]
      rfl
    rw [run_resume, gapNamed_resume, named]
    dsimp only [List.filterMap_nil]
    rw [List.append_nil, asked, ← chosen]

/-- **The walk in the runs of the worker**, when nothing is handled on top of its calls. -/
theorem walkGattTree_run (isOpen : w.busOpen = true) (rest : List Frame)
    (posted : List HostGattEvent) (objects name otherName appearance : Reply) :
    let r := walked ({ w with stack := rest }.walkGattTree objects name otherName appearance)
    ∃ labels, (∀ l ∈ labels, l = .advance ∨ ∃ a, l = WorkerLabel.answer 0 a) ∧
      hostMachine.run ⟨{ w with stack := .call .managedObjects none :: rest }, posted⟩ labels =
        some ⟨r.1, posted ++ r.2.filterMap Output.event?⟩ := by
  intro r
  have failed : ∀ w' : Worker, { w with stack := rest }.resume .managedObjects objects =
      w'.walkFailed → r = w'.walkFailed →
        ∃ labels, (∀ l ∈ labels, l = .advance ∨ ∃ a, l = WorkerLabel.answer 0 a) ∧
          hostMachine.run ⟨{ w with stack := .call .managedObjects none :: rest }, posted⟩ labels =
            some ⟨r.1, posted ++ r.2.filterMap Output.event?⟩ := by
    intro w' resumed result
    refine ⟨[.answer 0 objects, .advance], by simp, ?_⟩
    rw [run_resume, resumed, result]
    rfl
  cases objects with
  | objects reply =>
      cases link : linkServices (gattObjects w.devicePath reply) (gattObjects w.devicePath reply) []
        with
      | mk m result =>
          cases result with
          | none =>
              refine failed { w with stack := rest, handleMap := m } ?_ ?_
              · simp only [resume, walkObjects, link]
              · simp only [r, walkGattTree, isOpen, link, walked, Bool.true_eq_false, if_false]
          | some tree =>
              by_cases exported : exportsGap tree = true
              · refine ⟨[.answer 0 (.objects reply), .advance], by simp, ?_⟩
                have resumed : { w with stack := rest }.resume .managedObjects (.objects reply) =
                    r := by
                  simp only [r, resume, walkObjects, link, synthesizeGapService, exported, true_or,
                    if_true, walkGattTree, isOpen, walked, Bool.true_eq_false, if_false]
                rw [run_resume, resumed]
                rfl
              · have synthetic : { w with stack := rest }.resume .managedObjects (.objects reply) =
                    ({ w with
                        handleMap := m, syntheticReads := []
                        stack := .call (.gapName tree false) none :: rest }, []) := by
                  simp only [resume, walkObjects, link, synthesizeGapService, exported, isOpen,
                    Bool.false_eq_true, Bool.true_eq_false, or_self, if_false, call]
                have result : r = { w with handleMap := m, stack := rest }.gapFinished tree
                    (if name.name = [] then otherName.name else name.name)
                      appearance.appearance := by
                  simp only [r, walkGattTree, isOpen, link, exported, walked, Bool.true_eq_false,
                    if_false]
                  rfl
                obtain ⟨labels, only, ran⟩ := gapService_run
                  (w := { w with handleMap := m, syntheticReads := [] }) tree rest posted name
                    otherName appearance
                refine ⟨.answer 0 (.objects reply) :: .advance :: labels, ?_, ?_⟩
                · simpa using only
                · rw [run_resume, synthetic, result]
                  dsimp only [List.filterMap_nil]
                  rw [List.append_nil, ran]
                  rfl
  | _ =>
      refine failed { w with stack := rest } rfl ?_
      simp only [r, walkGattTree, isOpen, walked, Bool.true_eq_false, if_false]

/-- `acquire_mtu_` ends in the event that carries the tree, whatever it is answered. -/
theorem acquireMtu_run (tree : List DiscoveredService) (paths : List (List Char))
    (posted : List HostGattEvent) (mtus : List Char → Reply) :
    let r := w.acquireMtu tree paths
    ∃ mtu labels, hostMachine.run ⟨r.1, posted ++ r.2.filterMap Output.event?⟩ labels =
      some ⟨{ w with discovering := false }, posted ++ [.servicesDiscovered mtu tree]⟩ := by
  induction paths with
  | nil => exact ⟨23, [], rfl⟩
  | cons path rest ih =>
      intro r
      have answered : ∀ labels, hostMachine.run ⟨r.1, posted ++ r.2.filterMap Output.event?⟩
          (.answer 0 (mtus path) :: .advance :: labels) =
            hostMachine.run ⟨(w.resume (.mtu tree path rest) (mtus path)).1, posted ++
              (w.resume (.mtu tree path rest) (mtus path)).2.filterMap Output.event?⟩ labels := by
        intro labels
        rw [show posted ++ r.2.filterMap Output.event? = posted from List.append_nil posted]
        exact run_resume (w := w) (.mtu tree path rest) (mtus path) w.stack posted labels
      have next : w.resume (.mtu tree path rest) (mtus path) = w.acquireMtu tree rest ∨
          ∃ mtu, w.resume (.mtu tree path rest) (mtus path) = w.finishDiscovery tree mtu := by
        cases mtus path with
        | uint16 v =>
            by_cases large : v ≥ 23
            · exact .inr ⟨v, if_pos large⟩
            · exact .inl (if_neg large)
        | _ => exact .inl rfl
      rcases next with next | ⟨mtu, next⟩
      · obtain ⟨mtu, labels, ran⟩ := ih
        exact ⟨mtu, .answer 0 (mtus path) :: .advance :: labels, by rw [answered, next, ran]⟩
      · refine ⟨mtu, [.answer 0 (mtus path), .advance], ?_⟩
        rw [answered, next]
        rfl

end Worker

/-! ## What the walk emits and routes -/

section Attributes

variable {devicePath : List Char} {reply : List ManagedObject}

/-- The condition on a reply: every characteristic and descriptor of the device has a handle, and
these are distinct and below the synthetic ones. -/
structure Handled (devicePath : List Char) (reply : List ManagedObject) : Prop where
  known : ∀ o ∈ replyAttributes devicePath reply, ∃ h, o.handle? = some h ∧ h < 0xFF00
  distinct : ((replyAttributes devicePath reply).map ManagedObject.handle?).Nodup

theorem Handled.unique (handled : Handled devicePath reply) {o o' : ManagedObject}
    (mem : o ∈ replyAttributes devicePath reply) (mem' : o' ∈ replyAttributes devicePath reply)
    (same : o.handle? = o'.handle?) : o = o' :=
  List.inj_on_of_nodup_map handled.distinct mem mem' same

theorem attribute_of_characteristic {s c : ManagedObject}
    (mem : c ∈ replyCharacteristics devicePath reply s) :
    c ∈ replyAttributes devicePath reply ∧ c.kind = .characteristic := by
  obtain ⟨there, holds⟩ := List.mem_filter.mp mem
  obtain ⟨under, kind, -⟩ := of_decide_eq_true holds
  exact ⟨List.mem_filter.mpr ⟨there, decide_eq_true ⟨under, .inl kind⟩⟩, kind⟩

theorem attribute_of_descriptor {c d : ManagedObject}
    (mem : d ∈ replyDescriptors devicePath reply c) :
    d ∈ replyAttributes devicePath reply ∧ d.kind = .descriptor := by
  obtain ⟨there, holds⟩ := List.mem_filter.mp mem
  obtain ⟨under, kind, -⟩ := of_decide_eq_true holds
  exact ⟨List.mem_filter.mpr ⟨there, decide_eq_true ⟨under, .inr kind⟩⟩, kind⟩

theorem Handled.handle (handled : Handled devicePath reply) {o : ManagedObject}
    (mem : o ∈ replyAttributes devicePath reply) :
    o.handle? = some (o.handle?.getD 0) ∧ o.handle?.getD 0 < 0xFF00 := by
  obtain ⟨h, known, low⟩ := handled.known o mem
  rw [known]
  exact ⟨rfl, low⟩

theorem Handled.not_lacksHandle (handled : Handled devicePath reply) :
    ¬ LacksHandle devicePath reply := by
  rintro ⟨s, -, c, child, lacks | ⟨d, grandchild, lacks⟩⟩
  · have known := (handled.handle (attribute_of_characteristic child).1).1
    rw [lacks] at known
    cases known
  · have known := (handled.handle (attribute_of_descriptor grandchild).1).1
    rw [lacks] at known
    cases known

/-- The handles of the characteristics and descriptors of a tree. -/
def attributeHandles (tree : List DiscoveredService) : List UInt16 :=
  tree.flatMap fun s => s.characteristics.flatMap fun c => c.handle :: c.descriptors.map (·.handle)

theorem describedRoutes_handles : (describedRoutes devicePath reply).map Prod.fst =
    attributeHandles (describedServices devicePath reply) := by
  simp only [describedRoutes, attributeHandles, describedServices, describedService,
    describedCharacteristic, List.flatMap_map, List.map_flatMap, List.map_map, List.map_cons]
  rfl

/-- A route leads to the attribute with that handle. -/
theorem Handled.route (handled : Handled devicePath reply) {h : UInt16} {e : ObjEntry}
    (mem : (h, e) ∈ describedRoutes devicePath reply) :
    ∃ o ∈ replyAttributes devicePath reply,
      o.handle? = some h ∧ o.path = e.path ∧ o.kind = e.kind := by
  obtain ⟨s, -, mem⟩ := List.mem_flatMap.mp mem
  obtain ⟨c, child, mem⟩ := List.mem_flatMap.mp mem
  rcases List.mem_cons.mp mem with same | mem
  · obtain ⟨rfl, rfl⟩ := Prod.mk.inj same
    obtain ⟨listed, kind⟩ := attribute_of_characteristic child
    exact ⟨c, listed, (handled.handle listed).1, rfl, kind⟩
  · obtain ⟨d, grandchild, same⟩ := List.mem_map.mp mem
    obtain ⟨rfl, rfl⟩ := Prod.mk.inj same
    obtain ⟨listed, kind⟩ := attribute_of_descriptor grandchild
    exact ⟨d, listed, (handled.handle listed).1, rfl, kind⟩

/-- The routing map of the reply. -/
abbrev replyMap (devicePath : List Char) (reply : List ManagedObject) : HandleMap :=
  HandleMap.setAll [] (describedRoutes devicePath reply)

theorem mem_routes_of_lookup {h : UInt16} {e : ObjEntry}
    (found : (replyMap devicePath reply).lookup h = some e) :
    (h, e) ∈ describedRoutes devicePath reply :=
  (HandleMap.mem_of_lookup_setAll found).resolve_right nofun

/-- **Exactly the emitted handles are routed.** -/
theorem lookup_replyMap_isSome {h : UInt16} : ((replyMap devicePath reply).lookup h).isSome ↔
    h ∈ attributeHandles (describedServices devicePath reply) := by
  rw [← describedRoutes_handles]
  constructor
  · intro found
    obtain ⟨e, found⟩ := Option.isSome_iff_exists.mp found
    exact List.mem_map_of_mem (f := Prod.fst) (mem_routes_of_lookup found)
  · exact fun mem => HandleMap.lookup_setAll_isSome (.inl mem)

/-- **The route of an emitted attribute.** -/
theorem Handled.lookup (handled : Handled devicePath reply) {o : ManagedObject}
    (mem : o ∈ replyAttributes devicePath reply)
    (emitted : o.handle?.getD 0 ∈ attributeHandles (describedServices devicePath reply)) :
    ∃ e, (replyMap devicePath reply).lookup (o.handle?.getD 0) = some e ∧ e.path = o.path ∧
      e.kind = o.kind := by
  obtain ⟨e, found⟩ := Option.isSome_iff_exists.mp (lookup_replyMap_isSome.mpr emitted)
  obtain ⟨o', mem', known, path, kind⟩ := handled.route (mem_routes_of_lookup found)
  obtain rfl : o' = o := handled.unique mem' mem (known.trans (handled.handle mem).1.symm)
  exact ⟨e, found, path.symm, kind.symm⟩

end Attributes

/-! ## The client's view -/

section Client

theorem find?_eq_some_of_unique {α : Type} {l : List α} {p : α → Bool} {x : α} (mem : x ∈ l)
    (holds : p x = true) (unique : ∀ y ∈ l, p y = true → y = x) : l.find? p = some x := by
  obtain ⟨y, found⟩ := Option.isSome_iff_exists.mp
    (List.find?_isSome.mpr ⟨x, mem, holds⟩)
  rw [found, unique y (List.mem_of_find?_eq_some found) (List.find?_some found)]

variable {τ : Type} (c : BLEClientBase τ)

theorem getCharacteristic_eq (handle : UInt16) : c.getCharacteristic handle =
    (c.services.flatMap (·.characteristics)).find? (·.handle = handle) :=
  List.find?_flatMap.symm

theorem getDescriptor_eq (handle : UInt16) : c.getDescriptor handle =
    ((c.services.flatMap (·.characteristics)).flatMap (·.descriptors)).find?
      (·.handle = handle) := by
  rw [List.flatMap_assoc, List.find?_flatMap]
  simp only [List.find?_flatMap]
  rfl

end Client

section Attributes

variable {devicePath : List Char} {reply : List ManagedObject}

/-- What the client is told. -/
def emittedTree (devicePath : List Char) (reply : List ManagedObject) : List DiscoveredService :=
  describedServices devicePath reply ++
    if exportsGap (describedServices devicePath reply) then [] else [gapService]

/-- A characteristic of the device comes from an object of the reply. -/
theorem described_of_mem {svc : DiscoveredService} {chr : DiscoveredCharacteristic}
    (listed : svc ∈ describedServices devicePath reply) (mem : chr ∈ svc.characteristics) :
    ∃ o ∈ replyAttributes devicePath reply, o.kind = .characteristic ∧
      chr = describedCharacteristic devicePath reply o := by
  obtain ⟨s, -, rfl⟩ := List.mem_map.mp listed
  obtain ⟨c, child, rfl⟩ := List.mem_map.mp mem
  obtain ⟨attr, kind⟩ := attribute_of_characteristic child
  exact ⟨c, attr, kind, rfl⟩

theorem described_descriptor {o : ManagedObject} {d : DiscoveredDescriptor}
    (mem : d ∈ (describedCharacteristic devicePath reply o).descriptors) :
    ∃ o' ∈ replyAttributes devicePath reply,
      o'.kind = .descriptor ∧ d = describedDescriptor o' := by
  obtain ⟨o', child, rfl⟩ := List.mem_map.mp mem
  obtain ⟨attr, kind⟩ := attribute_of_descriptor child
  exact ⟨o', attr, kind, rfl⟩

theorem characteristic_cases {chr : DiscoveredCharacteristic}
    (mem : chr ∈ (emittedTree devicePath reply).flatMap (·.characteristics)) :
    (∃ o ∈ replyAttributes devicePath reply, o.kind = .characteristic ∧
      chr = describedCharacteristic devicePath reply o) ∨ chr ∈ gapService.characteristics := by
  obtain ⟨svc, listed, mem⟩ := List.mem_flatMap.mp mem
  rcases List.mem_append.mp listed with real | synthetic
  · exact .inl (described_of_mem real mem)
  · split at synthetic
    · cases synthetic
    · obtain rfl := List.mem_singleton.mp synthetic
      exact .inr mem

theorem gapService_high : ∀ chr ∈ gapService.characteristics, ¬ chr.handle < 0xFF00 := by decide

theorem gapService_unique : ∀ chr ∈ gapService.characteristics,
    ∀ chr' ∈ gapService.characteristics, chr.handle = chr'.handle → chr = chr' := by decide

/-- **A handle belongs to one characteristic of the tree.** -/
theorem Handled.characteristic_unique (handled : Handled devicePath reply)
    {chr chr' : DiscoveredCharacteristic}
    (mem : chr ∈ (emittedTree devicePath reply).flatMap (·.characteristics))
    (mem' : chr' ∈ (emittedTree devicePath reply).flatMap (·.characteristics))
    (same : chr.handle = chr'.handle) : chr = chr' := by
  rcases characteristic_cases mem with ⟨o, attr, -, rfl⟩ | synthetic
  · obtain ⟨known, low⟩ := handled.handle attr
    rcases characteristic_cases mem' with ⟨o', attr', -, rfl⟩ | synthetic'
    · have handles : o.handle?.getD 0 = o'.handle?.getD 0 := same
      have objects : o = o' := handled.unique attr attr' (by
        rw [known, (handled.handle attr').1, handles])
      rw [objects]
    · exact absurd (same ▸ low) (gapService_high chr' synthetic')
  · rcases characteristic_cases mem' with ⟨o', attr', -, rfl⟩ | synthetic'
    · exact absurd (same ▸ (handled.handle attr').2) (gapService_high chr synthetic)
    · exact gapService_unique chr synthetic chr' synthetic' same

theorem Handled.descriptor_unique (handled : Handled devicePath reply) {d d' : DiscoveredDescriptor}
    (mem : d ∈ ((emittedTree devicePath reply).flatMap (·.characteristics)).flatMap (·.descriptors))
    (mem' : d' ∈
      ((emittedTree devicePath reply).flatMap (·.characteristics)).flatMap (·.descriptors))
    (same : d.handle = d'.handle) : d = d' := by
  have described : ∀ e ∈
      ((emittedTree devicePath reply).flatMap (·.characteristics)).flatMap (·.descriptors),
        ∃ o ∈ replyAttributes devicePath reply, e = describedDescriptor o := by
    intro e mem
    obtain ⟨chr, listed, mem⟩ := List.mem_flatMap.mp mem
    rcases characteristic_cases listed with ⟨o, -, -, rfl⟩ | synthetic
    · obtain ⟨o', attr, -, rfl⟩ := described_descriptor mem
      exact ⟨o', attr, rfl⟩
    · have bare : ∀ chr ∈ gapService.characteristics, chr.descriptors = [] := by decide
      rw [bare chr synthetic] at mem
      cases mem
  obtain ⟨o, attr, rfl⟩ := described d mem
  obtain ⟨o', attr', rfl⟩ := described d' mem'
  have handles : o.handle?.getD 0 = o'.handle?.getD 0 := same
  have objects : o = o' := handled.unique attr attr' (by
    rw [(handled.handle attr).1, (handled.handle attr').1, handles])
  rw [objects]

/-- The client finds every attribute of the tree under its handle. -/
def Finds {τ : Type} (c : BLEClientBase τ) : Prop :=
  ∀ svc ∈ c.services, ∀ chr ∈ svc.characteristics, c.getCharacteristic chr.handle = some chr ∧
    ∀ d ∈ chr.descriptors, c.getDescriptor d.handle = some d

/-- **What the client finds under a handle is the attribute with that handle.** -/
theorem Handled.finds (handled : Handled devicePath reply) {τ : Type} {c : BLEClientBase τ}
    (tree : c.services = emittedTree devicePath reply) : Finds c := by
  intro svc listed chr mem
  have there : chr ∈ (emittedTree devicePath reply).flatMap (·.characteristics) :=
    List.mem_flatMap.mpr ⟨svc, tree ▸ listed, mem⟩
  refine ⟨?_, fun d child => ?_⟩
  · rw [getCharacteristic_eq, tree]
    refine find?_eq_some_of_unique there (decide_eq_true rfl) fun chr' mem' same => ?_
    exact handled.characteristic_unique mem' there (of_decide_eq_true same)
  · rw [getDescriptor_eq, tree]
    have below := List.mem_flatMap.mpr ⟨chr, there, child⟩
    refine find?_eq_some_of_unique below (decide_eq_true rfl) fun d' mem' same => ?_
    exact handled.descriptor_unique mem' below (of_decide_eq_true same)

/-! ## The worker's view -/

/-- Reads, writes and subscriptions of the characteristic `handle` are calls of the object at
`path`. -/
def ServesCharacteristic (w : Worker) (handle : UInt16) (path : List Char) : Prop :=
  ∃ e : ObjEntry, e.path = path ∧ e.kind = .characteristic ∧
    w.doRead handle false = (w.call (.read handle false e), []) ∧
    (∀ data response, w.doWrite handle data response false =
      (w.call (.write handle data response false e), [])) ∧
    ∀ enable, w.doSetNotify handle enable = (w.call (.notify handle enable path), [])

/-- Reads and writes of the descriptor `handle` are calls of the object at `path`; there is nothing
to subscribe to. -/
def ServesDescriptor (w : Worker) (handle : UInt16) (path : List Char) : Prop :=
  ∃ e : ObjEntry, e.path = path ∧ e.kind = .descriptor ∧
    w.doRead handle true = (w.call (.read handle true e), []) ∧
    (∀ data response, w.doWrite handle data response true =
      (w.call (.write handle data response true e), [])) ∧
    ∀ enable, w.doSetNotify handle enable =
      w.post (.notifyRegistered handle ESP_GATT_INVALID_HANDLE)

/-- Reads of the synthetic characteristic `handle` are answered with `value`. -/
def ServesSynthetic (w : Worker) (handle : UInt16) (value : List UInt8) : Prop :=
  w.doRead handle false = w.post (.readComplete handle ESP_GATT_OK (readAy value)) ∧
    (∀ data response, w.doWrite handle data response false =
      w.post (.writeComplete handle ESP_GATT_INVALID_HANDLE)) ∧
    ∀ enable, w.doSetNotify handle enable =
      w.post (.notifyRegistered handle ESP_GATT_INVALID_HANDLE)

/-- The worker acts on every attribute of the device under its handle, and serves the synthetic
service from `reads`. -/
structure Serves (devicePath : List Char) (reply : List ManagedObject)
    (reads : List (UInt16 × List UInt8)) (w : Worker) : Prop where
  characteristics : ∀ svc ∈ describedServices devicePath reply, ∀ chr ∈ svc.characteristics,
    ∃ o ∈ replyAttributes devicePath reply, o.handle? = some chr.handle ∧
      o.kind = .characteristic ∧ ServesCharacteristic w chr.handle o.path
  descriptors : ∀ svc ∈ describedServices devicePath reply, ∀ chr ∈ svc.characteristics,
    ∀ d ∈ chr.descriptors, ∃ o ∈ replyAttributes devicePath reply,
      o.handle? = some d.handle ∧ o.kind = .descriptor ∧ ServesDescriptor w d.handle o.path
  synthetic : exportsGap (describedServices devicePath reply) = false →
    ∀ chr ∈ gapService.characteristics, ∃ value, (chr.handle, value) ∈ reads ∧
      ServesSynthetic w chr.handle value

theorem characteristic_routed {svc : DiscoveredService} {chr : DiscoveredCharacteristic}
    (listed : svc ∈ describedServices devicePath reply) (mem : chr ∈ svc.characteristics) :
    chr.handle ∈ attributeHandles (describedServices devicePath reply) :=
  List.mem_flatMap.mpr ⟨svc, listed, List.mem_flatMap.mpr ⟨chr, mem, List.mem_cons_self⟩⟩

theorem descriptor_routed {svc : DiscoveredService} {chr : DiscoveredCharacteristic}
    {d : DiscoveredDescriptor} (listed : svc ∈ describedServices devicePath reply)
    (mem : chr ∈ svc.characteristics) (child : d ∈ chr.descriptors) :
    d.handle ∈ attributeHandles (describedServices devicePath reply) :=
  List.mem_flatMap.mpr ⟨svc, listed, List.mem_flatMap.mpr
    ⟨chr, mem, List.mem_cons_of_mem _ (List.mem_map_of_mem child)⟩⟩

theorem Handled.handle_low (handled : Handled devicePath reply) {h : UInt16}
    (emitted : h ∈ attributeHandles (describedServices devicePath reply)) : h < 0xFF00 := by
  obtain ⟨e, found⟩ := Option.isSome_iff_exists.mp (lookup_replyMap_isSome.mpr emitted)
  obtain ⟨o, attr, known, -⟩ := handled.route (mem_routes_of_lookup found)
  have low := (handled.handle attr).2
  rw [known] at low
  exact low

theorem lookup_gapReads_low {h : UInt16} (low : h < 0xFF00) (name : List UInt8)
    (appearance : UInt16) : (gapReads name appearance).lookup h = none := by
  rw [List.lookup_eq_none_iff]
  intro entry mem
  refine bne_iff_ne.mpr fun same => ?_
  have key : entry.1 ∈ (gapReads name appearance).map Prod.fst := List.mem_map_of_mem mem
  have high :
      ([0xFF01, 0xFF02, 0xFF03] : List UInt16).all (fun k => !decide (k < 0xFF00)) = true := by
    decide
  have above := List.all_eq_true.mp high entry.1 key
  rw [← same, decide_eq_true low] at above
  cases above

/-- **What the worker does to a handle it does to the object with that handle.** -/
theorem Handled.serves (handled : Handled devicePath reply) {w : Worker} {name : List UInt8}
    {appearance : UInt16} (map : w.handleMap = replyMap devicePath reply)
    (reads : w.syntheticReads = if exportsGap (describedServices devicePath reply) then []
      else gapReads name appearance) :
    Serves devicePath reply (gapReads name appearance) w := by
  have real : ∀ h ∈ attributeHandles (describedServices devicePath reply),
      w.syntheticReads.lookup h = none := by
    intro h emitted
    rw [reads]
    split
    · rfl
    · exact lookup_gapReads_low (handled.handle_low emitted) name appearance
  constructor
  · intro svc listed chr mem
    obtain ⟨o, attr, kind, rfl⟩ := described_of_mem listed mem
    have emitted : o.handle?.getD 0 ∈ attributeHandles (describedServices devicePath reply) :=
      characteristic_routed listed mem
    obtain ⟨e, found, path, same⟩ := handled.lookup attr emitted
    rw [kind] at same
    refine ⟨o, attr, (handled.handle attr).1, kind, e, path, same, ?_, fun data response => ?_,
      fun enable => ?_⟩
    · show w.doRead (o.handle?.getD 0) false = _
      unfold Worker.doRead
      simp only [Bool.false_eq_true, if_false, real _ emitted, map, found]
      rfl
    · show w.doWrite (o.handle?.getD 0) data response false = _
      unfold Worker.doWrite
      simp only [map, found]
      rfl
    · obtain ⟨path', kind', parent⟩ := e
      obtain rfl : kind' = .characteristic := same
      obtain rfl : path' = o.path := path
      show w.doSetNotify (o.handle?.getD 0) enable = _
      unfold Worker.doSetNotify
      simp only [map, found]
      rfl
  · intro svc listed chr mem d child
    have emitted := descriptor_routed listed mem child
    obtain ⟨c, -, -, rfl⟩ := described_of_mem listed mem
    obtain ⟨o, attr, kind, rfl⟩ := described_descriptor child
    obtain ⟨e, found, path, same⟩ := handled.lookup attr emitted
    rw [kind] at same
    refine ⟨o, attr, (handled.handle attr).1, kind, e, path, same, ?_, fun data response => ?_,
      fun enable => ?_⟩
    · show w.doRead (o.handle?.getD 0) true = _
      unfold Worker.doRead
      simp only [if_true, map, found]
      rfl
    · show w.doWrite (o.handle?.getD 0) data response true = _
      unfold Worker.doWrite
      simp only [map, found]
      rfl
    · obtain ⟨path', kind', parent⟩ := e
      obtain rfl : kind' = .descriptor := same
      show w.doSetNotify (o.handle?.getD 0) enable = _
      unfold Worker.doSetNotify
      simp only [map, found]
      rfl
  · intro synthetic chr mem
    have absent : (replyMap devicePath reply).lookup chr.handle = none := by
      rw [← Option.not_isSome_iff_eq_none, lookup_replyMap_isSome]
      exact fun emitted => gapService_high chr mem (handled.handle_low emitted)
    rw [synthetic] at reads
    obtain ⟨value, found⟩ : ∃ value,
        (gapReads name appearance).lookup chr.handle = some value := by
      have keys : ∀ chr ∈ gapService.characteristics,
          chr.handle = 0xFF01 ∨ chr.handle = 0xFF02 ∨ chr.handle = 0xFF03 := by decide
      rcases keys chr mem with key | key | key <;> rw [key] <;> exact ⟨_, rfl⟩
    refine ⟨value, ?_, ?_, fun data response => ?_, fun enable => ?_⟩
    · obtain ⟨before, after, split, -⟩ := List.lookup_eq_some_iff.mp found
      rw [split]
      simp
    · unfold Worker.doRead
      simp only [Bool.false_eq_true, if_false, reads, found]
    · unfold Worker.doWrite
      simp only [map, absent]
      rfl
    · unfold Worker.doSetNotify
      simp only [map, absent]

end Attributes

/-! ## The tables between two walks -/

namespace Worker

/-- What the commands look handles up in. -/
def tables (w : Worker) : HandleMap × List (UInt16 × List UInt8) := (w.handleMap, w.syntheticReads)

variable {w : Worker}

theorem doDisconnect_tables : w.doDisconnect.1.tables = w.tables := by
  unfold doDisconnect
  split <;> rfl

theorem doRead_tables (handle : UInt16) (isDesc : Bool) :
    (w.doRead handle isDesc).1.tables = w.tables := by
  unfold doRead
  split
  · rfl
  · split <;> rfl

theorem doWrite_tables (handle : UInt16) (data : List UInt8) (response isDesc : Bool) :
    (w.doWrite handle data response isDesc).1.tables = w.tables := by
  unfold doWrite
  split <;> rfl

theorem answerAgent_tables (a : AgentAnswer) : (w.answerAgent a).1.tables = w.tables := by
  unfold answerAgent
  split <;> rfl

theorem tryStartDiscovery_tables : w.tryStartDiscovery.1.tables = w.tables := by
  unfold tryStartDiscovery
  split
  · rfl
  · dsimp only
    split
    · rfl
    · exact doDisconnect_tables

theorem raised_tables : (w.workerOnConnectedChanged true).1.tables = w.tables := by
  show (if w.busOpen then w.call .servicesResolved else w).tables = w.tables
  split <;> rfl

theorem acquireMtu_tables (tree : List DiscoveredService) (paths : List (List Char)) :
    (w.acquireMtu tree paths).1.tables = w.tables := by
  cases paths <;> rfl

theorem connectReturned_tables (attempt : Nat) (r : Reply) :
    (w.connectReturned attempt r).1.tables = w.tables := by
  cases r with
  | error name message =>
      unfold connectReturned
      dsimp only
      split
      · exact raised_tables
      · split <;> rfl
  | _ => rfl

theorem notifySet_tables (handle : UInt16) (enable : Bool) (path : List Char) :
    (w.notifySet handle enable path).tables = w.tables := by
  unfold notifySet
  split
  · split <;> rfl
  · rfl

theorem execute_tables (cmd : HostGattCommand) : (w.execute cmd).1.tables = w.tables := by
  cases cmd with
  | connect => rfl
  | disconnect => exact doDisconnect_tables
  | readChar | readDesc => exact doRead_tables _ _
  | writeChar | writeDesc => exact doWrite_tables _ _ _ _
  | setNotify handle enable =>
      show (w.doSetNotify handle enable).1.tables = w.tables
      unfold doSetNotify
      split <;> rfl
  | readRssi =>
      show w.doReadRssi.1.tables = w.tables
      unfold doReadRssi
      split <;> rfl
  | pair =>
      show w.doPair.1.tables = w.tables
      unfold doPair
      split <;> rfl
  | passkeyReply | confirmReply => exact answerAgent_tables _
  | removeBond =>
      show w.doRemoveBond.1.tables = w.tables
      unfold doRemoveBond
      split <;> rfl

theorem resume_tables (c : Call) (r : Reply) (still : (Work.resume c r).role ≠ .walk) :
    (w.resume c r).1.tables = w.tables := by
  cases c with
  | managedObjects | gapName | gapAppearance => exact absurd rfl still
  | connect attempt => exact connectReturned_tables attempt r
  | getConnected | recheckConnected =>
      cases r with
      | bool b =>
          cases b with
          | false => rfl
          | true => exact raised_tables
      | _ => rfl
  | servicesResolved =>
      cases r with
      | bool b =>
          cases b with
          | false => rfl
          | true => exact tryStartDiscovery_tables
      | _ => rfl
  | mtu tree path rest =>
      cases r with
      | uint16 v =>
          show (if v ≥ 23 then w.finishDiscovery tree v else w.acquireMtu tree rest).1.tables =
            w.tables
          split
          · rfl
          · exact acquireMtu_tables tree rest
      | _ => exact acquireMtu_tables tree rest
  | notify handle enable path =>
      cases r with
      | error => rfl
      | _ => exact notifySet_tables handle enable path
  | _ => cases r <;> rfl

/-- **Frame.**  Only a lost link and a walk touch the tables. -/
theorem perform_tables (work : Work) (kept : work.role ≠ .lower) (still : work.role ≠ .walk) :
    (w.perform work).1.tables = w.tables := by
  cases work with
  | finish => rfl
  | command cmd => exact execute_tables cmd
  | change p =>
      cases p with
      | connected b =>
          cases b with
          | false => exact absurd rfl kept
          | true => exact raised_tables
      | servicesResolved b =>
          cases b with
          | false => rfl
          | true => exact tryStartDiscovery_tables
      | other => rfl
  | resume c r => exact resume_tables c r still

end Worker

/-- The condition on a step: the worker neither walks nor finds the device disconnected. -/
def KeepsTables (s : HostRun) : WorkerLabel → Prop
  | .advance => ∀ next ∈ Worker.nextWork s.worker.stack,
      next.1.role ≠ .lower ∧ next.1.role ≠ .walk
  | _ => True

theorem step_tables {s t : HostRun} {l : WorkerLabel} (guard : KeepsTables s l)
    (step : hostMachine.step s l = some t) : t.worker.tables = s.worker.tables := by
  obtain ⟨r, did, rfl⟩ := Option.map_eq_some_iff.mp step
  show r.1.tables = s.worker.tables
  cases l with
  | advance =>
      obtain ⟨next, found, rfl⟩ := Option.map_eq_some_iff.mp did
      obtain ⟨kept, still⟩ := guard next found
      exact Worker.perform_tables (w := { s.worker with stack := next.2 }) next.1 kept still
  | take cmds =>
      simp only [workerStep] at did
      split at did
      · cases did
        rfl
      · cases did
  | answer depth reply =>
      simp only [workerStep] at did
      split at did
      · cases did
        rfl
      · cases did
  | _ =>
      obtain ⟨-, did⟩ := Option.ite_none_right_eq_some.mp did
      cases did
      rfl

/-- **Between two walks of a link the tables stand.** -/
theorem reach_tables {s t : HostRun} (reach : hostMachine.Reach KeepsTables s t) :
    t.worker.tables = s.worker.tables :=
  reach.invariant (I := fun u => u.worker.tables = s.worker.tables)
    (fun _ _ _ held guard step => (step_tables guard step).trans held) rfl

/-! ## Agreement -/

theorem Worker.walked_tables {r : Worker} {tree : List DiscoveredService} :
    (Worker.walked (r, some tree)).1.tables = r.tables :=
  acquireMtu_tables (w := { r with discovered := true }) tree _

/-- What a walk leaves behind on a reply without gaps. -/
theorem Worker.walkGattTree_eq {w : Worker} (isOpen : w.busOpen = true)
    {reply : List ManagedObject} (complete : ¬ LacksHandle w.devicePath reply)
    (name otherName appearance : Reply) :
    w.walkGattTree (.objects reply) name otherName appearance =
      ({ w with
          handleMap := replyMap w.devicePath reply
          syntheticReads := if exportsGap (describedServices w.devicePath reply) then []
            else gapReads (if name.name = [] then otherName.name else name.name)
              appearance.appearance },
        some (emittedTree w.devicePath reply)) := by
  unfold walkGattTree
  dsimp only
  rw [if_neg (by simp [isOpen]), linkServices_gattObjects.1 complete]
  dsimp only
  unfold emittedTree
  split
  · rw [List.append_nil]
  · rfl

/-- The walk of a reply whose characteristics and descriptors all have handles of their own: the
tree, the routing map, the client that dispatches the tree, and the worker until the next walk. -/
structure Agrees (w : Worker) (reply : List ManagedObject) (reads : List (UInt16 × List UInt8))
    (r : Worker × Option (List DiscoveredService)) : Prop where
  tree : r.2 = some (emittedTree w.devicePath reply)
  routed : ∀ h, (r.1.handleMap.lookup h).isSome ↔
    h ∈ attributeHandles (describedServices w.devicePath reply)
  object : ∀ h e, r.1.handleMap.lookup h = some e → ∃ o ∈ replyAttributes w.devicePath reply,
    o.handle? = some h ∧ o.path = e.path ∧ o.kind = e.kind
  client : ∀ {τ : Type} (c : BLEClientBase τ) (now : UInt32) (mtu : UInt16),
    let c' := (c.dispatchEvent now (.servicesDiscovered mtu (emittedTree w.devicePath reply))).1
    c'.services = emittedTree w.devicePath reply ∧ Finds c'
  worker : ∀ posted t, hostMachine.Reach KeepsTables ⟨(Worker.walked r).1, posted⟩ t →
    Serves w.devicePath reply reads t.worker

/-- **What the client finds under a handle is the attribute with that handle, and what the worker
does to the handle it does to the object with that handle**; a walk that would emit an attribute
without a handle fails. -/
theorem walk_agrees (w : Worker) (isOpen : w.busOpen = true) (reply : List ManagedObject)
    (name otherName appearance : Reply) :
    (Handled w.devicePath reply →
      Agrees w reply
        (gapReads (if name.name = [] then otherName.name else name.name) appearance.appearance)
        (w.walkGattTree (.objects reply) name otherName appearance)) ∧
    (LacksHandle w.devicePath reply →
      (w.walkGattTree (.objects reply) name otherName appearance).2 = none) := by
  constructor
  · intro handled
    rw [Worker.walkGattTree_eq isOpen handled.not_lacksHandle]
    refine ⟨rfl, fun h => lookup_replyMap_isSome, fun h e found => ?_, fun c now mtu => ?_,
      fun posted t reach => ?_⟩
    · exact handled.route (mem_routes_of_lookup found)
    · exact ⟨rfl, handled.finds rfl⟩
    · have kept := (reach_tables reach).trans Worker.walked_tables
      obtain ⟨map, reads⟩ := Prod.mk.inj kept
      exact handled.serves map reads
  · intro lacks
    have failed := linkServices_gattObjects.2 lacks
    unfold Worker.walkGattTree
    dsimp only
    rw [if_neg (by simp [isOpen])]
    generalize linkServices _ _ _ = linked at failed
    obtain ⟨m, tree⟩ := linked
    obtain rfl : tree = none := failed
    rfl

/-- A device with one service. -/
def smallReply (descriptorProps : List GattProp) : List ManagedObject :=
  [⟨"/d/s/c/e".toList, [(.descriptor1, .characteristic "/d/s/c".toList :: descriptorProps)]⟩,
    ⟨"/d/s".toList, [(.service1, [.handle 1])]⟩,
    ⟨"/d/s/c".toList, [(.characteristic1, [.handle 2, .service "/d/s".toList])]⟩]

def smallWorker : Worker := { devicePath := "/d".toList, busOpen := true }

theorem handled_smallReply : Handled "/d".toList (smallReply [.handle 3]) := by
  have attributes : replyAttributes "/d".toList (smallReply [.handle 3]) =
      [⟨"/d/s/c/e".toList, [(.descriptor1, [.characteristic "/d/s/c".toList, .handle 3])]⟩,
        ⟨"/d/s/c".toList, [(.characteristic1, [.handle 2, .service "/d/s".toList])]⟩] := rfl
  constructor
  · rw [attributes]
    intro o mem
    rcases List.mem_cons.mp mem with rfl | mem
    · exact ⟨3, rfl, by decide⟩
    · rw [List.mem_singleton.mp mem]
      exact ⟨2, rfl, by decide⟩
  · rw [attributes]
    decide

theorem lacksHandle_smallReply : LacksHandle "/d".toList (smallReply []) := by
  refine ⟨⟨"/d/s".toList, [(.service1, [.handle 1])]⟩, ?_,
    ⟨"/d/s/c".toList, [(.characteristic1, [.handle 2, .service "/d/s".toList])]⟩, ?_, .inr
      ⟨⟨"/d/s/c/e".toList, [(.descriptor1, [.characteristic "/d/s/c".toList])]⟩, ?_, rfl⟩⟩
  · exact List.mem_cons_self
  · exact List.mem_cons_self
  · exact List.mem_cons_self

theorem walk_agrees_small :
    Agrees smallWorker (smallReply [.handle 3]) (gapReads [] 0)
      (smallWorker.walkGattTree (.objects (smallReply [.handle 3])) .done .done .done) ∧
    (smallWorker.walkGattTree (.objects (smallReply [])) .done .done .done).2 = none :=
  ⟨(walk_agrees smallWorker rfl (smallReply [.handle 3]) .done .done .done).1 handled_smallReply,
    (walk_agrees smallWorker rfl (smallReply []) .done .done .done).2 lacksHandle_smallReply⟩

end EsphomeHost

import EsphomeHost.Client.Lookup

/-!
# The GAP service

`synthesize_gap_service_` adds a GAP service of its own unless the walk has found one.  It looks for
the 16-bit UUID with `operator==`, and the services of a reply have the UUIDs that BlueZ prints.

* `oneGap_iff`: **a walk returns one GAP service exactly if the reply has none, or one whose UUID is
  stored as a 16-bit UUID**; and no handle is both routed and synthetic.
* `two_of_discovered`: BlueZ prints UUIDs of 128 bits, so next to its own there is always another.
-/

namespace EsphomeHost

/-- A service that denotes 0x1800. -/
def DiscoveredService.isGap (svc : DiscoveredService) : Bool :=
  svc.uuid.denotes (ESPBTUUID.fromUint16 GAP_UUID)

def gapServices (tree : List DiscoveredService) : List DiscoveredService :=
  tree.filter DiscoveredService.isGap

/-- The tree has one GAP service, that of the reply if it has one; and a handle is the worker's or
synthetic. -/
structure OneGap (described : List DiscoveredService) (w : Worker)
    (tree : List DiscoveredService) : Prop where
  one : (gapServices tree).length = 1
  own : gapServices tree =
    if gapServices described = [] then [gapService] else gapServices described
  apart : ∀ h, w.handleMap.lookup h = none ∨ w.syntheticReads.lookup h = none

section Gap

variable {devicePath : List Char} {reply : List ManagedObject} {w : Worker}
  {tree : List DiscoveredService}

/-- The service is found if one of those that denote 0x1800 is stored with 16 bits. -/
theorem exportsGap_iff :
    exportsGap tree = true ↔ ∃ svc ∈ gapServices tree, svc.uuid.len = 2 := by
  have sized := ESPBTUUID.sized_fromUint16 GAP_UUID
  rw [exportsGap, List.any_eq_true]
  constructor
  · rintro ⟨svc, listed, equal⟩
    obtain ⟨gap, short⟩ := (ESPBTUUID.beq_iff_denotes sized).mp equal
    exact ⟨svc, List.mem_filter.mpr ⟨listed, gap⟩, short⟩
  · rintro ⟨svc, listed, short⟩
    obtain ⟨listed, gap⟩ := List.mem_filter.mp listed
    exact ⟨svc, listed, (ESPBTUUID.beq_iff_denotes sized).mpr ⟨gap, short⟩⟩

/-- The GAP services that the client is told of. -/
theorem gapServices_emittedTree : gapServices (emittedTree devicePath reply) =
    gapServices (describedServices devicePath reply) ++
      if exportsGap (describedServices devicePath reply) then [] else [gapService] := by
  rw [emittedTree, gapServices, List.filter_append]
  split <;> rfl

/-- The routed handles are those of the reply. -/
theorem lookup_replyMap_low
    (low : ∀ o ∈ replyAttributes devicePath reply, ∀ h, o.handle? = some h → h < 0xFF00)
    {h : UInt16} {e : ObjEntry} (found : (replyMap devicePath reply).lookup h = some e) :
    h < 0xFF00 := by
  have small {o : ManagedObject} (mem : o ∈ replyAttributes devicePath reply) :
      o.handle?.getD 0 < 0xFF00 := by
    cases known : o.handle? with
    | none => decide
    | some h => exact low o mem h known
  obtain ⟨s, -, mem⟩ := List.mem_flatMap.mp (mem_routes_of_lookup found)
  obtain ⟨c, child, mem⟩ := List.mem_flatMap.mp mem
  rcases List.mem_cons.mp mem with same | mem
  · obtain ⟨rfl, -⟩ := Prod.mk.inj same
    exact small (attribute_of_characteristic child).1
  · obtain ⟨d, grandchild, same⟩ := List.mem_map.mp mem
    obtain ⟨rfl, -⟩ := Prod.mk.inj same
    exact small (attribute_of_descriptor grandchild).1

/-- A walk that returns a tree has found the bus open and no attribute without a handle. -/
theorem complete_of_returned {name otherName appearance : Reply}
    (returned : (w.walkGattTree (.objects reply) name otherName appearance).2 = some tree) :
    w.busOpen = true ∧ ¬ LacksHandle w.devicePath reply := by
  cases isOpen : w.busOpen with
  | false =>
      rw [Worker.walkGattTree, if_pos isOpen] at returned
      cases returned
  | true =>
      refine ⟨rfl, fun lacks => ?_⟩
      have failed := linkServices_gattObjects.2 lacks
      unfold Worker.walkGattTree at returned
      dsimp only at returned
      rw [if_neg (by simp [isOpen])] at returned
      split at returned
      · next linked =>
          rw [linked] at failed
          cases failed
      · cases returned

/-- **A walk returns one GAP service exactly if none of the reply's is stored with more than 16
bits.** -/
theorem oneGap_iff {name otherName appearance : Reply}
    (returned : (w.walkGattTree (.objects reply) name otherName appearance).2 = some tree)
    (single : (gapServices (describedServices w.devicePath reply)).length ≤ 1)
    (low : ∀ o ∈ replyAttributes w.devicePath reply, ∀ h, o.handle? = some h → h < 0xFF00) :
    OneGap (describedServices w.devicePath reply)
        (w.walkGattTree (.objects reply) name otherName appearance).1 tree ↔
      ∀ svc ∈ gapServices (describedServices w.devicePath reply), svc.uuid.len = 2 := by
  obtain ⟨isOpen, complete⟩ := complete_of_returned returned
  rw [Worker.walkGattTree_eq isOpen complete] at returned ⊢
  obtain rfl := Option.some.inj returned
  constructor
  · rintro ⟨one, own, -⟩ svc mem
    -- A service of the reply is the only one, so none was added to it.
    rw [if_neg (List.ne_nil_of_mem mem), gapServices_emittedTree, List.append_right_eq_self] at own
    cases exported : exportsGap (describedServices w.devicePath reply) with
    | false =>
        rw [exported] at own
        cases own
    | true =>
        obtain ⟨svc', mem', short⟩ := exportsGap_iff.mp exported
        have count := List.length_pos_of_mem mem
        obtain ⟨only, list⟩ := List.length_eq_one_iff.mp (Nat.le_antisymm single count)
        rw [list, List.mem_singleton] at mem mem'
        rw [mem, ← mem', short]
  · intro short
    have apart : ∀ h, (replyMap w.devicePath reply).lookup h = none ∨
        List.lookup h (if exportsGap (describedServices w.devicePath reply) then []
          else gapReads (if name.name = [] then otherName.name else name.name)
            appearance.appearance) = none := by
      intro h
      cases found : (replyMap w.devicePath reply).lookup h with
      | none => exact .inl rfl
      | some e =>
          refine .inr ?_
          split
          · rfl
          · exact lookup_gapReads_low (lookup_replyMap_low low found) _ _
    have own : gapServices (emittedTree w.devicePath reply) =
        if gapServices (describedServices w.devicePath reply) = [] then [gapService]
        else gapServices (describedServices w.devicePath reply) := by
      rw [gapServices_emittedTree]
      by_cases none : gapServices (describedServices w.devicePath reply) = []
      · have missing : exportsGap (describedServices w.devicePath reply) = false := by
          refine Bool.eq_false_iff.mpr fun exported => ?_
          obtain ⟨svc, mem, -⟩ := exportsGap_iff.mp exported
          rw [none] at mem
          cases mem
        rw [if_pos none, none, missing]
        rfl
      · obtain ⟨svc, mem⟩ := List.exists_mem_of_ne_nil _ none
        have exported := exportsGap_iff.mpr ⟨svc, mem, short svc mem⟩
        rw [if_neg none, if_pos exported, List.append_nil]
    refine ⟨?_, own, apart⟩
    rw [own]
    split
    · rfl
    · rename_i some
      have := List.length_pos_iff.mpr some
      omega

/-- **BlueZ prints UUIDs of 128 bits**: next to a GAP service of its own there is always another. -/
theorem two_of_discovered (canonical : CanonicalUuids reply) :
    gapServices (emittedTree devicePath reply) =
      gapServices (describedServices devicePath reply) ++ [gapService] := by
  rw [gapServices_emittedTree, exportsGap_discovered canonical]
  rfl

end Gap

/-- No GAP service is exported, and one is added. -/
theorem oneGap_battery :
    OneGap (describedServices "/d".toList batteryReply)
      (smallWorker.walkGattTree (.objects batteryReply) .done .done .done).1
      (emittedTree "/d".toList batteryReply) := by
  have returned : (smallWorker.walkGattTree (.objects batteryReply) .done .done .done).2 =
      some (emittedTree "/d".toList batteryReply) := by
    decide +kernel
  have none : gapServices (describedServices smallWorker.devicePath batteryReply) = [] := by
    decide +kernel
  refine (oneGap_iff returned ?_ ?_).mpr ?_
  · rw [none]
    decide
  · intro o mem h known
    have handles : (replyAttributes smallWorker.devicePath batteryReply).map
        ManagedObject.handle? = [some 2, some 3] := by
      decide +kernel
    have listed := List.mem_map_of_mem (f := ManagedObject.handle?) mem
    rw [handles, known] at listed
    rcases List.mem_cons.mp listed with same | listed
    · obtain rfl := Option.some.inj same
      decide
    · obtain rfl := Option.some.inj (List.mem_singleton.mp listed)
      decide
  · rw [none]
    exact nofun

/-- A reply of a BlueZ that exports claimed services. -/
def gapReply : List ManagedObject :=
  [⟨"/d/s".toList, [(.service1, [.uuid "00001800-0000-1000-8000-00805f9b34fb".toList,
      .handle 1])]⟩]

/-- The GAP service of the device, and another one. -/
theorem not_oneGap_exported : ∃ tree,
    (smallWorker.walkGattTree (.objects gapReply) .done .done .done).2 = some tree ∧
      (gapServices (describedServices "/d".toList gapReply)).map (·.startHandle) = [1] ∧
      (gapServices tree).map (·.startHandle) = [1, 0xFF00] ∧
      ¬ OneGap (describedServices "/d".toList gapReply)
        (smallWorker.walkGattTree (.objects gapReply) .done .done .done).1 tree := by
  have returned : (smallWorker.walkGattTree (.objects gapReply) .done .done .done).2 =
      some (emittedTree "/d".toList gapReply) := by
    decide +kernel
  have two : (gapServices (emittedTree "/d".toList gapReply)).map (·.startHandle) =
      [1, 0xFF00] := by
    decide +kernel
  refine ⟨_, returned, by decide +kernel, two, fun oneGap => ?_⟩
  have count := congrArg List.length two
  rw [List.length_map, oneGap.one] at count
  cases count

end EsphomeHost

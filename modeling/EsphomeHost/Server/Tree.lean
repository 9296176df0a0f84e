import EsphomeHost.Lib.Keyed
import EsphomeHost.Lib.NumberedPath
import EsphomeHost.Server.Effect
import Mathlib.Data.List.Induction

/-!
# The exported tree

`build_tree_` walks services, characteristics and descriptors with a counter on each level, and a
notification finds its node again by comparing path strings.

* `nodes_distinct`: no two nodes of the tree share a path.
* `exportServices_eq`: the three loops append the nodes of the tree, numbered from zero on each
  level.
* `routed`: **every object is exported once below its owner, and every notification reaches the node
  of its characteristic and no other, in the order of the calls**.
-/

namespace EsphomeHost

open NumberedPath

/-- The services of a server.  Every characteristic is an object of its own, as
`create_characteristic` allocates it. -/
structure GattTable (κ : Type) where
  services : List (BLEService κ)
  distinct : ((services.flatMap (·.characteristics)).map (·.self)).Nodup

namespace BLEGattServer

variable {κ : Type}

/-! ## The nodes of the tree -/

/-- BlueZ adds this descriptor itself. -/
def isCccd (desc : BLEDescriptor) : Bool := desc.uuid == ESPBTUUID.fromUint16 0x2902

def exportedDescs (chr : BLECharacteristic κ) : List BLEDescriptor :=
  chr.descriptors.filter (!isCccd ·)

def descNodes (charPath : List Char) (descs : List BLEDescriptor) (first : Nat) :
    List ExportedDesc :=
  ((descs.filter (!isCccd ·)).zipIdx first).map fun d =>
    ⟨d.1, numbered charPath "/desc" d.2, charPath, uuidToBluezStr d.1.uuid⟩

def charNodes (servicePath : List Char) (chrs : List (BLECharacteristic κ)) (first : Nat) :
    List (ExportedChar κ) :=
  (chrs.zipIdx first).map fun c =>
    ⟨c.1, numbered servicePath "/char" c.2, servicePath, uuidToBluezStr c.1.uuid, c.1.properties,
      c.1.value, false⟩

def serviceNodes (services : List (BLEService κ)) (first : Nat) : List (ExportedService κ) :=
  (services.zipIdx first).map fun e =>
    ⟨e.1, numbered appRoot "/service" e.2, uuidToBluezStr e.1.uuid, true⟩

def descsBelow (node : ExportedChar κ) : List ExportedDesc :=
  descNodes node.path node.chr.descriptors 0

def charsBelow (node : ExportedService κ) : List (ExportedChar κ) :=
  charNodes node.path node.svc.characteristics 0

/-- The nodes of a table. -/
def tableNodes (t : GattTable κ) : List (ExportedChar κ) :=
  (serviceNodes t.services 0).flatMap charsBelow

/-! ## Paths -/

theorem numbered_service (parent : List Char) (n : Nat) :
    numbered parent "/service" n = child "service".toList parent n := by
  simp [numbered, child]

theorem numbered_char (parent : List Char) (n : Nat) :
    numbered parent "/char" n = child "char".toList parent n := by
  simp [numbered, child]

theorem numbered_desc (parent : List Char) (n : Nat) :
    numbered parent "/desc" n = child "desc".toList parent n := by
  simp [numbered, child]

theorem serviceNodes_path (services : List (BLEService κ)) :
    (serviceNodes services 0).map (·.path) =
      children "service".toList appRoot 0 services.length := by
  simp only [serviceNodes, List.map_map, children, ← List.zipIdx_map_snd 0 services]
  exact List.map_congr_left fun _ _ => numbered_service _ _

theorem charsBelow_path (node : ExportedService κ) :
    (charsBelow node).map (·.path) =
      children "char".toList node.path 0 node.svc.characteristics.length := by
  simp only [charsBelow, charNodes, List.map_map, children,
    ← List.zipIdx_map_snd 0 node.svc.characteristics]
  exact List.map_congr_left fun _ _ => numbered_char _ _

theorem descsBelow_path (node : ExportedChar κ) :
    (descsBelow node).map (·.path) =
      children "desc".toList node.path 0 (exportedDescs node.chr).length := by
  simp only [descsBelow, descNodes, exportedDescs, List.map_map, children,
    ← List.zipIdx_map_snd 0 (node.chr.descriptors.filter (!isCccd ·))]
  exact List.map_congr_left fun _ _ => numbered_desc _ _

theorem charNodes_path (nodes : List (ExportedService κ)) :
    (nodes.flatMap charsBelow).map (·.path) =
      nodes.flatMap fun e => children "char".toList e.path 0 e.svc.characteristics.length := by
  rw [List.map_flatMap]
  exact congrArg (nodes.flatMap ·) (funext charsBelow_path)

theorem descNodes_path (nodes : List (ExportedChar κ)) :
    (nodes.flatMap descsBelow).map (·.path) =
      nodes.flatMap fun e => children "desc".toList e.path 0 (exportedDescs e.chr).length := by
  rw [List.map_flatMap]
  exact congrArg (nodes.flatMap ·) (funext descsBelow_path)

/-- The children of nodes of one level are on the next level. -/
theorem depth_of_mem_flatMap {α : Type} {tag : List Char} (plain : '/' ∉ tag) {path : α → List Char}
    (count : α → Nat) {nodes : List α} {level : Nat}
    (parents : ∀ p ∈ nodes.map path, depth p = level) :
    ∀ p ∈ nodes.flatMap (fun e => children tag (path e) 0 (count e)), depth p = level + 1 := by
  intro p mem
  obtain ⟨e, inside, mem⟩ := List.mem_flatMap.mp mem
  rw [depth_of_mem_children plain mem, parents _ (List.mem_map_of_mem inside)]

theorem nodup_of_levels {l l' : List (List Char)} {a b : Nat} (nodup : l.Nodup) (nodup' : l'.Nodup)
    (level : ∀ p ∈ l, depth p ≤ a) (level' : ∀ p ∈ l', depth p = b) (apart : a < b) :
    (l ++ l').Nodup := by
  refine List.nodup_append.mpr ⟨nodup, nodup', ?_⟩
  rintro p mem q mem' rfl
  have low := level p mem
  have high := level' p mem'
  omega

/-- **The paths of a tree are distinct.** -/
theorem nodes_distinct (services : List (BLEService κ)) :
    ((serviceNodes services 0).map (·.path) ++
      ((serviceNodes services 0).flatMap charsBelow).map (·.path) ++
        (((serviceNodes services 0).flatMap charsBelow).flatMap descsBelow).map
          (·.path)).Nodup := by
  have serviceLevel :
      ∀ p ∈ (serviceNodes services 0).map (·.path), depth p = depth appRoot + 1 := by
    intro p mem
    rw [serviceNodes_path] at mem
    exact depth_of_mem_children (by decide) mem
  have serviceNodup : ((serviceNodes services 0).map (·.path)).Nodup := by
    rw [serviceNodes_path]
    exact children_nodup (by decide) _ _ _
  have charLevel := depth_of_mem_flatMap (by decide : '/' ∉ "char".toList)
    (fun e : ExportedService κ => e.svc.characteristics.length) serviceLevel
  have charNodup := nodup_flatMap_children (by decide : '/' ∉ "char".toList) (·.path)
    (fun e : ExportedService κ => e.svc.characteristics.length) serviceNodup
  rw [← charNodes_path] at charLevel charNodup
  have descLevel := depth_of_mem_flatMap (by decide : '/' ∉ "desc".toList)
    (fun e : ExportedChar κ => (exportedDescs e.chr).length) charLevel
  have descNodup := nodup_flatMap_children (by decide : '/' ∉ "desc".toList) (·.path)
    (fun e : ExportedChar κ => (exportedDescs e.chr).length) charNodup
  rw [← descNodes_path] at descLevel descNodup
  have upper := nodup_of_levels serviceNodup charNodup (fun p mem => (serviceLevel p mem).le)
    charLevel (Nat.lt_succ_self _)
  refine nodup_of_levels upper descNodup ?_ descLevel (Nat.lt_succ_self _)
  intro p mem
  rcases List.mem_append.mp mem with service | char
  · exact (serviceLevel p service).trans_le (Nat.le_succ _)
  · exact (charLevel p char).le

/-! ## The tree of a table -/

theorem serviceNodes_svc (services : List (BLEService κ)) (first : Nat) :
    (serviceNodes services first).map (·.svc) = services := by
  rw [serviceNodes, List.map_map]
  exact List.zipIdx_map_fst first services

theorem charsBelow_owner (node : ExportedService κ) :
    (charsBelow node).map (fun n => (n.servicePath, n.chr)) =
      node.svc.characteristics.map (node.path, ·) := by
  rw [charsBelow, charNodes, List.map_map,
    ← List.zipIdx_map_fst 0 node.svc.characteristics, List.map_map]
  simp

theorem descsBelow_owner (node : ExportedChar κ) :
    (descsBelow node).map (fun n => (n.charPath, n.desc)) =
      (exportedDescs node.chr).map (node.path, ·) := by
  rw [descsBelow, descNodes, List.map_map, exportedDescs,
    ← List.zipIdx_map_fst 0 (node.chr.descriptors.filter (!isCccd ·)), List.map_map]
  simp

theorem tableNodes_owner (t : GattTable κ) :
    (tableNodes t).map (fun n => (n.servicePath, n.chr)) =
      (serviceNodes t.services 0).flatMap fun e => e.svc.characteristics.map (e.path, ·) := by
  rw [tableNodes, List.map_flatMap]
  exact congrArg ((serviceNodes t.services 0).flatMap ·) (funext charsBelow_owner)

theorem tableNodes_chr (t : GattTable κ) :
    (tableNodes t).map (·.chr) = t.services.flatMap (·.characteristics) := by
  have owner := congrArg (List.map Prod.snd) (tableNodes_owner t)
  rw [List.map_map, List.map_flatMap] at owner
  rw [← serviceNodes_svc t.services 0, List.flatMap_map]
  simpa [List.map_map, Function.comp_def, serviceNodes_svc] using owner

theorem tableNodes_self (t : GattTable κ) :
    (tableNodes t).map (·.chr.self) =
      (t.services.flatMap (·.characteristics)).map (·.self) := by
  rw [← tableNodes_chr, List.map_map]
  rfl

theorem descsBelow_desc (node : ExportedChar κ) :
    (descsBelow node).map (·.desc) = exportedDescs node.chr := by
  have owner := congrArg (List.map Prod.snd) (descsBelow_owner node)
  simpa [List.map_map, Function.comp_def] using owner

theorem tableNodes_named (t : GattTable κ) : [] ∉ (tableNodes t).map (·.path) := by
  intro mem
  rw [tableNodes, charNodes_path] at mem
  obtain ⟨e, -, mem⟩ := List.mem_flatMap.mp mem
  have level := depth_of_mem_children (by decide) mem
  exact absurd level (Nat.succ_ne_zero _).symm

theorem tableNodes_value (t : GattTable κ) :
    ∀ n ∈ tableNodes t, n.cachedValue = n.chr.value := by
  intro n mem
  obtain ⟨e, -, mem⟩ := List.mem_flatMap.mp mem
  obtain ⟨c, -, rfl⟩ := List.mem_map.mp mem
  rfl

/-! ## Which node a path was handed to -/

/-- Every node has the path handed to its characteristic, and no other characteristic has one. -/
structure Handed (nodes : List (ExportedChar κ)) (objectPath : κ → List Char) : Prop where
  paths : (nodes.map (·.path)).Nodup
  selves : (nodes.map (·.chr.self)).Nodup
  own : (nodes.map (·.chr.self)).map objectPath = nodes.map (·.path)
  named : [] ∉ nodes.map (·.path)
  others : ∀ k ∉ nodes.map (·.chr.self), objectPath k = []

namespace Handed

variable {nodes : List (ExportedChar κ)} {objectPath : κ → List Char}

theorem path_eq (handed : Handed nodes objectPath) {n : ExportedChar κ} (mem : n ∈ nodes) :
    objectPath n.chr.self = n.path := by
  have own := handed.own
  rw [List.map_map] at own
  exact List.map_inj_left.mp own n mem

/-- A handed path names the node of its characteristic. -/
theorem path_eq_iff (handed : Handed nodes objectPath) {n : ExportedChar κ} (mem : n ∈ nodes)
    {k : κ} (exported : k ∈ nodes.map (·.chr.self)) : n.path = objectPath k ↔ n.chr.self = k := by
  obtain ⟨m, inside, rfl⟩ := List.mem_map.mp exported
  constructor
  · intro same
    rw [handed.path_eq inside] at same
    rw [List.inj_on_of_nodup_map handed.paths mem inside same]
  · intro same
    rw [← same, handed.path_eq mem]

theorem path_eq_nil_iff (handed : Handed nodes objectPath) {k : κ} :
    objectPath k = [] ↔ k ∉ nodes.map (·.chr.self) := by
  constructor
  · intro empty exported
    obtain ⟨m, inside, rfl⟩ := List.mem_map.mp exported
    rw [handed.path_eq inside] at empty
    exact handed.named (empty ▸ List.mem_map_of_mem inside)
  · exact handed.others k

end Handed

/-! ## The queue -/

/-- What only `build_tree_` and notifications change. -/
def gattPart (s : BLEGattServer κ) :
    List (ExportedService κ) × List (ExportedChar κ) × List ExportedDesc × (κ → List Char) ×
      List ServerCommand :=
  (s.services, s.chars, s.descs, s.objectPath, s.commands)

theorem registerAdvertisement_gattPart (env : BusOutcome) (s : BLEGattServer κ) :
    (s.registerAdvertisement env).1.gattPart = s.gattPart := by
  rcases registerAdvertisement_cases env s with ⟨-, same⟩ | ⟨-, slot, sent, same⟩
  · rw [same]
  · rw [same]
    rfl

theorem applyPending_gattPart (env : BusOutcome) (s : BLEGattServer κ) :
    (s.applyPending env).1.gattPart = s.gattPart := by
  rw [applyPending]
  split
  · exact registerAdvertisement_gattPart env _
  · rfl

/-- The command that `notify_characteristic` queues. -/
def command (objectPath : κ → List Char) (call : κ × List UInt8) : ServerCommand :=
  ⟨.notify, objectPath call.1, call.2⟩

/-- The commands of calls for exported characteristics; other calls are dropped. -/
def commandsFor (objectPath : κ → List Char) (calls : List (κ × List UInt8)) :
    List ServerCommand :=
  (calls.filter fun c => objectPath c.1 ≠ []).map (command objectPath)

theorem commandsFor_concat (objectPath : κ → List Char) (calls : List (κ × List UInt8))
    (call : κ × List UInt8) :
    commandsFor objectPath (calls ++ [call]) = commandsFor objectPath calls ++
      if objectPath call.1 = [] then [] else [command objectPath call] := by
  rw [commandsFor, List.filter_append, List.map_append, commandsFor]
  split
  · next dropped => simp [dropped]
  · next exported => simp [exported]

/-! ## Actions -/

/-- What happens after `start`: `notify_characteristic` is called, or the worker makes a pass. -/
inductive Action (κ : Type)
  | notify (chr : κ) (value : List UInt8)
  | pass (env : BusOutcome)

/-- The notification of an action. -/
def Action.call : Action κ → Option (κ × List UInt8)
  | .notify chr value => some (chr, value)
  | .pass _ => none

/-- The notifications a pass has followed, and those none has. -/
structure Calls (κ : Type) where
  done : List (κ × List UInt8) := []
  waiting : List (κ × List UInt8) := []

def Calls.after (c : Calls κ) : Action κ → Calls κ
  | .notify chr value => { c with waiting := c.waiting ++ [(chr, value)] }
  | .pass _ => ⟨c.done ++ c.waiting, []⟩

def calls (actions : List (Action κ)) : Calls κ := actions.foldl Calls.after {}

theorem calls_in_order (actions : List (Action κ)) :
    (calls actions).done ++ (calls actions).waiting = actions.filterMap Action.call := by
  induction actions using List.reverseRecOn with
  | nil => rfl
  | append_singleton actions a ih =>
      rw [calls, List.foldl_append, List.filterMap_append, ← ih]
      cases a with
      | notify chr value => exact (List.append_assoc _ _ _).symm
      | pass env => simp [calls, Calls.after, Action.call]

def perform (s : BLEGattServer κ) : Action κ → BLEGattServer κ
  | .notify chr value => s.notifyCharacteristic chr value
  | .pass env => (s.workerProcessCommands env).1

def run (s : BLEGattServer κ) (actions : List (Action κ)) : BLEGattServer κ :=
  actions.foldl perform s

/-! ## What the loops append -/

theorem exportDescs_eq (charPath : List Char) (descs : List BLEDescriptor) (i : Nat)
    (s : BLEGattServer κ) :
    exportDescs charPath descs i s = { s with descs := s.descs ++ descNodes charPath descs i } := by
  induction descs generalizing i s with
  | nil => simp [exportDescs, descNodes]
  | cons desc rest ih =>
      by_cases cccd : desc.uuid == ESPBTUUID.fromUint16 0x2902
      · rw [exportDescs, if_pos cccd, ih]
        simp [descNodes, isCccd, cccd]
      · rw [exportDescs, if_neg cccd, ih]
        simp [descNodes, isCccd, cccd]

variable [DecidableEq κ]

/-- The paths handed out with the nodes. -/
def handOut (nodes : List (ExportedChar κ)) (objectPath : κ → List Char) : κ → List Char :=
  nodes.foldl (fun f n => Function.update f n.chr.self n.path) objectPath

theorem exportChars_eq (servicePath : List Char) (chrs : List (BLECharacteristic κ)) (i : Nat)
    (s : BLEGattServer κ) :
    exportChars servicePath chrs i s =
      { s with
        chars := s.chars ++ charNodes servicePath chrs i
        descs := s.descs ++ (charNodes servicePath chrs i).flatMap descsBelow
        objectPath := handOut (charNodes servicePath chrs i) s.objectPath } := by
  induction chrs generalizing i s with
  | nil => simp [exportChars, charNodes, handOut]
  | cons chr rest ih =>
      rw [exportChars, ih, exportDescs_eq]
      simp [charNodes, handOut, descsBelow]

theorem exportServices_eq (services : List (BLEService κ)) (i : Nat) (s : BLEGattServer κ) :
    exportServices services i s =
      { s with
        services := s.services ++ serviceNodes services i
        chars := s.chars ++ (serviceNodes services i).flatMap charsBelow
        descs := s.descs ++ ((serviceNodes services i).flatMap charsBelow).flatMap descsBelow
        objectPath := handOut ((serviceNodes services i).flatMap charsBelow) s.objectPath } := by
  induction services generalizing i s with
  | nil => simp [exportServices, serviceNodes, handOut]
  | cons svc rest ih =>
      rw [exportServices, ih, exportChars_eq]
      simp [serviceNodes, charsBelow, handOut]

theorem start_eq (t : GattTable κ) :
    start t.services {} =
      { services := serviceNodes t.services 0
        chars := tableNodes t
        descs := (tableNodes t).flatMap descsBelow
        objectPath := handOut (tableNodes t) fun _ => []
        startRequested := true } := by
  rw [start, buildTree, exportServices_eq]
  rfl

theorem handed_start (t : GattTable κ) :
    Handed (start t.services {}).chars (start t.services {}).objectPath := by
  rw [start_eq]
  have selves : ((tableNodes t).map (·.chr.self)).Nodup := by
    rw [tableNodes_self]
    exact t.distinct
  refine ⟨?_, selves, ?_, tableNodes_named t, ?_⟩
  · exact (List.nodup_append.mp (List.nodup_append.mp (nodes_distinct t.services)).1).2.1
  · rw [List.map_map]
    exact List.map_congr_left fun n mem => Keyed.foldl_update selves (·.path) _ mem
  · intro k foreign
    exact Keyed.foldl_update_of_not_mem (·.path) _ foreign

/-! ## Notified values -/

/-- A value notified for a characteristic: its node takes it. -/
def setValue (nodes : List (ExportedChar κ)) (call : κ × List UInt8) : List (ExportedChar κ) :=
  nodes.map fun n => if n.chr.self = call.1 then { n with cachedValue := call.2 } else n

theorem map_setValue {β : Type} (f : ExportedChar κ → β)
    (blind : ∀ n v, f { n with cachedValue := v } = f n) (nodes : List (ExportedChar κ))
    (call : κ × List UInt8) : (setValue nodes call).map f = nodes.map f := by
  rw [setValue, List.map_map]
  refine List.map_congr_left fun n _ => ?_
  rw [Function.comp_apply]
  split
  · exact blind n _
  · rfl

@[simp] theorem setValue_path (nodes : List (ExportedChar κ)) (call : κ × List UInt8) :
    (setValue nodes call).map (·.path) = nodes.map (·.path) :=
  map_setValue (·.path) (fun _ _ => rfl) nodes call

@[simp] theorem setValue_self (nodes : List (ExportedChar κ)) (call : κ × List UInt8) :
    (setValue nodes call).map (·.chr.self) = nodes.map (·.chr.self) :=
  map_setValue (·.chr.self) (fun _ _ => rfl) nodes call

theorem setValue_of_not_mem {nodes : List (ExportedChar κ)} {call : κ × List UInt8}
    (foreign : call.1 ∉ nodes.map (·.chr.self)) : setValue nodes call = nodes :=
  Keyed.map_of_fresh _ foreign

theorem Handed.setValue {nodes : List (ExportedChar κ)} {objectPath : κ → List Char}
    (handed : Handed nodes objectPath) (call : κ × List UInt8) :
    Handed (BLEGattServer.setValue nodes call) objectPath := by
  refine ⟨?_, ?_, ?_, ?_, ?_⟩
  · rw [setValue_path]
    exact handed.paths
  · rw [setValue_self]
    exact handed.selves
  · rw [setValue_path, setValue_self]
    exact handed.own
  · rw [setValue_path]
    exact handed.named
  · rw [setValue_self]
    exact handed.others

theorem handed_foldl {nodes : List (ExportedChar κ)} {objectPath : κ → List Char}
    (handed : Handed nodes objectPath) (calls : List (κ × List UInt8)) :
    Handed (calls.foldl setValue nodes) objectPath := by
  induction calls generalizing nodes with
  | nil => exact handed
  | cons call calls ih => exact ih (handed.setValue call)

/-- The value notified last for an object. -/
def lastValue (chr : κ) (calls : List (κ × List UInt8)) : Option (List UInt8) :=
  (calls.filter (·.1 = chr)).getLast?.map (·.2)

theorem lastValue_concat (chr : κ) (calls : List (κ × List UInt8)) (call : κ × List UInt8) :
    lastValue chr (calls ++ [call]) =
      if call.1 = chr then some call.2 else lastValue chr calls := by
  rw [lastValue, List.filter_append]
  split
  · next here => simp [here]
  · next elsewhere => simp [elsewhere, lastValue]

theorem foldl_setValue_chr (nodes : List (ExportedChar κ)) (calls : List (κ × List UInt8)) :
    (calls.foldl setValue nodes).map (fun n => (n.path, n.servicePath, n.chr)) =
      nodes.map fun n => (n.path, n.servicePath, n.chr) := by
  induction calls generalizing nodes with
  | nil => rfl
  | cons call calls ih =>
      rw [List.foldl_cons, ih]
      exact map_setValue (fun n => (n.path, n.servicePath, n.chr)) (fun _ _ => rfl) nodes call

/-- Notifications change nothing but the values, which become the last ones notified. -/
theorem mem_foldl_setValue {nodes : List (ExportedChar κ)} (calls : List (κ × List UInt8))
    {n : ExportedChar κ} (mem : n ∈ calls.foldl setValue nodes) :
    ∃ n₀ ∈ nodes, n = { n₀ with
      cachedValue := (lastValue n₀.chr.self calls).getD n₀.cachedValue } := by
  induction calls using List.reverseRecOn generalizing n with
  | nil => exact ⟨n, mem, rfl⟩
  | append_singleton calls call ih =>
      rw [List.foldl_append] at mem
      obtain ⟨m, inside, rfl⟩ := List.mem_map.mp mem
      obtain ⟨n₀, first, rfl⟩ := ih inside
      refine ⟨n₀, first, ?_⟩
      rw [lastValue_concat]
      by_cases here : n₀.chr.self = call.1
      · rw [if_pos here, if_pos here.symm]
        rfl
      · rw [if_neg here, if_neg (Ne.symm here)]

/-! ## Passes of the worker -/

/-- `do_notify_` with the path of a characteristic changes the node of that characteristic. -/
theorem doNotify_eq {s : BLEGattServer κ} (handed : Handed s.chars s.objectPath) {k : κ}
    (exported : k ∈ s.chars.map (·.chr.self)) (value : List UInt8) :
    (s.doNotify (s.objectPath k) value).1 = { s with chars := setValue s.chars (k, value) } := by
  rw [doNotify]
  cases found : s.findChar (s.objectPath k) with
  | none =>
      obtain ⟨m, inside, rfl⟩ := List.mem_map.mp exported
      have fresh : s.objectPath m.chr.self ∉ s.chars.map (·.path) := Keyed.fresh_of_not_found found
      rw [handed.path_eq inside] at fresh
      exact absurd (List.mem_map_of_mem inside) fresh
  | some i =>
      have same : s.chars.modify i (fun c => { c with cachedValue := value }) =
          setValue s.chars (k, value) := by
        rw [Keyed.modify_first handed.paths _ found, setValue]
        refine List.map_congr_left fun n mem => ?_
        simp only [handed.path_eq_iff mem exported]
      simp only [same]

/-- The queued notifications are applied in the order of the calls. -/
theorem doCommands_eq {s : BLEGattServer κ} (handed : Handed s.chars s.objectPath)
    (calls : List (κ × List UInt8)) :
    (s.doCommands (commandsFor s.objectPath calls)).1 =
      { s with chars := calls.foldl setValue s.chars } := by
  induction calls generalizing s with
  | nil => rfl
  | cons call calls ih =>
      by_cases dropped : s.objectPath call.1 = []
      · have foreign := handed.path_eq_nil_iff.mp dropped
        have skipped :
            commandsFor s.objectPath (call :: calls) = commandsFor s.objectPath calls := by
          simp [commandsFor, dropped]
        rw [skipped, ih handed, List.foldl_cons, setValue_of_not_mem foreign]
      · have exported : call.1 ∈ s.chars.map (·.chr.self) := by
          by_contra foreign
          exact dropped (handed.path_eq_nil_iff.mpr foreign)
        have first : commandsFor s.objectPath (call :: calls) =
            command s.objectPath call :: commandsFor s.objectPath calls := by
          simp [commandsFor, dropped]
        have here := doNotify_eq handed exported call.2
        have rest := @ih { s with chars := setValue s.chars call } (handed.setValue call)
        rw [first, doCommands]
        simp only [command, ↓reduceIte, here]
        exact rest

/-- A pass applies what is queued. -/
theorem workerProcessCommands_gattPart (env : BusOutcome) {s : BLEGattServer κ}
    (handed : Handed s.chars s.objectPath) {calls : List (κ × List UInt8)}
    (queued : s.commands = commandsFor s.objectPath calls) :
    (s.workerProcessCommands env).1.gattPart =
      (s.services, calls.foldl setValue s.chars, s.descs, s.objectPath, []) := by
  obtain ⟨started, opened, -, up, -⟩ := applyStart_cases s.startRequested env
    { s with startRequested := false, commands := [] }
  rw [workerProcessCommands]
  dsimp only
  rw [applyPending_gattPart, up, queued]
  have done := @doCommands_eq κ _ { s with
    startRequested := false, commands := [], started := started, busOpen := opened } handed calls
  rw [done]
  rfl

/-! ## Runs -/

/-- A run that began with `built` has applied the notifications that are done, and only those. -/
def Follows (built : BLEGattServer κ) (c : Calls κ) (s : BLEGattServer κ) : Prop :=
  s.gattPart = (built.services, c.done.foldl setValue built.chars, built.descs, built.objectPath,
    commandsFor built.objectPath c.waiting)

/-- What one action does to a run. -/
theorem Follows.perform {built s : BLEGattServer κ} {c : Calls κ}
    (handed : Handed built.chars built.objectPath) (follows : Follows built c s) (a : Action κ) :
    Follows built (c.after a) (s.perform a) := by
  obtain ⟨services, chars, descs, objectPath, commands⟩ := by
    simpa only [Follows, gattPart, Prod.mk.injEq] using follows
  cases a with
  | notify chr value =>
      rw [Follows, BLEGattServer.perform, notifyCharacteristic, Calls.after, commandsFor_concat]
      dsimp only
      rw [objectPath]
      split
      · rw [List.append_nil]
        exact follows
      · simp only [gattPart, services, chars, descs, commands, command]
  | pass env =>
      have now : Handed s.chars s.objectPath := by
        rw [chars, objectPath]
        exact handed_foldl handed c.done
      have passed := workerProcessCommands_gattPart env now (objectPath ▸ commands)
      rw [Follows, BLEGattServer.perform, passed, Calls.after, List.foldl_append, services, chars,
        descs, objectPath]
      rfl

theorem Follows.run {built s : BLEGattServer κ} {c : Calls κ}
    (handed : Handed built.chars built.objectPath) (follows : Follows built c s)
    (actions : List (Action κ)) : Follows built (actions.foldl Calls.after c) (s.run actions) := by
  induction actions generalizing s c with
  | nil => exact follows
  | cons a actions ih => exact ih (follows.perform handed a)

/-- What a table has on the bus and how notifications reach it, in the state `s` after `actions`. -/
structure Routed (t : GattTable κ) (actions : List (Action κ)) (s : BLEGattServer κ) : Prop where
  /-- No two nodes share a path. -/
  distinct : (s.services.map (·.path) ++ s.chars.map (·.path) ++ s.descs.map (·.path)).Nodup
  /-- The services of the table, each once. -/
  services : s.services.map (·.svc) = t.services
  /-- The characteristics of each service, each once and with the path of the service's node. -/
  chars : s.chars.map (fun n => (n.servicePath, n.chr)) =
    s.services.flatMap fun e => e.svc.characteristics.map (e.path, ·)
  /-- The descriptors of each characteristic but the CCCD, each once, with the path of its node. -/
  descs : s.descs.map (fun n => (n.charPath, n.desc)) =
    s.chars.flatMap fun e => (exportedDescs e.chr).map (e.path, ·)
  /-- A characteristic has one node. -/
  one : (s.chars.map (·.chr.self)).Nodup
  /-- Every notification is done or waits, in the order of the calls. -/
  order : (calls actions).done ++ (calls actions).waiting = actions.filterMap Action.call
  /-- The nodes are those of the start with the notifications applied that are done, each to the
  node of its characteristic. -/
  applied : s.chars = (calls actions).done.foldl setValue (start t.services {}).chars
  /-- A node has the value notified last, or the value it had at the start. -/
  value : ∀ n ∈ s.chars,
    n.cachedValue = (lastValue n.chr.self (calls actions).done).getD n.chr.value
  /-- The notifications that wait are queued. -/
  queued : s.commands = commandsFor s.objectPath (calls actions).waiting

/-- **The exported tree and its notifications**, for every table, after every sequence of
notifications and passes of the worker. -/
theorem routed (t : GattTable κ) (actions : List (Action κ)) :
    Routed t actions ((start t.services {}).run actions) := by
  have handed := handed_start t
  have begin : Follows (start t.services {}) {} (start t.services {}) := by
    rw [start_eq]
    rfl
  have follows :
      Follows (start t.services {}) (calls actions) ((start t.services {}).run actions) :=
    begin.run handed actions
  generalize (start t.services {}).run actions = s at follows
  obtain ⟨services, chars, descs, objectPath, commands⟩ := by
    simpa only [Follows, gattPart, Prod.mk.injEq] using follows
  have kept := foldl_setValue_chr (start t.services {}).chars (calls actions).done
  have now := handed_foldl handed (calls actions).done
  rw [← chars] at kept now
  have paths := congrArg (List.map (·.1)) kept
  have owners := congrArg (List.map (·.2)) kept
  have chrs := congrArg (List.map fun p => (p.1, p.2.2)) kept
  simp only [List.map_map, Function.comp_def, start_eq] at paths owners chrs
  simp only [start_eq] at services descs
  refine ⟨?_, ?_, ?_, ?_, now.selves, calls_in_order actions, chars, ?_, ?_⟩
  · rw [services, paths, descs]
    exact nodes_distinct t.services
  · rw [services]
    exact serviceNodes_svc t.services 0
  · rw [owners, services]
    exact tableNodes_owner t
  · have below := congrArg (List.flatMap fun p : List Char × BLECharacteristic κ =>
      (exportedDescs p.2).map (p.1, ·)) chrs
    rw [List.flatMap_map, List.flatMap_map] at below
    rw [below, descs, List.map_flatMap]
    exact congrArg ((tableNodes t).flatMap ·) (funext descsBelow_owner)
  · intro n mem
    rw [chars, start_eq] at mem
    obtain ⟨n₀, first, rfl⟩ := mem_foldl_setValue _ mem
    rw [tableNodes_value t n₀ first]
  · rw [objectPath]
    exact commands

end BLEGattServer

end EsphomeHost

import EsphomeHost.Client.Lookup
import EsphomeHost.Client.Run

/-!
# Sensors of a client

`BLESensor` and `BLETextSensor` hang on a `BLEClient`, which passes every event it dispatches on to
all of them.  A sensor looks its UUIDs up when the services are discovered, keeps the handle it
finds, and from then on goes by that handle alone, also in the connections to come.

* `SensorConfig.target`: the attribute that the UUIDs of a sensor lead to in a tree.
* `genuine_iff_resolved`: **what is published on a connection is the parsed value of that attribute
  exactly in the runs in which a sensor never takes a failed read, nor anything on a connection in
  whose tree its UUIDs lead to no attribute of the kind**.
* `not_genuine_failed`: a read that fails is published.
-/

namespace EsphomeHost

variable {φ τ : Type}

/-! ## The functions of the source -/

/-- What the default parse needs of `float`. -/
structure FloatFormat (φ : Type) where
  nan : φ
  ofByte : UInt8 → φ

structure BLEReadResult where
  handle : UInt16
  status : Int
  data : List UInt8

structure BLENotifyEvent where
  handle : UInt16
  data : List UInt8

structure SensorConfig where
  serviceUuid : ESPBTUUID
  charUuid : ESPBTUUID
  descrUuid : ESPBTUUID := ⟨ESPBTUUID.copyBytes [], 0⟩
  notify : Bool := false

structure BLESensor (φ : Type) where
  config : SensorConfig
  dataToValue : Option (List UInt8 → φ) := none
  handle : UInt16 := 0
  handleIsDescriptor : Bool := false
  nodeState : ClientState := .init

namespace BLESensor

variable (n : BLESensor φ)

def parseData (F : FloatFormat φ) (data : List UInt8) : φ :=
  match n.dataToValue with
  | some f => f data
  | none => (data.head?.map F.ofByte).getD F.nan

/-- The read that `update` asks the parent for, if it gets that far. -/
def update (parent : ClientState) : Option ClientRequest :=
  if n.nodeState ≠ .established ∧ parent ≠ .established then none
  else if n.handle = 0 then none
  else if n.handleIsDescriptor then some (.readDescriptor n.handle)
  else some (.readCharacteristic n.handle)

/-- The handle that `on_services_discovered` keeps. -/
def resolve (chr : DiscoveredCharacteristic) : BLESensor φ :=
  if n.config.descrUuid.len > 0 then
    match chr.getDescriptor n.config.descrUuid with
    | some descr => { n with handle := descr.handle, handleIsDescriptor := true }
    | none => { n with handle := chr.handle }
  else { n with handle := chr.handle }

def onServicesDiscovered (parent : BLEClientBase τ) : BLESensor φ × Option ClientRequest :=
  match parent.getCharacteristicOf n.config.serviceUuid n.config.charUuid with
  | none => (n, none)
  | some (_, chr) =>
      let n := n.resolve chr
      if n.config.notify then (n, some (.notifyCharacteristic chr.handle true))
      else
        let n := { n with nodeState := .established }
        (n, n.update parent.state)

def onCharacteristicRead (F : FloatFormat φ) (r : BLEReadResult) : Option φ :=
  if n.handleIsDescriptor ∨ r.handle ≠ n.handle then none else some (n.parseData F r.data)

def onDescriptorRead (F : FloatFormat φ) (r : BLEReadResult) : Option φ :=
  if ¬ n.handleIsDescriptor ∨ r.handle ≠ n.handle then none else some (n.parseData F r.data)

def onNotify (F : FloatFormat φ) (e : BLENotifyEvent) : Option φ :=
  if e.handle ≠ n.handle then none else some (n.parseData F e.data)

end BLESensor

structure BLETextSensor where
  config : SensorConfig
  handle : UInt16 := 0
  nodeState : ClientState := .init

namespace BLETextSensor

variable (n : BLETextSensor)

def parseData (data : List UInt8) : List Char := ESPBTUUID.hexBytes data

def update (parent : ClientState) : Option ClientRequest :=
  if n.handle = 0 ∨ parent ≠ .established then none else some (.readCharacteristic n.handle)

def onServicesDiscovered (parent : BLEClientBase τ) : BLETextSensor × Option ClientRequest :=
  match parent.getCharacteristicOf n.config.serviceUuid n.config.charUuid with
  | none => (n, none)
  | some (_, chr) =>
      let n := { n with handle := chr.handle }
      if n.config.notify then (n, some (.notifyCharacteristic chr.handle true))
      else
        let n := { n with nodeState := .established }
        (n, n.update parent.state)

def onCharacteristicRead (r : BLEReadResult) : Option (List Char) :=
  if r.handle ≠ n.handle then none else some (parseData r.data)

def onNotify (e : BLENotifyEvent) : Option (List Char) :=
  if e.handle ≠ n.handle then none else some (parseData e.data)

end BLETextSensor

inductive SensorValue (φ : Type)
  | number (x : φ)
  | text (s : List Char)

inductive SensorNode (φ : Type)
  | sensor (n : BLESensor φ)
  | text (n : BLETextSensor)

/-- What a hook does: the node afterwards, what it asks the parent for, what it publishes. -/
structure HookResult (φ : Type) where
  node : SensorNode φ
  request : Option ClientRequest := none
  published : Option (SensorValue φ) := none

namespace SensorNode

variable (F : FloatFormat φ)

def config : SensorNode φ → SensorConfig
  | sensor n => n.config
  | text n => n.config

def handle : SensorNode φ → UInt16
  | sensor n => n.handle
  | text n => n.handle

def parseData (data : List UInt8) : SensorNode φ → SensorValue φ
  | sensor n => .number (n.parseData F data)
  | text _ => .text (BLETextSensor.parseData data)

def setNodeState (st : ClientState) : SensorNode φ → SensorNode φ
  | sensor n => .sensor { n with nodeState := st }
  | text n => .text { n with nodeState := st }

def update (parent : ClientState) : SensorNode φ → Option ClientRequest
  | sensor n => n.update parent
  | text n => n.update parent

def onDisconnected : SensorNode φ → HookResult φ
  | sensor n => { node := .sensor n, published := some (.number F.nan) }
  | text n => { node := .text { n with nodeState := .idle }, published := some (.text []) }

def onServicesDiscovered (parent : BLEClientBase τ) : SensorNode φ → HookResult φ
  | sensor n =>
      { node := .sensor (n.onServicesDiscovered parent).1
        request := (n.onServicesDiscovered parent).2 }
  | text n =>
      { node := .text (n.onServicesDiscovered parent).1
        request := (n.onServicesDiscovered parent).2 }

def onCharacteristicRead (r : BLEReadResult) : SensorNode φ → Option (SensorValue φ)
  | sensor n => (n.onCharacteristicRead F r).map .number
  | text n => (n.onCharacteristicRead r).map .text

/-- A text sensor has no hook for this. -/
def onDescriptorRead (r : BLEReadResult) : SensorNode φ → Option (SensorValue φ)
  | sensor n => (n.onDescriptorRead F r).map .number
  | text _ => none

def onNotify (e : BLENotifyEvent) : SensorNode φ → Option (SensorValue φ)
  | sensor n => (n.onNotify F e).map .number
  | text n => (n.onNotify e).map .text

/-- What `dispatch_event_` of the client calls for one node, those hooks that a sensor has. -/
def hook (parent : BLEClientBase τ) (n : SensorNode φ) : HostGattEvent → HookResult φ
  | .servicesDiscovered _ _ => n.onServicesDiscovered parent
  | .disconnected _ => n.onDisconnected F
  | .readComplete handle status data =>
      { node := n, published := n.onCharacteristicRead F ⟨handle, status, data⟩ }
  | .descRead handle status data =>
      { node := n, published := n.onDescriptorRead F ⟨handle, status, data⟩ }
  | .notify handle data => { node := n, published := n.onNotify F ⟨handle, data⟩ }
  | _ => { node := n }

/-- The fan-out: one node after another, each with the parent as the ones before it left it. -/
def fanOut (ev : HostGattEvent) : BLEClientBase τ → List (SensorNode φ) →
    BLEClientBase τ × List (HookResult φ)
  | parent, [] => (parent, [])
  | parent, n :: nodes =>
      let r := n.hook F parent ev
      let (parent, rest) := fanOut ev ((r.request.map (·.perform parent)).getD parent) nodes
      (parent, r :: rest)

end SensorNode

/-! ## One client and its sensors -/

/-- The event that a step dispatches. -/
def ClientRun.dispatchedEvent (s : ClientRun τ) : ClientLabel τ → Option HostGattEvent
  | .dispatch _ => s.drained.head?.map (·.val)
  | .connectTimeout now =>
      if s.client.connectTimedOut now then some BLEClientBase.timeoutEvent else none
  | .disconnectTimeout now =>
      if s.client.disconnectTimedOut now then some BLEClientBase.timeoutEvent else none
  | _ => none

/-- What a sensor published: the event it was for, whether the client was connected then, and the
tree of the connection. -/
structure Publication (φ : Type) where
  node : SensorNode φ
  value : SensorValue φ
  event : HostGattEvent
  connected : Bool
  tree : List DiscoveredService

/-- `tree` is the tree of the current connection, none before its services are discovered. -/
structure SensorClient (φ : Type) where
  run : ClientRun Unit
  nodes : List (SensorNode φ)
  tree : List DiscoveredService := []
  published : List (Publication φ) := []

namespace SensorClient

inductive Label
  | client (l : ClientLabel Unit)
  | update (i : Nat)

/-- The tree of the current connection after an event. -/
def treeAfter (tree : List DiscoveredService) : HostGattEvent → List DiscoveredService
  | .connected | .disconnected _ => []
  | .servicesDiscovered _ services => services
  | _ => tree

variable (F : FloatFormat φ) (s : SensorClient φ)

/-- `dispatch_event_`, the base class's part of which led to `t`. -/
def dispatch (t : ClientRun Unit) (ev : HostGattEvent) : SensorClient φ :=
  let nodes := s.nodes.map (·.setNodeState t.client.state)
  let (parent, results) := SensorNode.fanOut F ev t.client nodes
  let tree := treeAfter s.tree ev
  { run := { t with client := parent }
    nodes := results.map (·.node)
    tree := tree
    published := s.published ++ results.filterMap fun r =>
      r.published.map fun value => ⟨r.node, value, ev, decide t.client.Up, tree⟩ }

def step : Label → Option (SensorClient φ)
  | .client l => (clientStep s.run l).map fun t =>
      match s.run.dispatchedEvent l with
      | some ev => s.dispatch F t.1 ev
      | none => { s with run := t.1 }
  | .update i => s.nodes[i]?.map fun n =>
      { s with run := { s.run with client :=
        ((n.update s.run.client.state).map (·.perform s.run.client)).getD s.run.client } }

/-- A sensor that has not run yet. -/
def fresh : SensorNode φ → Bool
  | .sensor n => n.handle = 0 ∧ n.handleIsDescriptor = false ∧ n.nodeState = .init
  | .text n => n.handle = 0 ∧ n.nodeState = .init

def machine : Machine (SensorClient φ) Label where
  init s := (clientMachine Unit).init s.run ∧ (∀ n ∈ s.nodes, fresh n = true) ∧ s.tree = [] ∧
    s.published = []
  step s l := s.step F l

end SensorClient

/-! ## The property and the condition -/

/-- The bytes that an event brings, the status, and whose value they are. -/
structure AttributeValue where
  handle : UInt16
  isDescriptor : Bool
  status : Int
  data : List UInt8

/-- Read responses and notifications. -/
def HostGattEvent.value : HostGattEvent → Option AttributeValue
  | .readComplete handle status data => some ⟨handle, false, status, data⟩
  | .descRead handle status data => some ⟨handle, true, status, data⟩
  | .notify handle data => some ⟨handle, false, ESP_GATT_OK, data⟩
  | _ => none

/-- The attribute that is meant below a characteristic, and whether it is a descriptor: the
descriptor if one is configured and there is one, else the characteristic. -/
def SensorConfig.attribute (k : SensorConfig) (chr : DiscoveredCharacteristic) : UInt16 × Bool :=
  match if k.descrUuid.len > 0 then chr.getDescriptor k.descrUuid else none with
  | some descr => (descr.handle, true)
  | none => (chr.handle, false)

/-- The attribute that the UUIDs lead to in a tree. -/
def SensorConfig.target (k : SensorConfig) (tree : List DiscoveredService) :
    Option (UInt16 × Bool) :=
  ((tree.find? (·.uuid == k.serviceUuid)).bind (·.getCharacteristic k.charUuid)).map k.attribute

/-- What was published on a connection is the parsed value of the attribute. -/
def Publication.Genuine (F : FloatFormat φ) (p : Publication φ) : Prop :=
  p.connected = true → ∃ v, p.event.value = some v ∧ v.status = ESP_GATT_OK ∧
    p.node.config.target p.tree = some (v.handle, v.isDescriptor) ∧
    p.value = p.node.parseData F v.data

/-- The filter of the hook for an event lets it through. -/
def SensorNode.takes : SensorNode φ → HostGattEvent → Bool
  | sensor n, .readComplete handle _ _ => !n.handleIsDescriptor && handle == n.handle
  | sensor n, .descRead handle _ _ => n.handleIsDescriptor && handle == n.handle
  | text n, .readComplete handle _ _ => handle == n.handle
  | n, .notify handle _ => handle == n.handle
  | _, _ => false

/-- On a connection a sensor takes a value only if that is of a successful read or a notification,
and the UUIDs of the sensor lead to an attribute of the kind. -/
def SensorClient.Resolved (s : SensorClient φ) : SensorClient.Label → Prop
  | .client l => s.run.client.Up → ∀ ev ∈ s.run.dispatchedEvent l, ∀ v ∈ ev.value,
      ∀ n ∈ s.nodes, n.takes ev = true → v.status = ESP_GATT_OK ∧
        (n.config.target s.tree).map Prod.snd = some v.isDescriptor
  | .update _ => True

instance : ∀ (s : SensorClient φ) (l : SensorClient.Label), Decidable (s.Resolved l)
  | s, .client l => inferInstanceAs (Decidable (s.run.client.Up → ∀ ev ∈ s.run.dispatchedEvent l,
      ∀ v ∈ ev.value, ∀ n ∈ s.nodes, n.takes ev = true → v.status = ESP_GATT_OK ∧
        (n.config.target s.tree).map Prod.snd = some v.isDescriptor))
  | _, .update _ => isTrue trivial

/-! ## What the hooks do -/

section Hooks

variable {F : FloatFormat φ} {b : BLEClientBase τ} {n : SensorNode φ} {ev : HostGattEvent}
  {v : AttributeValue} {tree : List DiscoveredService}

/-- The lookup of the hooks. -/
theorem target_eq (k : SensorConfig) (b : BLEClientBase τ) : k.target b.services =
    (b.getCharacteristicOf k.serviceUuid k.charUuid).map fun p => k.attribute p.2 := by
  unfold SensorConfig.target BLEClientBase.getCharacteristicOf BLEClientBase.getService
  cases b.services.find? (·.uuid == k.serviceUuid) with
  | none => rfl
  | some svc =>
      show (svc.getCharacteristic k.charUuid).map k.attribute =
        ((svc.getCharacteristic k.charUuid).map (svc, ·)).map fun p => k.attribute p.2
      rw [Option.map_map]
      rfl

theorem resolve_spec (n : BLESensor φ) (chr : DiscoveredCharacteristic) :
    (n.resolve chr).config = n.config ∧
      (n.resolve chr).handle = (n.config.attribute chr).1 := by
  unfold BLESensor.resolve SensorConfig.attribute
  split
  · split <;> exact ⟨rfl, rfl⟩
  · exact ⟨rfl, rfl⟩

/-- What `on_services_discovered` does to the configuration and the handle. -/
theorem onServicesDiscovered_sensor (n : BLESensor φ) (b : BLEClientBase τ) :
    (n.onServicesDiscovered b).1.config = n.config ∧
      ∀ handle isDescriptor, n.config.target b.services = some (handle, isDescriptor) →
        (n.onServicesDiscovered b).1.handle = handle := by
  rw [target_eq]
  unfold BLESensor.onServicesDiscovered
  cases b.getCharacteristicOf n.config.serviceUuid n.config.charUuid with
  | none => exact ⟨rfl, fun _ _ missing => by cases missing⟩
  | some p =>
      obtain ⟨config, handle⟩ := resolve_spec n p.2
      dsimp only
      refine ⟨by split <;> exact config, fun _ _ target => ?_⟩
      have same := congrArg Prod.fst (Option.some.inj target)
      split <;> exact handle.trans same

theorem onServicesDiscovered_text (n : BLETextSensor) (b : BLEClientBase τ) :
    (n.onServicesDiscovered b).1.config = n.config ∧
      ∀ handle, n.config.target b.services = some (handle, false) →
        (n.onServicesDiscovered b).1.handle = handle := by
  rw [target_eq]
  unfold BLETextSensor.onServicesDiscovered
  cases b.getCharacteristicOf n.config.serviceUuid n.config.charUuid with
  | none => exact ⟨rfl, fun _ missing => by cases missing⟩
  | some p =>
      dsimp only
      refine ⟨by split <;> rfl, fun handle target => ?_⟩
      have same : p.2.handle = handle := by
        rw [Option.map_some, Option.some.injEq, SensorConfig.attribute] at target
        split at target
        · cases target
        · exact congrArg Prod.fst target
      split <;> exact same

/-- **A value reaches the parser exactly if the filter of the node takes it.** -/
theorem hook_value (brings : ev.value = some v) : n.hook F b ev =
    { node := n, published := if n.takes ev then some (n.parseData F v.data) else none } := by
  cases ev with
  | readComplete | descRead | notify =>
      obtain rfl := Option.some.inj brings
      cases n <;>
        simp only [SensorNode.hook, SensorNode.onCharacteristicRead, SensorNode.onDescriptorRead,
          SensorNode.onNotify, BLESensor.onCharacteristicRead, BLESensor.onDescriptorRead,
          BLESensor.onNotify, BLETextSensor.onCharacteristicRead, BLETextSensor.onNotify,
          SensorNode.takes, SensorNode.handle, SensorNode.parseData] <;>
        grind
  | _ => cases brings

/-- Other events publish nothing, but for the end of the connection. -/
theorem hook_published_none (bare : ev.value = none) (goes : ∀ reason, ev ≠ .disconnected reason) :
    (n.hook F b ev).published = none := by
  cases ev with
  | readComplete | descRead | notify => cases bare
  | disconnected reason => exact absurd rfl (goes reason)
  | servicesDiscovered => cases n <;> rfl
  | _ => rfl

/-- The handle that a node goes by is that of its attribute. -/
def Installed (tree : List DiscoveredService) : SensorNode φ → Prop
  | .sensor n => ∀ handle isDescriptor,
      n.config.target tree = some (handle, isDescriptor) → n.handle = handle
  | .text n => ∀ handle, n.config.target tree = some (handle, false) → n.handle = handle

/-- What gets through is of the handle of the node, and no descriptor unless the node is of the kind
that reads them. -/
theorem takes_spec (brings : ev.value = some v) (takes : n.takes ev = true) :
    v.handle = n.handle ∧ ∀ m, n = .text m → v.isDescriptor = false := by
  cases ev with
  | readComplete | notify =>
      obtain rfl := Option.some.inj brings
      cases n <;> simp_all [SensorNode.takes, SensorNode.handle]
  | descRead =>
      obtain rfl := Option.some.inj brings
      cases n with
      | sensor n => simp_all [SensorNode.takes, SensorNode.handle]
      | text n => cases takes
  | _ => cases brings

theorem handle_of_takes (installed : Installed tree n) (brings : ev.value = some v)
    (takes : n.takes ev = true) {handle : UInt16}
    (target : n.config.target tree = some (handle, v.isDescriptor)) : v.handle = handle := by
  obtain ⟨same, kind⟩ := takes_spec brings takes
  rw [same]
  cases n with
  | sensor n => exact installed _ _ target
  | text n =>
      rw [kind n rfl] at target
      exact installed _ target

/-! ## The fan-out -/

theorem services_request (r : Option ClientRequest) (b : BLEClientBase τ) :
    ((r.map (·.perform b)).getD b).services = b.services := by
  cases r with
  | none => rfl
  | some r => exact (quiet_perform b r).services

/-- Every result is of a node, with a parent that has the services of the first. -/
theorem mem_fanOut {nodes : List (SensorNode φ)} {r : HookResult φ}
    (mem : r ∈ (SensorNode.fanOut F ev b nodes).2) :
    ∃ n ∈ nodes, ∃ b' : BLEClientBase τ, b'.services = b.services ∧ r = n.hook F b' ev := by
  induction nodes generalizing b with
  | nil => cases mem
  | cons n nodes ih =>
      rcases List.mem_cons.mp mem with rfl | mem
      · exact ⟨n, List.mem_cons_self, b, rfl, rfl⟩
      · obtain ⟨n', listed, b', services, rfl⟩ := ih mem
        exact ⟨n', List.mem_cons_of_mem _ listed, b', services.trans (services_request _ b), rfl⟩

/-- Every node has its result. -/
theorem exists_mem_fanOut {nodes : List (SensorNode φ)} (listed : n ∈ nodes) :
    ∃ b' : BLEClientBase τ, n.hook F b' ev ∈ (SensorNode.fanOut F ev b nodes).2 := by
  induction nodes generalizing b with
  | nil => cases listed
  | cons first nodes ih =>
      rcases List.mem_cons.mp listed with rfl | listed
      · exact ⟨b, List.mem_cons_self⟩
      · obtain ⟨b', mem⟩ := ih (b := ((first.hook F b ev).request.map (·.perform b)).getD b) listed
        exact ⟨b', List.mem_cons_of_mem _ mem⟩

end Hooks

/-! ## What a step does -/

section Steps

variable {F : FloatFormat φ} {s t : SensorClient φ} {l : SensorClient.Label}
  {n : SensorNode φ} {ev : HostGattEvent} {v : AttributeValue}

/-- A dispatched event goes to the base class first, in the state the client was in. -/
theorem dispatchEvent_of_dispatched {r : ClientRun τ} {l : ClientLabel τ}
    {t : ClientRun τ × Option Int} (step : clientStep r l = some t)
    (dispatched : r.dispatchedEvent l = some ev) : ∃ (b : BLEClientBase τ) (now : UInt32),
      b.state = r.client.state ∧ t.1.client = (b.dispatchEvent now ev).1 := by
  obtain ⟨client, drained⟩ := r
  cases l with
  | dispatch now =>
      cases drained with
      | nil => cases dispatched
      | cons e rest =>
          obtain rfl := Option.some.inj dispatched
          obtain rfl := Option.some.inj step
          exact ⟨client, now, rfl, rfl⟩
  | connectTimeout now =>
      obtain ⟨expired, dispatched⟩ := Option.ite_none_right_eq_some.mp dispatched
      obtain rfl := Option.some.inj dispatched
      cases drained with
      | cons => cases step
      | nil =>
          obtain rfl := Option.some.inj step
          refine ⟨client.enqueue .disconnect, now, rfl, ?_⟩
          rw [BLEClientBase.checkConnectTimeout, if_pos expired]
  | disconnectTimeout now =>
      obtain ⟨expired, dispatched⟩ := Option.ite_none_right_eq_some.mp dispatched
      obtain rfl := Option.some.inj dispatched
      cases drained with
      | cons => cases step
      | nil =>
          obtain rfl := Option.some.inj step
          refine ⟨client, now, rfl, ?_⟩
          rw [BLEClientBase.checkDisconnectTimeout, if_pos expired]
  | _ => cases dispatched

/-- An event that brings a value leaves the state of the client and its tree alone. -/
theorem value_quiet (brings : ev.value = some v) (b : BLEClientBase τ) (now : UInt32)
    (tree : List DiscoveredService) : (b.dispatchEvent now ev).1.state = b.state ∧
      SensorClient.treeAfter tree ev = tree := by
  cases ev with
  | readComplete | descRead | notify => exact ⟨rfl, rfl⟩
  | _ => cases brings

theorem installed_nil (n : SensorNode φ) : Installed [] n := by
  cases n with
  | sensor n => exact fun _ _ target => by cases target
  | text n => exact fun _ target => by cases target

@[simp] theorem config_setNodeState (n : SensorNode φ) (st : ClientState) :
    (n.setNodeState st).config = n.config := by
  cases n <;> rfl

@[simp] theorem takes_setNodeState (n : SensorNode φ) (st : ClientState) (ev : HostGattEvent) :
    (n.setNodeState st).takes ev = n.takes ev := by
  cases n <;> cases ev <;> rfl

theorem installed_setNodeState {tree : List DiscoveredService} (installed : Installed tree n)
    (st : ClientState) : Installed tree (n.setNodeState st) := by
  cases n <;> exact installed

/-- The hooks for an event keep what the handles are of. -/
theorem installed_hook {tree : List DiscoveredService} {b : BLEClientBase τ}
    (installed : Installed tree n)
    (services : ∀ mtu tree, ev = .servicesDiscovered mtu tree → b.services = tree) :
    Installed (SensorClient.treeAfter tree ev) (n.hook F b ev).node := by
  cases ev with
  | connected | disconnected => exact installed_nil _
  | servicesDiscovered mtu tree =>
      obtain rfl := services mtu tree rfl
      cases n with
      | sensor n =>
          intro handle isDescriptor target
          have kept := onServicesDiscovered_sensor n b
          exact kept.2 handle isDescriptor (kept.1 ▸ target)
      | text n =>
          intro handle target
          have kept := onServicesDiscovered_text n b
          exact kept.2 handle (kept.1 ▸ target)
  | _ => exact installed

/-- A step of the client dispatches an event to the sensors, or leaves them alone. -/
theorem step_client {l : ClientLabel Unit}
    (step : (SensorClient.machine F).step s (.client l) = some t) :
    ∃ r, clientStep s.run l = some r ∧
      ((∃ ev, s.run.dispatchedEvent l = some ev ∧ t = s.dispatch F r.1 ev) ∨
        (s.run.dispatchedEvent l = none ∧ t = { s with run := r.1 })) := by
  obtain ⟨r, ran, rfl⟩ := Option.map_eq_some_iff.mp step
  refine ⟨r, ran, ?_⟩
  cases s.run.dispatchedEvent l with
  | some ev => exact .inl ⟨ev, rfl, rfl⟩
  | none => exact .inr ⟨rfl, rfl⟩

theorem step_update {i : Nat} (step : (SensorClient.machine F).step s (.update i) = some t) :
    t.nodes = s.nodes ∧ t.tree = s.tree ∧ t.published = s.published := by
  obtain ⟨n, -, rfl⟩ := Option.map_eq_some_iff.mp step
  exact ⟨rfl, rfl, rfl⟩

/-- What a dispatch publishes comes from the hook of one of the nodes. -/
theorem published_dispatch {r : ClientRun Unit} {p : Publication φ}
    (mem : p ∈ (s.dispatch F r ev).published) : p ∈ s.published ∨
      ∃ n ∈ s.nodes, ∃ (b : BLEClientBase Unit) (value : SensorValue φ),
        ((n.setNodeState r.client.state).hook F b ev).published = some value ∧
        p = ⟨((n.setNodeState r.client.state).hook F b ev).node, value, ev, decide r.client.Up,
          SensorClient.treeAfter s.tree ev⟩ := by
  rcases List.mem_append.mp mem with old | new
  · exact .inl old
  · obtain ⟨result, of, published⟩ := List.mem_filterMap.mp new
    obtain ⟨value, hooked, rfl⟩ := Option.map_eq_some_iff.mp published
    obtain ⟨n', fanned, b, -, rfl⟩ := mem_fanOut of
    obtain ⟨n, listed, rfl⟩ := List.mem_map.mp fanned
    exact .inr ⟨n, listed, b, value, hooked, rfl⟩

/-- A node that takes a value publishes it. -/
theorem exists_published {r : ClientRun Unit} (listed : n ∈ s.nodes)
    (brings : ev.value = some v) (takes : n.takes ev = true) :
    ⟨n.setNodeState r.client.state, (n.setNodeState r.client.state).parseData F v.data, ev,
      decide r.client.Up, SensorClient.treeAfter s.tree ev⟩ ∈ (s.dispatch F r ev).published := by
  have fanned : n.setNodeState r.client.state ∈ s.nodes.map (·.setNodeState r.client.state) :=
    List.mem_map_of_mem listed
  obtain ⟨b, of⟩ : ∃ b, (n.setNodeState r.client.state).hook F b ev ∈
      (SensorNode.fanOut F ev r.client (s.nodes.map (·.setNodeState r.client.state))).2 :=
    exists_mem_fanOut fanned
  refine List.mem_append_right _ (List.mem_filterMap.mpr ⟨_, of, ?_⟩)
  rw [hook_value brings, takes_setNodeState, if_pos takes]
  rfl

/-! ## The invariant and the property -/

def AllInstalled (s : SensorClient φ) : Prop := ∀ n ∈ s.nodes, Installed s.tree n

def AllGenuine (F : FloatFormat φ) (s : SensorClient φ) : Prop := ∀ p ∈ s.published, p.Genuine F

theorem allInstalled_dispatch {l : ClientLabel Unit} {r : ClientRun Unit × Option Int}
    (installed : AllInstalled s) (ran : clientStep s.run l = some r)
    (dispatched : s.run.dispatchedEvent l = some ev) : AllInstalled (s.dispatch F r.1 ev) := by
  intro n mem
  obtain ⟨result, of, rfl⟩ := List.mem_map.mp mem
  obtain ⟨n', fanned, b, services, rfl⟩ := mem_fanOut of
  obtain ⟨n, listed, rfl⟩ := List.mem_map.mp fanned
  refine installed_hook (installed_setNodeState (installed n listed) _) fun mtu tree same => ?_
  obtain ⟨base, now, -, client⟩ := dispatchEvent_of_dispatched ran dispatched
  rw [services, client, same]
  rfl

/-- **What a guarded dispatch publishes is genuine.** -/
theorem genuine_dispatch {l : ClientLabel Unit} {r : ClientRun Unit × Option Int}
    (installed : AllInstalled s) (resolved : s.Resolved (.client l))
    (ran : clientStep s.run l = some r) (dispatched : s.run.dispatchedEvent l = some ev)
    (genuine : AllGenuine F s) : AllGenuine F (s.dispatch F r.1 ev) := by
  intro p mem
  obtain ⟨base, now, state, client⟩ := dispatchEvent_of_dispatched ran dispatched
  rcases published_dispatch mem with old | ⟨n, listed, b, value, published, rfl⟩
  · exact genuine p old
  intro connected
  cases brings : ev.value with
  | some v =>
      obtain ⟨quiet, tree⟩ := value_quiet brings base now s.tree
      have up : s.run.client.Up := by
        have up : r.1.client.Up := of_decide_eq_true connected
        rwa [BLEClientBase.Up, client, quiet, state] at up
      rw [hook_value brings, takes_setNodeState] at published ⊢
      obtain ⟨takes, parsed⟩ := Option.ite_none_right_eq_some.mp published
      obtain rfl := Option.some.inj parsed
      obtain ⟨status, kind⟩ := resolved up ev dispatched v brings n listed takes
      obtain ⟨⟨handle, isDescriptor⟩, target, rfl⟩ := Option.map_eq_some_iff.mp kind
      refine ⟨v, rfl, status, ?_, rfl⟩
      show (n.setNodeState _).config.target (SensorClient.treeAfter s.tree ev) = _
      rw [config_setNodeState, tree, target,
        handle_of_takes (installed n listed) brings takes target]
  | none =>
      by_cases ends : ∃ reason, ev = .disconnected reason
      · obtain ⟨reason, rfl⟩ := ends
        have up : r.1.client.Up := of_decide_eq_true connected
        rw [BLEClientBase.Up, client] at up
        rcases up with up | up <;> cases up
      · rw [hook_published_none brings fun reason same => ends ⟨reason, same⟩] at published
        cases published

theorem not_genuine_dispatch {l : ClientLabel Unit} {r : ClientRun Unit × Option Int}
    (broken : ¬ s.Resolved (.client l)) (ran : clientStep s.run l = some r)
    (dispatched : s.run.dispatchedEvent l = some ev) : ¬ AllGenuine F (s.dispatch F r.1 ev) := by
  intro genuine
  refine broken fun up ev' dispatched' v brings n listed takes => ?_
  obtain rfl := Option.some.inj (dispatched.symm.trans dispatched')
  obtain ⟨base, now, state, client⟩ := dispatchEvent_of_dispatched ran dispatched
  obtain ⟨quiet, tree⟩ := value_quiet brings base now s.tree
  have connected : r.1.client.Up := by rwa [BLEClientBase.Up, client, quiet, state]
  obtain ⟨v', brings', status, target, -⟩ :=
    genuine _ (exists_published listed brings takes) (decide_eq_true connected)
  obtain rfl := Option.some.inj (brings.symm.trans brings')
  rw [config_setNodeState, tree] at target
  exact ⟨status, by rw [target]; rfl⟩

/-- **What the sensors publish is genuine exactly as long as they take what is.** -/
theorem genuine_iff_resolved (init : (SensorClient.machine F).init s)
    (ls : List SensorClient.Label) :
    (SensorClient.machine F).Throughout (AllGenuine F) s ls ↔
      (SensorClient.machine F).Meets SensorClient.Resolved s ls := by
  obtain ⟨-, -, tree, published⟩ := init
  refine Machine.throughout_iff_meets (I := AllInstalled) ?_ ?_
    (fun n _ => tree ▸ installed_nil n) (fun p mem => ?_) ls
  · intro s l t installed genuine resolved step
    cases l with
    | client l =>
        obtain ⟨r, ran, ⟨ev, dispatched, rfl⟩ | ⟨-, rfl⟩⟩ := step_client step
        · exact ⟨allInstalled_dispatch installed ran dispatched,
            genuine_dispatch installed resolved ran dispatched genuine⟩
        · exact ⟨installed, genuine⟩
    | update i =>
        obtain ⟨nodes, tree, published⟩ := step_update step
        unfold AllInstalled AllGenuine
        rw [nodes, tree, published]
        exact ⟨installed, genuine⟩
  · intro s l t installed genuine broken step
    cases l with
    | client l =>
        obtain ⟨r, ran, ⟨ev, dispatched, rfl⟩ | ⟨none, rfl⟩⟩ := step_client step
        · exact not_genuine_dispatch broken ran dispatched
        · refine absurd (fun _ ev dispatched => ?_) broken
          rw [none] at dispatched
          cases dispatched
    | update i => exact absurd trivial broken
  · rw [published] at mem
    cases mem

end Steps

/-! ## A battery level -/

/-- The bytes themselves, and nothing for NaN. -/
def byteFormat : FloatFormat (Option UInt8) := ⟨none, some⟩

def batteryTree : List DiscoveredService :=
  [⟨ESPBTUUID.fromUint16 0x180F, 1, 3, [⟨ESPBTUUID.fromUint16 0x2A19, 2, 0x02, []⟩]⟩]

def batteryConfig : SensorConfig :=
  { serviceUuid := ESPBTUUID.fromUint16 0x180F, charUuid := ESPBTUUID.fromUint16 0x2A19 }

/-- A client with a sensor and a text sensor for the level. -/
def batterySensors : SensorClient (Option UInt8) :=
  { run := ⟨BLEClientBase.setup { stamp := () }, []⟩
    nodes := [.sensor { config := batteryConfig }, .text { config := batteryConfig }] }

/-- The level is read once, with this status and these bytes. -/
def readOnce (status : Int) (data : List UInt8) : List SensorClient.Label :=
  [.client (.connect 0), .client (.post () .connected),
    .client (.post () (.servicesDiscovered 23 batteryTree)),
    .client (.post () (.readComplete 2 status data)), .client .drain, .client (.dispatch 0),
    .client (.dispatch 0), .client (.dispatch 0)]

theorem batterySensors_init : (SensorClient.machine byteFormat).init batterySensors :=
  ⟨⟨{ stamp := () }, rfl, rfl, rfl⟩, by decide, rfl, rfl⟩

/-- Both sensors publish the level. -/
theorem genuine_readOnce :
    ((SensorClient.machine byteFormat).run batterySensors (readOnce ESP_GATT_OK [42])).map
        (·.published.length) = some 2 ∧
      (SensorClient.machine byteFormat).Throughout (AllGenuine byteFormat) batterySensors
        (readOnce ESP_GATT_OK [42]) :=
  ⟨by decide +kernel, (genuine_iff_resolved batterySensors_init _).mpr (by decide +kernel)⟩

/-- A value of a failed read, on a connection. -/
def Publication.failed (p : Publication φ) : Bool :=
  p.connected && p.event.value.any fun v => v.status ≠ ESP_GATT_OK

theorem Publication.not_genuine {F : FloatFormat φ} {p : Publication φ} (failed : p.failed = true) :
    ¬ p.Genuine F := by
  obtain ⟨connected, failed⟩ := Bool.and_eq_true_iff.mp failed
  intro genuine
  obtain ⟨v, brings, status, -⟩ := genuine connected
  rw [brings] at failed
  exact absurd status (of_decide_eq_true failed)

/-- The read fails, and both publish. -/
theorem not_genuine_failed :
    ((SensorClient.machine byteFormat).run batterySensors (readOnce ESP_GATT_ERROR [])).map
        (fun s => s.published.map (·.failed)) = some [true, true] ∧
      ¬ (SensorClient.machine byteFormat).Throughout (AllGenuine byteFormat) batterySensors
        (readOnce ESP_GATT_ERROR []) := by
  have replay : ((SensorClient.machine byteFormat).run batterySensors
      (readOnce ESP_GATT_ERROR [])).map (fun s => s.published.map (·.failed)) =
        some [true, true] := by
    decide +kernel
  refine ⟨replay, fun throughout => ?_⟩
  obtain ⟨s, ran, published⟩ := Option.map_eq_some_iff.mp replay
  obtain ⟨p, mem, failed⟩ : ∃ p ∈ s.published, p.failed = true :=
    List.mem_map.mp (published ▸ List.mem_cons_self)
  exact Publication.not_genuine failed (throughout.last ran p mem)

end EsphomeHost

import Mathlib.Data.List.Infix
import EsphomeHost.Gatt.Tree
import EsphomeHost.Lib.Machine

/-!
# `BLEGattHost` on the worker thread

One worker object.  A D-Bus call blocks: the rest of the function that made it is a `Frame` on the
worker's stack, and `advance` takes it up once the call is answered.  While the worker waits, the
bus is pumped, so a signal may be handled on top of the waiting frame.

* The functions return the worker afterwards and what it put out: events for the main thread and
  answers to agent calls.
* `workerStep` is the step function.

`bus_` is null exactly while the bus is not open.

Over their calls `do_set_notify_` keeps a reference to the path of its entry of `handle_map_`, and
`acquire_mtu_` its place in the loop over the map.  A `Call` has the path, or the paths that are
left, which is what they find there as long as the map is not cleared meanwhile; when it is, the
source has no behaviour that could be modelled.  `Gatt/References` says when that is.
-/

namespace EsphomeHost

/-! ## Calls, replies and frames -/

/-- What a D-Bus call came back with.  A reply of a type the caller does not expect is an error to
it. -/
inductive Reply
  | error (name message : List Char)
  | done
  | bool (b : Bool)
  | string (s : List UInt8)
  | uint16 (v : UInt16)
  | int16 (v : Int16)
  | bytes (data : List UInt8)
  | objects (reply : List ManagedObject)

/-- The blocking calls, each with what its caller still needs. -/
inductive Call
  | openBus
  | getConnected
  | connect (attempt : Nat)
  | recheckConnected (notFound : Bool)
  | servicesResolved
  | managedObjects
  | gapName (tree : List DiscoveredService) (second : Bool)
  | gapAppearance (tree : List DiscoveredService) (name : List UInt8)
  | mtu (tree : List DiscoveredService) (path : List Char) (rest : List (List Char))
  | disconnect
  | read (handle : UInt16) (isDesc : Bool) (entry : ObjEntry)
  | write (handle : UInt16) (data : List UInt8) (response isDesc : Bool) (entry : ObjEntry)
  | notify (handle : UInt16) (enable : Bool) (path : List Char)
  | rssi
  | registerAgent
  | pair
  | removeBond

/-- An entry of a `PropertiesChanged` signal of the device. -/
inductive PropertyChange
  | connected (b : Bool)
  | servicesResolved (b : Bool)
  | other
deriving DecidableEq

/-- What is left of a function that was entered: the loop of `worker_process_commands`, the loop of
`on_properties_changed_`, or a function that waits for a call. -/
inductive Frame
  | commands (rest : List HostGattCommand)
  | properties (rest : List PropertyChange)
  | call (c : Call) (answer : Option Reply)

/-- One round of the innermost function. -/
inductive Work
  | finish
  | command (cmd : HostGattCommand)
  | change (p : PropertyChange)
  | resume (c : Call) (r : Reply)

/-- A parked `RequestPasskey` or `RequestConfirmation`. -/
structure AgentCall where
  id : Nat
  wantsPasskey : Bool
deriving DecidableEq

inductive AgentAnswer
  | passkey (passkey : UInt32)
  | accepted
  | rejected
deriving DecidableEq

inductive Output
  | event (ev : HostGattEvent)
  | agentAnswer (call : AgentCall) (answer : AgentAnswer)
deriving DecidableEq

def Output.event? : Output → Option HostGattEvent
  | event ev => some ev
  | agentAnswer _ _ => none

structure Worker where
  devicePath : List Char
  busOpen : Bool := false
  discovered : Bool := false
  discovering : Bool := false
  handleMap : HandleMap := []
  syntheticReads : List (UInt16 × List UInt8) := []
  notifySubs : List (List Char × UInt16) := []
  agentRegistered : Bool := false
  pendingAgentReply : Option AgentCall := none
  stack : List Frame := []

/-- `strstr(s, sub) != nullptr`. -/
def strstr (s sub : List Char) : Bool := sub <:+: s

/-- `read_ay`, whose length is cut to 16 bits. -/
def readAy (data : List UInt8) : List UInt8 := data.take (data.length % 65536)

namespace Worker

variable (w : Worker)

/-- Make a blocking call. -/
def call (c : Call) : Worker := { w with stack := .call c none :: w.stack }

def post (ev : HostGattEvent) : Worker × List Output := (w, [.event ev])

/-! ## Connecting -/

/-- `do_disconnect_`. -/
def doDisconnect : Worker × List Output :=
  if w.busOpen then (w.call .disconnect, []) else w.post (.disconnected 0)

/-- `try_start_discovery_` after a walk that failed. -/
def walkFailed : Worker × List Output := { w with discovering := false }.doDisconnect

/-- `try_start_discovery_`, up to the first call of the walk. -/
def tryStartDiscovery : Worker × List Output :=
  if w.discovered ∨ w.discovering then (w, [])
  else
    let w := { w with discovering := true }
    if w.busOpen then (w.call .managedObjects, []) else w.walkFailed

/-- `worker_on_connected_changed`. -/
def workerOnConnectedChanged : Bool → Worker × List Output
  | true => (if w.busOpen then w.call .servicesResolved else w, [.event .connected])
  | false =>
      { w with discovered := false, discovering := false, handleMap := [] }.post (.disconnected 0)

/-- `do_connect_`. -/
def doConnect : Worker × List Output :=
  (w.call (if w.busOpen then .getConnected else .openBus), [])

/-- `do_connect_` after `Device1.Connect`. -/
def connectReturned (attempt : Nat) : Reply → Worker × List Output
  | .error name message =>
      if strstr name "AlreadyConnected".toList then w.workerOnConnectedChanged true
      else if strstr message "le-connection-abort-by-local".toList ∧ attempt = 0 then
        (w.call (.connect 1), [])
      else
        (w.call (.recheckConnected
          (strstr name "UnknownObject".toList || strstr name "DoesNotExist".toList)), [])
  | _ => (w, [])

/-- The device is not connected after all. -/
def connectFailed (notFound : Bool) : Worker × List Output :=
  w.post (.disconnected (if notFound then 0x0a else 0x85))

/-! ## Discovery -/

/-- The end of `try_start_discovery_`. -/
def finishDiscovery (tree : List DiscoveredService) (mtu : UInt16) : Worker × List Output :=
  { w with discovering := false }.post (.servicesDiscovered mtu tree)

/-- The loop of `acquire_mtu_`, over the characteristics that are left. -/
def acquireMtu (tree : List DiscoveredService) : List (List Char) → Worker × List Output
  | [] => w.finishDiscovery tree 23
  | path :: rest => (w.call (.mtu tree path rest), [])

/-- `try_start_discovery_` after a walk that succeeded. -/
def treeWalked (tree : List DiscoveredService) : Worker × List Output :=
  { w with discovered := true }.acquireMtu tree w.handleMap.characteristicPaths

/-- `synthesize_gap_service_`, up to its first call. -/
def synthesizeGapService (tree : List DiscoveredService) : Worker × List Output :=
  let w := { w with syntheticReads := [] }
  if exportsGap tree ∨ w.busOpen = false then w.treeWalked tree
  else (w.call (.gapName tree false), [])

/-- `walk_gatt_tree_` after `GetManagedObjects`. -/
def walkObjects (reply : List ManagedObject) : Worker × List Output :=
  let objs := gattObjects w.devicePath reply
  match linkServices objs objs [] with
  | (m, some tree) => { w with handleMap := m }.synthesizeGapService tree
  | (m, none) => { w with handleMap := m }.walkFailed

/-- `synthesize_gap_service_` after reading `Name` or `Alias`. -/
def gapNamed (tree : List DiscoveredService) (second : Bool) (s : List UInt8) :
    Worker × List Output :=
  (w.call (if s = [] ∧ second = false then .gapName tree true else .gapAppearance tree s), [])

/-- The end of `synthesize_gap_service_`. -/
def gapFinished (tree : List DiscoveredService) (name : List UInt8) (appearance : UInt16) :
    Worker × List Output :=
  { w with syntheticReads := gapReads name appearance }.treeWalked (tree ++ [gapService])

/-! ## Other commands -/

/-- The event a read ends in. -/
def readEvent (handle : UInt16) (isDesc : Bool) (status : Int) (data : List UInt8) :
    HostGattEvent :=
  if isDesc then .descRead handle status data else .readComplete handle status data

def writeEvent (handle : UInt16) (isDesc : Bool) (status : Int) : HostGattEvent :=
  if isDesc then .descWrite handle status else .writeComplete handle status

/-- `do_read_`. -/
def doRead (handle : UInt16) (isDesc : Bool) : Worker × List Output :=
  match (if isDesc then none else w.syntheticReads.lookup handle) with
  | some value => w.post (.readComplete handle ESP_GATT_OK (readAy value))
  | none =>
      match w.handleMap.lookup handle with
      | none => w.post (readEvent handle isDesc ESP_GATT_INVALID_HANDLE [])
      | some entry => (w.call (.read handle isDesc entry), [])

/-- `do_write_`. -/
def doWrite (handle : UInt16) (data : List UInt8) (response isDesc : Bool) :
    Worker × List Output :=
  match w.handleMap.lookup handle with
  | none => w.post (writeEvent handle isDesc ESP_GATT_INVALID_HANDLE)
  | some entry => (w.call (.write handle data response isDesc entry), [])

/-- `do_set_notify_`, which refers to the path rather than copy it. -/
def doSetNotify (handle : UInt16) (enable : Bool) : Worker × List Output :=
  match w.handleMap.lookup handle with
  | some ⟨path, .characteristic, _⟩ => (w.call (.notify handle enable path), [])
  | _ => w.post (.notifyRegistered handle ESP_GATT_INVALID_HANDLE)

/-- `do_set_notify_` after a successful call; a subscription that exists is kept. -/
def notifySet (handle : UInt16) (enable : Bool) (path : List Char) : Worker :=
  if enable then
    if (w.notifySubs.lookup path).isSome then w
    else { w with notifySubs := w.notifySubs ++ [(path, handle)] }
  else { w with notifySubs := w.notifySubs.filter (·.1 ≠ path) }

/-- `do_read_rssi_`. -/
def doReadRssi : Worker × List Output := if w.busOpen then (w.call .rssi, []) else w.post (.rssi 0)

/-- `do_pair_`. -/
def doPair : Worker × List Output :=
  if w.busOpen then (w.call (if w.agentRegistered then .pair else .registerAgent), []) else (w, [])

/-- `do_passkey_reply_` and `do_confirm_reply_`: answer the parked call, if there is one. -/
def answerAgent (answer : AgentAnswer) : Worker × List Output :=
  match w.pendingAgentReply with
  | some call => ({ w with pendingAgentReply := none }, [.agentAnswer call answer])
  | none => (w, [])

/-- `do_remove_bond_`. -/
def doRemoveBond : Worker × List Output := if w.busOpen then (w.call .removeBond, []) else (w, [])

/-- The `switch` of `worker_process_commands`. -/
def execute : HostGattCommand → Worker × List Output
  | .connect => w.doConnect
  | .disconnect => w.doDisconnect
  | .readChar handle => w.doRead handle false
  | .readDesc handle => w.doRead handle true
  | .writeChar handle data response => w.doWrite handle data response false
  | .writeDesc handle data response => w.doWrite handle data response true
  | .setNotify handle enable => w.doSetNotify handle enable
  | .readRssi => w.doReadRssi
  | .pair => w.doPair
  | .passkeyReply passkey => w.answerAgent (.passkey passkey)
  | .confirmReply accept => w.answerAgent (if accept then .accepted else .rejected)
  | .removeBond => w.doRemoveBond

/-- One round of the loop of `on_properties_changed_`. -/
def propertyChanged : PropertyChange → Worker × List Output
  | .connected b => w.workerOnConnectedChanged b
  | .servicesResolved true => w.tryStartDiscovery
  | .servicesResolved false | .other => (w, [])

/-- Take up the function that waited for a call. -/
def resume : Call → Reply → Worker × List Output
  | .openBus, .error _ _ => (w, [])
  | .openBus, _ => ({ w with busOpen := true }.call .getConnected, [])
  | .getConnected, .bool true => w.workerOnConnectedChanged true
  | .getConnected, _ => (w.call (.connect 0), [])
  | .connect attempt, r => w.connectReturned attempt r
  | .recheckConnected _, .bool true => w.workerOnConnectedChanged true
  | .recheckConnected notFound, _ => w.connectFailed notFound
  | .servicesResolved, .bool true => w.tryStartDiscovery
  | .servicesResolved, _ => (w, [])
  | .managedObjects, .objects reply => w.walkObjects reply
  | .managedObjects, _ => w.walkFailed
  | .gapName tree second, .string s => w.gapNamed tree second s
  | .gapName tree second, _ => w.gapNamed tree second []
  | .gapAppearance tree name, .uint16 v => w.gapFinished tree name v
  | .gapAppearance tree name, _ => w.gapFinished tree name 0
  | .mtu tree _ rest, .uint16 v =>
      if v ≥ 23 then w.finishDiscovery tree v else w.acquireMtu tree rest
  | .mtu tree _ rest, _ => w.acquireMtu tree rest
  | .disconnect, _ => (w, [])
  | .read handle isDesc _, .error _ _ => w.post (readEvent handle isDesc ESP_GATT_ERROR [])
  | .read handle isDesc _, .bytes data => w.post (readEvent handle isDesc ESP_GATT_OK (readAy data))
  | .read handle isDesc _, _ => w.post (readEvent handle isDesc ESP_GATT_OK [])
  | .write handle _ _ isDesc _, .error _ _ => w.post (writeEvent handle isDesc ESP_GATT_ERROR)
  | .write handle _ _ isDesc _, _ => w.post (writeEvent handle isDesc ESP_GATT_OK)
  | .notify handle _ _, .error _ _ => w.post (.notifyRegistered handle ESP_GATT_ERROR)
  | .notify handle enable path, _ =>
      (w.notifySet handle enable path).post (.notifyRegistered handle ESP_GATT_OK)
  | .rssi, .int16 v => w.post (.rssi v.toInt8)
  | .rssi, _ => w.post (.rssi 0)
  | .registerAgent, .error _ _ => (w.call .pair, [])
  | .registerAgent, _ => ({ w with agentRegistered := true }.call .pair, [])
  | .pair, .error name _ => w.post (.pairingComplete (strstr name "AlreadyExists".toList) 0)
  | .pair, _ => w.post (.pairingComplete true 0)
  | .removeBond, _ => (w, [])

/-! ## Steps -/

/-- The bus is pumped: the worker is idle, or waits for a call. -/
def pumping : Bool :=
  match w.stack with
  | [] | .call _ _ :: _ => true
  | _ => false

/-- What is done next and the stack while it is done; nothing, while the innermost function waits
for an answer. -/
def nextWork : List Frame → Option (Work × List Frame)
  | .commands [] :: rest | .properties [] :: rest => some (.finish, rest)
  | .commands (cmd :: cmds) :: rest => some (.command cmd, .commands cmds :: rest)
  | .properties (p :: ps) :: rest => some (.change p, .properties ps :: rest)
  | .call c (some r) :: rest => some (.resume c r, rest)
  | .call _ none :: _ | [] => none

def perform : Work → Worker × List Output
  | .finish => (w, [])
  | .command cmd => w.execute cmd
  | .change p => w.propertyChanged p
  | .resume c r => w.resume c r

def advance : Option (Worker × List Output) :=
  (nextWork w.stack).map fun next => { w with stack := next.2 }.perform next.1

end Worker

inductive WorkerLabel
  /-- `worker_process_commands` swaps the command queue out. -/
  | take (cmds : List HostGattCommand)
  /-- A `PropertiesChanged` signal of the device. -/
  | signal (changes : List PropertyChange)
  /-- A `PropertiesChanged` signal of a characteristic, with the values it carries. -/
  | value (path : List Char) (values : List (List UInt8))
  | agentRequestPasskey (id : Nat)
  | agentDisplayPasskey (passkey : UInt32)
  | agentRequestConfirmation (id : Nat) (passkey : UInt32)
  /-- The call `depth` frames down is answered. -/
  | answer (depth : Nat) (r : Reply)
  | advance

/-- `on_value_changed_`. -/
def Worker.valueChanged (w : Worker) (path : List Char) (values : List (List UInt8)) :
    List Output :=
  match w.notifySubs.lookup path with
  | some handle => values.map fun v => .event (.notify handle (readAy v))
  | none => []

def workerStep (w : Worker) : WorkerLabel → Option (Worker × List Output)
  | .take cmds =>
      match w.stack with
      | [] => some ({ w with stack := [.commands cmds] }, [])
      | _ => none
  | .signal changes =>
      if w.pumping ∧ w.busOpen then some ({ w with stack := .properties changes :: w.stack }, [])
      else none
  | .value path values =>
      if w.pumping ∧ w.busOpen then some (w, w.valueChanged path values) else none
  | .agentRequestPasskey id =>
      if w.pumping then
        some ({ w with pendingAgentReply := some ⟨id, true⟩ }.post .passkeyRequest)
      else none
  | .agentDisplayPasskey passkey =>
      if w.pumping then some (w.post (.passkeyNotify passkey)) else none
  | .agentRequestConfirmation id passkey =>
      if w.pumping then
        some ({ w with pendingAgentReply := some ⟨id, false⟩ }.post (.numericCompare passkey))
      else none
  | .answer depth r =>
      match w.stack[depth]? with
      | some (.call c none) =>
          some ({ w with stack := w.stack.set depth (.call c (some r)) }, [])
      | _ => none
  | .advance => w.advance

theorem workerStep_take {w : Worker} {cmds : List HostGattCommand} {r : Worker × List Output}
    (step : workerStep w (.take cmds) = some r) :
    w.stack = [] ∧ r = ({ w with stack := [.commands cmds] }, []) := by
  simp only [workerStep] at step
  split at step
  · exact ⟨‹_›, (Option.some.inj step).symm⟩
  · cases step

theorem workerStep_answer {w : Worker} {depth : Nat} {reply : Reply} {r : Worker × List Output}
    (step : workerStep w (.answer depth reply) = some r) :
    ∃ c, w.stack[depth]? = some (.call c none) ∧
      r = ({ w with stack := w.stack.set depth (.call c (some reply)) }, []) := by
  simp only [workerStep] at step
  split at step
  · exact ⟨_, ‹_›, (Option.some.inj step).symm⟩
  · cases step

end EsphomeHost

import EsphomeHost.Client.Run
import EsphomeHost.Gatt.Effect

/-!
# One client, its worker and BlueZ

The client's state machine on the main thread, the worker and its blocking calls, and BlueZ's view
of the device, with every interleaving of their steps.

* `sessionStep`: the step function.  BlueZ answers a call with what is true at that moment; the
  worker may take the answer up when it no longer is.
* `Session.Established`: what has to hold once everything is quiet.
* `NoLateRaise`: the condition on a step under which it does.
-/

namespace EsphomeHost

/-! ## The system -/

/-- The device as BlueZ has it, and the property changes the worker has not been handed. -/
structure BlueZ where
  link : Bool
  resolved : Bool
  signals : List PropertyChange := []

/-- What BlueZ may answer while the calls of a connect, a discovery and a disconnect succeed; the
other calls may also fail. -/
def BlueZ.answers (z : BlueZ) : Call → Reply → Bool
  | .openBus, .done | .managedObjects, .objects _ => true
  | .getConnected, .bool b | .recheckConnected _, .bool b => b = z.link
  | .servicesResolved, .bool b => b = z.resolved
  | .connect _, .done => z.link
  | .disconnect, .done => !z.link
  | .openBus, _ | .managedObjects, _ | .getConnected, _ | .recheckConnected _, _
  | .servicesResolved, _ | .connect _, _ | .disconnect, _ => false
  | .gapName _ _, _ | .gapAppearance _ _, _ | .mtu _ _ _, _ | .read _ _ _, _ | .write _ _ _ _ _, _
  | .notify _ _ _, _ | .rssi, _ | .registerAgent, _ | .pair, _ | .removeBond, _ => true

/-- The value a change gives `Connected`. -/
def PropertyChange.link? : PropertyChange → Option Bool
  | connected b => some b
  | _ => none

/-- `wanted`: the last request was `connect()`. -/
structure Session where
  run : ClientRun Unit
  worker : Worker
  blueZ : BlueZ
  wanted : Bool := false

inductive SessionLabel
  /-- A step of the main thread. -/
  | client (l : ClientLabel Unit)
  /-- The worker swaps the command queue out. -/
  | take
  /-- Any other step of the worker, signals of the device apart. -/
  | worker (l : WorkerLabel)
  /-- BlueZ hands the worker a signal with the next change and `more` further ones.  It keeps the
  order of the changes, and may put several into one message.  What this takes for granted of BlueZ
  is that a message has at most one `Connected`, and has it first: the link that comes up with the
  services resolved is told in that order, and a link that ends begins a message of its own. -/
  | deliver (more : Nat)
  | link (b : Bool)
  | resolved (b : Bool)

namespace Session

variable (s : Session)

/-- The worker's step, with the events it posts queued for the main thread. -/
def afterWorker (h : BLEGattHost Unit) (r : Worker × List Output) : Session :=
  { s with
    worker := r.1
    run := { s.run with client := { s.run.client with
      host := some
        { h with events := h.events ++ (r.2.filterMap Output.event?).map (⟨(), ·⟩) } } } }

/-- A step of the worker, which has an object only once the client has connected. -/
def workerSteps (l : WorkerLabel) : Option Session :=
  match s.run.client.host with
  | some h => (workerStep s.worker l).map (s.afterWorker h)
  | none => none

/-- BlueZ signals a change, if the worker listens. -/
def signalled (p : PropertyChange) : BlueZ :=
  if s.worker.busOpen then { s.blueZ with signals := s.blueZ.signals ++ [p] } else s.blueZ

/-- The answer is one that BlueZ gives. -/
def answered (depth : Nat) (r : Reply) : Bool :=
  match s.worker.stack[depth]? with
  | some (.call c _) => s.blueZ.answers c r
  | _ => false

/-- Everything is quiet: both queues are empty, no signal is undelivered and no call is waited
for. -/
def Quiescent : Prop :=
  s.run.drained = [] ∧ (∀ h ∈ s.run.client.host, h.commands = [] ∧ h.events = []) ∧
    s.blueZ.signals = [] ∧ s.worker.stack = []

instance : Decidable s.Quiescent := inferInstanceAs (Decidable (_ ∧ _ ∧ _ ∧ _))

/-- A quiet client that was last asked to connect, with the link up and the services resolved, is
established. -/
def Established : Prop :=
  s.Quiescent → s.blueZ.link = true → s.blueZ.resolved = true → s.wanted = true →
    s.run.client.state = .established

end Session

def requested (wanted : Bool) : ClientLabel Unit → Bool
  | .connect _ => true
  | .disconnect _ => false
  | _ => wanted

def sessionStep (s : Session) : SessionLabel → Option Session
  | .client .take | .client (.post _ _) => none
  | .client l => (clientStep s.run l).map fun r =>
      { s with run := r.1, wanted := requested s.wanted l }
  | .take =>
      match s.run.client.host with
      | some h => (workerStep s.worker (.take (h.commands.map (·.val)))).map
          (s.afterWorker { h with commands := [] })
      | none => none
  | .worker (.take _) | .worker (.signal _) => none
  | .worker (.answer depth r) =>
      if s.answered depth r then s.workerSteps (.answer depth r) else none
  | .worker l => s.workerSteps l
  | .deliver more =>
      match s.blueZ.signals with
      | [] => none
      | p :: signals =>
          if ((signals.take more).filterMap PropertyChange.link?) = [] then
            { s with blueZ := { s.blueZ with signals := signals.drop more } }.workerSteps
              (.signal (p :: signals.take more))
          else none
  | .link b => some { s with blueZ := { s.signalled (.connected b) with link := b } }
  | .resolved b => some { s with blueZ := { s.signalled (.servicesResolved b) with resolved := b } }

/-- A client after `setup`, its device in any state. -/
def sessionMachine : Machine Session SessionLabel where
  init s := ∃ (c : BLEClientBase Unit) (link resolved : Bool), c.host = none ∧ c.services = [] ∧
    s = { run := ⟨c.setup, []⟩, worker := { devicePath := c.devicePath },
          blueZ := ⟨link, resolved, []⟩ }
  step := sessionStep

/-- The condition on a step: the device is found connected only while `discovered_` is not set, or
its discovery is still in flight. -/
def NoLateRaise (s : Session) : SessionLabel → Prop
  | .worker .advance => ∀ next ∈ Worker.nextWork s.worker.stack, next.1.role = .raise →
      s.worker.discovered = false ∨ s.worker.discovering = true
  | _ => True

instance (s : Session) (l : SessionLabel) : Decidable (NoLateRaise s l) := by
  unfold NoLateRaise
  split <;> infer_instance

end EsphomeHost

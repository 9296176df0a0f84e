import EsphomeHost.Client.GattEvent
import EsphomeHost.Lib.WakeLoop

/-!
# The two worker threads

`BLEGattHostThread` serves the GATT clients, `BleWorker` the GATT server and the advertisers.  Their
loops, `run_`, are copies of one another and differ in what is registered: both are `WakeLoop`s,
whose counter is the eventfd.  `wake_handler` reads it, and reading clears it.

* `Served`: what a client may rely on.
* `served`: **no command is lost or reordered, and a worker that sleeps has no commands left but
  those of a request that has not woken it yet**.
* `not_idle_enqueuing`: `enqueue_command_` wakes the worker only after the command is in the queue.
-/

namespace EsphomeHost

/-! ## What is registered -/

/-- `hosts_` and `worker_clients_`.  A host is registered again by every `connect`. -/
structure BLEGattHostThread (κ : Type) where
  hosts : List κ := []
  workerClients : List κ := []

namespace BLEGattHostThread

inductive Request (κ : Type)
  | attach (host : κ)
  | detach (host : κ)
  | attachWorkerClient (client : κ)
  | detachWorkerClient (client : κ)

variable {κ : Type} [DecidableEq κ]

/-- The part of a request that is done under the lock. -/
def change : Request κ → BLEGattHostThread κ → BLEGattHostThread κ
  | .attach host, t => { t with hosts := t.hosts ++ [host] }
  | .detach host, t => { t with hosts := t.hosts.erase host }
  | .attachWorkerClient client, t => { t with workerClients := t.workerClients ++ [client] }
  | .detachWorkerClient client, t => { t with workerClients := t.workerClients.erase client }

/-- Who a request wakes the worker for. -/
def wakesFor : Request κ → Option κ
  | .attach c | .attachWorkerClient c => some c
  | .detach _ | .detachWorkerClient _ => none

/-- The order of a pass. -/
def clients (t : BLEGattHostThread κ) : List κ := t.hosts ++ t.workerClients

def registry (κ : Type) [DecidableEq κ] :
    WakeLoop.Registry κ (BLEGattHostThread κ) (Request κ) where
  clients := clients
  change := change
  announces := wakesFor
  announced := by
    intro i t c registered
    rcases List.mem_append.mp registered with host | client
    · cases i with
      | attach host' =>
          rcases List.mem_append.mp host with old | new
          · exact .inl (List.mem_append_left _ old)
          · exact .inr (congrArg some (List.mem_singleton.mp new).symm)
      | detach => exact .inl (List.mem_append_left _ (List.mem_of_mem_erase host))
      | attachWorkerClient | detachWorkerClient => exact .inl (List.mem_append_left _ host)
    · cases i with
      | attachWorkerClient client' =>
          rcases List.mem_append.mp client with old | new
          · exact .inl (List.mem_append_right _ old)
          · exact .inr (congrArg some (List.mem_singleton.mp new).symm)
      | detachWorkerClient => exact .inl (List.mem_append_right _ (List.mem_of_mem_erase client))
      | attach | detach => exact .inl (List.mem_append_right _ client)

/-- `BLEGattHostThread::run_` among everything that goes on at the same time. -/
abbrev loop (κ α ε : Type) [DecidableEq κ] :
    Machine (WakeLoop.State κ α ε (BLEGattHostThread κ)) (WakeLoop.Label κ α ε (Request κ)) :=
  WakeLoop.machine (registry κ)

end BLEGattHostThread

/-- `worker_clients_`. -/
structure BleWorker (κ : Type) where
  workerClients : List κ := []

namespace BleWorker

inductive Request (κ : Type)
  | attachWorkerClient (client : κ)
  | detachWorkerClient (client : κ)

variable {κ : Type} [DecidableEq κ]

def change : Request κ → BleWorker κ → BleWorker κ
  | .attachWorkerClient client, t => ⟨t.workerClients ++ [client]⟩
  | .detachWorkerClient client, t => ⟨t.workerClients.erase client⟩

def wakesFor : Request κ → Option κ
  | .attachWorkerClient c => some c
  | .detachWorkerClient _ => none

def registry (κ : Type) [DecidableEq κ] : WakeLoop.Registry κ (BleWorker κ) (Request κ) where
  clients := workerClients
  change := change
  announces := wakesFor
  announced := by
    intro i t c registered
    cases i with
    | attachWorkerClient client' =>
        rcases List.mem_append.mp registered with old | new
        · exact .inl old
        · exact .inr (congrArg some (List.mem_singleton.mp new).symm)
    | detachWorkerClient => exact .inl (List.mem_of_mem_erase registered)

/-- `BleWorker::run_` among everything that goes on at the same time. -/
abbrev loop (κ α ε : Type) [DecidableEq κ] :
    Machine (WakeLoop.State κ α ε (BleWorker κ)) (WakeLoop.Label κ α ε (Request κ)) :=
  WakeLoop.machine (registry κ)

end BleWorker

/-! ## What a client may rely on -/

/-- Commands are executed, and events taken out, in the order they were put in; while the worker
sleeps and the eventfd is clear, a client has no commands unless a request for it is between its
push and its write to the eventfd. -/
structure Served {κ α ε ρ : Type} (clients : List κ) (s : WakeLoop.State κ α ε ρ) : Prop where
  executed : ∀ c, (s.boxes c).executed <+: (s.boxes c).enqueued
  drained : ∀ c, (s.boxes c).drained <+: (s.boxes c).posted
  asleep : s.phase = .running → s.counter = 0 → ∀ c ∈ clients, c ∉ s.inFlight →
    (s.boxes c).queue = []

theorem served_of_reachable {κ α ε ρ ι : Type} [DecidableEq κ] {R : WakeLoop.Registry κ ρ ι}
    {s : WakeLoop.State κ α ε ρ} (reachable : (WakeLoop.machine R).Reachable s) :
    Served (R.clients s.registry) s := by
  obtain ⟨faithful, awake⟩ := WakeLoop.reachable_sound reachable
  refine ⟨faithful.executed_prefix, faithful.drained_prefix, ?_⟩
  intro asleep clear c registered settled
  exact awake.queue_eq_nil asleep clear registered settled

/-- **Both workers serve their clients**, whatever the order in which clients are registered,
commands are queued, the eventfd is written and read, and the loop goes on. -/
theorem served {κ α ε : Type} [DecidableEq κ] :
    (∀ s, (BLEGattHostThread.loop κ α ε).Reachable s →
      Served (s.registry.hosts ++ s.registry.workerClients) s) ∧
    ∀ s, (BleWorker.loop κ α ε).Reachable s → Served s.registry.workerClients s :=
  ⟨fun _ reachable => served_of_reachable reachable,
    fun _ reachable => served_of_reachable reachable⟩

/-- A host is registered twice and two commands are queued; the worker makes a pass. -/
def connectedTwice : List (WakeLoop.Label Nat HostGattCommand HostGattEvent
    (BLEGattHostThread.Request Nat)) :=
  [.change (.attach 0), .write 0, .enqueue 0 .connect, .write 0, .change (.attach 0), .write 0,
    .enqueue 0 .disconnect, .write 0, .test false, .dispatch, .advance, .advance, .advance,
    .advance, .advance, .advance, .advance, .advance, .advance, .test false]

def freshThread : WakeLoop.State Nat HostGattCommand HostGattEvent (BLEGattHostThread Nat) where
  registry := {}
  boxes := fun _ => { queue := [], enqueued := [] }

theorem freshThread_init :
    (BLEGattHostThread.loop Nat HostGattCommand HostGattEvent).init freshThread :=
  ⟨{}, fun _ => [], rfl, rfl⟩

theorem served_twice :
    (∃ s : WakeLoop.State Nat HostGattCommand HostGattEvent (BLEGattHostThread Nat),
      Served (s.registry.hosts ++ s.registry.workerClients) s ∧ s.registry.hosts = [0, 0] ∧
        (s.boxes 0).executed = [.connect, .disconnect]) ∧
    ∃ s : WakeLoop.State Nat Nat Nat (BleWorker Nat),
      Served s.registry.workerClients s ∧ s.registry.workerClients = [0] := by
  have ran : (BLEGattHostThread.loop Nat HostGattCommand HostGattEvent).run freshThread
      connectedTwice = some _ := rfl
  have attached : (BleWorker.loop Nat Nat Nat).run { registry := {}, boxes := fun _ => {} }
      [.change (.attachWorkerClient 0), .test false] = some _ := rfl
  refine ⟨⟨_, served.1 _ ⟨freshThread, freshThread_init, Machine.run_reach ran⟩, rfl, rfl⟩, _,
    served.2 _ ⟨_, ?_, Machine.run_reach attached⟩, rfl⟩
  exact ⟨{}, fun _ => [], rfl, rfl⟩

/-- A command is queued while the worker sleeps, and the eventfd is not yet written. -/
theorem not_idle_enqueuing :
    ¬ ∀ s, (BLEGattHostThread.loop Nat HostGattCommand HostGattEvent).Reachable s →
      s.phase = .running → s.counter = 0 → ∀ c ∈ s.registry.hosts ++ s.registry.workerClients,
        (s.boxes c).queue = [] := by
  intro always
  have ran : (BLEGattHostThread.loop Nat HostGattCommand HostGattEvent).run freshThread
      (connectedTwice ++ [.enqueue 0 .readRssi]) = some _ := rfl
  have empty := always _ ⟨freshThread, freshThread_init, Machine.run_reach ran⟩ rfl rfl 0
    List.mem_cons_self
  cases empty

end EsphomeHost

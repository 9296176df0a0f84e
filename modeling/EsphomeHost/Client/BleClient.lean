import EsphomeHost.Client.Run

/-!
# `BLEClient`

A client with nodes attached and an enabled flag.  The flag lives here: nothing in the base class
looks at it.

`BLEClient.step` lifts the steps of the base class: a dispatched event also sets the state of the
nodes.  The hooks of the nodes are calls from the main thread, which are steps of their own.
-/

namespace EsphomeHost

structure BLEClient where
  run : ClientRun Unit
  enabled : Bool := true
  /-- `node_state` of the registered nodes. -/
  nodes : List ClientState := []
deriving DecidableEq

namespace BLEClient

variable (c : BLEClient)

def base : BLEClientBase Unit := c.run.client
def state : ClientState := c.base.state

def withBase (base : BLEClientBase Unit) : BLEClient :=
  { c with run := { c.run with client := base } }

/-- `set_enabled`. -/
def setEnabled (enabled : Bool) (now : UInt32) : BLEClient :=
  if enabled = c.enabled then c
  else
    let c := { c with enabled := enabled }
    if enabled = false ∧ c.state ≠ .idle then c.withBase (c.base.disconnect now) else c

def connect (now : UInt32) : BLEClient := c.withBase (c.base.connect now)

def disconnect (now : UInt32) : BLEClient := c.withBase (c.base.disconnect now)

def unconditionalDisconnect (now : UInt32) : BLEClient :=
  c.withBase (c.base.unconditionalDisconnect now)

def parseDevice (device : ESPBTDevice) : BLEClient := c.withBase (c.base.parseDevice device).2

/-- Whether the step dispatches an event, and so fans the state out to the nodes. -/
def dispatches (done : Option Int) : ClientLabel Unit → Bool
  | .dispatch _ => true
  | .connectTimeout _ | .disconnectTimeout _ => done.isSome
  | _ => false

/-- A step of the base class, with the nodes following a dispatch. -/
def step (l : ClientLabel Unit) : Option BLEClient :=
  (clientStep c.run l).map fun r =>
    { c with
      run := r.1
      nodes := if dispatches r.2 l then c.nodes.map fun _ => r.1.client.state else c.nodes }

@[simp] theorem withBase_base (base : BLEClientBase Unit) : (c.withBase base).base = base := rfl
@[simp] theorem withBase_enabled (base : BLEClientBase Unit) :
    (c.withBase base).enabled = c.enabled := rfl

/-- A step of the base class leaves the flag alone. -/
theorem step_enabled {c c' : BLEClient} {l : ClientLabel Unit} (step : c.step l = some c') :
    c'.enabled = c.enabled ∧ ∃ r, clientStep c.run l = some r ∧ c'.run = r.1 := by
  obtain ⟨r, performed, rfl⟩ := Option.map_eq_some_iff.mp step
  exact ⟨rfl, r, performed, rfl⟩

end BLEClient

end EsphomeHost

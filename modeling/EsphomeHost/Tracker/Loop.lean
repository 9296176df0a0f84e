import EsphomeHost.Client.BleClient

/-!
# `ESP32BLETracker`

The main thread's side of the tracker: the queue the scanner thread fills, the loop that hands its
devices to the clients, and the promotion of clients a listener moved to `DISCOVERED`.

Every state change of a client bumps one shared eight-bit counter, and the promotion only runs when
the counter differs from its value at the last promotion.

* `trackerStep_client`: everything a step can do to one client.
-/

namespace EsphomeHost

def QUEUE_MAX : Nat := 128

/-- `deliver_device_`: a full queue loses its oldest device. -/
def deliverDevice (queue : List ESPBTDevice) (device : ESPBTDevice) : List ESPBTDevice :=
  (if queue.length ≥ QUEUE_MAX then queue.drop 1 else queue) ++ [device]

structure ESP32BLETracker where
  queue : List ESPBTDevice := []
  clients : List BLEClient := []
  /-- State changes of clients of other kinds. -/
  otherVersion : UInt8 := 0
  lastStateVersion : UInt8 := 0
deriving DecidableEq

namespace ESP32BLETracker

variable (t : ESP32BLETracker)

/-- `state_version_`. -/
def stateVersion : UInt8 :=
  t.clients.foldl (fun v c => v + c.base.stateVersion) t.otherVersion

def promote (now : UInt32) (c : BLEClient) : BLEClient :=
  if c.state = .discovered then c.connect now else c

/-- `try_promote_discovered_clients_`. -/
def tryPromoteDiscoveredClients (now : UInt32) : ESP32BLETracker :=
  { t with clients := t.clients.map (promote now) }

/-- The queued devices are handed to every client, in order. -/
def deliverQueued : ESP32BLETracker :=
  { t with
    queue := []
    clients := t.queue.foldl (fun cs d => cs.map (·.parseDevice d)) t.clients }

def loop (now : UInt32) : ESP32BLETracker :=
  let t := t.deliverQueued
  if t.clients ≠ [] ∧ t.stateVersion ≠ t.lastStateVersion then
    { t with lastStateVersion := t.stateVersion }.tryPromoteDiscoveredClients now
  else t

end ESP32BLETracker

/-! ## Steps -/

inductive TrackerLabel
  | setEnabled (i : Nat) (enabled : Bool) (now : UInt32)
  /-- A step of client `i`; `parse_device` is only called by the tracker. -/
  | client (i : Nat) (l : ClientLabel Unit)
  | deliver (device : ESPBTDevice)
  | loop (now : UInt32)
  /-- A client of another kind changes its state. -/
  | otherStateChange
deriving DecidableEq

def trackerStep (t : ESP32BLETracker) : TrackerLabel → Option ESP32BLETracker
  | .setEnabled i enabled now => do
      let c ← t.clients[i]?
      return { t with clients := t.clients.set i (c.setEnabled enabled now) }
  | .client _ (.parseDevice _) => none
  | .client i l => do
      let c ← t.clients[i]?
      let c ← c.step l
      return { t with clients := t.clients.set i c }
  | .deliver device => some { t with queue := deliverDevice t.queue device }
  | .loop now => some (t.loop now)
  | .otherStateChange => some { t with otherVersion := t.otherVersion + 1 }

/-- Any number of clients after `setup`, none of them with a worker yet. -/
def trackerMachine : Machine ESP32BLETracker TrackerLabel where
  init t := t.queue = [] ∧
    ∀ c ∈ t.clients, ∃ base : BLEClientBase Unit, base.host = none ∧ c.run = ⟨base.setup, []⟩
  step := trackerStep

section Loop

variable {t : ESP32BLETracker} {i : Nat} {c : BLEClient}

/-- What the devices of a queue do to one client. -/
theorem getElem?_deliverQueued (found : t.clients[i]? = some c) :
    t.deliverQueued.clients[i]? = some (t.queue.foldl BLEClient.parseDevice c) := by
  have deliver : ∀ (queue : List ESPBTDevice) (clients : List BLEClient) (c : BLEClient),
      clients[i]? = some c →
        (queue.foldl (fun cs d => cs.map (BLEClient.parseDevice · d)) clients)[i]? =
          some (queue.foldl BLEClient.parseDevice c) := by
    intro queue
    induction queue with
    | nil => exact fun _ _ found => found
    | cons d queue ih =>
        intro clients c found
        exact ih _ _ (by rw [List.getElem?_map, found]; rfl)
  exact deliver t.queue t.clients c found

/-- What one tick of the loop does to one client. -/
theorem getElem?_loop (found : t.clients[i]? = some c) (now : UInt32) :
    (t.loop now).clients[i]? = some (t.queue.foldl BLEClient.parseDevice c) ∨
      (t.loop now).clients[i]? =
        some (ESP32BLETracker.promote now (t.queue.foldl BLEClient.parseDevice c)) := by
  have delivered := getElem?_deliverQueued found
  unfold ESP32BLETracker.loop
  simp only
  split
  · refine .inr ?_
    show (t.deliverQueued.clients.map (ESP32BLETracker.promote now))[i]? = _
    rw [List.getElem?_map, delivered]
    rfl
  · exact .inl delivered

theorem getElem?_set_of_step {j : Nat} {c' : BLEClient} (clients : List BLEClient)
    (found : clients[i]? = some c) (other : clients[j]? = some c') (d : BLEClient) :
    (clients.set j d)[i]? = some c ∨ (j = i ∧ c' = c ∧ (clients.set j d)[i]? = some d) := by
  by_cases same : j = i
  · subst same
    have inside : j < clients.length := (List.getElem?_eq_some_iff.mp found).1
    exact .inr ⟨rfl, Option.some.inj (other.symm.trans found), by simp [inside]⟩
  · exact .inl (by rw [List.getElem?_set_ne same]; exact found)

/-- **Everything a step can do to one client.** -/
theorem trackerStep_client {t' : ESP32BLETracker} {l : TrackerLabel}
    (found : t.clients[i]? = some c) (step : trackerStep t l = some t') :
    ∃ c', t'.clients[i]? = some c' ∧
      (c' = c ∨
        (∃ enabled now, l = .setEnabled i enabled now ∧ c' = c.setEnabled enabled now) ∨
          (∃ l', l = .client i l' ∧ (∀ d, l' ≠ .parseDevice d) ∧ c.step l' = some c') ∨
            ∃ now, l = .loop now ∧ (c' = t.queue.foldl BLEClient.parseDevice c ∨
              c' = ESP32BLETracker.promote now (t.queue.foldl BLEClient.parseDevice c))) := by
  cases l with
  | setEnabled j enabled now =>
      obtain ⟨d, other, step⟩ := Option.bind_eq_some_iff.mp step
      obtain rfl := Option.some.inj step
      rcases getElem?_set_of_step t.clients found other (d.setEnabled enabled now) with
        same | ⟨rfl, rfl, set⟩
      · exact ⟨c, same, .inl rfl⟩
      · exact ⟨_, set, .inr (.inl ⟨enabled, now, rfl, rfl⟩)⟩
  | client j l' =>
      cases l' with
      | parseDevice device => cases step
      | _ =>
          obtain ⟨d, other, step⟩ := Option.bind_eq_some_iff.mp step
          obtain ⟨d', stepped, step⟩ := Option.bind_eq_some_iff.mp step
          obtain rfl := Option.some.inj step
          rcases getElem?_set_of_step t.clients found other d' with same | ⟨rfl, rfl, set⟩
          · exact ⟨c, same, .inl rfl⟩
          · exact ⟨d', set, .inr (.inr (.inl ⟨_, rfl, fun _ h => (by cases h), stepped⟩))⟩
  | deliver device =>
      obtain rfl := Option.some.inj step
      exact ⟨c, found, .inl rfl⟩
  | loop now =>
      obtain rfl := Option.some.inj step
      rcases getElem?_loop found now with same | same
      · exact ⟨_, same, .inr (.inr (.inr ⟨now, rfl, .inl rfl⟩))⟩
      · exact ⟨_, same, .inr (.inr (.inr ⟨now, rfl, .inr rfl⟩))⟩
  | otherStateChange =>
      obtain rfl := Option.some.inj step
      exact ⟨c, found, .inl rfl⟩

end Loop

end EsphomeHost

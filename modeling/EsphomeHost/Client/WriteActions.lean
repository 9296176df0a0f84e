import EsphomeHost.Client.Action
import EsphomeHost.Client.Lookup

/-!
# Write actions

`BLEClientWriteAction` goes on with its chain at the next `WRITE_COMPLETE` of the handle it has
written.  The event says which handle was written, and not by which action, and `dispatch_event_`
hands it to the nodes one after another.

* `WriteActions`: a client, its worker and such actions among its nodes.  A write carries the number
  of its play as its stamp, and so does its completion.
* `inFlight`: the writes that have not been completed, oldest first; `inFlight_client` and its
  companions: only a play adds to it, and only a dispatched completion takes from it.
* `completes_of_unmixed`: **every write is continued once, by its own completion, and none is
  pending when the client is idle with nothing in its queues**, in every run in which an action
  writes only while no other completion that it would take for its own is to come.
* `not_completes_chained`: two chained writes to one characteristic, and a refused write.
-/

namespace EsphomeHost

/-! ## The actions -/

def ESP_GATT_CHAR_PROP_BIT_WRITE : UInt8 := 0x08

structure WriteAction (α : Type) where
  serviceUuid : ESPBTUUID
  charUuid : ESPBTUUID
  valueSimple : List UInt8 := []
  valueTemplate : Option (α → List UInt8) := none
  writeHandle : UInt16 := 0
  state : ActionState α := {}

/-- The bytes a play writes. -/
def WriteAction.value {α : Type} (a : WriteAction α) (x : α) : List UInt8 :=
  match a.valueTemplate with
  | some template => template x
  | none => a.valueSimple

/-- A client, its worker and its actions, in the order in which they were registered.  `taken` is
what the worker has swapped out of the command queue and not executed yet, `due` what a running
`dispatch_event_` has still to call.  The rest are records of the plays: those that queued a write,
and those whose own completion was dispatched. -/
structure WriteActions (α : Type) where
  run : ClientRun (Option Nat)
  taken : List (Stamped (Option Nat) HostGattCommand) := []
  actions : List (WriteAction α) := []
  due : List (Visit (Option Nat)) := []
  played : List α := []
  wrote : List Nat := []
  completed : List Nat := []
  continued : List (Play α) := []

inductive WriteLabel (α : Type)
  | client (l : ClientLabel (Option Nat))
  | unconditionalDisconnect (now : UInt32)
  | play (i : Nat) (x : α)
  /-- `dispatch_event_` calls the hook of the next node. -/
  | visit
  /-- The worker swaps the command queue out. -/
  | take
  /-- The worker executes the next command it took: a write is completed. -/
  | execute (status : Int)
  /-- The worker posts any other event. -/
  | post (ev : HostGattEvent)

/-- The steps of the main thread, but for writes: those are the actions'. -/
def ClientLabel.isMain {τ : Type} : ClientLabel τ → Bool
  | .take | .post _ _ | .request (.writeCharacteristic _ _ _) => false
  | _ => true

/-- A queued write: its stamp and the handle. -/
def writeOf (x : Stamped (Option Nat) HostGattCommand) : Option (Option Nat × UInt16) :=
  match x.val with
  | .writeChar handle _ _ => some (x.stamp, handle)
  | _ => none

/-- A completion: the stamp of its write and the handle. -/
def completionOf (x : Stamped (Option Nat) HostGattEvent) : Option (Option Nat × UInt16) :=
  match x.val with
  | .writeComplete handle _ => some (x.stamp, handle)
  | _ => none

namespace WriteActions

variable {α : Type} (s : WriteActions α)

/-- `play_complex` of action `i`.  The result of `write_characteristic` is not looked at. -/
def play (i : Nat) (x : α) : Option (WriteActions α) :=
  s.actions[i]?.map fun a =>
    let p : Play α := ⟨s.played.length, x⟩
    let s' := { s with played := s.played ++ [x] }
    match s.run.client.getCharacteristicOf a.serviceUuid a.charUuid with
    | none =>
        let next := (a.state.play p).playNext (some p)
        { s' with
          actions := s.actions.set i { a with state := next.1 }
          continued := s.continued ++ next.2 }
    | some (_, chr) =>
        let response : Bool := chr.properties &&& ESP_GATT_CHAR_PROP_BIT_WRITE ≠ 0
        let (err, client) := { s.run.client with stamp := some p.number }.writeCharacteristic
          chr.handle (a.value x) response
        { s' with
          actions := s.actions.set i { a with writeHandle := chr.handle, state := a.state.play p }
          run := { s.run with client := { client with stamp := s.run.client.stamp } }
          wrote := if err = ESP_GATT_OK then s.wrote ++ [p.number] else s.wrote }

/-- `on_characteristic_write`, for a completion. -/
def hook (v : Visit (Option Nat)) : WriteActions α :=
  match completionOf v.event, s.actions[v.node]? with
  | some (_, handle), some a =>
      if handle ≠ a.writeHandle then s
      else
        { s with
          actions := s.actions.set v.node
            { a with writeHandle := 0, state := a.state.playNextTuple.1 }
          continued := s.continued ++ a.state.playNextTuple.2 }
  | _, _ => s

/-- `loop` goes on when `dispatch_event_` has returned. -/
def step : WriteLabel α → Option (WriteActions α)
  | .client l =>
      if l.isMain = false ∨ (l.ofLoop = true ∧ s.due ≠ []) then none
      else (clientStep s.run l).map fun r =>
        { s with
          run := r.1
          due := (s.run.dispatched l).elim s.due (visitsOf · s.actions.length)
          completed := s.completed ++
            (((s.run.dispatched l).bind completionOf).bind Prod.fst).toList }
  | .unconditionalDisconnect now =>
      some { s with run := { s.run with client := s.run.client.unconditionalDisconnect now } }
  | .play i x => s.play i x
  | .visit =>
      match s.due with
      | [] => none
      | v :: rest => some ({ s with due := rest }.hook v)
  | .take =>
      (clientStep s.run .take).map fun r =>
        { s with run := r.1, taken := s.taken ++ s.run.commands }
  | .execute status =>
      match s.taken with
      | [] => none
      | ⟨stamp, .writeChar handle _ _⟩ :: rest =>
          (clientStep s.run (.post stamp (.writeComplete handle status))).map fun r =>
            { s with run := r.1, taken := rest }
      | _ :: rest => some { s with taken := rest }
  | .post ev =>
      if (completionOf ⟨none, ev⟩).isSome then none
      else (clientStep s.run (.post none ev)).map fun r => { s with run := r.1 }

/-! ## The property -/

/-- The client is idle and its queues are empty. -/
def AtRest : Prop :=
  s.due = [] ∧ s.run.events = [] ∧ s.taken = [] ∧ s.run.commands = [] ∧
    s.run.client.state = .idle

/-- Every play is continued at most once and with its own arguments; one that has queued a write,
not before its completion was dispatched, and once that was fanned out; and at rest no action is
pending, and every play has been continued. -/
structure Completes : Prop where
  once : (s.continued.map Play.number).Nodup
  own : ∀ p ∈ s.continued, s.played[p.number]? = some p.args
  after : ∀ p ∈ s.continued, p.number ∈ s.wrote → p.number ∈ s.completed
  each : s.due = [] → ∀ n ∈ s.completed, n ∈ s.continued.map Play.number
  pending : s.AtRest → ∀ a ∈ s.actions, ¬ a.state.Waits
  settled : s.AtRest → ∀ n < s.played.length, n ∈ s.continued.map Play.number

/-! ## The condition -/

/-- The writes that have been queued and whose completion has not been dispatched, oldest first. -/
def inFlight : List (Option Nat × UInt16) :=
  s.run.events.filterMap completionOf ++ (s.taken ++ s.run.commands).filterMap writeOf

/-- The running fan-out of a completion of the handle has still to reach action `i`. -/
def DueAt (i : Nat) (handle : UInt16) : Prop :=
  ∃ v ∈ s.due, v.node = i ∧ (completionOf v.event).map Prod.snd = some handle

/-- A completion of the handle has still to reach action `i`. -/
def Awaited (i : Nat) (handle : UInt16) : Prop :=
  handle ∈ s.inFlight.map Prod.snd ∨ s.DueAt i handle

/-- `write_characteristic` queues the write. -/
def Accepts : Prop := s.run.client.state = .established ∧ s.run.client.host.isSome = true

instance (i : Nat) (handle : UInt16) : Decidable (s.DueAt i handle) :=
  inferInstanceAs (Decidable (∃ _ ∈ _, _ ∧ _))

instance (i : Nat) (handle : UInt16) : Decidable (s.Awaited i handle) :=
  inferInstanceAs (Decidable (_ ∨ _))

instance : Decidable s.Accepts := inferInstanceAs (Decidable (_ ∧ _))

instance : Decidable s.AtRest := inferInstanceAs (Decidable (_ ∧ _ ∧ _ ∧ _ ∧ _))

/-- An action is played when it does not wait, and it finds its characteristic only while either
its write is accepted and no earlier completion of the handle is to come, or its write is refused
and one is. -/
def Unmixed : WriteLabel α → Prop
  | .play i _ => ∀ a ∈ s.actions[i]?, ¬ a.state.Waits ∧
      ∀ found ∈ s.run.client.getCharacteristicOf a.serviceUuid a.charUuid,
        (s.Accepts ↔ ¬ s.Awaited i found.2.handle)
  | _ => True

instance : (l : WriteLabel α) → Decidable (s.Unmixed l)
  | .play i _ => inferInstanceAs (Decidable (∀ a ∈ s.actions[i]?, ¬ a.state.Waits ∧
      ∀ found ∈ s.run.client.getCharacteristicOf a.serviceUuid a.charUuid,
        (s.Accepts ↔ ¬ s.Awaited i found.2.handle)))
  | .client _ | .unconditionalDisconnect _ | .visit | .take | .execute _ | .post _ =>
      isTrue trivial

end WriteActions

/-- A client after `setup`, with actions that have not been played. -/
def writeMachine (α : Type) : Machine (WriteActions α) (WriteLabel α) where
  init s := (clientMachine (Option Nat)).init s.run ∧ s.taken = [] ∧ s.due = [] ∧
    s.played = [] ∧ s.wrote = [] ∧ s.completed = [] ∧ s.continued = [] ∧
      ∀ a ∈ s.actions, a.state.numRunning = 0
  step s l := s.step l

/-! ## Writes in flight -/

/-- No step of the main thread but a play queues a write. -/
theorem writeOf_of_allows {l : ClientLabel (Option Nat)} (main : l.isMain = true)
    {cmd : HostGattCommand} (allows : l.Allows cmd) (stamp : Option Nat) :
    writeOf ⟨stamp, cmd⟩ = none := by
  rcases allows with rfl | rfl | ⟨r, rfl, rfl⟩
  · rfl
  · rfl
  · cases r with
    | writeCharacteristic => cases main
    | _ => rfl

/-- A timeout dispatches no completion. -/
theorem completionOf_dispatched {s : ClientRun (Option Nat)} {l : ClientLabel (Option Nat)}
    (keeps : l.transfers = false) : (s.dispatched l).bind completionOf = none := by
  cases l with
  | dispatch | take | post => cases keeps
  | connectTimeout | disconnectTimeout =>
      unfold ClientRun.dispatched
      dsimp only
      split <;> rfl
  | _ => rfl

namespace WriteActions

variable {α : Type} {s t : WriteActions α}

theorem inFlight_of_run {q : List (Stamped (Option Nat) HostGattCommand)}
    (events : t.run.events = s.run.events) (taken : t.taken = s.taken)
    (queued : t.run.commands = s.run.commands ++ q) :
    t.inFlight = s.inFlight ++ q.filterMap writeOf := by
  unfold inFlight
  rw [events, taken, queued, ← List.append_assoc, List.filterMap_append, List.append_assoc]

/-- Queueing a command that is no write. -/
theorem inFlight_of_added {allowed : HostGattCommand → Prop} {stamp : Option Nat}
    (events : t.run.events = s.run.events) (taken : t.taken = s.taken)
    (commands : t.run.commands = s.run.commands ∨
      ∃ cmd, allowed cmd ∧ t.run.commands = s.run.commands ++ [⟨stamp, cmd⟩])
    (plain : ∀ cmd, allowed cmd → writeOf ⟨stamp, cmd⟩ = none) : t.inFlight = s.inFlight := by
  rcases commands with same | ⟨cmd, allow, added⟩
  · rw [inFlight_of_run events taken (same.trans (List.append_nil _).symm)]
    exact List.append_nil _
  · rw [inFlight_of_run events taken added, List.filterMap_cons_none (plain cmd allow)]
    exact List.append_nil _

/-- **A step of the main thread** takes the completion it dispatches from the writes in flight. -/
theorem inFlight_client {l : ClientLabel (Option Nat)} (main : l.isMain = true)
    {r : ClientRun (Option Nat) × Option Int} (ran : clientStep s.run l = some r)
    (run : t.run = r.1) (taken : t.taken = s.taken) :
    s.inFlight = ((s.run.dispatched l).bind completionOf).toList ++ t.inFlight := by
  -- a command that the step may queue is no write
  have plain {cmd : HostGattCommand} (allows : l.Allows cmd) :
      ([⟨s.run.client.stamp, cmd⟩] : List (Stamped _ _)).filterMap writeOf = [] := by
    rw [List.filterMap_cons_none (writeOf_of_allows main allows _)]
    rfl
  cases queueMove ran with
  | take label => cases label ▸ main
  | post x label => cases label ▸ main
  | keep keeps events commands =>
      rw [completionOf_dispatched keeps]
      exact (inFlight_of_added (run ▸ events) taken (run ▸ commands) fun cmd allows =>
        writeOf_of_allows main allows _).symm
  | pop x now label dispatched events queues =>
      have rest : (t.taken ++ t.run.commands).filterMap writeOf =
          (s.taken ++ s.run.commands).filterMap writeOf := by
        rw [run, taken]
        rcases queues.commands with same | ⟨cmd, allows, commands⟩
        · show (s.taken ++ r.1.client.commands).filterMap writeOf = _
          rw [same]
          rfl
        · show (s.taken ++ r.1.client.commands).filterMap writeOf = _
          rw [commands, ← List.append_assoc, List.filterMap_append, plain allows, List.append_nil]
          rfl
      unfold inFlight
      rw [dispatched, rest, run, events]
      cases completion : completionOf x with
      | none =>
          rw [List.filterMap_cons_none completion]
          simp [completion]
      | some w =>
          rw [List.filterMap_cons_some completion]
          simp [completion]

/-- The worker's steps move a write along, or nothing. -/
theorem inFlight_take {r : ClientRun (Option Nat) × Option Int}
    (ran : clientStep s.run .take = some r) :
    ({ s with run := r.1, taken := s.taken ++ s.run.commands } : WriteActions α).inFlight =
      s.inFlight := by
  cases queueMove ran with
  | take label commands events =>
      unfold inFlight
      dsimp only
      rw [events, commands, List.append_nil]
  | post x label => cases label
  | keep keeps => cases keeps
  | pop x now label => cases label

theorem inFlight_post {stamp : Option Nat} {ev : HostGattEvent}
    {r : ClientRun (Option Nat) × Option Int} (ran : clientStep s.run (.post stamp ev) = some r)
    (taken : List (Stamped (Option Nat) HostGattCommand)) :
    ({ s with run := r.1, taken := taken } : WriteActions α).inFlight =
      s.run.events.filterMap completionOf ++ ((completionOf ⟨stamp, ev⟩).toList ++
        (taken ++ s.run.commands).filterMap writeOf) := by
  cases queueMove ran with
  | take label => cases label
  | post x label commands events =>
      obtain ⟨stamp', ev'⟩ := x
      cases label
      unfold inFlight
      dsimp only
      rw [events, commands, List.filterMap_append, List.append_assoc]
      cases completion : completionOf ⟨stamp', ev'⟩ with
      | none => rw [List.filterMap_cons_none completion]; rfl
      | some w => rw [List.filterMap_cons_some completion]; rfl
  | keep keeps => cases keeps
  | pop x now label => cases label

/-! ## What a run keeps -/

/-- Action `i` waits with the play, for a completion of the handle. -/
def Waiting (s : WriteActions α) (i : Nat) (p : Play α) (handle : UInt16) : Prop :=
  ∃ a, s.actions[i]? = some a ∧ a.state.Waits ∧ a.state.var = some p ∧ a.writeHandle = handle

/-- Each write in flight belongs to one action, which waits with the play that queued it, and what
an action waits for is in flight or being fanned out. -/
structure Matched (s : WriteActions α) : Prop where
  plays : PlayedOnce (s.actions.map WriteAction.state) s.played s.continued
  bound : ∀ n ∈ s.wrote, n < s.played.length
  done : ∀ n ∈ s.completed, n ∈ s.wrote
  after : ∀ p ∈ s.continued, p.number ∈ s.wrote → p.number ∈ s.completed
  apart : (s.inFlight.map Prod.snd).Nodup
  owner : ∀ w ∈ s.inFlight, ∃ i p, s.Waiting i p w.2 ∧ w.1 = some p.number ∧ p.number ∈ s.wrote
  awaited : ∀ i p handle, s.Waiting i p handle → s.Awaited i handle
  alone : ∀ i p handle, s.Waiting i p handle → p.number ∈ s.wrote →
    ∀ w ∈ s.inFlight, w.2 = handle → w.1 = some p.number ∨ s.DueAt i handle
  fanned : ∀ v ∈ s.due, ∀ w, completionOf v.event = some w →
    (∃ n ∈ s.completed, w.1 = some n) ∧ (∀ u ∈ s.inFlight, u.1 ≠ w.1) ∧
      ∀ p, s.Waiting v.node p w.2 → p.number ∈ s.wrote → w.1 = some p.number
  each : ∀ n ∈ s.completed, n ∈ s.continued.map Play.number ∨
    ∃ v ∈ s.due, ∃ p handle, s.Waiting v.node p handle ∧ p.number = n ∧
      completionOf v.event = some (some n, handle)

/-- A step that only moves queue items. -/
theorem Matched.of_flight (matched : s.Matched) {run : ClientRun (Option Nat)}
    {taken : List (Stamped (Option Nat) HostGattCommand)}
    (flight : ({ s with run := run, taken := taken } : WriteActions α).inFlight = s.inFlight) :
    ({ s with run := run, taken := taken } : WriteActions α).Matched := by
  refine ⟨matched.plays, matched.bound, matched.done, matched.after, ?_, ?_, ?_, ?_, ?_,
    matched.each⟩
  · rw [flight]
    exact matched.apart
  · rw [flight]
    exact matched.owner
  · intro i p handle waiting
    unfold Awaited
    rw [flight]
    exact matched.awaited i p handle waiting
  · rw [flight]
    exact matched.alone
  · rw [flight]
    exact matched.fanned

/-- One action waits with a play. -/
theorem Matched.same_waiting (matched : s.Matched) {i j : Nat} {p q : Play α}
    {handle handle' : UInt16} (left : s.Waiting i p handle) (right : s.Waiting j q handle')
    (number : p.number = q.number) : handle = handle' := by
  obtain ⟨a, here, waits, var, rfl⟩ := left
  obtain ⟨b, there, waits', var', rfl⟩ := right
  obtain rfl := matched.plays.apart i j a.state b.state p q (map_here here) (map_here there) waits
    waits' var var' number
  rw [Option.some.inj (here.symm.trans there)]

theorem Waiting.inside {i : Nat} {p : Play α} {handle : UInt16} (waiting : s.Waiting i p handle) :
    i < s.actions.length := by
  obtain ⟨a, here, -⟩ := waiting
  exact (List.getElem?_eq_some_iff.mp here).1

/-- What waits after one action was replaced. -/
theorem Waiting.of_set {i j : Nat} {b : WriteAction α} {p : Play α} {handle : UInt16}
    (actions : t.actions = s.actions.set i b) (waiting : t.Waiting j p handle) :
    (j = i ∧ b.state.Waits ∧ b.state.var = some p ∧ b.writeHandle = handle) ∨
      (j ≠ i ∧ s.Waiting j p handle) := by
  obtain ⟨c, there, waits⟩ := waiting
  rw [actions] at there
  rcases getElem?_set_cases there with ⟨same, rfl⟩ | ⟨apart, there⟩
  · exact .inl ⟨same.symm, waits⟩
  · exact .inr ⟨Ne.symm apart, c, there, waits⟩

theorem Waiting.set {i j : Nat} {b : WriteAction α} {p : Play α} {handle : UInt16}
    (waiting : s.Waiting j p handle) (actions : t.actions = s.actions.set i b) (apart : j ≠ i) :
    t.Waiting j p handle := by
  obtain ⟨c, there, waits⟩ := waiting
  refine ⟨c, ?_, waits⟩
  rw [actions, List.getElem?_set_ne (Ne.symm apart)]
  exact there

theorem not_dueAt_of_free (free : s.due = []) (i : Nat) (handle : UInt16) :
    ¬ s.DueAt i handle := by
  rintro ⟨v, mem, -⟩
  rw [free] at mem
  cases mem

/-- With no fan-out running, every completed write has been continued. -/
theorem Matched.continued_of_free (matched : s.Matched) (free : s.due = []) :
    ∀ n ∈ s.completed, n ∈ s.continued.map Play.number := by
  intro n mem
  rcases matched.each n mem with done | ⟨v, visit, -⟩
  · exact done
  · rw [free] at visit
    cases visit

/-- **An event that is no completion is handed to the nodes.** -/
theorem Matched.dispatch_other (matched : s.Matched) (free : s.due = [])
    {x : Stamped (Option Nat) HostGattEvent} (other : completionOf x = none)
    {run : ClientRun (Option Nat)}
    (flight : ({ s with run := run } : WriteActions α).inFlight = s.inFlight) :
    ({ s with run := run, due := visitsOf x s.actions.length } : WriteActions α).Matched := by
  have moved : ({ s with run := run, taken := s.taken } : WriteActions α).Matched :=
    matched.of_flight flight
  refine ⟨matched.plays, matched.bound, matched.done, matched.after, moved.apart, moved.owner,
    fun i p handle waiting => ?_, fun i p handle waiting wrote w mem same => ?_,
    fun v mem w completion => ?_, fun n mem => .inl (matched.continued_of_free free n mem)⟩
  · rcases moved.awaited i p handle waiting with inside | due
    · exact .inl inside
    · exact absurd due (not_dueAt_of_free (s := { s with run := run }) free i handle)
  · rcases moved.alone i p handle waiting wrote w mem same with own | due
    · exact .inl own
    · exact absurd due (not_dueAt_of_free (s := { s with run := run }) free i handle)
  · rw [(mem_visitsOf.mp mem).1, other] at completion
    cases completion

/-- **A completion is handed to the nodes.** -/
theorem Matched.dispatch (matched : s.Matched) (free : s.due = [])
    {x : Stamped (Option Nat) HostGattEvent} {w : Option Nat × UInt16}
    (completion : completionOf x = some w) {run : ClientRun (Option Nat)}
    (flight : s.inFlight = w :: ({ s with run := run } : WriteActions α).inFlight) :
    ({ s with
      run := run
      due := visitsOf x s.actions.length
      completed := s.completed ++ w.1.toList } : WriteActions α).Matched := by
  have idle := not_dueAt_of_free free
  have first : w ∈ s.inFlight := flight ▸ List.mem_cons_self
  have sub : ∀ u ∈ ({ s with run := run } : WriteActions α).inFlight, u ∈ s.inFlight :=
    fun u mem => flight ▸ List.mem_cons_of_mem _ mem
  obtain ⟨i, p, waiting, stamp, wrote⟩ := matched.owner w first
  have apart := matched.apart
  rw [flight, List.map_cons] at apart
  obtain ⟨fresh, apart⟩ := List.nodup_cons.mp apart
  rw [stamp]
  refine ⟨matched.plays, matched.bound, fun n mem => ?_,
    fun q mem wrote => List.mem_append_left _ (matched.after q mem wrote), apart,
    fun u mem => matched.owner u (sub u mem), fun j q handle waiting => ?_,
    fun j q handle waiting wrote u mem same => ?_, fun v mem u completion' => ?_,
    fun n mem => ?_⟩
  · rcases List.mem_append.mp mem with old | new
    · exact matched.done n old
    · rw [List.mem_singleton.mp new]
      exact wrote
  · rcases matched.awaited j q handle waiting with inside | due
    · rw [flight, List.map_cons] at inside
      rcases List.mem_cons.mp inside with rfl | later
      · refine .inr ⟨⟨x, j⟩, mem_visitsOf.mpr ⟨rfl, waiting.inside⟩, rfl, ?_⟩
        show (completionOf x).map Prod.snd = some w.2
        rw [completion]
        rfl
      · exact .inl later
    · exact absurd due (idle j handle)
  · rcases matched.alone j q handle waiting wrote u (sub u mem) same with own | due
    · exact .inl own
    · exact absurd due (idle j handle)
  · rw [(mem_visitsOf.mp mem).1, completion] at completion'
    obtain rfl := Option.some.inj completion'
    refine ⟨⟨p.number, List.mem_append_right _ (List.mem_singleton_self _), stamp⟩,
      fun u later same => ?_, fun q waiting' wrote' => ?_⟩
    · obtain ⟨j, q, waiting', stamp', -⟩ := matched.owner u (sub u later)
      have number : q.number = p.number :=
        Option.some.inj (stamp'.symm.trans (same.trans stamp))
      refine fresh ?_
      rw [← matched.same_waiting waiting' waiting number]
      exact List.mem_map_of_mem later
    · rcases matched.alone _ q w.2 waiting' wrote' w first rfl with own | due
      · exact own
      · exact absurd due (idle _ _)
  · rcases List.mem_append.mp mem with old | new
    · exact .inl (matched.continued_of_free free n old)
    · refine .inr ⟨⟨x, i⟩, mem_visitsOf.mpr ⟨rfl, waiting.inside⟩, p, w.2, waiting,
        (List.mem_singleton.mp new).symm, ?_⟩
      show completionOf x = some (some n, w.2)
      rw [completion, List.mem_singleton.mp new, ← stamp]

/-- What the hook of a node does. -/
theorem hook_cases (s : WriteActions α) (v : Visit (Option Nat)) :
    (∃ stamp a, completionOf v.event = some (stamp, a.writeHandle) ∧
      s.actions[v.node]? = some a ∧
        s.hook v = { s with
          actions := s.actions.set v.node
            { a with writeHandle := 0, state := a.state.playNextTuple.1 }
          continued := s.continued ++ a.state.playNextTuple.2 }) ∨
    (s.hook v = s ∧ ∀ a w, s.actions[v.node]? = some a → completionOf v.event = some w →
      w.2 ≠ a.writeHandle) := by
  unfold hook
  cases completion : completionOf v.event with
  | none => exact .inr ⟨rfl, fun a w _ found => by cases found⟩
  | some w =>
      obtain ⟨stamp, handle⟩ := w
      cases here : s.actions[v.node]? with
      | none => exact .inr ⟨rfl, fun a w found _ => by cases found⟩
      | some a =>
          dsimp only
          split
          · rename_i other
            refine .inr ⟨rfl, fun b w found same => ?_⟩
            obtain rfl := Option.some.inj found
            obtain rfl := Option.some.inj same
            exact other
          · rename_i same
            obtain rfl : handle = a.writeHandle := not_not.mp same
            exact .inl ⟨stamp, a, rfl, rfl, rfl⟩

/-- A node that was visited and did not take the event for its own. -/
theorem Matched.pass (matched : s.Matched) {v : Visit (Option Nat)}
    {rest : List (Visit (Option Nat))} (due : s.due = v :: rest)
    (other : ∀ a w, s.actions[v.node]? = some a → completionOf v.event = some w →
      w.2 ≠ a.writeHandle) : ({ s with due := rest } : WriteActions α).Matched := by
  -- what an action waits for is still to come
  have later {i : Nat} {p : Play α} {handle : UInt16} (waiting : s.Waiting i p handle)
      (at' : s.DueAt i handle) : ({ s with due := rest } : WriteActions α).DueAt i handle := by
    obtain ⟨u, mem, node, completion⟩ := at'
    rw [due] at mem
    rcases List.mem_cons.mp mem with rfl | mem
    · obtain ⟨a, here, -, -, same⟩ := waiting
      obtain ⟨w, found, second⟩ := Option.map_eq_some_iff.mp completion
      exact absurd (second.trans same.symm) (other a w (node ▸ here) found)
    · exact ⟨u, mem, node, completion⟩
  refine ⟨matched.plays, matched.bound, matched.done, matched.after, matched.apart, matched.owner,
    fun i p handle waiting => (matched.awaited i p handle waiting).imp_right (later waiting),
    fun i p handle waiting wrote w mem same =>
      (matched.alone i p handle waiting wrote w mem same).imp_right (later waiting),
    fun u mem => matched.fanned u (due ▸ List.mem_cons_of_mem v mem), fun n mem => ?_⟩
  rcases matched.each n mem with done | ⟨u, visit, p, handle, waiting, number, completion⟩
  · exact .inl done
  · rw [due] at visit
    rcases List.mem_cons.mp visit with rfl | visit
    · obtain ⟨a, here, -, -, same⟩ := waiting
      exact absurd same.symm (other a _ here completion)
    · exact .inr ⟨u, visit, p, handle, waiting, number, completion⟩

/-- **A node that takes the completion for its own**: it is its own. -/
theorem Matched.take_own (matched : s.Matched) {v : Visit (Option Nat)}
    {rest : List (Visit (Option Nat))} (due : s.due = v :: rest) {a : WriteAction α}
    {stamp : Option Nat} (completion : completionOf v.event = some (stamp, a.writeHandle))
    (here : s.actions[v.node]? = some a) :
    ({ s with
      due := rest
      actions := s.actions.set v.node { a with writeHandle := 0, state := a.state.playNextTuple.1 }
      continued := s.continued ++ a.state.playNextTuple.2 } : WriteActions α).Matched := by
  have ended := matched.plays.not_waits_next (map_here here)
  obtain ⟨⟨n, completed, stamped⟩, gone, own⟩ :=
    matched.fanned v (due ▸ List.mem_cons_self) _ completion
  -- whatever waits afterwards is another action
  have elsewhere {i : Nat} {p : Play α} {handle : UInt16} {t : WriteActions α}
      (actions : t.actions = s.actions.set v.node
        { a with writeHandle := 0, state := a.state.playNextTuple.1 })
      (waiting : t.Waiting i p handle) : i ≠ v.node ∧ s.Waiting i p handle := by
    rcases waiting.of_set actions with ⟨-, waits, -⟩ | other
    · exact absurd waits ended
    · exact other
  have later {i : Nat} {handle : UInt16} {t : WriteActions α} (left : t.due = rest)
      (apart : i ≠ v.node) (at' : s.DueAt i handle) : t.DueAt i handle := by
    obtain ⟨u, mem, node, completion⟩ := at'
    rw [due] at mem
    rcases List.mem_cons.mp mem with rfl | mem
    · exact absurd node.symm apart
    · exact ⟨u, left ▸ mem, node, completion⟩
  -- what the action waits with is continued
  have next {p : Play α} {handle : UInt16} (waiting : s.Waiting v.node p handle) :
      p ∈ a.state.playNextTuple.2 := by
    obtain ⟨b, there, waits, var, -⟩ := waiting
    obtain rfl := Option.some.inj (here.symm.trans there)
    exact PlayedOnce.mem_playNextTuple.mpr ⟨waits, var⟩
  refine
    { plays := ?plays
      bound := matched.bound
      done := matched.done
      after := fun p mem wrote => ?after
      apart := matched.apart
      owner := fun w mem => ?owner
      awaited := fun i p handle waiting => ?awaited
      alone := fun i p handle waiting wrote w mem same => ?alone
      fanned := fun u mem w completion' => ?fanned
      each := fun m mem => ?each }
  case plays =>
    exact matched.plays.next_at here rfl
  case after =>
    rcases List.mem_append.mp mem with old | new
    · exact matched.after p old wrote
    · obtain ⟨waits, var⟩ := PlayedOnce.mem_playNextTuple.mp new
      have same : stamp = some p.number := own p ⟨a, here, waits, var, rfl⟩ wrote
      obtain rfl := Option.some.inj (stamped.symm.trans same)
      exact completed
  case owner =>
    obtain ⟨i, p, waiting, stamp', wrote⟩ := matched.owner w mem
    refine ⟨i, p, waiting.set rfl ?_, stamp', wrote⟩
    rintro rfl
    obtain ⟨b, there, waits, var, -⟩ := waiting
    obtain rfl := Option.some.inj (here.symm.trans there)
    have same : stamp = some p.number := own p ⟨a, here, waits, var, rfl⟩ wrote
    exact gone w mem (stamp'.trans same.symm)
  case awaited =>
    obtain ⟨apart, waiting⟩ := elsewhere rfl waiting
    exact (matched.awaited i p handle waiting).imp_right (later rfl apart)
  case alone =>
    obtain ⟨apart, waiting⟩ := elsewhere rfl waiting
    exact (matched.alone i p handle waiting wrote w mem same).imp_right (later rfl apart)
  case fanned =>
    obtain ⟨done, gone, own⟩ := matched.fanned u (due ▸ List.mem_cons_of_mem v mem) w completion'
    exact ⟨done, gone, fun p waiting => own p (elsewhere rfl waiting).2⟩
  case each =>
    rw [List.map_append, List.mem_append]
    rcases matched.each m mem with done | ⟨u, visit, p, handle, waiting, number, completion'⟩
    · exact .inl (.inl done)
    · by_cases same : u.node = v.node
      · rw [same] at waiting
        exact .inl (.inr (List.mem_map.mpr ⟨p, next waiting, number⟩))
      · rw [due] at visit
        rcases List.mem_cons.mp visit with rfl | visit
        · exact absurd rfl same
        · exact .inr ⟨u, visit, p, handle, waiting.set rfl same, number, completion'⟩

theorem Matched.visit (matched : s.Matched) (step : s.step .visit = some t) : t.Matched := by
  unfold WriteActions.step at step
  cases due : s.due with
  | nil =>
      rw [due] at step
      cases step
  | cons v rest =>
      rw [due] at step
      obtain rfl := Option.some.inj step
      rcases hook_cases { s with due := rest } v with ⟨stamp, a, completion, here, hooked⟩ |
        ⟨hooked, other⟩
      · rw [hooked]
        exact matched.take_own due completion here
      · rw [hooked]
        exact matched.pass due other

/-- Everything a play can do. -/
theorem play_cases {i : Nat} {x : α} (step : s.play i x = some t) :
    ∃ a, s.actions[i]? = some a ∧
      ((s.run.client.getCharacteristicOf a.serviceUuid a.charUuid = none ∧
        t = { s with
          played := s.played ++ [x]
          actions := s.actions.set i
            { a with state := (a.state.play ⟨s.played.length, x⟩).playNextTuple.1 }
          continued := s.continued ++
            (a.state.play ⟨s.played.length, x⟩).playNextTuple.2 }) ∨
      ∃ found, s.run.client.getCharacteristicOf a.serviceUuid a.charUuid = some found ∧
        ∃ run, t.inFlight = s.inFlight ++
            (if s.Accepts then [(some s.played.length, found.2.handle)] else []) ∧
          t = { s with
            run := run
            played := s.played ++ [x]
            actions := s.actions.set i
              { a with
                writeHandle := found.2.handle
                state := a.state.play ⟨s.played.length, x⟩ }
            wrote := s.wrote ++ (if s.Accepts then [s.played.length] else []) }) := by
  obtain ⟨a, here, rfl⟩ := Option.map_eq_some_iff.mp step
  refine ⟨a, here, ?_⟩
  cases found : s.run.client.getCharacteristicOf a.serviceUuid a.charUuid with
  | none => exact .inl ⟨rfl, rfl⟩
  | some pair =>
      obtain ⟨svc, chr⟩ := pair
      refine .inr ⟨(svc, chr), rfl, ?_⟩
      dsimp only
      by_cases accepts : s.Accepts
      · obtain ⟨up, present⟩ := accepts
        obtain ⟨h, host⟩ := Option.isSome_iff_exists.mp present
        have outcome (stamp : Option Nat) (data : List UInt8) (response : Bool) :
            ({ s.run.client with stamp := stamp } : BLEClientBase _).writeCharacteristic chr.handle
                data response =
              (ESP_GATT_OK, ({ s.run.client with stamp := stamp } : BLEClientBase _).enqueue
                (.writeChar chr.handle data response)) := by
          refine if_neg ?_
          rw [not_or]
          refine ⟨not_not.mpr up, ?_⟩
          show ¬ s.run.client.host.isNone = true
          rw [host]
          exact Bool.false_ne_true
        rw [outcome]
        dsimp only
        rw [if_pos rfl, if_pos ⟨up, present⟩]
        refine ⟨_, ?_, by rw [if_pos ⟨up, present⟩]⟩
        refine inFlight_of_run (q := [⟨some s.played.length, .writeChar chr.handle (a.value x)
            (chr.properties &&& ESP_GATT_CHAR_PROP_BIT_WRITE ≠ 0)⟩])
          (congrArg (s.run.drained ++ ·) (BLEClientBase.events_enqueue
            { s.run.client with stamp := some s.played.length } _)) rfl ?_
        exact BLEClientBase.commands_enqueue
          (c := { s.run.client with stamp := some s.played.length }) present _
      · have outcome (stamp : Option Nat) (data : List UInt8) (response : Bool) :
            ({ s.run.client with stamp := stamp } : BLEClientBase _).writeCharacteristic chr.handle
                data response =
              (ESP_GATT_NOT_CONNECTED, { s.run.client with stamp := stamp }) := by
          refine if_pos ?_
          by_contra both
          obtain ⟨up, present⟩ := not_or.mp both
          refine accepts ⟨not_not.mp up, ?_⟩
          exact Option.isSome_iff_ne_none.mpr fun missing =>
            present (Option.isNone_iff_eq_none.mpr missing)
        rw [outcome]
        dsimp only
        rw [if_neg (by decide), if_neg accepts]
        refine ⟨s.run, ?_, ?_⟩
        · exact (List.append_nil _).symm
        · rw [if_neg accepts, List.append_nil]

/-- An action that does not wait is not among those that do. -/
theorem Waiting.other {i j : Nat} {a : WriteAction α} {p : Play α} {handle : UInt16}
    (waiting : s.Waiting j p handle) (here : s.actions[i]? = some a) (idle : ¬ a.state.Waits) :
    j ≠ i := by
  rintro rfl
  obtain ⟨b, there, waits, -⟩ := waiting
  obtain rfl := Option.some.inj (here.symm.trans there)
  exact idle waits

theorem Matched.number_lt (matched : s.Matched) {i : Nat} {p : Play α} {handle : UInt16}
    (waiting : s.Waiting i p handle) : p.number < s.played.length := by
  obtain ⟨a, here, waits, var, -⟩ := waiting
  obtain ⟨q, var', own, -⟩ := matched.plays.waiting i a.state (map_here here) waits
  obtain rfl := Option.some.inj (var.symm.trans var')
  exact (List.getElem?_eq_some_iff.mp own).1

/-- A play that does not find its characteristic goes on at once. -/
theorem Matched.missing (matched : s.Matched) {i : Nat} {x : α} {a : WriteAction α}
    (here : s.actions[i]? = some a) (idle : ¬ a.state.Waits) :
    ({ s with
      played := s.played ++ [x]
      actions := s.actions.set i
        { a with state := (a.state.play ⟨s.played.length, x⟩).playNextTuple.1 }
      continued := s.continued ++ (a.state.play ⟨s.played.length, x⟩).playNextTuple.2 } :
        WriteActions α).Matched := by
  obtain ⟨inside, -⟩ := List.getElem?_eq_some_iff.mp (map_here here)
  have playing := matched.plays.play (map_here here) (Nat.eq_zero_of_not_pos idle) x
  have self := List.getElem?_set_self (a := a.state.play ⟨s.played.length, x⟩) inside
  have ended := playing.not_waits_next self
  have plays := playing.next self
  rw [List.set_set] at plays
  have elsewhere {j : Nat} {p : Play α} {handle : UInt16} {t : WriteActions α}
      (actions : t.actions = s.actions.set i
        { a with state := (a.state.play ⟨s.played.length, x⟩).playNextTuple.1 })
      (waiting : t.Waiting j p handle) : s.Waiting j p handle := by
    rcases waiting.of_set actions with ⟨-, waits, -⟩ | ⟨-, other⟩
    · exact absurd waits ended
    · exact other
  refine
    { plays := ?plays
      bound := fun n wrote => ?bound
      done := matched.done
      after := fun p mem wrote => ?after
      apart := matched.apart
      owner := fun w mem => ?owner
      awaited := fun j p handle waiting => matched.awaited j p handle (elsewhere rfl waiting)
      alone := fun j p handle waiting => matched.alone j p handle (elsewhere rfl waiting)
      fanned := fun v mem w completion => ?fanned
      each := fun n mem => ?each }
  case plays =>
    show PlayedOnce ((s.actions.set i _).map WriteAction.state) _ _
    rw [List.map_set]
    exact plays
  case bound =>
    rw [List.length_append]
    exact Nat.lt_add_right _ (matched.bound n wrote)
  case after =>
    rcases List.mem_append.mp mem with old | new
    · exact matched.after p old wrote
    · obtain ⟨-, var⟩ := PlayedOnce.mem_playNextTuple.mp new
      obtain rfl := Option.some.inj var
      exact absurd (matched.bound _ wrote) (Nat.lt_irrefl _)
  case owner =>
    obtain ⟨j, p, waiting, owned⟩ := matched.owner w mem
    exact ⟨j, p, waiting.set rfl (waiting.other here idle), owned⟩
  case fanned =>
    obtain ⟨done, gone, own⟩ := matched.fanned v mem w completion
    exact ⟨done, gone, fun p waiting => own p (elsewhere rfl waiting)⟩
  case each =>
    rw [List.map_append, List.mem_append]
    rcases matched.each n mem with done | ⟨v, visit, p, handle, waiting, due⟩
    · exact .inl (.inl done)
    · exact .inr ⟨v, visit, p, handle, waiting.set rfl (waiting.other here idle), due⟩

theorem mem_ite_singleton {β : Type} {c : Prop} [Decidable c] {x y : β} :
    x ∈ (if c then [y] else []) ↔ c ∧ x = y := by
  rw [List.mem_ite_nil_right, List.mem_singleton]

/-- What a play that finds its characteristic does, with `w` and `f` what it adds to the two
records. -/
structure Armed (s t : WriteActions α) (i : Nat) (a : WriteAction α) (x : α) (handle : UInt16)
    (w : List Nat) (f : List (Option Nat × UInt16)) : Prop where
  actions : t.actions = s.actions.set i
    { a with writeHandle := handle, state := a.state.play ⟨s.played.length, x⟩ }
  due : t.due = s.due
  played : t.played = s.played ++ [x]
  wrote : t.wrote = s.wrote ++ w
  completed : t.completed = s.completed
  continued : t.continued = s.continued
  flight : t.inFlight = s.inFlight ++ f

section Armed

variable {i j : Nat} {x : α} {a : WriteAction α} {handle k : UInt16} {w : List Nat}
  {f : List (Option Nat × UInt16)} {p : Play α}

/-- What waits after a play is what waited before, and the play. -/
theorem Armed.of_waiting (armed : Armed s t i a x handle w f) (waiting : t.Waiting j p k) :
    (j = i ∧ p.number = s.played.length ∧ k = handle) ∨ s.Waiting j p k := by
  rcases waiting.of_set armed.actions with ⟨rfl, -, var, same⟩ | ⟨-, other⟩
  · obtain rfl := Option.some.inj var
    exact .inl ⟨rfl, rfl, same.symm⟩
  · exact .inr other

theorem Armed.dueAt (armed : Armed s t i a x handle w f) (at' : s.DueAt j k) : t.DueAt j k := by
  obtain ⟨v, mem, visit⟩ := at'
  exact ⟨v, armed.due ▸ mem, visit⟩

/-- The earlier plays are not in the new part of the record. -/
theorem Armed.wrote_of_lt (armed : Armed s t i a x handle w f)
    (new : ∀ n ∈ w, n = s.played.length) {n : Nat} (old : n < s.played.length)
    (mem : n ∈ t.wrote) : n ∈ s.wrote := by
  rw [armed.wrote] at mem
  rcases List.mem_append.mp mem with before | later
  · exact before
  · exact absurd (new n later) (Nat.ne_of_lt old)

/-- **A play that finds its characteristic** keeps the writes matched if its write is accepted
exactly when no other completion that it would take is to come. -/
theorem Matched.found (matched : s.Matched) (here : s.actions[i]? = some a)
    (idle : ¬ a.state.Waits) (fair : s.Accepts ↔ ¬ s.Awaited i handle)
    (armed : Armed s t i a x handle (if s.Accepts then [s.played.length] else [])
      (if s.Accepts then [(some s.played.length, handle)] else [])) : t.Matched := by
  obtain ⟨inside, -⟩ := List.getElem?_eq_some_iff.mp here
  have own : t.Waiting i ⟨s.played.length, x⟩ handle := by
    refine ⟨{ a with writeHandle := handle, state := a.state.play ⟨s.played.length, x⟩ }, ?_,
      Nat.succ_pos a.state.numRunning, rfl, rfl⟩
    rw [armed.actions]
    exact List.getElem?_set_self inside
  have old {j : Nat} {p : Play α} {k : UInt16} (waiting : s.Waiting j p k) : t.Waiting j p k :=
    waiting.set armed.actions (waiting.other here idle)
  have new : ∀ n ∈ (if s.Accepts then [s.played.length] else []), n = s.played.length :=
    fun n mem => (mem_ite_singleton.mp mem).2
  -- the number of the play is in the record only if its write was accepted
  have free {p : Play α} (number : p.number = s.played.length) (mem : p.number ∈ t.wrote) :
      ¬ s.Awaited i handle := by
    rw [armed.wrote] at mem
    rcases List.mem_append.mp mem with before | later
    · exact absurd number (Nat.ne_of_lt (matched.bound _ before))
    · exact fair.mp (mem_ite_singleton.mp later).1
  have kept {k : UInt16} (before : k ∈ s.inFlight.map Prod.snd) : k ∈ t.inFlight.map Prod.snd := by
    rw [armed.flight, List.map_append]
    exact List.mem_append_left _ before
  refine
    { plays := ?plays
      bound := fun n mem => ?bound
      done := fun n mem => ?done
      after := fun p mem wrote => ?after
      apart := ?apart
      owner := fun u mem => ?owner
      awaited := fun j p k waiting => ?awaited
      alone := fun j p k waiting wrote u mem same => ?alone
      fanned := fun v mem u completion => ?fanned
      each := fun n mem => ?each }
  case plays =>
    rw [armed.actions, armed.played, armed.continued]
    exact matched.plays.play_at here idle rfl
  case bound =>
    rw [armed.wrote] at mem
    rw [armed.played, List.length_append, List.length_singleton]
    rcases List.mem_append.mp mem with before | later
    · exact Nat.lt_succ_of_lt (matched.bound n before)
    · exact Nat.lt_succ_of_le (new n later).le
  case done =>
    rw [armed.wrote]
    exact List.mem_append_left _ (matched.done n (armed.completed ▸ mem))
  case after =>
    rw [armed.continued] at mem
    rw [armed.completed]
    exact matched.after p mem (armed.wrote_of_lt new (matched.plays.number_lt p mem) wrote)
  case apart =>
    rw [armed.flight, List.map_append]
    refine List.nodup_append.mpr ⟨matched.apart, by split <;> simp, ?_⟩
    rintro k before l later rfl
    obtain ⟨u, mem, rfl⟩ := List.mem_map.mp later
    obtain ⟨accepts, rfl⟩ := mem_ite_singleton.mp mem
    exact fair.mp accepts (.inl before)
  case owner =>
    rw [armed.flight] at mem
    rcases List.mem_append.mp mem with before | later
    · obtain ⟨j, p, waiting, stamp, wrote⟩ := matched.owner u before
      exact ⟨j, p, old waiting, stamp, armed.wrote ▸ List.mem_append_left _ wrote⟩
    · obtain ⟨accepts, rfl⟩ := mem_ite_singleton.mp later
      refine ⟨i, _, own, rfl, ?_⟩
      rw [armed.wrote]
      exact List.mem_append_right _ (mem_ite_singleton.mpr ⟨accepts, rfl⟩)
  case awaited =>
    rcases armed.of_waiting waiting with ⟨rfl, -, rfl⟩ | waiting
    · by_cases accepts : s.Accepts
      · refine .inl ?_
        rw [armed.flight, List.map_append]
        exact List.mem_append_right _
          (List.mem_map.mpr ⟨_, mem_ite_singleton.mpr ⟨accepts, rfl⟩, rfl⟩)
      · exact (not_not.mp (mt fair.mpr accepts)).imp kept armed.dueAt
    · exact (matched.awaited j p k waiting).imp kept armed.dueAt
  case alone =>
    rw [armed.flight] at mem
    rcases armed.of_waiting waiting with ⟨rfl, number, rfl⟩ | waiting
    · rcases List.mem_append.mp mem with before | later
      · exact absurd (.inl (same ▸ List.mem_map_of_mem before)) (free number wrote)
      · obtain ⟨-, rfl⟩ := mem_ite_singleton.mp later
        exact .inl (congrArg some number.symm)
    · rcases List.mem_append.mp mem with before | later
      · have wrote := armed.wrote_of_lt new (matched.number_lt waiting) wrote
        exact (matched.alone j p k waiting wrote u before same).imp_right armed.dueAt
      · obtain ⟨accepts, rfl⟩ := mem_ite_singleton.mp later
        obtain rfl : handle = k := same
        rcases matched.awaited j p handle waiting with before | at'
        · exact absurd (.inl before) (fair.mp accepts)
        · exact .inr (armed.dueAt at')
  case fanned =>
    rw [armed.due] at mem
    obtain ⟨⟨n, done, stamp⟩, gone, claims⟩ := matched.fanned v mem u completion
    refine ⟨⟨n, armed.completed ▸ done, stamp⟩, fun r inside => ?_, fun p waiting wrote => ?_⟩
    · rw [armed.flight] at inside
      rcases List.mem_append.mp inside with before | later
      · exact gone r before
      · obtain ⟨-, rfl⟩ := mem_ite_singleton.mp later
        rw [stamp]
        intro same
        have less := matched.bound n (matched.done n done)
        rw [← Option.some.inj same] at less
        exact Nat.lt_irrefl _ less
    · rcases armed.of_waiting waiting with ⟨node, number, same⟩ | waiting
      · refine absurd (.inr ⟨v, mem, node, ?_⟩) (free number wrote)
        rw [completion]
        exact congrArg some same
      · exact claims p waiting (armed.wrote_of_lt new (matched.number_lt waiting) wrote)
  case each =>
    rw [armed.continued, armed.due]
    rcases matched.each n (armed.completed ▸ mem) with done | ⟨v, visit, p, k, waiting, fan⟩
    · exact .inl done
    · exact .inr ⟨v, visit, p, k, old waiting, fan⟩

end Armed

theorem Matched.play (matched : s.Matched) {i : Nat} {x : α} (guard : s.Unmixed (.play i x))
    (step : s.step (.play i x) = some t) : t.Matched := by
  obtain ⟨a, here, ⟨-, rfl⟩ | ⟨found, finds, run, flight, after⟩⟩ := play_cases step
  · exact matched.missing here (guard a here).1
  · obtain ⟨idle, fair⟩ := guard a here
    refine matched.found (x := x) here idle (fair found finds) ⟨?_, ?_, ?_, ?_, ?_, ?_, flight⟩
    all_goals rw [after]

theorem Matched.client (matched : s.Matched) {l : ClientLabel (Option Nat)}
    (step : s.step (.client l) = some t) : t.Matched := by
  obtain ⟨may, moved⟩ := Option.ite_none_left_eq_some.mp step
  obtain ⟨r, ran, rfl⟩ := Option.map_eq_some_iff.mp moved
  have main : l.isMain = true := by
    by_contra other
    exact may (.inl (Bool.eq_false_of_not_eq_true other))
  have flight := inFlight_client (t := { s with run := r.1 }) main ran rfl rfl
  cases dispatched : s.run.dispatched l with
  | none =>
      rw [dispatched] at flight
      simp only [Option.elim_none, Option.bind_none, Option.toList_none, List.append_nil]
      exact matched.of_flight flight.symm
  | some x =>
      have free : s.due = [] := by
        by_contra due
        exact may (.inr ⟨ofLoop_of_dispatched dispatched, due⟩)
      rw [dispatched] at flight
      cases completion : completionOf x with
      | none =>
          simp only [Option.elim_some, Option.bind_some, completion, Option.bind_none,
            Option.toList_none, List.append_nil] at flight ⊢
          exact matched.dispatch_other free completion flight.symm
      | some w =>
          simp only [Option.elim_some, Option.bind_some, completion, Option.toList_some] at flight ⊢
          exact matched.dispatch free completion flight

theorem Matched.execute (matched : s.Matched) {status : Int}
    (step : s.step (.execute status) = some t) : t.Matched := by
  unfold WriteActions.step at step
  cases taken : s.taken with
  | nil =>
      rw [taken] at step
      cases step
  | cons x rest =>
      rw [taken] at step
      obtain ⟨stamp, cmd⟩ := x
      cases cmd with
      | writeChar handle data response =>
          obtain ⟨r, ran, rfl⟩ := Option.map_eq_some_iff.mp step
          refine matched.of_flight ((inFlight_post ran rest).trans ?_)
          unfold inFlight
          rw [taken]
          rfl
      | _ =>
          obtain rfl := Option.some.inj step
          show ({ s with run := s.run, taken := rest } : WriteActions α).Matched
          refine matched.of_flight ?_
          unfold inFlight
          rw [taken]
          rfl

theorem matched_step {l : WriteLabel α} (matched : s.Matched) (guard : s.Unmixed l)
    (step : s.step l = some t) : t.Matched := by
  cases l with
  | client l => exact matched.client step
  | unconditionalDisconnect now =>
      obtain rfl := Option.some.inj step
      have queues : s.run.client.Queues (Eq .disconnect)
          (s.run.client.unconditionalDisconnect now) :=
        BLEClientBase.queues_unconditionalDisconnect rfl now
      refine matched.of_flight (inFlight_of_added (congrArg (s.run.drained ++ ·) queues.events) rfl
        queues.commands fun cmd same => ?_)
      rw [← same]
      rfl
  | play i x => exact matched.play guard step
  | visit => exact matched.visit step
  | take =>
      obtain ⟨r, ran, rfl⟩ := Option.map_eq_some_iff.mp step
      exact matched.of_flight (inFlight_take ran)
  | execute status => exact matched.execute step
  | post ev =>
      obtain ⟨other, moved⟩ := Option.ite_none_left_eq_some.mp step
      obtain ⟨r, ran, rfl⟩ := Option.map_eq_some_iff.mp moved
      refine matched.of_flight ((inFlight_post ran s.taken).trans ?_)
      rw [Option.not_isSome_iff_eq_none.mp other]
      rfl

theorem matched_of_unmixed (run : (writeMachine α).ReachableUnder Unmixed s) : s.Matched := by
  refine run.invariant (fun s init => ?_) fun s l t matched guard step =>
    matched_step matched guard step
  obtain ⟨⟨c, host, -, run⟩, taken, due, played, wrote, completed, continued, idle⟩ := init
  have empty : s.inFlight = [] := by
    unfold inFlight ClientRun.events ClientRun.commands BLEClientBase.events BLEClientBase.commands
    rw [run, taken, show c.setup.host = none from host]
    rfl
  have still (i : Nat) (p : Play α) (handle : UInt16) : ¬ s.Waiting i p handle := by
    rintro ⟨a, here, waits, -⟩
    exact absurd (idle a (List.mem_of_getElem? here)) (Nat.ne_of_gt waits)
  refine ⟨?_, ?_, ?_, ?_, ?_, ?_, fun i p handle waiting => absurd waiting (still i p handle),
    fun i p handle waiting => absurd waiting (still i p handle), ?_, ?_⟩
  · rw [played, continued]
    refine .fresh fun a mem => ?_
    obtain ⟨b, member, rfl⟩ := List.mem_map.mp mem
    exact idle b member
  all_goals simp [wrote, completed, continued, empty, due]

end WriteActions

open WriteActions

/-- **The writes complete** in every run in which an action writes only while no other completion
that it would take for its own is to come. -/
theorem completes_of_unmixed {α : Type} {s : WriteActions α}
    (run : (writeMachine α).ReachableUnder Unmixed s) : s.Completes := by
  have matched := matched_of_unmixed run
  have idle (rest : s.AtRest) : ∀ a ∈ s.actions, ¬ a.state.Waits := by
    obtain ⟨due, events, taken, commands, -⟩ := rest
    intro a mem waits
    obtain ⟨i, here⟩ := List.getElem?_of_mem mem
    obtain ⟨p, var, -⟩ := matched.plays.waiting i a.state (map_here here) waits
    rcases matched.awaited i p a.writeHandle ⟨a, here, waits, var, rfl⟩ with inside | at'
    · rw [WriteActions.inFlight, events, taken, commands] at inside
      cases inside
    · exact not_dueAt_of_free due _ _ at'
  refine ⟨matched.plays.once, matched.plays.own, matched.after, matched.continued_of_free, idle,
    fun rest => matched.plays.settled fun a mem => ?_⟩
  obtain ⟨b, member, rfl⟩ := List.mem_map.mp mem
  exact Nat.eq_zero_of_not_pos (idle rest b member)

/-! ## Runs -/

/-- `a1b2c3d4-0000-1000-8000-00805f9b00NN`. -/
def exampleUuid (n : UInt8) : ESPBTUUID :=
  .fromRaw [n, 0x00, 0x9b, 0x5f, 0x80, 0x00, 0x00, 0x80, 0x00, 0x10, 0x00, 0x00, 0xd4, 0xc3, 0xb2,
    0xa1]

/-- A service with one characteristic that can be written. -/
def exampleTree : List DiscoveredService :=
  [⟨exampleUuid 1, 1, 3, [⟨exampleUuid 3, 3, ESP_GATT_CHAR_PROP_BIT_WRITE, []⟩]⟩]

/-- A client after `setup`, with two actions that write the characteristic. -/
def writeStart : WriteActions Nat :=
  { run := ⟨({ stamp := none } : BLEClientBase (Option Nat)).setup, []⟩
    actions := [
      { serviceUuid := exampleUuid 1, charUuid := exampleUuid 3, valueSimple := [0x11, 0x22] },
      { serviceUuid := exampleUuid 1, charUuid := exampleUuid 3, valueSimple := [0x33, 0x44] }] }

theorem writeStart_init : (writeMachine Nat).init writeStart :=
  ⟨⟨_, rfl, rfl, rfl⟩, rfl, rfl, rfl, rfl, rfl, rfl, by simp [writeStart]⟩

/-- The next `loop` fans an event out to the two actions. -/
def oneLoop : List (WriteLabel Nat) := [.client .drain, .client (.dispatch 0), .visit, .visit]

def raiseLink : List (WriteLabel Nat) :=
  [.client (.connect 0), .take, .execute 0, .post .connected] ++ oneLoop ++
    [.post (.servicesDiscovered 247 exampleTree)] ++ oneLoop

def dropLink : List (WriteLabel Nat) :=
  [.client (.disconnect 0), .take, .execute 0, .post (.disconnected 0)] ++ oneLoop

/-- One write after the other, each after the fan-out of the one before. -/
def oneByOne : List (WriteLabel Nat) :=
  raiseLink ++ [.play 0 5, .take, .execute 0] ++ oneLoop ++ [.play 1 6, .take, .execute 0] ++
    oneLoop ++ dropLink

/-- Both writes are continued. -/
theorem completes_one_by_one : ∃ s, (writeMachine Nat).run writeStart oneByOne = some s ∧
    s.AtRest ∧ s.wrote = [0, 1] ∧ s.continued = [⟨0, 5⟩, ⟨1, 6⟩] ∧ s.Completes := by
  obtain ⟨s, ran, replay, rest, wrote, continued⟩ : ∃ s,
      ((writeMachine Nat).guarded Unmixed).run writeStart oneByOne = some s ∧
      (writeMachine Nat).run writeStart oneByOne = some s ∧ s.AtRest ∧ s.wrote = [0, 1] ∧
        s.continued = [⟨0, 5⟩, ⟨1, 6⟩] := ⟨_, rfl, rfl, by decide, rfl, rfl⟩
  exact ⟨s, replay, rest, wrote, continued,
    completes_of_unmixed ⟨writeStart, writeStart_init, Machine.run_guarded_reach ran⟩⟩

/-- The second of two chained writes to one characteristic goes on when the first is completed, a
refused write stays pending after the connection is lost, and of two plays of one action the first
is never continued. -/
theorem not_completes_chained :
    (∃ s, (writeMachine Nat).Reachable s ∧ s.wrote = [0, 1] ∧ s.completed = [0] ∧
      s.continued = [⟨0, 5⟩, ⟨1, 6⟩]) ∧
    (∃ s, (writeMachine Nat).Reachable s ∧ s.AtRest ∧ s.played = [5] ∧ s.wrote = [] ∧
      s.continued = []) ∧
    ∃ s, (writeMachine Nat).Reachable s ∧ s.AtRest ∧ s.wrote = [0, 1] ∧ s.completed = [0, 1] ∧
      s.continued = [⟨1, 6⟩] := by
  refine ⟨?_, ?_, ?_⟩
  · obtain ⟨s, ran, wrote, completed, continued⟩ : ∃ s, (writeMachine Nat).run writeStart
          (raiseLink ++ [.play 0 5, .take, .execute 0, .client .drain, .client (.dispatch 0),
            .visit, .play 1 6, .visit]) = some s ∧
        s.wrote = [0, 1] ∧ s.completed = [0] ∧ s.continued = [⟨0, 5⟩, ⟨1, 6⟩] :=
      ⟨_, rfl, rfl, rfl, rfl⟩
    exact ⟨s, ⟨writeStart, writeStart_init, Machine.run_reach ran⟩, wrote, completed, continued⟩
  · obtain ⟨s, ran, pending⟩ : ∃ s, (writeMachine Nat).run writeStart
          (raiseLink ++ [.client (.disconnect 0), .play 0 5, .take, .execute 0,
            .post (.disconnected 0)] ++ oneLoop) = some s ∧
        s.AtRest ∧ s.played = [5] ∧ s.wrote = [] ∧ s.continued = [] :=
      ⟨_, rfl, by decide, rfl, rfl, rfl⟩
    exact ⟨s, ⟨writeStart, writeStart_init, Machine.run_reach ran⟩, pending⟩
  · obtain ⟨s, ran, dropped⟩ : ∃ s, (writeMachine Nat).run writeStart
          (raiseLink ++ [.play 0 5, .play 0 6, .take, .execute 0, .execute 0] ++ oneLoop ++
            [.client (.dispatch 0), .visit, .visit] ++ dropLink) = some s ∧
        s.AtRest ∧ s.wrote = [0, 1] ∧ s.completed = [0, 1] ∧ s.continued = [⟨1, 6⟩] :=
      ⟨_, rfl, by decide, rfl, rfl, rfl⟩
    exact ⟨s, ⟨writeStart, writeStart_init, Machine.run_reach ran⟩, dropped⟩

end EsphomeHost

import EsphomeHost.Gatt.References
import Mathlib.Data.List.Forall2

/-!
# One event for each command

What the worker posts for the commands that read, write or subscribe, and for the RSSI, whatever it
handles while it waits for their calls.

* `resultMachine`: the worker, from any routing map and synthetic table, with a record of the
  commands it has executed and of the operation each one made.
* `EntriesLive`: no function goes back to an entry of the map that was cleared away under its call.
* `Executed.Answered`: the event that answers a command.
* `execute_answered` and `resume_answered`: each branch of the handlers posts the event of its own
  command, or makes a call that does.
* `results_answer_commands`: **the results are, in the order of the commands, one event for each**,
  in every run up to the first step that goes back to such an entry, if there is one.
* `not_statusTold_rssi`: an RSSI that could not be read is posted with the status it is initialized
  with.
-/

namespace EsphomeHost

/-! ## The machine -/

/-- The status field, which only five kinds of events set. -/
def HostGattEvent.status : HostGattEvent → Int
  | readComplete _ status _ | descRead _ status _ | writeComplete _ status | descWrite _ status
  | notifyRegistered _ status => status
  | _ => ESP_GATT_OK

/-- The path of the object whose method is called; `none` is the device itself. -/
def Call.object : Call → Option (List Char)
  | read _ _ entry | write _ _ _ _ entry => some entry.path
  | notify _ _ path => some path
  | _ => none

def HostGattCommand.handle? : HostGattCommand → Option UInt16
  | readChar handle | readDesc handle | writeChar handle _ _ | writeDesc handle _ _
  | setNotify handle _ => some handle
  | _ => none

/-- A command as it is begun: the object its handle leads to, and whether a synthetic value is there
to be served. -/
structure Begun where
  command : HostGattCommand
  object : Option (List Char)
  synthetic : Bool
deriving DecidableEq

/-- A command that is over, with the D-Bus operation that was made for it. -/
structure Executed extends Begun where
  operation : Option (Call × Reply)

def Worker.begins (w : Worker) (cmd : HostGattCommand) : Begun where
  command := cmd
  object := (cmd.handle?.bind fun handle => w.handleMap.lookup handle).map (·.path)
  synthetic := match cmd with
    | .readChar handle => (w.syntheticReads.lookup handle).isSome
    | _ => false

/-- `taken` are the commands that were handed over and are answered, `results` the answers, and
`outlived` the frames whose entries were cleared away. -/
structure ResultRun where
  worker : Worker
  taken : List HostGattCommand := []
  current : Option Begun := none
  executed : List Executed := []
  results : List HostGattEvent := []
  outlived : Nat := 0

/-- The answers among what was put out. -/
def resultEvents (outs : List Output) : List HostGattEvent :=
  (outs.filterMap Output.event?).filter (·.isResult)

namespace ResultRun

variable (s : ResultRun)

def takenAfter : WorkerLabel → List HostGattCommand
  | .take cmds => s.taken ++ cmds.filter (·.isAttribute)
  | _ => s.taken

/-- A command that waits for a call is current until the call is taken up. -/
def currentAfter (r : Worker × List Output) : Option Work → Option Begun
  | some (.command cmd) =>
      if cmd.isAttribute ∧ (inFlight r.1.stack).isEmpty = false then some (s.worker.begins cmd)
      else s.current
  | some (.resume c _) => if c.isAttribute then none else s.current
  | _ => s.current

def executedAfter (r : Worker × List Output) : Option Work → List Executed
  | some (.command cmd) =>
      if cmd.isAttribute ∧ (inFlight r.1.stack).isEmpty then
        s.executed ++ [⟨s.worker.begins cmd, none⟩]
      else s.executed
  | some (.resume c reply) =>
      if c.isAttribute then s.executed ++ s.current.toList.map (⟨·, some (c, reply)⟩)
      else s.executed
  | _ => s.executed

def after (l : WorkerLabel) (r : Worker × List Output) : ResultRun where
  worker := r.1
  taken := s.takenAfter l
  current := s.currentAfter r (s.worker.workOf l)
  executed := s.executedAfter r (s.worker.workOf l)
  results := s.results ++ resultEvents r.2
  outlived := s.worker.outlivedAfter s.outlived l

end ResultRun

def resultMachine : Machine ResultRun WorkerLabel where
  init s := ∃ w : Worker, w.stack = [] ∧ s = { worker := w }
  step s l := (workerStep s.worker l).map (s.after l)

/-- The condition on a step.  `do_set_notify_` and `acquire_mtu_` may be interrupted by the end of
the link or by a walk, which clear the map; what they do with the entry they have left off at is
then undefined. -/
def EntriesLive (s : ResultRun) (l : WorkerLabel) : Prop := s.worker.dangles s.outlived l = false

instance (s : ResultRun) (l : WorkerLabel) : Decidable (EntriesLive s l) :=
  inferInstanceAs (Decidable (_ = _))

/-! ## What has to hold -/

def Reply.isError : Reply → Bool
  | error _ _ => true
  | _ => false

/-- The operation on the handle's object succeeded, or a synthetic value was served. -/
def Executed.Succeeded (x : Executed) : Prop :=
  x.synthetic = true ∨ ∃ op ∈ x.operation, op.1.object = x.object ∧ op.2.isError = false

/-- The status tells whether the command succeeded. -/
def Executed.StatusTold (x : Executed) (ev : HostGattEvent) : Prop :=
  ev.status = ESP_GATT_OK ↔ x.Succeeded

/-- The value an RSSI command read, or zero. -/
def Executed.rssi (x : Executed) : Int8 :=
  match x.operation with
  | some (_, .int16 v) => v.toInt8
  | _ => 0

/-- The event is of the command's kind and has its handle; its status tells whether the command
succeeded, but for an RSSI, which has the value alone. -/
structure Executed.Answered (x : Executed) (ev : HostGattEvent) : Prop where
  posts : x.command.posts ev = true
  told : x.command ≠ .readRssi → x.StatusTold ev
  value : x.command = .readRssi → ev = .rssi x.rssi

/-- Every command that was handed over is executed, in order, and answered by one event; the last
may be waiting for its call.  What waits for a call has the path of an entry that is in the map, or
is one of those that have outlived theirs. -/
structure ResultRun.Lawful (s : ResultRun) : Prop where
  order : s.taken = s.executed.map (·.command) ++ s.current.toList.map (·.command) ++
    attributesOwed s.worker.stack
  answers : List.Forall₂ Executed.Answered s.executed s.results
  entries : Refer s.worker.handleMap s.outlived s.worker.stack

/-! ## The handlers -/

/-- The call is made for the command. -/
def Call.madeFor (b : Begun) : Call → Prop
  | read handle isDesc entry =>
      b = ⟨if isDesc then .readDesc handle else .readChar handle, some entry.path, false⟩
  | write handle data response isDesc entry =>
      b = ⟨if isDesc then .writeDesc handle data response else .writeChar handle data response,
        some entry.path, false⟩
  | notify handle enable path => b = ⟨.setNotify handle enable, some path, false⟩
  | rssi => b = ⟨.readRssi, none, false⟩
  | _ => False

variable {w : Worker}

/-- An operation that was made on the object of the handle. -/
theorem succeeded_iff {b : Begun} {c : Call} {r : Reply} (own : c.object = b.object)
    (real : b.synthetic = false) :
    (Executed.mk b (some (c, r))).Succeeded ↔ r.isError = false := by
  simp [Executed.Succeeded, own, real]

/-- No operation was made. -/
theorem not_succeeded {b : Begun} (real : b.synthetic = false) :
    ¬ (Executed.mk b none).Succeeded := by
  simp [Executed.Succeeded, real]

/-- **An attribute command** posts its event, or makes its call. -/
theorem execute_answered {cmd : HostGattCommand} (about : cmd.isAttribute = true) :
    (∃ ev, ev.isResult = true ∧ w.execute cmd = w.post ev ∧
        (Executed.mk (w.begins cmd) none).Answered ev) ∨
      ∃ c, c.isAttribute = true ∧ c.madeFor (w.begins cmd) ∧ w.execute cmd = (w.call c, []) := by
  have failed (handle : UInt16) {b : Begun} {ev : HostGattEvent} (posts : b.command.posts ev = true)
      (bad : ev.status = ESP_GATT_INVALID_HANDLE) (about : b.command.handle? = some handle)
      (real : b.synthetic = false) : (Executed.mk b none).Answered ev := by
    refine ⟨posts, fun _ => ⟨fun ok => ?_, fun done => ?_⟩, fun same => ?_⟩
    · exact absurd (bad.symm.trans ok) (by decide)
    · exact absurd done (not_succeeded real)
    · have same : b.command = .readRssi := same
      rw [same] at about
      cases about
  cases cmd with
  | readChar handle =>
      show (∃ ev, _ ∧ w.doRead handle false = _ ∧ _) ∨
        ∃ c, _ ∧ _ ∧ w.doRead handle false = _
      unfold Worker.doRead
      cases served : w.syntheticReads.lookup handle with
      | some value =>
          have synthetic : (w.begins (.readChar handle)).synthetic = true := by
            simp [Worker.begins, served]
          exact .inl ⟨_, rfl, rfl, by simp [HostGattCommand.posts, Worker.begins],
            fun _ => ⟨fun _ => .inl synthetic, fun _ => rfl⟩, nofun⟩
      | none =>
          have real : (w.begins (.readChar handle)).synthetic = false := by
            simp [Worker.begins, served]
          cases found : w.handleMap.lookup handle with
          | none =>
              exact .inl ⟨_, rfl, rfl, failed handle
                (by simp [Worker.begins, Worker.readEvent, HostGattCommand.posts]) rfl rfl
                real⟩
          | some entry =>
              refine .inr ⟨.read handle false entry, rfl, ?_, rfl⟩
              simp [Call.madeFor, Worker.begins, HostGattCommand.handle?, served, found]
  | readDesc handle =>
      show (∃ ev, _ ∧ w.doRead handle true = _ ∧ _) ∨
        ∃ c, _ ∧ _ ∧ w.doRead handle true = _
      unfold Worker.doRead
      cases found : w.handleMap.lookup handle with
      | none =>
          exact .inl ⟨_, rfl, rfl, failed handle
            (by simp [Worker.begins, Worker.readEvent, HostGattCommand.posts]) rfl rfl rfl⟩
      | some entry =>
          refine .inr ⟨.read handle true entry, rfl, ?_, rfl⟩
          simp [Call.madeFor, Worker.begins, HostGattCommand.handle?, found]
  | writeChar handle data response =>
      show (∃ ev, _ ∧ w.doWrite handle data response false = _ ∧ _) ∨
        ∃ c, _ ∧ _ ∧ w.doWrite handle data response false = _
      unfold Worker.doWrite
      cases found : w.handleMap.lookup handle with
      | none =>
          exact .inl ⟨_, rfl, rfl, failed handle
            (by simp [Worker.begins, Worker.writeEvent, HostGattCommand.posts]) rfl rfl rfl⟩
      | some entry =>
          refine .inr ⟨.write handle data response false entry, rfl, ?_, rfl⟩
          simp [Call.madeFor, Worker.begins, HostGattCommand.handle?, found]
  | writeDesc handle data response =>
      show (∃ ev, _ ∧ w.doWrite handle data response true = _ ∧ _) ∨
        ∃ c, _ ∧ _ ∧ w.doWrite handle data response true = _
      unfold Worker.doWrite
      cases found : w.handleMap.lookup handle with
      | none =>
          exact .inl ⟨_, rfl, rfl, failed handle
            (by simp [Worker.begins, Worker.writeEvent, HostGattCommand.posts]) rfl rfl rfl⟩
      | some entry =>
          refine .inr ⟨.write handle data response true entry, rfl, ?_, rfl⟩
          simp [Call.madeFor, Worker.begins, HostGattCommand.handle?, found]
  | setNotify handle enable =>
      show (∃ ev, _ ∧ w.doSetNotify handle enable = _ ∧ _) ∨
        ∃ c, _ ∧ _ ∧ w.doSetNotify handle enable = _
      unfold Worker.doSetNotify
      split
      · rename_i path parent found
        refine .inr ⟨.notify handle enable path, rfl, ?_, rfl⟩
        simp [Call.madeFor, Worker.begins, HostGattCommand.handle?, found]
      · exact .inl ⟨_, rfl, rfl, failed handle
          (by simp [Worker.begins, HostGattCommand.posts]) rfl rfl rfl⟩
  | readRssi =>
      show (∃ ev, _ ∧ w.doReadRssi = _ ∧ _) ∨ ∃ c, _ ∧ _ ∧ w.doReadRssi = _
      unfold Worker.doReadRssi
      split
      · exact .inr ⟨.rssi, rfl, rfl, rfl⟩
      · exact .inl ⟨_, rfl, rfl, rfl, fun other => absurd rfl other, fun _ => rfl⟩
  | _ => cases about

/-- **An attribute call that is taken up** posts the event of the command it was made for. -/
theorem resume_answered {c : Call} {b : Begun} (made : c.madeFor b) (r : Reply) :
    ∃ ev, ev.isResult = true ∧
      w.resume c r = { w with notifySubs := subsAfter w.notifySubs c r }.post ev ∧
        (Executed.mk b (some (c, r))).Answered ev := by
  have told {b : Begun} {ev : HostGattEvent} (posts : b.command.posts ev = true)
      (own : c.object = b.object) (real : b.synthetic = false)
      (handle : b.command.handle? ≠ none)
      (status : ev.status = if r.isError then ESP_GATT_ERROR else ESP_GATT_OK) :
      (Executed.mk b (some (c, r))).Answered ev := by
    refine ⟨posts, fun _ => ?_, fun same => ?_⟩
    · rw [Executed.StatusTold, succeeded_iff own real, status]
      cases r.isError <;> decide
    · have same : b.command = .readRssi := same
      rw [same] at handle
      exact absurd rfl handle
  cases c with
  | read handle isDesc entry =>
      obtain rfl := made
      cases isDesc <;> cases r <;>
        exact ⟨_, rfl, rfl, told (by simp [Worker.readEvent, HostGattCommand.posts]) rfl rfl
          (by simp [HostGattCommand.handle?]) rfl⟩
  | write handle data response isDesc entry =>
      obtain rfl := made
      cases isDesc <;> cases r <;>
        exact ⟨_, rfl, rfl, told (by simp [Worker.writeEvent, HostGattCommand.posts]) rfl rfl
          (by simp [HostGattCommand.handle?]) rfl⟩
  | notify handle enable path =>
      obtain rfl := made
      cases r with
      | error =>
          exact ⟨_, rfl, rfl, told (by simp [HostGattCommand.posts]) rfl rfl
            (by simp [HostGattCommand.handle?]) rfl⟩
      | _ =>
          exact ⟨_, rfl, congrArg (Worker.post · _) (notifySet_eq handle enable path),
            told (by simp [HostGattCommand.posts]) rfl rfl (by simp [HostGattCommand.handle?])
              rfl⟩
  | rssi =>
      obtain rfl := made
      cases r <;> exact ⟨_, rfl, rfl, rfl, fun other => absurd rfl other, fun _ => rfl⟩
  | _ => cases made

/-! ## Runs -/

/-- The current command waits for the one attribute call there is. -/
inductive Waits : List Call → Option Begun → Prop
  | idle : Waits [] none
  | waiting {c : Call} {b : Begun} (made : c.madeFor b) : Waits [c] (some b)

/-- What the record and the stack have in common. -/
structure Recorded (s : ResultRun) : Prop where
  one : OneAtATime s.worker.stack
  waits : Waits (inFlight s.worker.stack) s.current
  order : s.taken = s.executed.map (·.command) ++ s.current.toList.map (·.command) ++
    attributesOwed s.worker.stack
  answers : List.Forall₂ Executed.Answered s.executed s.results

variable {s : ResultRun}

theorem resultEvents_silent {outs : List Output} (silent : attributeEvents outs = []) :
    resultEvents outs = [] := by
  refine List.filter_eq_nil_iff.mpr fun ev mem result => ?_
  have other := List.filter_eq_nil_iff.mp silent ev mem
  rw [result] at other
  exact other rfl

theorem resultEvents_post {ev : HostGattEvent} (result : ev.isResult = true) :
    resultEvents [.event ev] = [ev] := by
  simp [resultEvents, Output.event?, result]

theorem resultEvents_value (path : List Char) (values : List (List UInt8)) :
    resultEvents (w.valueChanged path values) = [] := by
  refine List.filter_eq_nil_iff.mpr fun ev mem => ?_
  obtain ⟨out, mem, event⟩ := List.mem_filterMap.mp mem
  unfold Worker.valueChanged at mem
  split at mem
  · obtain ⟨v, -, rfl⟩ := List.mem_map.mp mem
    obtain rfl := Option.some.inj event
    exact Bool.false_ne_true
  · cases mem

/-- A step that neither begins nor ends an attribute command leaves the record as it is. -/
theorem Recorded.same {l : WorkerLabel} {r : Worker × List Output} (inv : Recorded s)
    (one : OneAtATime r.1.stack) (taken : s.takenAfter l = s.taken)
    (other : ∀ work ∈ s.worker.workOf l, work.isAttribute = false)
    (calls : inFlight r.1.stack = inFlight s.worker.stack)
    (owed : attributesOwed r.1.stack = attributesOwed s.worker.stack)
    (silent : resultEvents r.2 = []) : Recorded (s.after l r) := by
  have record : s.currentAfter r (s.worker.workOf l) = s.current ∧
      s.executedAfter r (s.worker.workOf l) = s.executed := by
    cases performed : s.worker.workOf l with
    | none => exact ⟨rfl, rfl⟩
    | some work =>
        have apart := other work performed
        cases work with
        | finish | change => exact ⟨rfl, rfl⟩
        | command cmd =>
            have apart : cmd.isAttribute = false := apart
            simp [ResultRun.currentAfter, ResultRun.executedAfter, apart]
        | resume c r =>
            have apart : c.isAttribute = false := apart
            simp [ResultRun.currentAfter, ResultRun.executedAfter, apart]
  refine ⟨one, ?_, ?_, ?_⟩
  · show Waits (inFlight r.1.stack) (s.currentAfter _ _)
    rw [calls, record.1]
    exact inv.waits
  · show s.takenAfter l = (s.executedAfter _ _).map _ ++ (s.currentAfter _ _).toList.map _ ++
      attributesOwed r.1.stack
    rw [taken, record.1, record.2, owed]
    exact inv.order
  · show List.Forall₂ _ (s.executedAfter _ _) (s.results ++ resultEvents r.2)
    rw [record.2, silent, List.append_nil]
    exact inv.answers

/-- A command is begun: it is answered at once, or its call is waited for. -/
theorem Recorded.begun {cmd : HostGattCommand} {cmds : List HostGattCommand} (inv : Recorded s)
    (about : cmd.isAttribute = true) (stack : s.worker.stack = [.commands (cmd :: cmds)])
    (one : OneAtATime ({ s.worker with stack := [.commands cmds] }.execute cmd).1.stack) :
    Recorded (s.after .advance ({ s.worker with stack := [.commands cmds] }.execute cmd)) := by
  have performed : s.worker.workOf .advance = some (.command cmd) := by
    rw [Worker.workOf, stack]
    rfl
  have idle : s.current = none := by
    have waits := inv.waits
    rw [stack] at waits
    generalize s.current = current at waits
    cases waits
    rfl
  have order := inv.order
  have owed : attributesOwed s.worker.stack = cmd :: attributesOwed [.commands cmds] := by
    rw [stack, attributesOwed, owedOf]
    simp [Frame.owed, attributesOwed, owedOf, about]
  rw [idle, owed] at order
  have order : s.taken = s.executed.map (·.command) ++ cmd :: attributesOwed [.commands cmds] := by
    simpa using order
  rcases execute_answered (w := { s.worker with stack := [.commands cmds] }) about with
    ⟨ev, result, done, answered⟩ | ⟨c, about', made, done⟩
  · rw [done] at one ⊢
    have current : s.currentAfter ({ s.worker with stack := [.commands cmds] }.post ev)
        (s.worker.workOf .advance) = none := by
      rw [performed, ← idle]
      exact if_neg fun both => absurd both.2 (by simp [Worker.post, inFlight])
    have executed : s.executedAfter ({ s.worker with stack := [.commands cmds] }.post ev)
        (s.worker.workOf .advance) = s.executed ++ [⟨s.worker.begins cmd, none⟩] := by
      rw [performed]
      exact if_pos ⟨about, by simp [Worker.post, inFlight]⟩
    refine ⟨one, ?_, ?_, ?_⟩
    · show Waits [] (s.currentAfter _ _)
      rw [current]
      exact .idle
    · show s.taken = (s.executedAfter _ _).map _ ++ (s.currentAfter _ _).toList.map _ ++
        attributesOwed [.commands cmds]
      rw [current, executed, order]
      simp [Worker.begins]
    · show List.Forall₂ _ (s.executedAfter _ _) (s.results ++ resultEvents [.event ev])
      rw [executed, resultEvents_post result]
      exact List.rel_append inv.answers (.cons answered .nil)
  · rw [done] at one ⊢
    have waiting : inFlight (.call c none :: [.commands cmds]) = [c] :=
      List.filter_cons_of_pos about'
    have called : (inFlight ({ s.worker with stack := [.commands cmds] }.call c).stack).isEmpty =
        false := congrArg List.isEmpty waiting
    have current : s.currentAfter ({ s.worker with stack := [.commands cmds] }.call c, [])
        (s.worker.workOf .advance) = some (s.worker.begins cmd) := by
      rw [performed]
      exact if_pos ⟨about, called⟩
    have executed : s.executedAfter ({ s.worker with stack := [.commands cmds] }.call c, [])
        (s.worker.workOf .advance) = s.executed := by
      rw [performed]
      exact if_neg fun both => absurd (called.symm.trans both.2) (by decide)
    refine ⟨one, ?_, ?_, ?_⟩
    · show Waits (inFlight (.call c none :: [.commands cmds])) (s.currentAfter _ _)
      rw [waiting, current]
      exact .waiting made
    · show s.taken = (s.executedAfter _ _).map _ ++ (s.currentAfter _ _).toList.map _ ++
        attributesOwed [.commands cmds]
      rw [current, executed, order]
      simp [Worker.begins]
    · show List.Forall₂ _ (s.executedAfter _ _) (s.results ++ [])
      rw [executed, List.append_nil]
      exact inv.answers

/-- The call of the current command is taken up. -/
theorem Recorded.ended {c : Call} {r : Reply} {rest : List Frame} (inv : Recorded s)
    (about : c.isAttribute = true) (stack : s.worker.stack = .call c (some r) :: rest)
    (one : OneAtATime ({ s.worker with stack := rest }.resume c r).1.stack) :
    Recorded (s.after .advance ({ s.worker with stack := rest }.resume c r)) := by
  have performed : s.worker.workOf .advance = some (.resume c r) := by
    rw [Worker.workOf, stack]
    rfl
  have alone : inFlight rest = [] := by
    have before := inv.one
    rw [stack] at before
    exact before.alone about
  obtain ⟨b, current, made⟩ : ∃ b, s.current = some b ∧ c.madeFor b := by
    have waits := inv.waits
    have waiting : inFlight (.call c (some r) :: rest) = c :: inFlight rest :=
      List.filter_cons_of_pos about
    rw [stack, waiting, alone] at waits
    generalize s.current = current at waits
    cases waits with
    | waiting made => exact ⟨_, rfl, made⟩
  obtain ⟨ev, result, done, answered⟩ :=
    resume_answered (w := { s.worker with stack := rest }) made r
  rw [done] at one ⊢
  have finished (r' : Worker × List Output) :
      s.currentAfter r' (s.worker.workOf .advance) = none ∧
        s.executedAfter r' (s.worker.workOf .advance) = s.executed ++ [⟨b, some (c, r)⟩] := by
    rw [performed]
    simp [ResultRun.currentAfter, ResultRun.executedAfter, about, current]
  have order := inv.order
  rw [current, stack] at order
  refine ⟨one, ?_, ?_, ?_⟩
  · show Waits (inFlight rest) (s.currentAfter _ _)
    rw [alone, (finished _).1]
    exact .idle
  · show s.taken = (s.executedAfter _ _).map _ ++ (s.currentAfter _ _).toList.map _ ++
      attributesOwed rest
    rw [(finished _).1, (finished _).2, order]
    simp [attributesOwed, owedOf, Frame.owed]
  · show List.Forall₂ _ (s.executedAfter _ _) (s.results ++ resultEvents [.event ev])
    rw [(finished _).2, resultEvents_post result]
    exact List.rel_append inv.answers (.cons answered .nil)

/-- Commands are handed over to an idle worker. -/
theorem Recorded.took {cmds : List HostGattCommand} (inv : Recorded s)
    (idle : s.worker.stack = []) :
    Recorded (s.after (.take cmds) ({ s.worker with stack := [.commands cmds] }, [])) := by
  have waits := inv.waits
  have order := inv.order
  rw [idle] at waits order
  refine ⟨⟨rfl, Nat.zero_le _⟩, waits, ?_, ?_⟩
  · show s.taken ++ cmds.filter _ = s.executed.map _ ++ s.current.toList.map _ ++
      attributesOwed [.commands cmds]
    rw [order]
    simp [attributesOwed, owedOf, Frame.owed]
  · show List.Forall₂ _ s.executed (s.results ++ [])
    rw [List.append_nil]
    exact inv.answers

theorem recorded_step {s t : ResultRun} {l : WorkerLabel} (inv : Recorded s)
    (step : resultMachine.step s l = some t) : Recorded t := by
  obtain ⟨r, stepped, rfl⟩ := Option.map_eq_some_iff.mp step
  have move := workerStep_attributes inv.one.last stepped
  have one := inv.one.step move
  have only {work : Work} {below : List Frame} (next : Worker.nextWork s.worker.stack =
      some (work, below)) (apart : work.isAttribute = false) :
      ∀ work' ∈ s.worker.workOf .advance, work'.isAttribute = false := by
    intro work' performed
    rw [Worker.workOf, next] at performed
    obtain rfl := Option.some.inj performed
    exact apart
  cases move with
  | took cmds idle => exact inv.took idle
  | begun cmd cmds about stack => exact inv.begun about stack one
  | ended c r rest about stack => exact inv.ended about stack one
  | lowered ps below stack =>
      refine inv.same one rfl (only (by rw [stack]; rfl) rfl) ?_ ?_ rfl <;>
        (rw [stack]; rfl)
  | walked reply rest stack =>
      obtain ⟨-, -, -, ⟨new, after, calls⟩, silent⟩ :=
        Worker.aloof_walkObjects (w := { s.worker with stack := rest }) reply
      refine inv.same one rfl (only (by rw [stack]; rfl) rfl) ?_ ?_ (resultEvents_silent silent)
      · rw [after, inFlight_new fun c mem => (calls c mem).1, stack]
        rfl
      · rw [after, attributesOwed_new, stack]
        rfl
  | signalled path values =>
      exact inv.same one rfl (fun _ none => by cases none) rfl rfl (resultEvents_value path values)
  | aside last given other aside =>
      have taken : s.takenAfter l = s.taken := by
        cases l with
        | take cmds => exact absurd rfl (given cmds)
        | _ => rfl
      exact inv.same one taken (fun work mem => (other work mem).1) aside.inFlight aside.owed
        (resultEvents_silent aside.silent)

/-- **The results are one event for each command, in order**: of the command's kind, with its
handle, and with a status that tells whether the operation on the handle's object succeeded or a
synthetic value was served; an RSSI has the value that was read, or zero. -/
theorem results_answer_commands {s : ResultRun} (run : resultMachine.ReachableUnder EntriesLive s) :
    s.Lawful := by
  have recorded : Recorded s := by
    refine run.invariant ?_ fun _ _ _ inv _ step => recorded_step inv step
    rintro _ ⟨w, idle, rfl⟩
    refine ⟨?_, ?_, ?_, .nil⟩
    · rw [show ResultRun.worker { worker := w } = w from rfl, idle]
      exact ⟨trivial, Nat.zero_le _⟩
    · rw [show ResultRun.worker { worker := w } = w from rfl, idle]
      exact .idle
    · rw [show ResultRun.worker { worker := w } = w from rfl, idle]
      rfl
  have entries : Refer s.worker.handleMap s.outlived s.worker.stack := by
    refine run.invariant (I := fun s => Refer s.worker.handleMap s.outlived s.worker.stack) ?_ ?_
    · rintro _ ⟨w, idle, rfl⟩
      rw [show ResultRun.worker { worker := w } = w from rfl, idle]
      trivial
    · intro s l t refer live step
      obtain ⟨r, stepped, rfl⟩ := Option.map_eq_some_iff.mp step
      exact refer.step live stepped
  exact ⟨recorded.order, recorded.answers, entries⟩

/-- A read of a handle that leads nowhere, and of one that leads to an object while a value of
another is signalled. -/
theorem results_answer_reads : ∃ s, resultMachine.ReachableUnder EntriesLive s ∧
    s.results = [.readComplete 3 ESP_GATT_INVALID_HANDLE [], .readComplete 5 ESP_GATT_OK [0x2A]] ∧
      s.Lawful := by
  have ran : (resultMachine.guarded EntriesLive).run { worker := {
        devicePath := [], busOpen := true, notifySubs := [(['d'], 7)],
        handleMap := [(5, ⟨['c'], .characteristic, 5⟩)] } }
      [.take [.readChar 3, .readChar 5], .advance, .advance, .value ['d'] [[1]],
        .answer 0 (.bytes [0x2A]), .advance, .advance] = some _ := rfl
  have run : resultMachine.ReachableUnder EntriesLive _ :=
    ⟨_, ⟨_, rfl, rfl⟩, Machine.run_guarded_reach ran⟩
  exact ⟨_, run, rfl, results_answer_commands run⟩

-- the link goes down during `StartNotify`, which then succeeds
example : (resultMachine.run { worker := {
      devicePath := [], busOpen := true, handleMap := [(5, ⟨['c'], .characteristic, 5⟩)] } }
    [.take [.setNotify 5 true], .advance, .signal [.connected false], .advance, .advance,
      .answer 0 .done]).map (fun s => decide (EntriesLive s .advance)) = some false := rfl

/-- An RSSI that could not be read: no operation succeeded, and the status is `ESP_GATT_OK`. -/
theorem not_statusTold_rssi : ∃ s, resultMachine.Reachable s ∧
    ¬ List.Forall₂ Executed.StatusTold s.executed s.results := by
  have ran : resultMachine.run { worker := { devicePath := [], busOpen := true } }
      [.take [.readRssi], .advance, .answer 0 (.error [] []), .advance] = some _ := rfl
  refine ⟨_, ⟨_, ⟨_, rfl, rfl⟩, Machine.run_reach ran⟩, fun all => ?_⟩
  have told : Executed.StatusTold ⟨⟨.readRssi, none, false⟩, some (.rssi, .error [] [])⟩
      (.rssi 0) := by
    cases all with
    | cons told _ => exact told
  rcases told.mp rfl with synthetic | ⟨op, made, -, succeeded⟩
  · cases synthetic
  · obtain rfl := Option.some.inj made
    cases succeeded

end EsphomeHost

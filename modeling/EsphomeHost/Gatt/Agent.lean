import EsphomeHost.Client.Base
import EsphomeHost.Gatt.Worker

/-!
# The pairing agent

BlueZ's `RequestPasskey` and `RequestConfirmation` are parked in the one `pending_agent_reply_` of
the worker, and the reply commands of the main thread answer whatever is parked there.

* `agentMachine`: the worker, the command queue and the calls of one device's agent, with records
  of the calls parked, replaced and answered.
* `spares_perform`: nothing the worker does but a reply command touches the parked call.
* `aligned_step`: the records follow the command queue.
* `answered_once`: no call is answered twice, in any run.
* `courteous_iff_inTurn`: **every parked call is answered by a reply of its own kind and meant for
  it, and none is replaced, exactly in the runs in which a call arrives only while none is parked,
  and a reply is executed only while none is parked or the parked one is the one it was given for**.
-/

namespace EsphomeHost

/-! ## The machine -/

/-- A reply of the kind the call asks for. -/
def AgentAnswer.fits : AgentAnswer → AgentCall → Bool
  | passkey _, call => call.wantsPasskey
  | accepted, call | rejected, call => !call.wantsPasskey

/-- The answer a reply command gives. -/
def HostGattCommand.reply? : HostGattCommand → Option AgentAnswer
  | passkeyReply passkey => some (.passkey passkey)
  | confirmReply accept => some (if accept then .accepted else .rejected)
  | _ => none

def Work.reply? : Work → Option AgentAnswer
  | command cmd => cmd.reply?
  | _ => none

def Output.answer? : Output → Option (AgentCall × AgentAnswer)
  | agentAnswer call answer => some (call, answer)
  | event _ => none

/-- An answered call.  `issued` is the number of calls there had been when the reply was given,
`ended` the number there had been at the last `Cancel` or disconnect. -/
structure Answered where
  call : AgentCall
  answer : AgentAnswer
  issued : Nat
  ended : Option Nat
deriving DecidableEq

/-- Commands are stamped with the number of calls so far, which is also the id of the next one;
`taken` are the commands `worker_process_commands` has not got to. -/
structure AgentRun where
  worker : Worker
  commands : List (Stamped Nat HostGattCommand) := []
  taken : List (Stamped Nat HostGattCommand) := []
  calls : Nat := 0
  ended : Option Nat := none
  answered : List Answered := []
  replaced : List AgentCall := []

inductive AgentLabel
  /-- The main thread queues a command. -/
  | enqueue (cmd : HostGattCommand)
  /-- The worker swaps the command queue out. -/
  | take
  | requestPasskey
  | requestConfirmation (passkey : UInt32)
  | cancel
  | advance
  /-- BlueZ answers a call of the worker, or signals a change. -/
  | answer (depth : Nat) (r : Reply)
  | signal (changes : List PropertyChange)
  | value (path : List Char) (values : List (List UInt8))
  | displayPasskey (passkey : UInt32)

/-- The worker learns that the link is down. -/
def Work.isDisconnect : Work → Bool
  | change (.connected b) => !b
  | _ => false

def Work.isCommand : Work → Bool
  | command _ => true
  | _ => false

namespace AgentRun

variable (s : AgentRun)

/-- A call is parked, in the place of any that is there. -/
def parked (r : Worker × List Output) : AgentRun :=
  { s with
    worker := r.1
    calls := s.calls + 1
    replaced := s.replaced ++ s.worker.pendingAgentReply.toList }

/-- What the command that is executed next answers. -/
def answersOf (outs : List Output) : List Answered :=
  s.taken.head?.toList.flatMap fun x => (outs.filterMap Output.answer?).map fun a =>
    ⟨a.1, a.2, x.stamp, s.ended⟩

/-- A round of the worker. -/
def advanced (work : Work) (r : Worker × List Output) : AgentRun :=
  { s with
    worker := r.1
    taken := if work.isCommand then s.taken.tail else s.taken
    ended := if work.isDisconnect then some s.calls else s.ended
    answered := s.answered ++ s.answersOf r.2 }

end AgentRun

def agentStep (s : AgentRun) : AgentLabel → Option AgentRun
  | .enqueue cmd => some { s with commands := s.commands ++ [⟨s.calls, cmd⟩] }
  | .take => (workerStep s.worker (.take (s.commands.map (·.val)))).map fun r =>
      { s with worker := r.1, taken := s.commands, commands := [] }
  | .requestPasskey => (workerStep s.worker (.agentRequestPasskey s.calls)).map s.parked
  | .requestConfirmation passkey =>
      (workerStep s.worker (.agentRequestConfirmation s.calls passkey)).map s.parked
  -- `agent_cancel_` acknowledges the `Cancel` and does nothing else
  | .cancel => if s.worker.pumping then some { s with ended := some s.calls } else none
  | .advance => (Worker.nextWork s.worker.stack).map fun next =>
      s.advanced next.1 ({ s.worker with stack := next.2 }.perform next.1)
  | .answer depth r => (workerStep s.worker (.answer depth r)).map fun r => { s with worker := r.1 }
  | .signal changes => (workerStep s.worker (.signal changes)).map fun r => { s with worker := r.1 }
  | .value path values =>
      (workerStep s.worker (.value path values)).map fun r => { s with worker := r.1 }
  | .displayPasskey passkey =>
      (workerStep s.worker (.agentDisplayPasskey passkey)).map fun r => { s with worker := r.1 }

/-- The worker of a device whose agent has not been called. -/
def AgentRun.fresh (devicePath : List Char) : AgentRun := { worker := { devicePath := devicePath } }

def agentMachine : Machine AgentRun AgentLabel where
  init s := ∃ devicePath, s = .fresh devicePath
  step := agentStep

/-! ## What has to hold -/

/-- The call was answered by a reply of its own kind.  No `Cancel` or disconnect had ended it, and
if there had been one before it, the reply was given for this call and not kept from before. -/
structure Answered.Courteous (a : Answered) : Prop where
  kind : a.answer.fits a.call = true
  alive : ∀ e ∈ a.ended, e ≤ a.call.id
  meant : a.ended ≠ none → a.call.id < a.issued

/-- No call was answered twice, every answer was courteous, and no call was replaced. -/
structure AgentRun.Courteous (s : AgentRun) : Prop where
  once : s.answered.Pairwise (·.call.id ≠ ·.call.id)
  each : ∀ a ∈ s.answered, a.Courteous
  kept : s.replaced = []

/-- The condition on a step: a call arrives only while none is parked, and a reply command is
executed only while none is parked or the parked call is of its kind, has not been ended and, if a
call was ended before it, had arrived when the reply was given. -/
def InTurn (s : AgentRun) : AgentLabel → Prop
  | .requestPasskey | .requestConfirmation _ => s.worker.pendingAgentReply = none
  | .advance => ∀ next ∈ Worker.nextWork s.worker.stack, ∀ answer ∈ next.1.reply?,
      ∀ call ∈ s.worker.pendingAgentReply, ∀ x ∈ s.taken.head?,
        answer.fits call = true ∧ ∀ e ∈ s.ended, e ≤ call.id ∧ call.id < x.stamp
  | _ => True

/-! ## What touches the parked call -/

/-- The result of a round leaves the parked call alone, and only adds waiting calls to the stack. -/
structure Spares (parked : Option AgentCall) (stack : List Frame) (r : Worker × List Output) :
    Prop where
  parked : r.1.pendingAgentReply = parked
  silent : r.2.filterMap Output.answer? = []
  stack : ∃ new : List Call, r.1.stack = new.map (Frame.call · none) ++ stack

namespace Worker

variable {w : Worker}

theorem spares_same {outs : List Output} (silent : outs.filterMap Output.answer? = []) :
    Spares w.pendingAgentReply w.stack (w, outs) := ⟨rfl, silent, [], rfl⟩

theorem spares_call (c : Call) : Spares w.pendingAgentReply w.stack (w.call c, []) :=
  ⟨rfl, rfl, [c], rfl⟩

theorem spares_post (ev : HostGattEvent) : Spares w.pendingAgentReply w.stack (w.post ev) :=
  spares_same rfl

theorem spares_doDisconnect : Spares w.pendingAgentReply w.stack w.doDisconnect := by
  unfold doDisconnect
  split
  · exact spares_call _
  · exact spares_post _

theorem spares_walkFailed : Spares w.pendingAgentReply w.stack w.walkFailed :=
  spares_doDisconnect (w := { w with discovering := false })

theorem spares_tryStartDiscovery : Spares w.pendingAgentReply w.stack w.tryStartDiscovery := by
  unfold tryStartDiscovery
  split
  · exact spares_same rfl
  · dsimp only
    split
    · exact spares_call (w := { w with discovering := true }) _
    · exact spares_walkFailed (w := { w with discovering := true })

theorem spares_workerOnConnectedChanged (b : Bool) :
    Spares w.pendingAgentReply w.stack (w.workerOnConnectedChanged b) := by
  cases b with
  | false => exact ⟨rfl, rfl, [], rfl⟩
  | true =>
      unfold workerOnConnectedChanged
      cases w.busOpen with
      | false => exact ⟨rfl, rfl, [], rfl⟩
      | true => exact ⟨rfl, rfl, [.servicesResolved], rfl⟩

theorem spares_acquireMtu (tree : List DiscoveredService) (paths : List (List Char)) :
    Spares w.pendingAgentReply w.stack (w.acquireMtu tree paths) := by
  cases paths with
  | nil => exact ⟨rfl, rfl, [], rfl⟩
  | cons path rest => exact spares_call _

theorem spares_treeWalked (tree : List DiscoveredService) :
    Spares w.pendingAgentReply w.stack (w.treeWalked tree) :=
  spares_acquireMtu (w := { w with discovered := true }) tree _

theorem spares_walkObjects (reply : List ManagedObject) :
    Spares w.pendingAgentReply w.stack (w.walkObjects reply) := by
  unfold walkObjects
  dsimp only
  split
  · rename_i m tree linked
    unfold synthesizeGapService
    dsimp only
    split
    · exact spares_treeWalked (w := { w with handleMap := m, syntheticReads := [] }) tree
    · exact ⟨rfl, rfl, [_], rfl⟩
  · rename_i m failed
    exact spares_walkFailed (w := { w with handleMap := m })

theorem spares_connectReturned (attempt : Nat) (r : Reply) :
    Spares w.pendingAgentReply w.stack (w.connectReturned attempt r) := by
  cases r with
  | error name message =>
      unfold connectReturned
      dsimp only
      split
      · exact spares_workerOnConnectedChanged true
      · split <;> exact spares_call _
  | _ => exact spares_same rfl

theorem spares_notifySet (handle : UInt16) (enable : Bool) (path : List Char)
    (ev : HostGattEvent) :
    Spares w.pendingAgentReply w.stack ((w.notifySet handle enable path).post ev) := by
  unfold notifySet
  split
  · split <;> exact ⟨rfl, rfl, [], rfl⟩
  · exact ⟨rfl, rfl, [], rfl⟩

theorem spares_execute {cmd : HostGattCommand} (other : cmd.reply? = none) :
    Spares w.pendingAgentReply w.stack (w.execute cmd) := by
  have read (handle : UInt16) (isDesc : Bool) :
      Spares w.pendingAgentReply w.stack (w.doRead handle isDesc) := by
    unfold doRead
    split
    · exact spares_post _
    · split
      · exact spares_post _
      · exact spares_call _
  have write (handle : UInt16) (data : List UInt8) (response isDesc : Bool) :
      Spares w.pendingAgentReply w.stack (w.doWrite handle data response isDesc) := by
    unfold doWrite
    split
    · exact spares_post _
    · exact spares_call _
  cases cmd with
  | passkeyReply | confirmReply => cases other
  | connect => exact spares_call _
  | disconnect => exact spares_doDisconnect
  | readChar handle => exact read handle false
  | readDesc handle => exact read handle true
  | writeChar handle data response => exact write handle data response false
  | writeDesc handle data response => exact write handle data response true
  | setNotify handle enable =>
      show Spares _ _ (w.doSetNotify handle enable)
      unfold doSetNotify
      split
      · exact spares_call _
      · exact spares_post _
  | readRssi =>
      show Spares _ _ w.doReadRssi
      unfold doReadRssi
      split
      · exact spares_call _
      · exact spares_post _
  | pair =>
      show Spares _ _ w.doPair
      unfold doPair
      split
      · exact spares_call _
      · exact spares_same rfl
  | removeBond =>
      show Spares _ _ w.doRemoveBond
      unfold doRemoveBond
      split
      · exact spares_call _
      · exact spares_same rfl

theorem spares_resume (c : Call) (r : Reply) :
    Spares w.pendingAgentReply w.stack (w.resume c r) := by
  cases c with
  | openBus =>
      cases r with
      | error => exact spares_same rfl
      | _ => exact ⟨rfl, rfl, [.getConnected], rfl⟩
  | getConnected =>
      cases r with
      | bool b =>
          cases b with
          | false => exact spares_call _
          | true => exact spares_workerOnConnectedChanged true
      | _ => exact spares_call _
  | connect attempt => exact spares_connectReturned attempt r
  | recheckConnected notFound =>
      cases r with
      | bool b =>
          cases b with
          | false => exact spares_post _
          | true => exact spares_workerOnConnectedChanged true
      | _ => exact spares_post _
  | servicesResolved =>
      cases r with
      | bool b =>
          cases b with
          | false => exact spares_same rfl
          | true => exact spares_tryStartDiscovery
      | _ => exact spares_same rfl
  | managedObjects =>
      cases r with
      | objects reply => exact spares_walkObjects reply
      | _ => exact spares_walkFailed
  | gapName tree second => cases r <;> exact spares_call _
  | gapAppearance tree name =>
      cases r with
      | uint16 v =>
          exact spares_treeWalked (w := { w with syntheticReads := gapReads name v }) _
      | _ => exact spares_treeWalked (w := { w with syntheticReads := gapReads name 0 }) _
  | mtu tree path rest =>
      cases r with
      | uint16 v =>
          show Spares _ _ (if v ≥ 23 then w.finishDiscovery tree v else w.acquireMtu tree rest)
          split
          · exact ⟨rfl, rfl, [], rfl⟩
          · exact spares_acquireMtu tree rest
      | _ => exact spares_acquireMtu tree rest
  | disconnect | removeBond => exact spares_same rfl
  | read handle isDesc | write handle _ _ isDesc => cases r <;> exact spares_post _
  | notify handle enable path =>
      cases r with
      | error => exact spares_post _
      | _ => exact spares_notifySet handle enable path _
  | rssi => cases r <;> exact spares_post _
  | registerAgent =>
      cases r with
      | error => exact spares_call _
      | _ => exact ⟨rfl, rfl, [.pair], rfl⟩
  | pair => cases r <;> exact spares_post _

/-- **Nothing but a reply command touches the parked call.** -/
theorem spares_perform {work : Work} (other : work.reply? = none) :
    Spares w.pendingAgentReply w.stack (w.perform work) := by
  cases work with
  | finish => exact spares_same rfl
  | command cmd => exact spares_execute other
  | change p =>
      cases p with
      | connected b => exact spares_workerOnConnectedChanged b
      | servicesResolved b =>
          cases b with
          | false => exact spares_same rfl
          | true => exact spares_tryStartDiscovery
      | other => exact spares_same rfl
  | resume c r => exact spares_resume c r

/-- A reply command answers the parked call. -/
theorem perform_reply {work : Work} {answer : AgentAnswer} (reply : work.reply? = some answer) :
    w.perform work = w.answerAgent answer := by
  cases work with
  | command cmd =>
      cases cmd with
      | passkeyReply | confirmReply =>
          obtain rfl := Option.some.inj reply
          rfl
      | _ => cases reply
  | finish | change | resume => cases reply

/-- Every round leaves the rest of the stack as it is. -/
theorem perform_stack (work : Work) :
    ∃ new : List Call, (w.perform work).1.stack = new.map (Frame.call · none) ++ w.stack := by
  cases reply : work.reply? with
  | none => exact (spares_perform reply).stack
  | some answer =>
      rw [perform_reply reply, answerAgent]
      refine ⟨[], ?_⟩
      split <;> rfl

end Worker

/-! ## The records follow the queue -/

/-- The commands that wait on a frame. -/
def Frame.commandsLeft : Frame → List HostGattCommand
  | commands rest => rest
  | properties _ | call _ _ => []

/-- The commands that wait on the stack. -/
def commandsLeft (stack : List Frame) : List HostGattCommand := stack.flatMap Frame.commandsLeft

theorem commandsLeft_calls (new : List Call) (stack : List Frame) :
    commandsLeft (new.map (Frame.call · none) ++ stack) = commandsLeft stack := by
  rw [commandsLeft, List.flatMap_append, List.flatMap_map]
  simp [Frame.commandsLeft, commandsLeft]

theorem commandsLeft_answered {stack : List Frame} {depth : Nat} {c : Call} (r : Reply)
    (waiting : stack[depth]? = some (.call c none)) :
    commandsLeft (stack.set depth (.call c (some r))) = commandsLeft stack := by
  induction stack generalizing depth with
  | nil => rfl
  | cons f stack ih =>
      cases depth with
      | zero =>
          obtain rfl : f = .call c none := Option.some.inj waiting
          rfl
      | succ depth => exact congrArg (f.commandsLeft ++ ·) (ih waiting)

/-- A round of the loop of `worker_process_commands` takes up the next command. -/
theorem commandsLeft_nextWork {stack rest : List Frame} {work : Work}
    (next : Worker.nextWork stack = some (work, rest)) :
    (∃ cmd, work = .command cmd ∧ commandsLeft stack = cmd :: commandsLeft rest) ∨
      (work.isCommand = false ∧ commandsLeft stack = commandsLeft rest) := by
  unfold Worker.nextWork at next
  split at next
  · obtain ⟨rfl, rfl⟩ := Prod.mk.inj (Option.some.inj next)
    exact .inr ⟨rfl, rfl⟩
  · obtain ⟨rfl, rfl⟩ := Prod.mk.inj (Option.some.inj next)
    exact .inr ⟨rfl, rfl⟩
  · obtain ⟨rfl, rfl⟩ := Prod.mk.inj (Option.some.inj next)
    exact .inl ⟨_, rfl, rfl⟩
  · obtain ⟨rfl, rfl⟩ := Prod.mk.inj (Option.some.inj next)
    exact .inr ⟨rfl, rfl⟩
  · obtain ⟨rfl, rfl⟩ := Prod.mk.inj (Option.some.inj next)
    exact .inr ⟨rfl, rfl⟩
  · cases next
  · cases next

/-- The commands on the stack are the ones recorded. -/
def AgentRun.Aligned (s : AgentRun) : Prop := commandsLeft s.worker.stack = s.taken.map (·.val)

variable {s t : AgentRun} {l : AgentLabel}

theorem aligned_step (aligned : s.Aligned) (step : agentStep s l = some t) : t.Aligned := by
  unfold AgentRun.Aligned at aligned ⊢
  cases l with
  | enqueue cmd =>
      obtain rfl := Option.some.inj step
      exact aligned
  | take =>
      obtain ⟨r, taken, rfl⟩ := Option.map_eq_some_iff.mp step
      obtain ⟨-, rfl⟩ := workerStep_take taken
      exact List.append_nil _
  | requestPasskey | requestConfirmation | displayPasskey | signal | value =>
      obtain ⟨r, taken, rfl⟩ := Option.map_eq_some_iff.mp step
      obtain ⟨-, same⟩ := Option.ite_none_right_eq_some.mp taken
      obtain rfl := Option.some.inj same
      exact aligned
  | cancel =>
      obtain ⟨-, same⟩ := Option.ite_none_right_eq_some.mp step
      obtain rfl := Option.some.inj same
      exact aligned
  | advance =>
      obtain ⟨⟨work, rest⟩, next, rfl⟩ := Option.map_eq_some_iff.mp step
      obtain ⟨new, stack⟩ :=
        Worker.perform_stack (w := { s.worker with stack := rest }) work
      simp only [AgentRun.advanced, stack, commandsLeft_calls]
      rcases commandsLeft_nextWork next with ⟨cmd, rfl, left⟩ | ⟨other, left⟩
      · show commandsLeft rest = s.taken.tail.map (·.val)
        rw [List.map_tail, ← aligned, left, List.tail_cons]
      · rw [other, if_neg Bool.false_ne_true, ← aligned, left]
  | answer depth r =>
      obtain ⟨_, taken, rfl⟩ := Option.map_eq_some_iff.mp step
      obtain ⟨c, waiting, rfl⟩ := workerStep_answer taken
      exact (commandsLeft_answered r waiting).trans aligned

/-! ## What a step does to the records -/

/-- **What a step does to the parked call and the records**, and what the condition asks of it. -/
inductive AgentMove (s t : AgentRun) (l : AgentLabel) : Prop
  | still (parked : t.worker.pendingAgentReply = s.worker.pendingAgentReply)
      (calls : t.calls = s.calls) (replaced : t.replaced = s.replaced)
      (answered : t.answered = s.answered) (inTurn : InTurn s l)
  | park (wantsPasskey : Bool) (parked : t.worker.pendingAgentReply = some ⟨s.calls, wantsPasskey⟩)
      (calls : t.calls = s.calls + 1)
      (replaced : t.replaced = s.replaced ++ s.worker.pendingAgentReply.toList)
      (answered : t.answered = s.answered)
      (inTurn : InTurn s l ↔ s.worker.pendingAgentReply = none)
  | answer (a : Answered) (before : s.worker.pendingAgentReply = some a.call)
      (parked : t.worker.pendingAgentReply = none) (calls : t.calls = s.calls)
      (replaced : t.replaced = s.replaced) (answered : t.answered = s.answered ++ [a])
      (inTurn : InTurn s l ↔ a.Courteous)

theorem courteous_iff (a : Answered) : a.Courteous ↔
    a.answer.fits a.call = true ∧ ∀ e ∈ a.ended, e ≤ a.call.id ∧ a.call.id < a.issued := by
  constructor
  · rintro ⟨kind, alive, meant⟩
    refine ⟨kind, fun e ended => ⟨alive e ended, meant ?_⟩⟩
    rw [Option.mem_def.mp ended]
    exact Option.some_ne_none e
  · rintro ⟨kind, both⟩
    refine ⟨kind, fun e ended => (both e ended).1, fun some => ?_⟩
    obtain ⟨e, ended⟩ := Option.ne_none_iff_exists'.mp some
    exact (both e ended).2

theorem move_advance (aligned : s.Aligned) (step : agentStep s .advance = some t) :
    AgentMove s t .advance := by
  obtain ⟨⟨work, rest⟩, next, rfl⟩ := Option.map_eq_some_iff.mp step
  have inTurn : InTurn s .advance ↔ ∀ answer ∈ work.reply?,
      ∀ call ∈ s.worker.pendingAgentReply, ∀ x ∈ s.taken.head?,
        answer.fits call = true ∧ ∀ e ∈ s.ended, e ≤ call.id ∧ call.id < x.stamp := by
    simp only [InTurn, next, Option.mem_def, Option.some.injEq, forall_eq']
  cases reply : work.reply? with
  | none =>
      have spares := Worker.spares_perform (w := { s.worker with stack := rest }) reply
      refine .still spares.parked rfl rfl ?_ (inTurn.mpr (by simp [reply]))
      simp [AgentRun.advanced, AgentRun.answersOf, spares.silent]
  | some answer =>
      rw [Worker.perform_reply reply]
      cases parked : s.worker.pendingAgentReply with
      | none =>
          have same : { s.worker with stack := rest }.answerAgent answer =
              ({ s.worker with stack := rest }, []) := by simp [Worker.answerAgent, parked]
          rw [same]
          refine .still rfl rfl rfl ?_ (inTurn.mpr (by simp [parked]))
          simp [AgentRun.advanced, AgentRun.answersOf]
      | some call =>
          -- the reply is the command at the head of what was taken
          obtain ⟨x, head⟩ : ∃ x, s.taken.head? = some x := by
            rcases commandsLeft_nextWork next with ⟨cmd, rfl, left⟩ | ⟨other, -⟩
            · rw [aligned] at left
              obtain ⟨x, taken, same, -⟩ := List.map_eq_cons_iff.mp left
              exact ⟨x, by rw [same, List.head?_cons]⟩
            · cases work <;> first | cases reply | cases other
          refine .answer ⟨call, answer, x.stamp, s.ended⟩ parked ?_ rfl rfl ?_ ?_
          · simp [AgentRun.advanced, Worker.answerAgent, parked]
          · simp [AgentRun.advanced, AgentRun.answersOf, Worker.answerAgent, parked, head,
              Output.answer?]
          · rw [inTurn, courteous_iff]
            simp [reply, parked, head]

theorem move_step (aligned : s.Aligned) (step : agentStep s l = some t) : AgentMove s t l := by
  cases l with
  | enqueue cmd =>
      obtain rfl := Option.some.inj step
      exact .still rfl rfl rfl rfl trivial
  | take =>
      obtain ⟨r, taken, rfl⟩ := Option.map_eq_some_iff.mp step
      obtain ⟨-, rfl⟩ := workerStep_take taken
      exact .still rfl rfl rfl rfl trivial
  | requestPasskey | requestConfirmation =>
      obtain ⟨r, taken, rfl⟩ := Option.map_eq_some_iff.mp step
      obtain ⟨-, same⟩ := Option.ite_none_right_eq_some.mp taken
      obtain rfl := Option.some.inj same
      exact .park _ rfl rfl rfl rfl Iff.rfl
  | cancel =>
      obtain ⟨-, same⟩ := Option.ite_none_right_eq_some.mp step
      obtain rfl := Option.some.inj same
      exact .still rfl rfl rfl rfl trivial
  | advance => exact move_advance aligned step
  | answer depth r =>
      obtain ⟨_, taken, rfl⟩ := Option.map_eq_some_iff.mp step
      obtain ⟨c, waiting, rfl⟩ := workerStep_answer taken
      exact .still rfl rfl rfl rfl trivial
  | signal | value | displayPasskey =>
      obtain ⟨r, taken, rfl⟩ := Option.map_eq_some_iff.mp step
      obtain ⟨-, same⟩ := Option.ite_none_right_eq_some.mp taken
      obtain rfl := Option.some.inj same
      exact .still rfl rfl rfl rfl trivial

/-! ## Runs -/

/-- The invariant: calls are numbered as they arrive, and an answered one is not parked. -/
structure Numbered (s : AgentRun) : Prop where
  aligned : s.Aligned
  parked : ∀ call ∈ s.worker.pendingAgentReply,
    call.id < s.calls ∧ ∀ a ∈ s.answered, a.call.id ≠ call.id
  answered : ∀ a ∈ s.answered, a.call.id < s.calls
  once : s.answered.Pairwise (·.call.id ≠ ·.call.id)

theorem numbered_fresh (devicePath : List Char) : Numbered (.fresh devicePath) :=
  ⟨rfl, by simp [AgentRun.fresh], by simp [AgentRun.fresh], .nil⟩

theorem numbered_step (numbered : Numbered s) (step : agentStep s l = some t) : Numbered t := by
  have aligned := aligned_step numbered.aligned step
  cases move_step numbered.aligned step with
  | still parked calls replaced answered inTurn =>
      refine ⟨aligned, ?_, ?_, ?_⟩
      · rw [parked, calls, answered]
        exact numbered.parked
      · rw [calls, answered]
        exact numbered.answered
      · rw [answered]
        exact numbered.once
  | park wantsPasskey parked calls replaced answered inTurn =>
      refine ⟨aligned, ?_, ?_, ?_⟩
      · rw [parked, calls, answered]
        intro call same
        obtain rfl := Option.some.inj same
        exact ⟨Nat.lt_succ_self _, fun a mem => (numbered.answered a mem).ne⟩
      · rw [calls, answered]
        exact fun a mem => Nat.lt_succ_of_lt (numbered.answered a mem)
      · rw [answered]
        exact numbered.once
  | answer a before parked calls replaced answered inTurn =>
      obtain ⟨known, other⟩ := numbered.parked a.call before
      refine ⟨aligned, ?_, ?_, ?_⟩
      · rw [parked]
        exact fun call parked => by cases parked
      · rw [calls, answered]
        intro b mem
        rcases List.mem_append.mp mem with old | new
        · exact numbered.answered b old
        · obtain rfl := List.mem_singleton.mp new
          exact known
      · rw [answered]
        refine List.pairwise_append.mpr ⟨numbered.once, List.pairwise_singleton _ _, ?_⟩
        intro b mem c new
        obtain rfl := List.mem_singleton.mp new
        exact other b mem

/-- **No call is answered twice.** -/
theorem answered_once (run : agentMachine.Reachable s) :
    s.answered.Pairwise (·.call.id ≠ ·.call.id) := by
  refine (run.invariant (I := Numbered) ?_ fun _ _ _ numbered _ step =>
    numbered_step numbered step).once
  rintro s ⟨devicePath, rfl⟩
  exact numbered_fresh devicePath

theorem courteous_step (numbered : Numbered s) (courteous : s.Courteous) (inTurn : InTurn s l)
    (step : agentStep s l = some t) : t.Courteous := by
  refine ⟨(numbered_step numbered step).once, ?_, ?_⟩
  · cases move_step numbered.aligned step with
    | still _ _ _ answered _ | park _ _ _ _ answered _ =>
        rw [answered]
        exact courteous.each
    | answer a _ _ _ _ answered exactly =>
        rw [answered]
        intro b mem
        rcases List.mem_append.mp mem with old | new
        · exact courteous.each b old
        · obtain rfl := List.mem_singleton.mp new
          exact exactly.mp inTurn
  · cases move_step numbered.aligned step with
    | still _ _ replaced _ _ | answer _ _ _ _ replaced _ _ => rw [replaced, courteous.kept]
    | park _ _ _ replaced _ exactly =>
        rw [replaced, courteous.kept, exactly.mp inTurn]
        rfl

theorem not_courteous_step (numbered : Numbered s) (outOfTurn : ¬ InTurn s l)
    (step : agentStep s l = some t) : ¬ t.Courteous := by
  intro courteous
  cases move_step numbered.aligned step with
  | still _ _ _ _ inTurn => exact outOfTurn inTurn
  | park _ _ _ replaced _ exactly =>
      have none := courteous.kept
      rw [replaced] at none
      refine outOfTurn (exactly.mpr ?_)
      exact Option.toList_eq_nil_iff.mp (List.append_eq_nil_iff.mp none).2
  | answer a _ _ _ _ answered exactly =>
      refine outOfTurn (exactly.mpr (courteous.each a ?_))
      rw [answered]
      exact List.mem_append_right _ (List.mem_singleton_self a)

/-- **Every run of the agent** is courteous throughout exactly if all its steps are in turn. -/
theorem courteous_iff_inTurn (devicePath : List Char) (ls : List AgentLabel) :
    agentMachine.Throughout AgentRun.Courteous (.fresh devicePath) ls ↔
      agentMachine.Meets InTurn (.fresh devicePath) ls := by
  refine Machine.throughout_iff_meets (I := Numbered) ?_ ?_ (numbered_fresh devicePath) ?_ ls
  · intro s l t numbered courteous inTurn step
    exact ⟨numbered_step numbered step, courteous_step numbered courteous inTurn step⟩
  · intro s l t numbered _ outOfTurn step
    exact not_courteous_step numbered outOfTurn step
  · exact ⟨.nil, by simp [AgentRun.fresh], rfl⟩

/-! ## A run -/

/-- `RequestPasskey` is cancelled, but stays parked until `RequestConfirmation` takes its place;
the late passkey answers that. -/
def latePasskey : List AgentLabel :=
  [.requestPasskey, .cancel, .requestConfirmation 4711, .enqueue (.passkeyReply 123456), .take,
    .advance]

theorem not_courteous_latePasskey : ∃ s, agentMachine.Reachable s ∧
    s.replaced = [⟨0, true⟩] ∧ s.answered = [⟨⟨1, false⟩, .passkey 123456, 2, some 1⟩] ∧
      ¬ s.Courteous := by
  obtain ⟨s, ran, replaced, answered⟩ : ∃ s,
      agentMachine.run (.fresh []) latePasskey = some s ∧ s.replaced = [⟨0, true⟩] ∧
        s.answered = [⟨⟨1, false⟩, .passkey 123456, 2, some 1⟩] := ⟨_, rfl, rfl, rfl⟩
  refine ⟨s, ⟨_, ⟨[], rfl⟩, Machine.run_reach ran⟩, replaced, answered, fun courteous => ?_⟩
  have kept := courteous.kept
  rw [replaced] at kept
  cases kept

end EsphomeHost

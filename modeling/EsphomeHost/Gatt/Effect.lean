import EsphomeHost.Gatt.Worker

/-!
# What a round of the worker does to the link

Most of what the worker does is of no consequence to the link: it neither posts a link event nor
touches the flags of the discovery.  `Role` sorts out the rest.

* `Work.role` and `Frame.role`: what a round, or a function that waits, does next to the link.
* `perform_effect`: **everything a round can do**, by its role.
-/

namespace EsphomeHost

/-- What a round of a function, or a function that waits, means for the link. -/
inductive Role
  /-- Nothing. -/
  | plain
  /-- `do_connect_` up to asking for `Connected`. -/
  | probe
  /-- `do_connect_` after a failed `Device1.Connect`. -/
  | retry
  /-- `do_connect_` finds the device not connected after all. -/
  | refuse
  /-- The device is found connected. -/
  | raise
  /-- The device is found disconnected. -/
  | lower
  /-- `ServicesResolved` is asked for, or known to be true. -/
  | poll
  /-- `walk_gatt_tree_`. -/
  | walk
  /-- `acquire_mtu_`. -/
  | mtu
  /-- `do_disconnect_`. -/
  | drop
deriving DecidableEq

def Call.role : Call → Option Reply → Role
  | .openBus, some (.error _ _) => .plain
  | .openBus, _ => .probe
  | .getConnected, none => .probe
  | .getConnected, some (.bool true) => .raise
  | .getConnected, some _ => .plain
  | .connect _, some (.error name _) =>
      if strstr name "AlreadyConnected".toList then .raise else .retry
  | .connect _, _ => .plain
  | .recheckConnected _, none => .retry
  | .recheckConnected _, some (.bool true) => .raise
  | .recheckConnected _, some _ => .refuse
  | .servicesResolved, none | .servicesResolved, some (.bool true) => .poll
  | .servicesResolved, some _ => .plain
  | .managedObjects, _ | .gapName _ _, _ | .gapAppearance _ _, _ => .walk
  | .mtu _ _ _, _ => .mtu
  | .disconnect, none => .drop
  | .disconnect, some _ => .plain
  | .read _ _ _, _ | .write _ _ _ _ _, _ | .notify _ _ _, _ | .rssi, _ | .registerAgent, _
  | .pair, _ | .removeBond, _ => .plain

def Frame.role : Frame → Role
  | .call c answer => c.role answer
  | .commands _ | .properties _ => .plain

def Work.role : Work → Role
  | .command .connect => .probe
  | .command .disconnect => .drop
  | .change (.connected true) => .raise
  | .change (.connected false) => .lower
  | .change (.servicesResolved true) => .poll
  | .resume c r => c.role (some r)
  | .finish | .command _ | .change _ => .plain

/-- The part of the worker the link events depend on. -/
structure LinkState where
  busOpen : Bool
  discovered : Bool
  discovering : Bool
  handleMap : HandleMap

def Worker.link (w : Worker) : LinkState :=
  ⟨w.busOpen, w.discovered, w.discovering, w.handleMap⟩

/-- The link events among what was put out. -/
def linkEvents (outs : List Output) : List HostGattEvent :=
  (outs.filterMap Output.event?).filter (·.isLink)

/-- The result of a round is of no consequence to the link; it leaves the frames `new` behind. -/
structure Quiets (w : Worker) (new : List Frame) (r : Worker × List Output) : Prop where
  link : r.1.link = w.link
  stack : r.1.stack = new ++ w.stack
  silent : linkEvents r.2 = []

/-- Calls of no consequence to the link that have not been answered. -/
def PlainCalls (new : List Frame) : Prop := ∀ f ∈ new, ∃ c, f = .call c none ∧ c.role none = .plain

/-- Everything a round with a given role can do. -/
inductive Effect (w : Worker) : Role → Worker × List Output → Prop
  | quiet (new : List Frame) {r} (quiets : Quiets w new r) (calls : PlainCalls new) :
      Effect w .plain r
  | opening (closed : w.busOpen = false) : Effect w .probe (w.call .openBus, [])
  | opened : Effect w .probe ({ w with busOpen := true }.call .getConnected, [])
  | retried {c} (again : c.role none = .plain ∨ c.role none = .retry) :
      Effect w .retry (w.call c, [])
  | refused (notFound : Bool) : Effect w .refuse (w.connectFailed notFound)
  | raised : Effect w .raise (w.workerOnConnectedChanged true)
  | lowered : Effect w .lower (w.workerOnConnectedChanged false)
  | started : Effect w .poll w.tryStartDiscovery
  | walking (m : HandleMap) (reads : List (UInt16 × List UInt8)) {c} (walk : c.role none = .walk) :
      Effect w .walk ({ w with handleMap := m, syntheticReads := reads }.call c, [])
  | walkFailed {m} : Effect w .walk { w with handleMap := m }.walkFailed
  | treeWalked {m reads} (tree : List DiscoveredService) :
      Effect w .walk ({ w with handleMap := m, syntheticReads := reads }.treeWalked tree)
  | acquiring (tree : List DiscoveredService) (paths : List (List Char)) :
      Effect w .mtu (w.acquireMtu tree paths)
  | acquired (tree : List DiscoveredService) (mtu : UInt16) :
      Effect w .mtu (w.finishDiscovery tree mtu)
  | dropped : Effect w .drop w.doDisconnect

variable {w : Worker}

/-! ## Rounds of no consequence -/

theorem plainCalls_nil : PlainCalls [] := by simp [PlainCalls]

theorem plainCalls_call {c : Call} (plain : c.role none = .plain) : PlainCalls [.call c none] :=
  fun _ mem => ⟨c, List.mem_singleton.mp mem, plain⟩

theorem PlainCalls.calls {new : List Frame} (calls : PlainCalls new) :
    ∀ f ∈ new, ∃ c, f = .call c none := fun f mem => (calls f mem).imp fun _ => And.left

theorem PlainCalls.plain {new : List Frame} (calls : PlainCalls new) :
    ∀ f ∈ new, f.role = .plain := fun f mem => by
  obtain ⟨c, rfl, plain⟩ := calls f mem
  exact plain

theorem quiet_same {outs : List Output} (silent : linkEvents outs = []) :
    Effect w .plain (w, outs) :=
  .quiet [] ⟨rfl, rfl, silent⟩ plainCalls_nil

theorem quiet_call {c : Call} (plain : c.role none = .plain) : Effect w .plain (w.call c, []) :=
  .quiet [.call c none] ⟨rfl, rfl, rfl⟩ (plainCalls_call plain)

theorem quiet_post {ev : HostGattEvent} (other : ev.isLink = false) :
    Effect w .plain (w.post ev) :=
  quiet_same (by simp [linkEvents, Output.event?, other])

theorem readEvent_isLink (handle : UInt16) (isDesc : Bool) (status : Int) (data : List UInt8) :
    (Worker.readEvent handle isDesc status data).isLink = false := by
  cases isDesc <;> rfl

theorem writeEvent_isLink (handle : UInt16) (isDesc : Bool) (status : Int) :
    (Worker.writeEvent handle isDesc status).isLink = false := by
  cases isDesc <;> rfl

/-! ## Commands -/

theorem execute_effect (cmd : HostGattCommand) :
    Effect w (Work.command cmd).role (w.execute cmd) := by
  have read (handle : UInt16) (isDesc : Bool) : Effect w .plain (w.doRead handle isDesc) := by
    unfold Worker.doRead
    split
    · exact quiet_post rfl
    · split
      · exact quiet_post (readEvent_isLink ..)
      · exact quiet_call rfl
  have write (handle : UInt16) (data : List UInt8) (response isDesc : Bool) :
      Effect w .plain (w.doWrite handle data response isDesc) := by
    unfold Worker.doWrite
    split
    · exact quiet_post (writeEvent_isLink ..)
    · exact quiet_call rfl
  have answer (a : AgentAnswer) : Effect w .plain (w.answerAgent a) := by
    unfold Worker.answerAgent
    split
    · exact .quiet [] ⟨rfl, rfl, rfl⟩ plainCalls_nil
    · exact quiet_same rfl
  cases cmd with
  | connect =>
      show Effect w .probe (w.call (if w.busOpen then .getConnected else .openBus), [])
      cases isOpen : w.busOpen with
      | false => exact .opening isOpen
      | true =>
          have same : { w with busOpen := true } = w := by rw [← isOpen]
          have asked : Effect w .probe ({ w with busOpen := true }.call .getConnected, []) :=
            .opened
          rwa [same] at asked
  | disconnect => exact .dropped
  | readChar handle => exact read handle false
  | readDesc handle => exact read handle true
  | writeChar handle data response => exact write handle data response false
  | writeDesc handle data response => exact write handle data response true
  | setNotify handle enable =>
      show Effect w .plain (w.doSetNotify handle enable)
      unfold Worker.doSetNotify
      split
      · exact quiet_call rfl
      · exact quiet_post rfl
  | readRssi =>
      show Effect w .plain w.doReadRssi
      unfold Worker.doReadRssi
      split
      · exact quiet_call rfl
      · exact quiet_post rfl
  | pair =>
      show Effect w .plain w.doPair
      unfold Worker.doPair
      split
      · exact quiet_call (by split <;> rfl)
      · exact quiet_same rfl
  | passkeyReply | confirmReply => exact answer _
  | removeBond =>
      show Effect w .plain w.doRemoveBond
      unfold Worker.doRemoveBond
      split
      · exact quiet_call rfl
      · exact quiet_same rfl

theorem propertyChanged_effect (p : PropertyChange) :
    Effect w (Work.change p).role (w.propertyChanged p) := by
  cases p with
  | connected b =>
      cases b with
      | false => exact .lowered
      | true => exact .raised
  | servicesResolved b =>
      cases b with
      | false => exact quiet_same rfl
      | true => exact .started
  | other => exact quiet_same rfl

/-! ## Returning calls -/

/-- The GAP service is read, or the walk ends. -/
theorem synthesizeGapService_effect {m : HandleMap} (tree : List DiscoveredService) :
    Effect w .walk ({ w with handleMap := m }.synthesizeGapService tree) := by
  unfold Worker.synthesizeGapService
  dsimp only
  split
  · exact .treeWalked tree
  · exact .walking _ _ rfl

theorem walkObjects_effect (reply : List ManagedObject) :
    Effect w .walk (w.walkObjects reply) := by
  unfold Worker.walkObjects
  dsimp only
  split
  · exact synthesizeGapService_effect _
  · exact .walkFailed

theorem gapNamed_effect (tree : List DiscoveredService) (second : Bool) (s : List UInt8) :
    Effect w .walk (w.gapNamed tree second s) :=
  .walking w.handleMap w.syntheticReads (by split <;> rfl)

theorem gapFinished_effect (tree : List DiscoveredService) (name : List UInt8)
    (appearance : UInt16) : Effect w .walk (w.gapFinished tree name appearance) :=
  .treeWalked (m := w.handleMap) _

theorem walkFailed_effect : Effect w .walk w.walkFailed := .walkFailed (m := w.handleMap)

theorem connectReturned_effect (attempt : Nat) (r : Reply) :
    Effect w ((Call.connect attempt).role (some r)) (w.connectReturned attempt r) := by
  cases r with
  | error name message =>
      show Effect w (if _ then _ else _) (w.connectReturned attempt (.error name message))
      unfold Worker.connectReturned
      dsimp only
      split
      · exact .raised
      · split
        · exact .retried (.inl rfl)
        · exact .retried (.inr rfl)
  | _ => exact quiet_same rfl

theorem notifySet_effect (handle : UInt16) (enable : Bool) (path : List Char) :
    Effect w .plain
      ((w.notifySet handle enable path).post (.notifyRegistered handle ESP_GATT_OK)) := by
  have same : (w.notifySet handle enable path).link = w.link ∧
      (w.notifySet handle enable path).stack = w.stack := by
    unfold Worker.notifySet
    split
    · split <;> exact ⟨rfl, rfl⟩
    · exact ⟨rfl, rfl⟩
  exact .quiet [] ⟨same.1, same.2, rfl⟩ plainCalls_nil

theorem agentRegistered_effect :
    Effect w .plain ({ w with agentRegistered := true }.call .pair, []) :=
  .quiet [.call .pair none] ⟨rfl, rfl, rfl⟩ (plainCalls_call rfl)

theorem resume_effect (c : Call) (r : Reply) : Effect w (Work.resume c r).role (w.resume c r) := by
  cases c with
  | openBus =>
      cases r with
      | error => exact quiet_same rfl
      | _ => exact .opened
  | getConnected =>
      cases r with
      | bool b =>
          cases b with
          | false => exact quiet_call rfl
          | true => exact .raised
      | _ => exact quiet_call rfl
  | connect attempt => exact connectReturned_effect attempt r
  | recheckConnected notFound =>
      cases r with
      | bool b =>
          cases b with
          | false => exact .refused notFound
          | true => exact .raised
      | _ => exact .refused notFound
  | servicesResolved =>
      cases r with
      | bool b =>
          cases b with
          | false => exact quiet_same rfl
          | true => exact .started
      | _ => exact quiet_same rfl
  | managedObjects =>
      cases r with
      | objects reply => exact walkObjects_effect reply
      | _ => exact walkFailed_effect
  | gapName tree second => cases r <;> exact gapNamed_effect ..
  | gapAppearance tree name => cases r <;> exact gapFinished_effect ..
  | mtu tree path rest =>
      cases r with
      | uint16 v =>
          show Effect w .mtu (if v ≥ 23 then w.finishDiscovery tree v else w.acquireMtu tree rest)
          split
          · exact .acquired tree v
          · exact .acquiring tree rest
      | _ => exact .acquiring tree rest
  | disconnect | removeBond => exact quiet_same rfl
  | read handle isDesc => cases r <;> exact quiet_post (readEvent_isLink ..)
  | write handle _ _ isDesc => cases r <;> exact quiet_post (writeEvent_isLink ..)
  | notify handle enable path =>
      cases r with
      | error => exact quiet_post rfl
      | _ => exact notifySet_effect handle enable path
  | rssi => cases r <;> exact quiet_post rfl
  | registerAgent =>
      cases r with
      | error => exact quiet_call rfl
      | _ => exact agentRegistered_effect
  | pair =>
      cases r with
      | error => exact quiet_post rfl
      | _ => exact quiet_post rfl

/-- **Everything a round can do**, by its role. -/
theorem perform_effect (w : Worker) (work : Work) : Effect w work.role (w.perform work) := by
  cases work with
  | finish => exact quiet_same rfl
  | command cmd => exact execute_effect cmd
  | change p => exact propertyChanged_effect p
  | resume c r => exact resume_effect c r

/-! ## The stack -/

/-- A round leaves unanswered calls behind, on top of what was there. -/
theorem Effect.stack {role : Role} {r : Worker × List Output} (effect : Effect w role r) :
    ∃ new, r.1.stack = new ++ w.stack ∧ ∀ f ∈ new, ∃ c, f = .call c none := by
  have one {c : Call} : ∃ new, (w.call c).stack = new ++ w.stack ∧
      ∀ f ∈ new, ∃ c, f = .call c none :=
    ⟨[.call c none], rfl, fun _ mem => ⟨c, List.mem_singleton.mp mem⟩⟩
  have nothing : ∃ new, w.stack = new ++ w.stack ∧ ∀ f ∈ new, ∃ c, f = .call c none :=
    ⟨[], rfl, by simp⟩
  have acquire (w' : Worker) (same : w'.stack = w.stack) (tree : List DiscoveredService)
      (paths : List (List Char)) : ∃ new, (w'.acquireMtu tree paths).1.stack = new ++ w.stack ∧
        ∀ f ∈ new, ∃ c, f = .call c none := by
    rw [← same]
    cases paths with
    | nil => exact ⟨[], rfl, by simp⟩
    | cons path rest => exact ⟨[_], rfl, fun _ mem => ⟨_, List.mem_singleton.mp mem⟩⟩
  have disconnect {w' : Worker} (same : w'.stack = w.stack) :
      ∃ new, w'.doDisconnect.1.stack = new ++ w.stack ∧ ∀ f ∈ new, ∃ c, f = .call c none := by
    rw [← same]
    unfold Worker.doDisconnect
    split
    · exact ⟨[_], rfl, fun _ mem => ⟨_, List.mem_singleton.mp mem⟩⟩
    · exact ⟨[], rfl, by simp⟩
  cases effect with
  | quiet new quiets calls =>
      exact ⟨new, quiets.stack, calls.calls⟩
  | opening | opened | retried | walking => exact one
  | refused | lowered | acquired => exact nothing
  | raised =>
      show ∃ new, (if w.busOpen then w.call .servicesResolved else w).stack = new ++ w.stack ∧ _
      split
      · exact one
      · exact nothing
  | started =>
      unfold Worker.tryStartDiscovery
      split
      · exact nothing
      · dsimp only
        split
        · exact one
        · exact disconnect rfl
  | walkFailed => exact disconnect rfl
  | @treeWalked m reads tree =>
      exact acquire { w with handleMap := m, syntheticReads := reads, discovered := true } rfl tree
        m.characteristicPaths
  | acquiring tree paths => exact acquire w rfl tree paths
  | dropped => exact disconnect rfl

/-- The next round belongs to the innermost frame: it is the call that was answered, or an entry of
a loop that stays on the stack. -/
theorem nextWork_cases {stack rest : List Frame} {work : Work}
    (next : Worker.nextWork stack = some (work, rest)) :
    (∃ f, (f = .commands [] ∨ f = .properties []) ∧ stack = f :: rest ∧ work = .finish) ∨
      (∃ cmd cmds below, stack = .commands (cmd :: cmds) :: below ∧ rest = .commands cmds :: below ∧
        work = .command cmd) ∨
      (∃ p ps below, stack = .properties (p :: ps) :: below ∧ rest = .properties ps :: below ∧
        work = .change p) ∨
      ∃ c r, stack = .call c (some r) :: rest ∧ work = .resume c r := by
  match stack, next with
  | .commands [] :: below, next =>
      obtain ⟨rfl, rfl⟩ := Prod.mk.inj (Option.some.inj next)
      exact .inl ⟨_, .inl rfl, rfl, rfl⟩
  | .properties [] :: below, next =>
      obtain ⟨rfl, rfl⟩ := Prod.mk.inj (Option.some.inj next)
      exact .inl ⟨_, .inr rfl, rfl, rfl⟩
  | .commands (cmd :: cmds) :: below, next =>
      obtain ⟨rfl, rfl⟩ := Prod.mk.inj (Option.some.inj next)
      exact .inr (.inl ⟨cmd, cmds, below, rfl, rfl, rfl⟩)
  | .properties (p :: ps) :: below, next =>
      obtain ⟨rfl, rfl⟩ := Prod.mk.inj (Option.some.inj next)
      exact .inr (.inr (.inl ⟨p, ps, below, rfl, rfl, rfl⟩))
  | .call c (some r) :: below, next =>
      obtain ⟨rfl, rfl⟩ := Prod.mk.inj (Option.some.inj next)
      exact .inr (.inr (.inr ⟨c, r, rfl, rfl⟩))

/-! ## The commands that are left -/

def Frame.owed : Frame → List HostGattCommand
  | commands rest => rest
  | _ => []

/-- The commands a stack has still to execute. -/
def owedOf (stack : List Frame) : List HostGattCommand := stack.flatMap Frame.owed

/-- The command that is executed in a round. -/
def Work.commands : Work → List HostGattCommand
  | command cmd => [cmd]
  | _ => []

theorem owedOf_append (new stack : List Frame) :
    owedOf (new ++ stack) = owedOf new ++ owedOf stack := List.flatMap_append

theorem owedOf_calls {new : List Frame} (calls : ∀ f ∈ new, ∃ c, f = .call c none) :
    owedOf new = [] :=
  List.flatMap_eq_nil_iff.mpr fun f mem => by
    obtain ⟨c, rfl⟩ := calls f mem
    rfl

theorem owedOf_next {stack rest : List Frame} {work : Work}
    (next : Worker.nextWork stack = some (work, rest)) :
    owedOf stack = work.commands ++ owedOf rest := by
  rcases nextWork_cases next with ⟨f, rfl | rfl, rfl, rfl⟩ | ⟨cmd, cmds, below, rfl, rfl, rfl⟩ |
    ⟨p, ps, below, rfl, rfl, rfl⟩ | ⟨c, r, rfl, rfl⟩ <;> rfl

/-- A frame that is replaced, between the frames above and below it. -/
theorem split_of_frame {stack : List Frame} {depth : Nat} {f : Frame}
    (there : stack[depth]? = some f) :
    ∃ above below, stack = above ++ f :: below ∧
      ∀ g, stack.set depth g = above ++ g :: below := by
  obtain ⟨bound, found⟩ := List.getElem?_eq_some_iff.mp there
  refine ⟨stack.take depth, stack.drop (depth + 1), ?_, fun g => ?_⟩
  · rw [← found, List.getElem_cons_drop, List.take_append_drop]
  · rw [List.set_eq_take_append_cons_drop, if_pos bound]

/-- **Everything a step can do**: a round, an answer to a waiting call, a queue or a signal that is
handed over, or nothing to the link. -/
theorem workerStep_cases {l : WorkerLabel} {r : Worker × List Output}
    (step : workerStep w l = some r) :
    (∃ work rest, l = .advance ∧ Worker.nextWork w.stack = some (work, rest) ∧
        r = { w with stack := rest }.perform work) ∨
      (∃ depth c a, l = .answer depth a ∧ w.stack[depth]? = some (.call c none) ∧
        r = ({ w with stack := w.stack.set depth (.call c (some a)) }, [])) ∨
      (∃ cmds, l = .take cmds ∧ w.stack = [] ∧ r = ({ w with stack := [.commands cmds] }, [])) ∨
      (∃ changes, l = .signal changes ∧ w.pumping = true ∧ w.busOpen = true ∧
        r = ({ w with stack := .properties changes :: w.stack }, [])) ∨
      Quiets w [] r := by
  cases l with
  | advance =>
      obtain ⟨⟨work, rest⟩, next, rfl⟩ := Option.map_eq_some_iff.mp step
      exact .inl ⟨work, rest, rfl, next, rfl⟩
  | answer depth a =>
      obtain ⟨c, there, rfl⟩ := workerStep_answer step
      exact .inr (.inl ⟨depth, c, a, rfl, there, rfl⟩)
  | take cmds =>
      obtain ⟨idle, rfl⟩ := workerStep_take step
      exact .inr (.inr (.inl ⟨cmds, rfl, idle, rfl⟩))
  | signal changes =>
      obtain ⟨⟨pumping, isOpen⟩, done⟩ := Option.ite_none_right_eq_some.mp step
      obtain rfl := Option.some.inj done
      exact .inr (.inr (.inr (.inl ⟨changes, rfl, pumping, isOpen, rfl⟩)))
  | value path values =>
      obtain ⟨-, done⟩ := Option.ite_none_right_eq_some.mp step
      obtain rfl := Option.some.inj done
      refine .inr (.inr (.inr (.inr ⟨rfl, rfl, ?_⟩)))
      show linkEvents (w.valueChanged path values) = []
      unfold Worker.valueChanged linkEvents
      split
      · simp [Output.event?, HostGattEvent.isLink]
      · rfl
  | agentRequestPasskey | agentDisplayPasskey | agentRequestConfirmation =>
      obtain ⟨-, done⟩ := Option.ite_none_right_eq_some.mp step
      obtain rfl := Option.some.inj done
      exact .inr (.inr (.inr (.inr ⟨rfl, rfl, rfl⟩)))

end EsphomeHost

import EsphomeHost.Gatt.Effect

/-!
# What a step of the worker does about the attributes

A command that reads, writes or subscribes waits for at most one call.  Whatever else the worker
does, also on top of that call, leaves the subscriptions alone and posts none of their events.

* `inFlight`: the attribute calls on a stack; `OneAtATime`: there is at most one, and it was made
  by the loop over the commands.
* `Aloof`: what a round that is about no attribute leaves as it is.
* `workerStep_attributes`: **everything a step can do about the attributes**.
-/

namespace EsphomeHost

/-! ## What is about an attribute -/

/-- The calls a command about an attribute or the RSSI waits for. -/
def Call.isAttribute : Call → Bool
  | read _ _ _ | write _ _ _ _ _ | notify _ _ _ | rssi => true
  | _ => false

/-- The commands that are answered by an event of their own. -/
def HostGattCommand.isAttribute : HostGattCommand → Bool
  | readChar _ | readDesc _ | writeChar _ _ _ | writeDesc _ _ _ | setNotify _ _ | readRssi => true
  | _ => false

/-- The kinds of events that answer a command about an attribute or the RSSI. -/
def HostGattEvent.isResult : HostGattEvent → Bool
  | readComplete _ _ _ | descRead _ _ _ | writeComplete _ _ | descWrite _ _ | notifyRegistered _ _
  | rssi _ => true
  | _ => false

def HostGattEvent.isNotify : HostGattEvent → Bool
  | notify _ _ => true
  | _ => false

def Work.isAttribute : Work → Bool
  | command cmd => cmd.isAttribute
  | resume c _ => c.isAttribute
  | _ => false

/-- `synthesize_gap_service_` waits. -/
def Call.isGap : Call → Bool
  | gapName _ _ | gapAppearance _ _ => true
  | _ => false

/-- The round takes a `GetManagedObjects` reply or the end of the link to the routing map. -/
def Work.remaps : Work → Bool
  | change (.connected b) => !b
  | resume .managedObjects (.objects _) => true
  | _ => false

/-- The events about attributes among what was put out. -/
def attributeEvents (outs : List Output) : List HostGattEvent :=
  (outs.filterMap Output.event?).filter fun ev => ev.isResult || ev.isNotify

/-! ## The stack -/

def Frame.call? : Frame → Option Call
  | call c _ => some c
  | _ => none

def callsIn (stack : List Frame) : List Call := stack.filterMap Frame.call?

/-- The attribute calls that a function waits for. -/
def inFlight (stack : List Frame) : List Call := (callsIn stack).filter (·.isAttribute)

/-- `worker_process_commands` is entered from an idle worker only. -/
def CommandsLast : List Frame → Prop
  | [] => True
  | .commands _ :: below => below = []
  | _ :: below => CommandsLast below

/-- At most one attribute call is waited for, and by a command. -/
structure OneAtATime (stack : List Frame) : Prop where
  last : CommandsLast stack
  one : (inFlight stack).length ≤ 1

@[simp] theorem callsIn_nil : callsIn [] = [] := rfl

@[simp] theorem callsIn_call (c : Call) (answer : Option Reply) (stack : List Frame) :
    callsIn (.call c answer :: stack) = c :: callsIn stack := rfl

@[simp] theorem callsIn_commands (cmds : List HostGattCommand) (stack : List Frame) :
    callsIn (.commands cmds :: stack) = callsIn stack := rfl

@[simp] theorem callsIn_properties (ps : List PropertyChange) (stack : List Frame) :
    callsIn (.properties ps :: stack) = callsIn stack := rfl

theorem callsIn_append (new stack : List Frame) :
    callsIn (new ++ stack) = callsIn new ++ callsIn stack := List.filterMap_append

theorem callsIn_new (new : List Call) (stack : List Frame) :
    callsIn (new.map (Frame.call · none) ++ stack) = new ++ callsIn stack := by
  induction new with
  | nil => rfl
  | cons c new ih => exact congrArg (c :: ·) ih

theorem inFlight_new {new : List Call} (aloof : ∀ c ∈ new, c.isAttribute = false)
    (stack : List Frame) : inFlight (new.map (Frame.call · none) ++ stack) = inFlight stack := by
  have none : new.filter (·.isAttribute) = [] :=
    List.filter_eq_nil_iff.mpr fun c mem => by simp [aloof c mem]
  rw [inFlight, callsIn_new, List.filter_append, none]
  rfl

theorem commandsLast_new {new : List Call} {stack : List Frame} (last : CommandsLast stack) :
    CommandsLast (new.map (Frame.call · none) ++ stack) := by
  induction new with
  | nil => exact last
  | cons c new ih => exact ih

/-- A call that is answered stays where it is. -/
theorem callsIn_answered {stack : List Frame} {depth : Nat} {c : Call} {answer : Option Reply}
    (there : stack[depth]? = some (.call c answer)) (r : Option Reply) :
    callsIn (stack.set depth (.call c r)) = callsIn stack := by
  obtain ⟨above, below, rfl, replaced⟩ := split_of_frame there
  rw [replaced, callsIn_append, callsIn_append]
  rfl

theorem commandsLast_answered {stack : List Frame} {depth : Nat} {c : Call}
    {answer : Option Reply} (there : stack[depth]? = some (.call c answer)) (r : Option Reply)
    (last : CommandsLast stack) : CommandsLast (stack.set depth (.call c r)) := by
  induction stack generalizing depth with
  | nil => trivial
  | cons f stack ih =>
      cases depth with
      | zero =>
          obtain rfl := Option.some.inj there
          exact last
      | succ depth =>
          cases f with
          | commands cmds =>
              obtain rfl := last
              cases there
          | properties ps => exact ih there last
          | call c' answer' => exact ih there last

/-! ## Rounds about something else -/

/-- A round about no attribute, which leaves the routing map as it is. -/
structure Aloof (w : Worker) (r : Worker × List Output) : Prop where
  subs : r.1.notifySubs = w.notifySubs
  map : r.1.handleMap = w.handleMap
  discovered : w.discovered = true → r.1.discovered = true
  calls : ∃ new : List Call, r.1.stack = new.map (Frame.call · none) ++ w.stack ∧
    ∀ c ∈ new, c.isAttribute = false ∧ (c = .managedObjects → w.discovered = false)
  silent : attributeEvents r.2 = []

/-- A round only has to be aloof of a worker with the same subscriptions, map and stack. -/
theorem Aloof.same {w w' : Worker} {r : Worker × List Output} (aloof : Aloof w' r)
    (subs : w'.notifySubs = w.notifySubs) (map : w'.handleMap = w.handleMap)
    (discovered : w'.discovered = w.discovered) (stack : w'.stack = w.stack) : Aloof w r where
  subs := aloof.subs.trans subs
  map := aloof.map.trans map
  discovered known := aloof.discovered (discovered.trans known)
  calls := by
    rw [← stack, ← discovered]
    exact aloof.calls
  silent := aloof.silent

namespace Worker

variable {w : Worker}

theorem aloof_same {outs : List Output} (silent : attributeEvents outs = []) :
    Aloof w (w, outs) := ⟨rfl, rfl, id, ⟨[], rfl, by simp⟩, silent⟩

theorem aloof_call {c : Call} (other : c.isAttribute = false)
    (walk : c = .managedObjects → w.discovered = false) : Aloof w (w.call c, []) := by
  refine ⟨rfl, rfl, id, ⟨[c], rfl, ?_⟩, rfl⟩
  intro c' mem
  obtain rfl := List.mem_singleton.mp mem
  exact ⟨other, walk⟩

theorem aloof_post {ev : HostGattEvent} (other : (ev.isResult || ev.isNotify) = false) :
    Aloof w (w.post ev) := aloof_same (by simp [attributeEvents, Output.event?, other])

theorem aloof_doDisconnect : Aloof w w.doDisconnect := by
  unfold doDisconnect
  split
  · exact aloof_call rfl (by simp)
  · exact aloof_post rfl

theorem aloof_walkFailed : Aloof w w.walkFailed :=
  (aloof_doDisconnect (w := { w with discovering := false })).same rfl rfl rfl rfl

theorem aloof_tryStartDiscovery : Aloof w w.tryStartDiscovery := by
  unfold tryStartDiscovery
  split
  · exact aloof_same rfl
  · rename_i idle
    have undiscovered : w.discovered = false := by
      cases known : w.discovered with
      | false => rfl
      | true => exact absurd (.inl known) idle
    dsimp only
    split
    · exact (aloof_call (w := { w with discovering := true }) (c := .managedObjects) rfl
        fun _ => undiscovered).same rfl rfl rfl rfl
    · exact (aloof_walkFailed (w := { w with discovering := true })).same rfl rfl rfl rfl

/-- The device is found connected. -/
theorem aloof_connected : Aloof w (w.workerOnConnectedChanged true) := by
  unfold workerOnConnectedChanged
  cases w.busOpen with
  | false => exact aloof_same rfl
  | true => exact ⟨rfl, rfl, id, ⟨[.servicesResolved], rfl, by simp [Call.isAttribute]⟩, rfl⟩

theorem aloof_acquireMtu (tree : List DiscoveredService) (paths : List (List Char)) :
    Aloof w (w.acquireMtu tree paths) := by
  cases paths with
  | nil => exact ⟨rfl, rfl, id, ⟨[], rfl, by simp⟩, rfl⟩
  | cons path rest => exact aloof_call rfl (by simp)

theorem aloof_treeWalked (tree : List DiscoveredService) :
    Aloof w (w.treeWalked tree) := by
  obtain ⟨subs, map, discovered, ⟨new, stack, calls⟩, silent⟩ :=
    aloof_acquireMtu (w := { w with discovered := true }) tree w.handleMap.characteristicPaths
  refine ⟨subs, map, fun _ => discovered rfl, ⟨new, stack, fun c mem => ?_⟩, silent⟩
  obtain ⟨other, walk⟩ := calls c mem
  exact ⟨other, fun same => absurd (walk same) (by simp)⟩

theorem treeWalked_discovered (tree : List DiscoveredService) :
    (w.treeWalked tree).1.discovered = true :=
  (aloof_acquireMtu (w := { w with discovered := true }) tree _).discovered rfl

theorem aloof_synthesizeGapService (tree : List DiscoveredService) :
    Aloof w (w.synthesizeGapService tree) := by
  unfold synthesizeGapService
  dsimp only
  split
  · exact (aloof_treeWalked (w := { w with syntheticReads := [] }) tree).same rfl rfl rfl rfl
  · exact ⟨rfl, rfl, id, ⟨[.gapName tree false], rfl, by simp [Call.isAttribute]⟩, rfl⟩

theorem aloof_walkObjects (reply : List ManagedObject) :
    Aloof { w with handleMap := (linkServices (gattObjects w.devicePath reply)
      (gattObjects w.devicePath reply) []).1 } (w.walkObjects reply) := by
  unfold walkObjects
  dsimp only
  split
  · rename_i m tree linked
    rw [linked]
    exact aloof_synthesizeGapService tree
  · rename_i m failed
    rw [failed]
    exact aloof_walkFailed

/-- A walk that links the tree has ended, or reads the GAP service. -/
theorem walkObjects_linked {reply : List ManagedObject} {m : HandleMap}
    {tree : List DiscoveredService}
    (linked : linkServices (gattObjects w.devicePath reply) (gattObjects w.devicePath reply) [] =
      (m, some tree)) :
    (w.walkObjects reply).1.discovered = true ∨
      ∃ c ∈ callsIn (w.walkObjects reply).1.stack, c.isGap = true := by
  unfold walkObjects
  dsimp only
  rw [linked]
  dsimp only
  unfold synthesizeGapService
  dsimp only
  split
  · exact .inl (treeWalked_discovered (w := { w with handleMap := m, syntheticReads := [] }) tree)
  · exact .inr ⟨.gapName tree false, List.mem_cons_self, rfl⟩

theorem gap_resume {c : Call} (gap : c.isGap = true) (r : Reply) :
    (w.resume c r).1.discovered = true ∨
      ∃ c' ∈ callsIn (w.resume c r).1.stack, c'.isGap = true := by
  cases c with
  | gapName tree second =>
      have asked (s : List UInt8) : (w.gapNamed tree second s).1.discovered = true ∨
          ∃ c' ∈ callsIn (w.gapNamed tree second s).1.stack, c'.isGap = true := by
        refine .inr ⟨_, List.mem_cons_self, ?_⟩
        split <;> rfl
      cases r <;> exact asked _
  | gapAppearance tree name =>
      have ended (v : UInt16) : (w.gapFinished tree name v).1.discovered = true :=
        treeWalked_discovered (w := { w with syntheticReads := gapReads name v }) _
      cases r <;> exact .inl (ended _)
  | _ => cases gap

theorem aloof_connectReturned (attempt : Nat) (r : Reply) :
    Aloof w (w.connectReturned attempt r) := by
  cases r with
  | error name message =>
      unfold connectReturned
      dsimp only
      split
      · exact aloof_connected
      · split <;> exact aloof_call rfl (by simp)
  | _ => exact aloof_same rfl

theorem aloof_execute {cmd : HostGattCommand} (other : cmd.isAttribute = false) :
    Aloof w (w.execute cmd) := by
  have answer (a : AgentAnswer) : Aloof w (w.answerAgent a) := by
    unfold answerAgent
    split
    · exact ⟨rfl, rfl, id, ⟨[], rfl, by simp⟩, rfl⟩
    · exact aloof_same rfl
  cases cmd with
  | readChar | readDesc | writeChar | writeDesc | setNotify | readRssi => cases other
  | connect => exact aloof_call (by split <;> rfl) (by split <;> simp)
  | disconnect => exact aloof_doDisconnect
  | pair =>
      show Aloof w w.doPair
      unfold doPair
      split
      · exact aloof_call (by split <;> rfl) (by split <;> simp)
      · exact aloof_same rfl
  | passkeyReply | confirmReply => exact answer _
  | removeBond =>
      show Aloof w w.doRemoveBond
      unfold doRemoveBond
      split
      · exact aloof_call rfl (by simp)
      · exact aloof_same rfl

theorem aloof_resume {c : Call} (other : c.isAttribute = false) (r : Reply)
    (keeps : (Work.resume c r).remaps = false) : Aloof w (w.resume c r) := by
  cases c with
  | read | write | notify | rssi => cases other
  | openBus =>
      cases r with
      | error => exact aloof_same rfl
      | _ => exact ⟨rfl, rfl, id, ⟨[.getConnected], rfl, by simp [Call.isAttribute]⟩, rfl⟩
  | getConnected =>
      cases r with
      | bool b =>
          cases b with
          | false => exact aloof_call rfl (by simp)
          | true => exact aloof_connected
      | _ => exact aloof_call rfl (by simp)
  | connect attempt => exact aloof_connectReturned attempt r
  | recheckConnected notFound =>
      cases r with
      | bool b =>
          cases b with
          | false => exact aloof_post rfl
          | true => exact aloof_connected
      | _ => exact aloof_post rfl
  | servicesResolved =>
      cases r with
      | bool b =>
          cases b with
          | false => exact aloof_same rfl
          | true => exact aloof_tryStartDiscovery
      | _ => exact aloof_same rfl
  | managedObjects =>
      cases r with
      | objects reply => cases keeps
      | _ => exact aloof_walkFailed
  | gapName tree second =>
      have asked (s : List UInt8) : Aloof w (w.gapNamed tree second s) :=
        aloof_call (by split <;> rfl) (by split <;> simp)
      cases r <;> exact asked _
  | gapAppearance tree name =>
      have ended (v : UInt16) : Aloof w (w.gapFinished tree name v) :=
        (aloof_treeWalked (w := { w with syntheticReads := gapReads name v })
          (tree ++ [gapService])).same rfl rfl rfl rfl
      cases r <;> exact ended _
  | mtu tree path rest =>
      cases r with
      | uint16 v =>
          show Aloof w (if v ≥ 23 then w.finishDiscovery tree v else w.acquireMtu tree rest)
          split
          · exact ⟨rfl, rfl, id, ⟨[], rfl, by simp⟩, rfl⟩
          · exact aloof_acquireMtu tree rest
      | _ => exact aloof_acquireMtu tree rest
  | disconnect | removeBond => exact aloof_same rfl
  | registerAgent =>
      cases r with
      | error => exact aloof_call rfl (by simp)
      | _ => exact ⟨rfl, rfl, id, ⟨[.pair], rfl, by simp [Call.isAttribute]⟩, rfl⟩
  | pair => cases r <;> exact aloof_post rfl

/-- **A round about no attribute** that leaves the routing map alone leaves the subscriptions alone
too. -/
theorem aloof_perform {work : Work} (other : work.isAttribute = false)
    (keeps : work.remaps = false) : Aloof w (w.perform work) := by
  cases work with
  | finish => exact aloof_same rfl
  | command cmd => exact aloof_execute other
  | change p =>
      cases p with
      | connected b =>
          cases b with
          | false => cases keeps
          | true => exact aloof_connected
      | servicesResolved b =>
          cases b with
          | false => exact aloof_same rfl
          | true => exact aloof_tryStartDiscovery
      | other => exact aloof_same rfl
  | resume c r => exact aloof_resume other r keeps

end Worker

/-! ## Steps -/

/-- The call a round takes up. -/
def Work.calls : Work → List Call
  | resume c _ => [c]
  | _ => []

/-- The attribute commands a stack has still to execute. -/
def attributesOwed (stack : List Frame) : List HostGattCommand :=
  (owedOf stack).filter (·.isAttribute)

theorem callsIn_next {stack rest : List Frame} {work : Work}
    (next : Worker.nextWork stack = some (work, rest)) :
    callsIn stack = work.calls ++ callsIn rest := by
  rcases nextWork_cases next with ⟨f, rfl | rfl, rfl, rfl⟩ | ⟨cmd, cmds, below, rfl, rfl, rfl⟩ |
    ⟨p, ps, below, rfl, rfl, rfl⟩ | ⟨c, r, rfl, rfl⟩ <;> rfl

theorem commandsLast_next {stack rest : List Frame} {work : Work}
    (next : Worker.nextWork stack = some (work, rest)) (last : CommandsLast stack) :
    CommandsLast rest := by
  rcases nextWork_cases next with ⟨f, rfl | rfl, rfl, rfl⟩ | ⟨cmd, cmds, below, rfl, rfl, rfl⟩ |
    ⟨p, ps, below, rfl, rfl, rfl⟩ | ⟨c, r, rfl, rfl⟩
  · obtain rfl := last
    trivial
  · exact last
  · exact last
  · exact last
  · exact last

theorem attributesOwed_new (new : List Call) (stack : List Frame) :
    attributesOwed (new.map (Frame.call · none) ++ stack) = attributesOwed stack := by
  rw [attributesOwed, owedOf_append, owedOf_calls (by simp)]
  rfl

/-- A step that is about no attribute and leaves the routing map as it is. -/
structure Aside (w : Worker) (r : Worker × List Output) : Prop where
  subs : r.1.notifySubs = w.notifySubs
  map : r.1.handleMap = w.handleMap
  discovered : w.discovered = true → r.1.discovered = true
  inFlight : inFlight r.1.stack = inFlight w.stack
  owed : attributesOwed r.1.stack = attributesOwed w.stack
  walks : .managedObjects ∈ callsIn r.1.stack →
    .managedObjects ∈ callsIn w.stack ∨ w.discovered = false
  gaps : (∃ c ∈ callsIn w.stack, c.isGap = true) →
    r.1.discovered = true ∨ ∃ c ∈ callsIn r.1.stack, c.isGap = true
  silent : attributeEvents r.2 = []

/-- The round a step performs. -/
def Worker.workOf (w : Worker) : WorkerLabel → Option Work
  | .advance => (nextWork w.stack).map (·.1)
  | _ => none

/-- What a step does about the attributes. -/
inductive AttributeMove (w : Worker) : WorkerLabel → Worker × List Output → Prop
  /-- Commands are handed over. -/
  | took (cmds : List HostGattCommand) (idle : w.stack = []) :
      AttributeMove w (.take cmds) ({ w with stack := [.commands cmds] }, [])
  /-- An attribute command is begun. -/
  | begun (cmd : HostGattCommand) (cmds : List HostGattCommand) (about : cmd.isAttribute = true)
      (stack : w.stack = [.commands (cmd :: cmds)]) :
      AttributeMove w .advance ({ w with stack := [.commands cmds] }.execute cmd)
  /-- An attribute call is taken up. -/
  | ended (c : Call) (r : Reply) (rest : List Frame) (about : c.isAttribute = true)
      (stack : w.stack = .call c (some r) :: rest) :
      AttributeMove w .advance ({ w with stack := rest }.resume c r)
  /-- The link is found down. -/
  | lowered (ps : List PropertyChange) (below : List Frame)
      (stack : w.stack = .properties (.connected false :: ps) :: below) :
      AttributeMove w .advance
        ({ w with stack := .properties ps :: below }.workerOnConnectedChanged false)
  /-- The objects are linked. -/
  | walked (reply : List ManagedObject) (rest : List Frame)
      (stack : w.stack = .call .managedObjects (some (.objects reply)) :: rest) :
      AttributeMove w .advance ({ w with stack := rest }.walkObjects reply)
  /-- A characteristic's value is signalled. -/
  | signalled (path : List Char) (values : List (List UInt8)) :
      AttributeMove w (.value path values) (w, w.valueChanged path values)
  | aside {l : WorkerLabel} {r : Worker × List Output} (last : CommandsLast r.1.stack)
      (given : ∀ cmds, l ≠ .take cmds)
      (other : ∀ work ∈ w.workOf l, work.isAttribute = false ∧ work.remaps = false)
      (aside : Aside w r) : AttributeMove w l r

variable {w : Worker}

/-- A round about something else. -/
theorem aside_perform {work : Work} {rest : List Frame}
    (next : Worker.nextWork w.stack = some (work, rest)) (other : work.isAttribute = false)
    (keeps : work.remaps = false) : Aside w ({ w with stack := rest }.perform work) := by
  obtain ⟨subs, map, discovered, ⟨new, stack, calls⟩, silent⟩ :=
    Worker.aloof_perform (w := { w with stack := rest }) other keeps
  have before : callsIn w.stack = work.calls ++ callsIn rest := callsIn_next next
  have stack : ({ w with stack := rest }.perform work).1.stack =
      new.map (Frame.call · none) ++ rest := stack
  refine ⟨subs, map, discovered, ?_, ?_, ?_, ?_, silent⟩
  · rw [stack, inFlight_new fun c mem => (calls c mem).1, inFlight, inFlight, before]
    cases work with
    | resume c r =>
        have apart : c.isAttribute = false := other
        exact (List.filter_cons_of_neg (by simp [apart])).symm
    | _ => rfl
  · rw [stack, attributesOwed_new, attributesOwed, attributesOwed, owedOf_next next]
    cases work with
    | command cmd =>
        have apart : cmd.isAttribute = false := other
        exact (List.filter_cons_of_neg (by simp [apart])).symm
    | _ => rfl
  · intro walks
    rw [stack, callsIn_new] at walks
    rcases List.mem_append.mp walks with fresh | old
    · exact .inr ((calls _ fresh).2 rfl)
    · rw [before]
      exact .inl (List.mem_append_right _ old)
  · rintro ⟨c, mem, gap⟩
    rw [before] at mem
    rcases List.mem_append.mp mem with now | later
    · cases work with
      | resume c' r =>
          obtain rfl := List.mem_singleton.mp now
          exact Worker.gap_resume gap r
      | _ => cases now
    · rw [stack, callsIn_new]
      exact .inr ⟨c, List.mem_append_right _ later, gap⟩

/-- A step that leaves the worker's calls and commands as they are. -/
theorem aside_same {r : Worker × List Output} (subs : r.1.notifySubs = w.notifySubs)
    (map : r.1.handleMap = w.handleMap) (discovered : r.1.discovered = w.discovered)
    (calls : callsIn r.1.stack = callsIn w.stack) (owed : owedOf r.1.stack = owedOf w.stack)
    (silent : attributeEvents r.2 = []) : Aside w r where
  subs := subs
  map := map
  discovered known := discovered.trans known
  inFlight := by rw [inFlight, inFlight, calls]
  owed := by rw [attributesOwed, attributesOwed, owed]
  walks := by
    rw [calls]
    exact .inl
  gaps := by
    rw [calls]
    exact .inr
  silent := silent

/-- **Everything a step can do about the attributes.** -/
theorem workerStep_attributes {l : WorkerLabel} {r : Worker × List Output}
    (last : CommandsLast w.stack) (step : workerStep w l = some r) : AttributeMove w l r := by
  cases l with
  | advance =>
      obtain ⟨⟨work, rest⟩, next, rfl⟩ := Option.map_eq_some_iff.mp step
      have restLast := commandsLast_next next last
      by_cases about : work.isAttribute = true
      · rcases nextWork_cases next with ⟨f, rfl | rfl, -, rfl⟩ |
          ⟨cmd, cmds, below, stack, rfl, rfl⟩ | ⟨p, ps, below, -, rfl, rfl⟩ | ⟨c, r, stack, rfl⟩
        · cases about
        · cases about
        · rw [stack] at last
          obtain rfl := last
          exact .begun cmd cmds about stack
        · cases about
        · exact .ended c r rest about stack
      · have other : work.isAttribute = false := by simpa using about
        by_cases remaps : work.remaps = true
        · rcases nextWork_cases next with ⟨f, rfl | rfl, -, rfl⟩ |
            ⟨cmd, cmds, below, -, rfl, rfl⟩ | ⟨p, ps, below, stack, rfl, rfl⟩ | ⟨c, r, stack, rfl⟩
          · cases remaps
          · cases remaps
          · cases remaps
          · cases p with
            | connected b =>
                cases b with
                | false => exact .lowered ps below stack
                | true => cases remaps
            | _ => cases remaps
          · cases c with
            | managedObjects =>
                cases r with
                | objects reply => exact .walked reply rest stack
                | _ => cases remaps
            | _ => cases remaps
        · have keeps : work.remaps = false := by simpa using remaps
          refine .aside ?_ (by simp) ?_ (aside_perform next other keeps)
          · obtain ⟨new, stack, -⟩ :=
              (Worker.aloof_perform (w := { w with stack := rest }) other keeps).calls
            show CommandsLast ({ w with stack := rest }.perform work).1.stack
            rw [stack]
            exact commandsLast_new restLast
          · intro work' performed
            rw [Worker.workOf, next] at performed
            obtain rfl := Option.some.inj performed
            exact ⟨other, keeps⟩
  | answer depth a =>
      obtain ⟨c, there, rfl⟩ := workerStep_answer step
      refine .aside (commandsLast_answered there _ last) (by simp) (by simp [Worker.workOf])
        (aside_same rfl rfl rfl (callsIn_answered there _) ?_ rfl)
      obtain ⟨above, below, before, replaced⟩ := split_of_frame there
      show owedOf (w.stack.set depth _) = owedOf w.stack
      rw [replaced, before, owedOf_append, owedOf_append]
      rfl
  | take cmds =>
      obtain ⟨idle, rfl⟩ := workerStep_take step
      exact .took cmds idle
  | signal changes =>
      obtain ⟨-, done⟩ := Option.ite_none_right_eq_some.mp step
      obtain rfl := Option.some.inj done
      exact .aside last (by simp) (by simp [Worker.workOf])
        (aside_same rfl rfl rfl rfl rfl rfl)
  | value path values =>
      obtain ⟨-, done⟩ := Option.ite_none_right_eq_some.mp step
      obtain rfl := Option.some.inj done
      exact .signalled path values
  | agentRequestPasskey | agentDisplayPasskey | agentRequestConfirmation =>
      obtain ⟨-, done⟩ := Option.ite_none_right_eq_some.mp step
      obtain rfl := Option.some.inj done
      exact .aside last (by simp) (by simp [Worker.workOf])
        (aside_same rfl rfl rfl rfl rfl rfl)

/-! ## One call at a time -/

/-- `StartNotify` or `StopNotify` is called only for a `SET_NOTIFY`, on the characteristic its
handle leads to. -/
def Worker.Routes (w : Worker) (cmd : HostGattCommand) (c : Call) : Prop :=
  ∀ handle enable path, c = .notify handle enable path →
    cmd = .setNotify handle enable ∧
      ∃ parent, w.handleMap.lookup handle = some ⟨path, .characteristic, parent⟩

theorem routes_other {cmd : HostGattCommand} {c : Call}
    (other : ∀ handle enable path, c ≠ .notify handle enable path) : w.Routes cmd c :=
  fun handle enable path same => absurd same (other handle enable path)

/-- An attribute command is answered at once, or makes its call. -/
theorem execute_attribute {cmd : HostGattCommand} (about : cmd.isAttribute = true) :
    (∃ ev, ev.isResult = true ∧ w.execute cmd = w.post ev) ∨
      ∃ c, c.isAttribute = true ∧ w.Routes cmd c ∧ w.execute cmd = (w.call c, []) := by
  have read (handle : UInt16) (isDesc : Bool) :
      (∃ ev, ev.isResult = true ∧ w.doRead handle isDesc = w.post ev) ∨
        ∃ c, c.isAttribute = true ∧ w.Routes cmd c ∧
          w.doRead handle isDesc = (w.call c, []) := by
    unfold Worker.doRead
    split
    · exact .inl ⟨_, rfl, rfl⟩
    · split
      · exact .inl ⟨_, by cases isDesc <;> rfl, rfl⟩
      · exact .inr ⟨.read _ _ _, rfl, routes_other (by simp), rfl⟩
  have write (handle : UInt16) (data : List UInt8) (response isDesc : Bool) :
      (∃ ev, ev.isResult = true ∧ w.doWrite handle data response isDesc = w.post ev) ∨
        ∃ c, c.isAttribute = true ∧ w.Routes cmd c ∧
          w.doWrite handle data response isDesc = (w.call c, []) := by
    unfold Worker.doWrite
    split
    · exact .inl ⟨_, by cases isDesc <;> rfl, rfl⟩
    · exact .inr ⟨.write _ _ _ _ _, rfl, routes_other (by simp), rfl⟩
  cases cmd with
  | readChar handle => exact read handle false
  | readDesc handle => exact read handle true
  | writeChar handle data response => exact write handle data response false
  | writeDesc handle data response => exact write handle data response true
  | setNotify handle enable =>
      show (∃ ev, _ ∧ w.doSetNotify handle enable = _) ∨
        ∃ c, _ ∧ _ ∧ w.doSetNotify handle enable = _
      unfold Worker.doSetNotify
      split
      · rename_i path parent found
        refine .inr ⟨_, rfl, ?_, rfl⟩
        intro handle' enable' path' same
        obtain ⟨rfl, rfl, rfl⟩ := Call.notify.inj same
        exact ⟨rfl, parent, found⟩
      · exact .inl ⟨_, rfl, rfl⟩
  | readRssi =>
      show (∃ ev, _ ∧ w.doReadRssi = _) ∨ ∃ c, _ ∧ _ ∧ w.doReadRssi = _
      unfold Worker.doReadRssi
      split
      · exact .inr ⟨.rssi, rfl, routes_other (by simp), rfl⟩
      · exact .inl ⟨_, rfl, rfl⟩
  | _ => cases about

/-- `notify_subs_` once notifications of the characteristic are enabled or disabled. -/
def subsSet (subs : List (List Char × UInt16)) (handle : UInt16) (enable : Bool)
    (path : List Char) : List (List Char × UInt16) :=
  if enable then if (subs.lookup path).isSome then subs else subs ++ [(path, handle)]
  else subs.filter (·.1 ≠ path)

/-- `notify_subs_` after an attribute call. -/
def subsAfter (subs : List (List Char × UInt16)) : Call → Reply → List (List Char × UInt16)
  | .notify _ _ _, .error _ _ => subs
  | .notify handle enable path, _ => subsSet subs handle enable path
  | _, _ => subs

theorem notifySet_eq (handle : UInt16) (enable : Bool) (path : List Char) :
    w.notifySet handle enable path =
      { w with notifySubs := subsSet w.notifySubs handle enable path } := by
  unfold Worker.notifySet subsSet
  split
  · split <;> rfl
  · rfl

/-- An attribute call that is taken up is answered by one event. -/
theorem resume_attribute {c : Call} (about : c.isAttribute = true) (r : Reply) :
    ∃ ev, ev.isResult = true ∧
      w.resume c r = { w with notifySubs := subsAfter w.notifySubs c r }.post ev := by
  cases c with
  | read handle isDesc | write handle data response isDesc =>
      cases r <;> exact ⟨_, by cases isDesc <;> rfl, rfl⟩
  | notify handle enable path =>
      cases r with
      | error => exact ⟨_, rfl, rfl⟩
      | _ => exact ⟨_, rfl, congrArg (Worker.post · _) (notifySet_eq handle enable path)⟩
  | rssi => cases r <;> exact ⟨_, rfl, rfl⟩
  | _ => cases about

/-- Nothing is waited for once the one attribute call is taken up. -/
theorem OneAtATime.alone {c : Call} {answer : Option Reply} {below : List Frame}
    (one : OneAtATime (.call c answer :: below)) (about : c.isAttribute = true) :
    inFlight below = [] := by
  have bound : ((c :: callsIn below).filter (·.isAttribute)).length ≤ 1 := one.one
  rw [List.filter_cons_of_pos about] at bound
  exact List.length_eq_zero_iff.mp (Nat.le_zero.mp (Nat.le_of_succ_le_succ bound))

/-- **At most one attribute call is waited for**, whatever is handled on top of it. -/
theorem OneAtATime.step {l : WorkerLabel} {r : Worker × List Output}
    (one : OneAtATime w.stack) (move : AttributeMove w l r) : OneAtATime r.1.stack := by
  cases move with
  | took cmds idle => exact ⟨rfl, Nat.zero_le _⟩
  | begun cmd cmds about stack =>
      rcases execute_attribute (w := { w with stack := [.commands cmds] }) about with
        ⟨ev, -, done⟩ | ⟨c, about, -, called⟩
      · rw [done]
        exact ⟨rfl, Nat.zero_le _⟩
      · rw [called]
        refine ⟨rfl, ?_⟩
        show ([c].filter (·.isAttribute)).length ≤ 1
        exact List.length_filter_le _ _
  | ended c r rest about stack =>
      rw [stack] at one
      obtain ⟨ev, -, done⟩ := resume_attribute (w := { w with stack := rest }) about r
      rw [done]
      refine ⟨one.last, ?_⟩
      show (inFlight rest).length ≤ 1
      rw [one.alone about]
      exact Nat.zero_le _
  | lowered ps below stack =>
      rw [stack] at one
      exact ⟨one.last, one.one⟩
  | walked reply rest stack =>
      rw [stack] at one
      obtain ⟨new, after, calls⟩ := (Worker.aloof_walkObjects (w := { w with stack := rest })
        reply).calls
      rw [after]
      refine ⟨commandsLast_new one.last, ?_⟩
      rw [inFlight_new fun c mem => (calls c mem).1]
      exact one.one
  | signalled path values => exact one
  | aside last given other aside => exact ⟨last, aside.inFlight ▸ one.one⟩

end EsphomeHost

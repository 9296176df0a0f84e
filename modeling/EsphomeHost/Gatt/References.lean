import EsphomeHost.Gatt.Attributes

/-!
# References into `handle_map_`

`do_set_notify_` holds a reference to the path of its entry over `StartNotify` or `StopNotify`, and
uses it once the call has succeeded; the loop of `acquire_mtu_` goes on from the entry whose `MTU`
it has asked for.  A `Call` carries the path, and the paths that are left, as values.

* `Call.refersInto`: what a call carries is what its entry has.
* `outlivedAfter`: the frames that have outlived their entries, because they were on the stack when
  the map was cleared.
* `dangles`: such a function goes back to its entry.  From there on the code is undefined.
* `Refer.step`: **until then a call that has not outlived its entry carries what the entry has**.
-/

namespace EsphomeHost

/-! ## References -/

/-- What the call carries is what is found in the map. -/
def Call.refersInto (m : HandleMap) : Call → Prop
  | notify handle _ path => ∃ parent, m.lookup handle = some ⟨path, .characteristic, parent⟩
  | mtu _ path rest => path :: rest <:+ m.characteristicPaths
  | _ => True

/-- The function goes back to the entry whose object it has called. -/
def Call.looksBack : Call → Reply → Bool
  | notify _ _ _, .error _ _ => false
  | notify _ _ _, _ => true
  | mtu _ _ _, .uint16 v => v < 23
  | mtu _ _ _, _ => true
  | _, _ => false

def Frame.refersInto (m : HandleMap) : Frame → Prop
  | call c _ => c.refersInto m
  | _ => True

/-- The frames refer into the map, but for the lowest ones, which have outlived their entries. -/
def Refer (m : HandleMap) (outlived : Nat) : List Frame → Prop
  | [] => True
  | f :: below => (outlived ≤ below.length → f.refersInto m) ∧ Refer m outlived below

namespace Worker

variable (w : Worker)

/-- How many frames have outlived their entries, counted from the bottom. -/
def outlivedAfter (outlived : Nat) : WorkerLabel → Nat
  | .advance =>
      match nextWork w.stack with
      | some (work, rest) => if work.remaps then rest.length else min outlived rest.length
      | none => outlived
  | _ => outlived

/-- A function goes back to an entry that it has outlived. -/
def dangles (outlived : Nat) : WorkerLabel → Bool
  | .advance =>
      match nextWork w.stack with
      | some (.resume c r, rest) => c.looksBack r && rest.length < outlived
      | _ => false
  | _ => false

end Worker

/-! ## The stack -/

variable {m : HandleMap} {outlived : Nat}

/-- Frames that have all outlived the map refer into whatever there is. -/
theorem refer_of_outlived {stack : List Frame} (all : stack.length ≤ outlived) :
    Refer m outlived stack := by
  induction stack with
  | nil => trivial
  | cons f below ih =>
      rw [List.length_cons] at all
      exact ⟨fun live => absurd live (by omega), ih (by omega)⟩

theorem Refer.min {stack : List Frame} {height : Nat} (refer : Refer m outlived stack)
    (within : stack.length ≤ height) : Refer m (min outlived height) stack := by
  induction stack with
  | nil => trivial
  | cons f below ih =>
      rw [List.length_cons] at within
      exact ⟨fun live => refer.1 (by omega), ih refer.2 (by omega)⟩

theorem Refer.new {new : List Call} {stack : List Frame} (refer : Refer m outlived stack)
    (calls : ∀ c ∈ new, c.refersInto m) :
    Refer m outlived (new.map (Frame.call · none) ++ stack) := by
  induction new with
  | nil => exact refer
  | cons c new ih =>
      rcases List.forall_mem_cons.mp calls with ⟨first, others⟩
      exact ⟨fun _ => first, ih others⟩

theorem Refer.answered {stack : List Frame} {depth : Nat} {c : Call} {answer : Option Reply}
    (refer : Refer m outlived stack) (there : stack[depth]? = some (.call c answer))
    (r : Option Reply) : Refer m outlived (stack.set depth (.call c r)) := by
  induction stack generalizing depth with
  | nil => trivial
  | cons f below ih =>
      cases depth with
      | zero =>
          obtain rfl := Option.some.inj there
          exact refer
      | succ depth =>
          refine ⟨fun live => refer.1 ?_, ih refer.2 there⟩
          rwa [List.length_set] at live

/-- The rest of the stack, once a round has been taken from it. -/
theorem Refer.next {stack rest : List Frame} {work : Work} (refer : Refer m outlived stack)
    (next : Worker.nextWork stack = some (work, rest)) : Refer m outlived rest := by
  rcases nextWork_cases next with ⟨f, rfl | rfl, rfl, rfl⟩ | ⟨cmd, cmds, below, rfl, rfl, rfl⟩ |
    ⟨p, ps, below, rfl, rfl, rfl⟩ | ⟨c, r, rfl, rfl⟩
  · exact refer.2
  · exact refer.2
  · exact ⟨fun _ => trivial, refer.2⟩
  · exact ⟨fun _ => trivial, refer.2⟩
  · exact refer.2

/-! ## Rounds -/

/-- The round leaves calls behind that refer into the map there is afterwards. -/
def Pushes (w : Worker) (r : Worker × List Output) : Prop :=
  ∃ new : List Call, r.1.stack = new.map (Frame.call · none) ++ w.stack ∧
    ∀ c ∈ new, c.refersInto r.1.handleMap

namespace Worker

variable {w : Worker}

theorem pushes_none {r : Worker × List Output} (same : r.1.stack = w.stack) : Pushes w r :=
  ⟨[], same, by simp⟩

theorem pushes_call {w' : Worker} {c : Call} {outs : List Output} (same : w'.stack = w.stack)
    (refers : c.refersInto w'.handleMap) : Pushes w (w'.call c, outs) := by
  refine ⟨[c], congrArg (Frame.call c none :: ·) same, fun c' mem => ?_⟩
  obtain rfl := List.mem_singleton.mp mem
  exact refers

theorem pushes_doDisconnect {w' : Worker} (same : w'.stack = w.stack) :
    Pushes w w'.doDisconnect := by
  unfold doDisconnect
  split
  · exact pushes_call same trivial
  · exact pushes_none same

theorem pushes_tryStartDiscovery : Pushes w w.tryStartDiscovery := by
  unfold tryStartDiscovery
  split
  · exact pushes_none rfl
  · dsimp only
    split
    · exact pushes_call rfl trivial
    · exact pushes_doDisconnect rfl

theorem pushes_workerOnConnectedChanged (b : Bool) : Pushes w (w.workerOnConnectedChanged b) := by
  cases b with
  | false => exact pushes_none rfl
  | true =>
      unfold workerOnConnectedChanged
      cases w.busOpen with
      | false => exact pushes_none rfl
      | true => exact pushes_call (c := .servicesResolved) rfl trivial

/-- `acquire_mtu_` goes on with the characteristics it has not asked for yet. -/
theorem pushes_acquireMtu {w' : Worker} (same : w'.stack = w.stack)
    (tree : List DiscoveredService) {paths : List (List Char)}
    (left : paths <:+ w'.handleMap.characteristicPaths) : Pushes w (w'.acquireMtu tree paths) := by
  cases paths with
  | nil => exact pushes_none same
  | cons path rest => exact pushes_call same left

theorem pushes_treeWalked {w' : Worker} (same : w'.stack = w.stack)
    (tree : List DiscoveredService) : Pushes w (w'.treeWalked tree) := by
  have found : ({ w' with discovered := true } : Worker).stack = w.stack := same
  exact pushes_acquireMtu found tree (List.suffix_refl _)

theorem pushes_walkObjects (reply : List ManagedObject) : Pushes w (w.walkObjects reply) := by
  unfold walkObjects
  dsimp only
  split
  · rename_i m tree linked
    unfold synthesizeGapService
    dsimp only
    split
    · exact pushes_treeWalked rfl tree
    · exact pushes_call rfl trivial
  · exact pushes_doDisconnect rfl

theorem pushes_connectReturned (attempt : Nat) (r : Reply) :
    Pushes w (w.connectReturned attempt r) := by
  cases r with
  | error name message =>
      unfold connectReturned
      dsimp only
      split
      · exact pushes_workerOnConnectedChanged true
      · split <;> exact pushes_call rfl trivial
  | _ => exact pushes_none rfl

/-- An attribute command refers to the entry its handle leads to. -/
theorem pushes_execute (cmd : HostGattCommand) : Pushes w (w.execute cmd) := by
  by_cases about : cmd.isAttribute = true
  · rcases execute_attribute (w := w) about with ⟨ev, -, done⟩ | ⟨c, about', routes, called⟩
    · rw [done]
      exact pushes_none rfl
    · rw [called]
      refine pushes_call rfl ?_
      cases c with
      | notify handle enable path => exact (routes handle enable path rfl).2
      | read | write | rssi => trivial
      | _ => cases about'
  · cases cmd with
    | readChar | readDesc | writeChar | writeDesc | setNotify | readRssi => exact absurd rfl about
    | connect => exact pushes_call rfl (by split <;> trivial)
    | disconnect => exact pushes_doDisconnect rfl
    | pair =>
        show Pushes w w.doPair
        unfold doPair
        split
        · exact pushes_call rfl (by split <;> trivial)
        · exact pushes_none rfl
    | passkeyReply | confirmReply =>
        show Pushes w (w.answerAgent _)
        unfold answerAgent
        split <;> exact pushes_none rfl
    | removeBond =>
        show Pushes w w.doRemoveBond
        unfold doRemoveBond
        split
        · exact pushes_call rfl trivial
        · exact pushes_none rfl

theorem pushes_resume (c : Call) (r : Reply)
    (live : c.looksBack r = true → c.refersInto w.handleMap) : Pushes w (w.resume c r) := by
  have answered (about : c.isAttribute = true) : Pushes w (w.resume c r) := by
    obtain ⟨ev, -, done⟩ := resume_attribute (w := w) about r
    rw [done]
    exact pushes_none rfl
  cases c with
  | read | write | notify | rssi => exact answered rfl
  | openBus =>
      cases r with
      | error => exact pushes_none rfl
      | _ => exact pushes_call rfl trivial
  | getConnected =>
      cases r with
      | bool b =>
          cases b with
          | false => exact pushes_call rfl trivial
          | true => exact pushes_workerOnConnectedChanged true
      | _ => exact pushes_call rfl trivial
  | connect attempt => exact pushes_connectReturned attempt r
  | recheckConnected notFound =>
      cases r with
      | bool b =>
          cases b with
          | false => exact pushes_none rfl
          | true => exact pushes_workerOnConnectedChanged true
      | _ => exact pushes_none rfl
  | servicesResolved =>
      cases r with
      | bool b =>
          cases b with
          | false => exact pushes_none rfl
          | true => exact pushes_tryStartDiscovery
      | _ => exact pushes_none rfl
  | managedObjects =>
      cases r with
      | objects reply => exact pushes_walkObjects reply
      | _ => exact pushes_doDisconnect rfl
  | gapName tree second =>
      have asked (s : List UInt8) : Pushes w (w.gapNamed tree second s) :=
        pushes_call rfl (by split <;> trivial)
      cases r <;> exact asked _
  | gapAppearance tree name =>
      cases r <;> exact pushes_treeWalked rfl _
  | mtu tree path rest =>
      have onward (back : (Call.mtu tree path rest).looksBack r = true) :
          Pushes w (w.acquireMtu tree rest) :=
        pushes_acquireMtu rfl tree ((List.suffix_cons path rest).trans (live back))
      cases r with
      | uint16 v =>
          show Pushes w (if v ≥ 23 then w.finishDiscovery tree v else w.acquireMtu tree rest)
          split
          · exact pushes_none rfl
          · rename_i small
            exact onward (decide_eq_true (UInt16.not_le.mp small))
      | _ => exact onward rfl
  | pair => cases r <;> exact pushes_none rfl
  | registerAgent => cases r <;> exact pushes_call rfl trivial
  | disconnect | removeBond => exact pushes_none rfl

theorem pushes_perform (work : Work)
    (live : ∀ c r, work = .resume c r → c.looksBack r = true → c.refersInto w.handleMap) :
    Pushes w (w.perform work) := by
  cases work with
  | finish => exact pushes_none rfl
  | command cmd => exact pushes_execute cmd
  | change p =>
      cases p with
      | connected b => exact pushes_workerOnConnectedChanged b
      | servicesResolved b =>
          cases b with
          | false => exact pushes_none rfl
          | true => exact pushes_tryStartDiscovery
      | other => exact pushes_none rfl
  | resume c r => exact pushes_resume c r (live c r rfl)

/-- Only the link's end and the objects that are linked take an entry from the map. -/
theorem perform_handleMap {work : Work} (keeps : work.remaps = false) :
    (w.perform work).1.handleMap = w.handleMap := by
  by_cases about : work.isAttribute = true
  · cases work with
    | command cmd =>
        show (w.execute cmd).1.handleMap = w.handleMap
        rcases execute_attribute (w := w) about with ⟨ev, -, done⟩ | ⟨c, -, -, called⟩
        · rw [done]
          rfl
        · rw [called]
          rfl
    | resume c r =>
        show (w.resume c r).1.handleMap = w.handleMap
        obtain ⟨ev, -, done⟩ := resume_attribute (w := w) about r
        rw [done]
        rfl
    | _ => cases about
  · exact (aloof_perform (by simpa using about) keeps).map

end Worker

/-! ## Steps -/

variable {w : Worker}

/-- What the innermost function goes back to is still there. -/
theorem Refer.live {c : Call} {r : Reply} {rest : List Frame}
    (refer : Refer w.handleMap outlived w.stack)
    (next : Worker.nextWork w.stack = some (.resume c r, rest))
    (within : w.dangles outlived .advance = false) (back : c.looksBack r = true) :
    c.refersInto w.handleMap := by
  have live : outlived ≤ rest.length := by
    rw [Worker.dangles, next] at within
    simpa [back] using within
  rcases nextWork_cases next with ⟨f, -, -, other⟩ | ⟨cmd, cmds, below, -, -, other⟩ |
    ⟨p, ps, below, -, -, other⟩ | ⟨c', r', stack, same⟩
  · cases other
  · cases other
  · cases other
  · obtain ⟨rfl, rfl⟩ := Work.resume.inj same
    rw [stack] at refer
    exact refer.1 live

/-- **A step keeps the references**, unless a function goes back to an entry it has outlived. -/
theorem Refer.step {l : WorkerLabel} {r : Worker × List Output}
    (refer : Refer w.handleMap outlived w.stack) (within : w.dangles outlived l = false)
    (step : workerStep w l = some r) :
    Refer r.1.handleMap (w.outlivedAfter outlived l) r.1.stack := by
  cases l with
  | advance =>
      obtain ⟨⟨work, rest⟩, next, rfl⟩ := Option.map_eq_some_iff.mp step
      obtain ⟨new, stack, calls⟩ := Worker.pushes_perform (w := { w with stack := rest }) work
        fun c r same back => by
          rw [same] at next
          exact refer.live next within back
      show Refer ({ w with stack := rest }.perform work).1.handleMap _
        ({ w with stack := rest }.perform work).1.stack
      rw [stack, Worker.outlivedAfter, next]
      refine Refer.new ?_ calls
      dsimp only
      split
      · exact refer_of_outlived le_rfl
      · rename_i kept
        rw [Worker.perform_handleMap (by simpa using kept)]
        exact (refer.next next).min le_rfl
  | take cmds =>
      obtain ⟨idle, rfl⟩ := workerStep_take step
      exact ⟨fun _ => trivial, trivial⟩
  | signal changes =>
      obtain ⟨-, done⟩ := Option.ite_none_right_eq_some.mp step
      obtain rfl := Option.some.inj done
      exact ⟨fun _ => trivial, refer⟩
  | value | agentRequestPasskey | agentDisplayPasskey | agentRequestConfirmation =>
      obtain ⟨-, done⟩ := Option.ite_none_right_eq_some.mp step
      obtain rfl := Option.some.inj done
      exact refer
  | answer depth reply =>
      obtain ⟨c, there, rfl⟩ := workerStep_answer step
      exact refer.answered there _

end EsphomeHost

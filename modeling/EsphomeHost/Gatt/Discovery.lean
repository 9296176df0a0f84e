import EsphomeHost.Gatt.Effect

/-!
# The order of the link events

What a worker posts about its link, when every blocking call may dispatch signals on top of the
function that waits for it.

* `LinkPhase`: the language of the link events as an automaton, and what its words look like.
* `disciplined_of_inSession`: the link events keep to it in every run in which no discovery outlives
  its connection.
* `not_disciplined_link_lost`: a link that is lost while `GetManagedObjects` is waited for is
  followed by `SERVICES_DISCOVERED`.
-/

namespace EsphomeHost

/-- One worker and everything it has posted. -/
structure HostRun where
  worker : Worker
  posted : List HostGattEvent := []

def hostMachine : Machine HostRun WorkerLabel where
  init s := ∃ path, s = { worker := { devicePath := path } }
  step s l := (workerStep s.worker l).map fun r =>
    ⟨r.1, s.posted ++ r.2.filterMap Output.event?⟩

/-! ## The property -/

/-- `SERVICES_DISCOVERED` at most once between a `CONNECTED` and the next `DISCONNECTED`. -/
def ServedOnce (evs : List HostGattEvent) : Prop :=
  ∀ xs ys zs, evs = xs ++ .connected :: (ys ++ zs) → (∀ reason, .disconnected reason ∉ ys) →
    ys.countP (·.isServicesDiscovered) ≤ 1

/-- `SERVICES_DISCOVERED` after a `DISCONNECTED` only with a `CONNECTED` in between. -/
def ServedConnected (evs : List HostGattEvent) : Prop :=
  ∀ xs reason ys mtu services zs,
    evs = xs ++ .disconnected reason :: (ys ++ .servicesDiscovered mtu services :: zs) →
      .connected ∈ ys

/-- The last link event is `DISCONNECTED`. -/
def linkLost (evs : List HostGattEvent) : Bool :=
  match (evs.filter (·.isLink)).getLast? with
  | some (.disconnected _) => true
  | _ => false

/-- Nothing is left of a discovery. -/
def Worker.Cleared (w : Worker) : Prop :=
  w.discovered = false ∧ w.discovering = false ∧ w.handleMap = []

instance (w : Worker) : Decidable w.Cleared := inferInstanceAs (Decidable (_ ∧ _ ∧ _))

structure Disciplined (s : HostRun) : Prop where
  once : ServedOnce s.posted
  connected : ServedConnected s.posted
  cleared : linkLost s.posted = true → s.worker.stack = [] → s.worker.Cleared

/-- The condition on a step: the device is found disconnected only while no discovery is in flight,
a discovery is entered only if the last link event is not `DISCONNECTED`, and a failed connect is
reported only when nothing is left of a discovery. -/
def InSession (s : HostRun) : WorkerLabel → Prop
  | .advance => ∀ next ∈ Worker.nextWork s.worker.stack,
      (next.1.role = .lower → s.worker.discovering = false) ∧
        (next.1.role = .poll → linkLost s.posted = false) ∧
          (next.1.role = .refuse → s.worker.Cleared)
  | _ => True

instance (s : HostRun) (l : WorkerLabel) : Decidable (InSession s l) := by
  cases l <;> unfold InSession <;> infer_instance

/-! ## The language of link events -/

/-- Where the link events have got to; `broken` is for the words outside the language. -/
inductive LinkPhase
  | fresh
  | up (served : Bool)
  | down
  | broken
deriving DecidableEq

namespace LinkPhase

def next : LinkPhase → HostGattEvent → LinkPhase
  | broken, _ => broken
  | up served, .connected => up served
  | _, .connected => up false
  | _, .disconnected _ => down
  | up false, .servicesDiscovered _ _ => up true
  | up true, .servicesDiscovered _ _ | down, .servicesDiscovered _ _ => broken
  | p, _ => p

/-- The phase after some more events. -/
def after (p : LinkPhase) (evs : List HostGattEvent) : LinkPhase := evs.foldl next p

variable {p : LinkPhase} {evs xs ys zs : List HostGattEvent}

@[simp] theorem after_nil : p.after [] = p := rfl

@[simp] theorem after_cons (e : HostGattEvent) : p.after (e :: evs) = (p.next e).after evs := rfl

theorem after_append : p.after (xs ++ ys) = (p.after xs).after ys := List.foldl_append

theorem after_broken : broken.after evs = broken := by
  induction evs with
  | nil => rfl
  | cons e evs ih => exact ih

theorem next_of_not_link {e : HostGattEvent} (other : e.isLink = false) : p.next e = p := by
  cases e with
  | connected | disconnected | servicesDiscovered => cases other
  | _ =>
      cases p with
      | up served => cases served <;> rfl
      | _ => rfl

theorem after_filter (p : LinkPhase) (evs : List HostGattEvent) :
    p.after (evs.filter (·.isLink)) = p.after evs := by
  induction evs generalizing p with
  | nil => rfl
  | cons e evs ih =>
      cases link : e.isLink with
      | true => rw [List.filter_cons_of_pos link, after_cons, after_cons, ih]
      | false =>
          rw [List.filter_cons_of_neg (by simp [link]), after_cons, next_of_not_link link, ih]

theorem intact_of_append (accepted : p.after (xs ++ ys) ≠ broken) : p.after xs ≠ broken := by
  intro broke
  rw [after_append, broke] at accepted
  exact accepted after_broken

theorem next_disconnected (intact : p ≠ broken) (reason : Int) :
    p.next (.disconnected reason) = .down := by
  cases p with
  | broken => exact absurd rfl intact
  | up served => cases served <;> rfl
  | _ => rfl

theorem next_connected (intact : p ≠ broken) :
    ∃ served, p.next .connected = .up served ∧ (served = true → p = .up true) := by
  cases p with
  | broken => exact absurd rfl intact
  | up served => exact ⟨served, rfl, fun same => by rw [same]⟩
  | _ => exact ⟨false, rfl, nofun⟩

/-- While no `DISCONNECTED` is posted, `SERVICES_DISCOVERED` is accepted once. -/
theorem count_of_up {served : Bool} (up : ∀ reason, .disconnected reason ∉ ys)
    (accepted : (LinkPhase.up served).after ys ≠ broken) :
    ys.countP (·.isServicesDiscovered) + served.toNat ≤ 1 := by
  induction ys generalizing served with
  | nil => cases served <;> decide
  | cons e ys ih =>
      have later : ∀ reason, .disconnected reason ∉ ys := fun reason mem =>
        up reason (List.mem_cons_of_mem _ mem)
      rw [after_cons] at accepted
      cases e with
      | disconnected reason => exact absurd (List.mem_cons_self ..) (up reason)
      | servicesDiscovered mtu services =>
          cases served with
          | true => exact absurd after_broken accepted
          | false =>
              rw [List.countP_cons_of_pos rfl]
              exact ih later accepted
      | _ => cases served <;> exact ih later accepted

/-- After a `DISCONNECTED`, only a `CONNECTED` leaves the phase. -/
theorem after_down (down : .connected ∉ ys) (accepted : LinkPhase.down.after ys ≠ broken) :
    LinkPhase.down.after ys = .down := by
  induction ys with
  | nil => rfl
  | cons e ys ih =>
      have later : .connected ∉ ys := fun mem => down (List.mem_cons_of_mem _ mem)
      cases e with
      | connected => exact absurd (List.mem_cons_self ..) down
      | servicesDiscovered => exact absurd after_broken accepted
      | _ => exact ih later accepted

theorem servedOnce_of_accepted (accepted : fresh.after evs ≠ broken) : ServedOnce evs := by
  rintro xs ys zs rfl up
  have before := intact_of_append accepted
  obtain ⟨served, connected, -⟩ := next_connected before
  rw [after_append, after_cons, connected] at accepted
  exact (Nat.le_add_right ..).trans (count_of_up up (intact_of_append accepted))

theorem servedConnected_of_accepted (accepted : fresh.after evs ≠ broken) :
    ServedConnected evs := by
  rintro xs reason ys mtu services zs rfl
  by_contra down
  have before := intact_of_append accepted
  rw [after_append, after_cons, next_disconnected before] at accepted
  have still := after_down down (intact_of_append accepted)
  rw [after_append, still] at accepted
  exact accepted after_broken

/-- In the language, the phase is `down` exactly after a `DISCONNECTED`. -/
theorem linkLost_iff (accepted : fresh.after evs ≠ broken) :
    linkLost evs = true ↔ fresh.after evs = .down := by
  rw [← after_filter] at accepted ⊢
  unfold linkLost
  have links : ∀ e ∈ evs.filter (·.isLink), e.isLink = true := fun e mem =>
    (List.mem_filter.mp mem).2
  generalize evs.filter (·.isLink) = ls at accepted links ⊢
  rcases List.eq_nil_or_concat' ls with rfl | ⟨init, e, rfl⟩
  · exact ⟨nofun, nofun⟩
  · have before := intact_of_append accepted
    have link : e.isLink = true := links e (by simp)
    rw [List.getLast?_append, after_append, after_cons, after_nil]
    rw [after_append] at accepted
    cases e with
    | disconnected reason => exact ⟨fun _ => next_disconnected before reason, fun _ => rfl⟩
    | connected =>
        obtain ⟨served, up, -⟩ := next_connected before
        rw [up]
        exact ⟨nofun, nofun⟩
    | servicesDiscovered =>
        refine ⟨nofun, fun down => ?_⟩
        generalize fresh.after init = q at down
        match q, down with
        | .up true, down | .up false, down | .fresh, down | .down, down | .broken, down =>
            cases down
    | _ => cases link

end LinkPhase

/-! ## The invariant -/

/-- A discovery is under way. -/
def Role.isStage : Role → Bool
  | walk | mtu => true
  | _ => false

/-- The discoveries on the stack, innermost first. -/
def stages (stack : List Frame) : List Role := (stack.map Frame.role).filter Role.isStage

theorem stages_append (xs ys : List Frame) : stages (xs ++ ys) = stages xs ++ stages ys := by
  simp only [stages, List.map_append, List.filter_append]

theorem stages_cons (f : Frame) (stack : List Frame) :
    stages (f :: stack) = [f.role].filter Role.isStage ++ stages stack :=
  stages_append [f] stack

/-- The discovery the flags speak of. -/
def Worker.inFlight (w : Worker) : List Role :=
  if w.discovering then [if w.discovered then .mtu else .walk] else []

/-- The worker agrees with what it has posted, while a round of the given role is performed. -/
structure InPhase (role : Role) (w : Worker) (p : LinkPhase) : Prop where
  intact : p ≠ .broken
  stages : [role].filter Role.isStage ++ stages w.stack = w.inFlight
  served : p = .up true → w.discovered = true ∧ w.discovering = false
  cleared : p = .down → w.Cleared
  closed : w.busOpen = false → w.Cleared

namespace InPhase

variable {role : Role} {w : Worker} {p : LinkPhase}

/-- A discovery that is performed is the one the flags speak of, and no other is on the stack. -/
theorem current (inv : InPhase role w p) (stage : role.isStage = true) :
    w.discovering = true ∧ (if w.discovered then Role.mtu else .walk) = role ∧
      EsphomeHost.stages w.stack = [] := by
  have stages := inv.stages
  rw [List.filter_cons_of_pos stage, List.filter_nil, Worker.inFlight] at stages
  split at stages
  · obtain ⟨same, none⟩ := List.cons.inj stages
    exact ⟨‹_›, same.symm, none⟩
  · cases stages

/-- While a discovery is performed the link is up and the bus is open. -/
theorem phase_of_current (inv : InPhase role w p) (stage : role.isStage = true) :
    p ≠ .up true ∧ p ≠ .down ∧ w.busOpen = true := by
  have discovering := (inv.current stage).1
  refine ⟨fun served => ?_, fun down => ?_, ?_⟩
  · exact absurd discovering (by rw [(inv.served served).2]; decide)
  · exact absurd discovering (by rw [(inv.cleared down).2.1]; decide)
  · by_contra closed
    exact absurd discovering (by rw [(inv.closed (by simpa using closed)).2.1]; decide)

/-- Between discoveries, the role of the round does not matter. -/
theorem plain (inv : InPhase role w p) (other : role.isStage = false) : InPhase .plain w p := by
  refine { inv with stages := ?_ }
  have stages := inv.stages
  rwa [List.filter_cons_of_neg (by simp [other])] at stages

/-- A round that ends in a call. -/
theorem call {c : Call} (inv : InPhase role w p)
    (same : [c.role none].filter Role.isStage = [role].filter Role.isStage) :
    InPhase .plain (w.call c) p := by
  refine { inv with stages := ?_ }
  show EsphomeHost.stages (.call c none :: w.stack) = w.inFlight
  rw [stages_cons, ← inv.stages, ← same]
  rfl

theorem quiet {new : List Frame} {r : Worker × List Output} (inv : InPhase .plain w p)
    (quiets : Quiets w new r) (plain : ∀ f ∈ new, f.role = .plain) :
    InPhase .plain r.1 (p.after (linkEvents r.2)) := by
  rw [quiets.silent]
  obtain ⟨isOpen, discovered, discovering, handles⟩ := LinkState.mk.inj quiets.link
  have none : EsphomeHost.stages new = [] := by
    refine List.filter_eq_nil_iff.mpr fun role mem => ?_
    obtain ⟨f, found, rfl⟩ := List.mem_map.mp mem
    rw [plain f found]
    decide
  refine ⟨inv.intact, ?_, ?_, ?_, ?_⟩
  · have stages := inv.stages
    rwa [Worker.inFlight, discovered, discovering, quiets.stack, stages_append, none]
  · rw [discovered, discovering]
    exact inv.served
  · rw [Worker.Cleared, discovered, discovering, handles]
    exact inv.cleared
  · rw [Worker.Cleared, isOpen, discovered, discovering, handles]
    exact inv.closed

theorem opened (inv : InPhase role w p) : InPhase role { w with busOpen := true } p :=
  ⟨inv.intact, inv.stages, inv.served, inv.cleared, nofun⟩

/-- `DISCONNECTED` is posted when nothing is left of a discovery. -/
theorem disconnected (inv : InPhase .plain w p) (cleared : w.Cleared) (reason : Int) :
    InPhase .plain w (p.next (.disconnected reason)) := by
  rw [LinkPhase.next_disconnected inv.intact]
  exact ⟨nofun, inv.stages, nofun, fun _ => cleared, fun _ => cleared⟩

theorem connected (inv : InPhase .plain w p) : InPhase .plain w (p.next .connected) := by
  obtain ⟨served, up, before⟩ := LinkPhase.next_connected inv.intact
  rw [up]
  refine ⟨nofun, inv.stages, fun same => ?_, nofun, inv.closed⟩
  exact inv.served (before (LinkPhase.up.inj same))

/-! ### The functions of the discovery -/

theorem workerOnConnectedChanged_true (inv : InPhase .plain w p) :
    InPhase .plain (w.workerOnConnectedChanged true).1
      (p.after (linkEvents (w.workerOnConnectedChanged true).2)) := by
  show InPhase .plain (if w.busOpen then w.call .servicesResolved else w) (p.next .connected)
  split
  · exact inv.connected.call rfl
  · exact inv.connected

theorem workerOnConnectedChanged_false (inv : InPhase .plain w p)
    (settled : w.discovering = false) :
    InPhase .plain (w.workerOnConnectedChanged false).1
      (p.after (linkEvents (w.workerOnConnectedChanged false).2)) := by
  have none := inv.stages
  rw [Worker.inFlight, if_neg (by simp [settled])] at none
  show InPhase .plain { w with discovered := false, discovering := false, handleMap := [] }
    (p.next (.disconnected 0))
  rw [LinkPhase.next_disconnected inv.intact]
  exact ⟨nofun, none, nofun, fun _ => ⟨rfl, rfl, rfl⟩, fun _ => ⟨rfl, rfl, rfl⟩⟩

theorem doDisconnect (inv : InPhase .plain w p) :
    InPhase .plain w.doDisconnect.1 (p.after (linkEvents w.doDisconnect.2)) := by
  unfold Worker.doDisconnect
  split
  · exact inv.call rfl
  · rename_i closed
    exact inv.disconnected (inv.closed (by simpa using closed)) 0

theorem walkFailed {m : HandleMap} (inv : InPhase .walk w p) :
    InPhase .plain { w with handleMap := m }.walkFailed.1
      (p.after (linkEvents { w with handleMap := m }.walkFailed.2)) := by
  obtain ⟨-, stage, none⟩ := inv.current rfl
  obtain ⟨notServed, notDown, isOpen⟩ := inv.phase_of_current rfl
  refine doDisconnect ⟨inv.intact, none, ?_, ?_, ?_⟩
  · exact fun served => absurd served notServed
  · exact fun down => absurd down notDown
  · exact fun closed => absurd isOpen (by rw [show w.busOpen = false from closed]; decide)

/-- A discovery is only entered while the link is not down. -/
theorem tryStartDiscovery (inv : InPhase .plain w p) (up : p ≠ .down) :
    InPhase .plain w.tryStartDiscovery.1 (p.after (linkEvents w.tryStartDiscovery.2)) := by
  unfold Worker.tryStartDiscovery
  split
  · exact inv
  · rename_i fresh
    obtain ⟨undiscovered, settled⟩ := not_or.mp fresh
    have none : EsphomeHost.stages w.stack = [] := by
      have stages := inv.stages
      rwa [Worker.inFlight, if_neg settled] at stages
    have notServed : p ≠ .up true := fun served => undiscovered (inv.served served).1
    dsimp only
    split
    · rename_i isOpen
      have entered : InPhase .walk { w with discovering := true } p := by
        refine ⟨inv.intact, ?_, ?_, ?_, ?_⟩
        · show Role.walk :: EsphomeHost.stages w.stack = [if w.discovered then .mtu else .walk]
          rw [if_neg undiscovered, none]
        · exact fun served => absurd served notServed
        · exact fun down => absurd down up
        · exact fun closed => absurd isOpen (by rw [show w.busOpen = false from closed]; decide)
      exact entered.call rfl
    · have same : { w with discovering := false } = w := by
        rw [← show w.discovering = false by simpa using settled]
      show InPhase .plain { w with discovering := false }.doDisconnect.1
        (p.after (linkEvents { w with discovering := false }.doDisconnect.2))
      rw [same]
      exact inv.doDisconnect

theorem walking {m : HandleMap} {reads : List (UInt16 × List UInt8)} {c : Call}
    (inv : InPhase .walk w p) (walk : c.role none = .walk) :
    InPhase .plain ({ w with handleMap := m, syntheticReads := reads }.call c) p := by
  obtain ⟨-, notDown, isOpen⟩ := inv.phase_of_current rfl
  have walked : InPhase .walk { w with handleMap := m, syntheticReads := reads } p := by
    refine ⟨inv.intact, inv.stages, inv.served, ?_, ?_⟩
    · exact fun down => absurd down notDown
    · exact fun closed => absurd isOpen (by rw [show w.busOpen = false from closed]; decide)
  exact walked.call (by rw [walk])

theorem finishDiscovery (inv : InPhase .mtu w p) (tree : List DiscoveredService) (mtu : UInt16) :
    InPhase .plain (w.finishDiscovery tree mtu).1
      (p.after (linkEvents (w.finishDiscovery tree mtu).2)) := by
  obtain ⟨-, stage, none⟩ := inv.current rfl
  obtain ⟨notServed, notDown, isOpen⟩ := inv.phase_of_current rfl
  have discovered : w.discovered = true := by
    by_contra undiscovered
    rw [if_neg undiscovered] at stage
    cases stage
  have closed : w.busOpen ≠ false := by rw [isOpen]; decide
  show InPhase .plain { w with discovering := false } (p.next (.servicesDiscovered mtu tree))
  match p, inv with
  | .up true, _ => exact absurd rfl notServed
  | .down, _ => exact absurd rfl notDown
  | .broken, inv => exact absurd rfl inv.intact
  | .up false, _ | .fresh, _ =>
      exact ⟨nofun, none, fun _ => ⟨discovered, rfl⟩, nofun, fun closed' => absurd closed' closed⟩

theorem acquireMtu (inv : InPhase .mtu w p) (tree : List DiscoveredService)
    (paths : List (List Char)) :
    InPhase .plain (w.acquireMtu tree paths).1
      (p.after (linkEvents (w.acquireMtu tree paths).2)) := by
  cases paths with
  | nil => exact inv.finishDiscovery tree 23
  | cons path rest => exact inv.call rfl

theorem treeWalked {m : HandleMap} {reads : List (UInt16 × List UInt8)}
    (inv : InPhase .walk w p) (tree : List DiscoveredService) :
    InPhase .plain ({ w with handleMap := m, syntheticReads := reads }.treeWalked tree).1
      (p.after (linkEvents
        ({ w with handleMap := m, syntheticReads := reads }.treeWalked tree).2)) := by
  obtain ⟨discovering, -, none⟩ := inv.current rfl
  obtain ⟨notServed, notDown, isOpen⟩ := inv.phase_of_current rfl
  refine InPhase.acquireMtu ⟨inv.intact, ?_, ?_, ?_, ?_⟩ tree _
  · show Role.mtu :: EsphomeHost.stages w.stack = if w.discovering then [.mtu] else []
    rw [none, if_pos discovering]
  · exact fun served => absurd served notServed
  · exact fun down => absurd down notDown
  · exact fun closed => absurd isOpen (by rw [show w.busOpen = false from closed]; decide)

/-- **A round keeps the worker in agreement with what it posts**, under the condition. -/
theorem effect {r : Worker × List Output} (inv : InPhase role w p) (effect : Effect w role r)
    (lower : role = .lower → w.discovering = false) (poll : role = .poll → p ≠ .down)
    (refuse : role = .refuse → w.Cleared) :
    InPhase .plain r.1 (p.after (linkEvents r.2)) := by
  cases effect with
  | quiet new quiets calls => exact inv.quiet quiets calls.plain
  | opening => exact inv.call rfl
  | opened => exact inv.opened.call rfl
  | retried again => 
      refine inv.call ?_
      rcases again with again | again <;> rw [again, List.filter_cons_of_neg] <;> decide
  | refused => exact (inv.plain rfl).disconnected (refuse rfl) _
  | raised => exact (inv.plain rfl).workerOnConnectedChanged_true
  | lowered => exact (inv.plain rfl).workerOnConnectedChanged_false (lower rfl)
  | started => exact (inv.plain rfl).tryStartDiscovery (poll rfl)
  | walking m reads walk => exact inv.walking walk
  | walkFailed => exact inv.walkFailed
  | treeWalked tree => exact inv.treeWalked tree
  | acquiring tree paths => exact inv.acquireMtu tree paths
  | acquired tree mtu => exact inv.finishDiscovery tree mtu
  | dropped => exact (inv.plain rfl).doDisconnect

end InPhase

/-! ## Runs -/

theorem role_command (cmd : HostGattCommand) : (Work.command cmd).role.isStage = false := by
  cases cmd <;> rfl

theorem role_change (p : PropertyChange) : (Work.change p).role.isStage = false := by
  cases p with
  | other => rfl
  | connected b | servicesResolved b => cases b <;> rfl

/-- An answer does not change which discovery waits for it. -/
theorem stage_answer (c : Call) (r : Reply) :
    [c.role (some r)].filter Role.isStage = [c.role none].filter Role.isStage := by
  cases c with
  | openBus => cases r <;> rfl
  | getConnected | recheckConnected | servicesResolved =>
      cases r with
      | bool b => cases b <;> rfl
      | _ => rfl
  | connect attempt =>
      cases r with
      | error name message =>
          show [if _ then Role.raise else .retry].filter Role.isStage = []
          split <;> rfl
      | _ => rfl
  | _ => rfl

theorem stages_nextWork {stack rest : List Frame} {work : Work}
    (next : Worker.nextWork stack = some (work, rest)) :
    [work.role].filter Role.isStage ++ stages rest = stages stack := by
  rcases nextWork_cases next with ⟨f, rfl | rfl, rfl, rfl⟩ | ⟨cmd, cmds, below, rfl, rfl, rfl⟩ |
    ⟨p, ps, below, rfl, rfl, rfl⟩ | ⟨c, r, rfl, rfl⟩
  · rfl
  · rfl
  · rw [List.filter_cons_of_neg (by simp [role_command])]
    rfl
  · rw [List.filter_cons_of_neg (by simp [role_change])]
    rfl
  · exact (stages_cons (.call c (some r)) rest).symm

theorem stages_answer {stack : List Frame} {depth : Nat} {c : Call} (r : Reply)
    (waits : stack[depth]? = some (.call c none)) :
    stages (stack.set depth (.call c (some r))) = stages stack := by
  obtain ⟨above, below, same, replaced⟩ := split_of_frame waits
  rw [replaced, same, stages_append, stages_append, stages_cons, stages_cons]
  rw [Frame.role, Frame.role, stage_answer]

/-- **One step keeps the worker in agreement with what it has posted.** -/
theorem inPhase_step {s t : HostRun} {l : WorkerLabel}
    (inv : InPhase .plain s.worker (LinkPhase.fresh.after s.posted)) (guard : InSession s l)
    (step : hostMachine.step s l = some t) :
    InPhase .plain t.worker (LinkPhase.fresh.after t.posted) := by
  obtain ⟨r, stepped, rfl⟩ := Option.map_eq_some_iff.mp step
  show InPhase .plain r.1 (LinkPhase.fresh.after (s.posted ++ r.2.filterMap Output.event?))
  rw [LinkPhase.after_append, ← LinkPhase.after_filter _ (r.2.filterMap Output.event?)]
  rcases workerStep_cases stepped with ⟨work, rest, rfl, next, rfl⟩ |
    ⟨depth, c, a, rfl, waits, rfl⟩ | ⟨cmds, rfl, empty, rfl⟩ | ⟨changes, rfl, -, -, rfl⟩ | quiets
  · obtain ⟨lower, poll, refuse⟩ := guard _ next
    have entered : InPhase work.role { s.worker with stack := rest }
        (LinkPhase.fresh.after s.posted) :=
      { inv with stages := (stages_nextWork next).trans inv.stages }
    refine entered.effect (perform_effect _ work) lower ?_ refuse
    · intro entered down
      rw [(LinkPhase.linkLost_iff inv.intact).mpr down] at poll
      exact absurd (poll entered) (by decide)
  · refine { inv with stages := ?_ }
    rw [stages_answer a waits]
    exact inv.stages
  · refine { inv with stages := ?_ }
    have stages := inv.stages
    rwa [empty] at stages
  · exact { inv with stages := inv.stages }
  · exact inv.quiet quiets (by simp)

/-- **The link events keep to their order, and a lost link leaves nothing of a discovery behind**,
in every run whose steps meet the condition. -/
theorem disciplined_of_inSession {s : HostRun} (run : hostMachine.ReachableUnder InSession s) :
    Disciplined s := by
  have inv : InPhase .plain s.worker (LinkPhase.fresh.after s.posted) := by
    refine run.invariant (I := fun s => InPhase .plain s.worker (LinkPhase.fresh.after s.posted))
      ?_ fun _ _ _ inv guard step => inPhase_step inv guard step
    rintro _ ⟨path, rfl⟩
    exact ⟨nofun, rfl, nofun, nofun, fun _ => ⟨rfl, rfl, rfl⟩⟩
  exact ⟨LinkPhase.servedOnce_of_accepted inv.intact,
    LinkPhase.servedConnected_of_accepted inv.intact,
    fun lost _ => inv.cleared ((LinkPhase.linkLost_iff inv.intact).mp lost)⟩

/-! ## Two runs -/

/-- A worker that has connected: the bus is open and `CONNECTED` posted. -/
def connecting : List WorkerLabel :=
  [.take [.connect], .advance, .answer 0 .done, .advance, .answer 0 (.bool false), .advance,
    .signal [.connected true], .advance, .answer 0 (.bool false), .advance, .advance,
    .answer 0 .done, .advance, .advance]

/-- `ServicesResolved` arrives and `GetManagedObjects` is called. -/
def resolving : List WorkerLabel := [.signal [.servicesResolved true], .advance]

/-- `GetManagedObjects` answers without an object of the device, and the GAP service is read. -/
def discovering : List WorkerLabel :=
  [.answer 0 (.objects []), .advance, .answer 0 (.string [0x74]), .advance, .answer 0 (.uint16 0),
    .advance]

def losing : List WorkerLabel := [.signal [.connected false], .advance, .advance]

def freshHost : HostRun :=
  { worker := { devicePath := "/org/bluez/hci0/dev_C0_FF_EE_00_00_01".toList } }

/-- A connection whose link is lost after the discovery. -/
theorem disciplined_ordinary : ∃ s,
    hostMachine.run freshHost (connecting ++ resolving ++ discovering ++ [.advance] ++ losing) =
        some s ∧
      s.posted = [.connected, .servicesDiscovered 23 [gapService], .disconnected 0] ∧
        Disciplined s := by
  have ran : (hostMachine.guarded InSession).run freshHost
      (connecting ++ resolving ++ discovering ++ [.advance] ++ losing) = some _ := rfl
  exact ⟨_, rfl, rfl, disciplined_of_inSession ⟨_, ⟨_, rfl⟩, Machine.run_guarded_reach ran⟩⟩

/-- A link that is lost while `GetManagedObjects` is waited for: `SERVICES_DISCOVERED` is posted
after `DISCONNECTED`, and `discovered_` stays set. -/
theorem not_disciplined_link_lost : ∃ s,
    hostMachine.init freshHost ∧
      hostMachine.run freshHost (connecting ++ resolving ++ losing ++ discovering ++ [.advance]) =
          some s ∧
        s.posted = [.connected, .disconnected 0, .servicesDiscovered 23 [gapService]] ∧
          s.worker.stack = [] ∧ s.worker.discovered = true ∧ ¬ Disciplined s := by
  refine ⟨_, ⟨_, rfl⟩, rfl, rfl, rfl, rfl, fun disciplined => ?_⟩
  have between := disciplined.connected [.connected] 0 [] 23 [gapService] [] rfl
  cases between

end EsphomeHost

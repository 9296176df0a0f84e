import EsphomeHost.Gatt.Attributes
import EsphomeHost.Gatt.Walk

/-!
# Notifications and the connection they belong to

A subscription remembers the handle it was made under, apart from the routing map.  A lost link
clears the map and keeps the subscriptions.

* `notifyMachine`: the worker with a record of the tree its connection's walk linked, of the handles
  on which notifications were enabled in the connection, and of every `NOTIFY` it posts.
* `inTune_step`: what the subscriptions and the map have in common.
* `faithful_of_unsubscribed`: **every `NOTIFY` carries the handle the tree assigns, and comes after
  a `SET_NOTIFY` of its connection, in every run in which nothing is subscribed when the link is
  lost** and no partly linked tree is subscribed to.
* `not_faithful_reconnected`: a subscription that outlives its connection notifies under the handle
  of the connection before.
-/

namespace EsphomeHost

/-! ## The machine -/

/-- The tree of the objects gives the characteristic at `path` the handle. -/
def Assigns (objs : List GattObj) (path : List Char) (handle : UInt16) : Prop :=
  ∃ o ∈ serviceObjs objs, ∃ c ∈ characteristicObjs objs o, c.path = path ∧ c.handle = handle

/-- A `NOTIFY` that was posted, and what was true of the connection then. -/
structure Notified where
  path : Option (List Char)
  handle : UInt16
  tree : Option (List GattObj)
  enabled : List UInt16

/-- `tree` are the objects the walk of this connection linked, `enabled` the handles on which
`SET_NOTIFY` has succeeded in it. -/
structure NotifyRun where
  worker : Worker
  tree : Option (List GattObj) := none
  enabled : List UInt16 := []
  notified : List Notified := []

def WorkerLabel.valuePath : WorkerLabel → Option (List Char)
  | value path _ => some path
  | _ => none

def HostGattEvent.notifyHandle : HostGattEvent → Option UInt16
  | notify handle _ => some handle
  | _ => none

namespace NotifyRun

variable (s : NotifyRun)

def treeAfter : Option Work → Option (List GattObj)
  | some (.change (.connected false)) => none
  | some (.resume .managedObjects (.objects reply)) =>
      let objs := gattObjects s.worker.devicePath reply
      (linkServices objs objs []).2.map fun _ => objs
  | _ => s.tree

def enabledAfter : Option Work → List UInt16
  | some (.change (.connected false)) => []
  | some (.resume (.notify _ _ _) (.error _ _)) => s.enabled
  | some (.resume (.notify handle enable _) _) =>
      if enable then handle :: s.enabled else s.enabled.filter (· ≠ handle)
  | _ => s.enabled

/-- The `NOTIFY` events a step posts. -/
def heard (l : WorkerLabel) (outs : List Output) : List Notified :=
  ((outs.filterMap Output.event?).filterMap HostGattEvent.notifyHandle).map fun handle =>
    ⟨l.valuePath, handle, s.tree, s.enabled⟩

def after (l : WorkerLabel) (r : Worker × List Output) : NotifyRun where
  worker := r.1
  tree := s.treeAfter (s.worker.workOf l)
  enabled := s.enabledAfter (s.worker.workOf l)
  notified := s.notified ++ s.heard l r.2

end NotifyRun

def notifyMachine : Machine NotifyRun WorkerLabel where
  init s := ∃ devicePath, s = { worker := { devicePath := devicePath } }
  step s l := (workerStep s.worker l).map (s.after l)

/-! ## What has to hold -/

/-- The handle is the one the connection's tree assigns to the characteristic the signal came from,
and notifications are enabled on it. -/
structure Notified.Faithful (n : Notified) : Prop where
  assigned : ∃ path ∈ n.path, ∃ objs ∈ n.tree, Assigns objs path n.handle
  enabled : n.handle ∈ n.enabled

def NotifyRun.Faithful (s : NotifyRun) : Prop := ∀ n ∈ s.notified, n.Faithful

/-- A `StartNotify` is waited for. -/
def Call.startsNotify : Call → Bool
  | notify _ enable _ => enable
  | _ => false

/-- Nothing is subscribed, nor being subscribed. -/
def Worker.Unsubscribed (w : Worker) : Prop :=
  w.notifySubs = [] ∧ ∀ c ∈ callsIn w.stack, c.startsNotify = false

/-- The link is found down only while nothing is subscribed, and a `SET_NOTIFY` that finds its
characteristic is executed only once the tree is linked. -/
def NotifyRun.Admits (s : NotifyRun) : Work → Prop
  | .change (.connected false) => s.worker.Unsubscribed
  | .command (.setNotify handle true) =>
      ∀ entry ∈ s.worker.handleMap.lookup handle, entry.kind = .characteristic → s.tree ≠ none
  | _ => True

/-- The condition on a step. -/
def SubscribesInTree (s : NotifyRun) (l : WorkerLabel) : Prop :=
  ∀ work ∈ s.worker.workOf l, s.Admits work

instance (w : Worker) : Decidable w.Unsubscribed := inferInstanceAs (Decidable (_ ∧ _))

instance (s : NotifyRun) (work : Work) : Decidable (s.Admits work) := by
  unfold NotifyRun.Admits
  split <;> infer_instance

instance (s : NotifyRun) (l : WorkerLabel) : Decidable (SubscribesInTree s l) :=
  inferInstanceAs (Decidable (∀ work ∈ s.worker.workOf l, s.Admits work))

/-! ## The tree and the map -/

/-- **A linked tree assigns what the map routes.** -/
theorem assigns_of_linked {objs : List GattObj} {m : HandleMap} {tree : List DiscoveredService}
    (linked : linkServices objs objs [] = (m, some tree)) {handle parent : UInt16}
    {path : List Char} (found : m.lookup handle = some ⟨path, .characteristic, parent⟩) :
    Assigns objs path handle := by
  obtain ⟨whole, missing⟩ := @linkServices_eq objs objs []
  have complete : ∀ o ∈ serviceObjs objs, ∀ c ∈ characteristicObjs objs o, HasHandles objs c := by
    by_contra lacks
    have failed := missing (by simpa using lacks)
    rw [linked] at failed
    cases failed
  have routes : m = HandleMap.setAll [] ((serviceObjs objs).flatMap (serviceRoutes objs)) :=
    congrArg Prod.fst (linked.symm.trans (whole complete))
  rw [routes] at found
  rcases HandleMap.mem_of_lookup_setAll found with mem | none
  · obtain ⟨o, service, mem⟩ := List.mem_flatMap.mp mem
    obtain ⟨c, characteristic, mem⟩ := List.mem_flatMap.mp mem
    rcases List.mem_cons.mp mem with route | descriptor
    · obtain ⟨same, entry⟩ := Prod.mk.inj route
      obtain ⟨path, -, -⟩ := ObjEntry.mk.inj entry
      exact ⟨o, service, c, characteristic, path.symm, same.symm⟩
    · obtain ⟨d, -, route⟩ := List.mem_map.mp descriptor
      cases (ObjEntry.mk.inj (Prod.mk.inj route).2).2.1
  · cases none

/-! ## The invariant -/

/-- The map leads from the handle to the characteristic at `path`, in a tree that is linked. -/
def NotifyRun.Serves (s : NotifyRun) (path : List Char) (handle : UInt16) : Prop :=
  s.tree ≠ none ∧ ∃ parent, s.worker.handleMap.lookup handle = some ⟨path, .characteristic, parent⟩

/-- What the subscriptions and the map have in common. -/
structure InTune (s : NotifyRun) : Prop where
  one : OneAtATime s.worker.stack
  routed : ∀ objs ∈ s.tree, ∀ handle path parent,
    s.worker.handleMap.lookup handle = some ⟨path, .characteristic, parent⟩ →
      Assigns objs path handle
  subs : ∀ sub ∈ s.worker.notifySubs, s.Serves sub.1 sub.2 ∧ sub.2 ∈ s.enabled
  starting : ∀ handle path, .notify handle true path ∈ callsIn s.worker.stack →
    s.Serves path handle
  stopping : ∀ handle path, .notify handle false path ∈ callsIn s.worker.stack →
    s.worker.notifySubs = [] ∨
      ∃ parent, s.worker.handleMap.lookup handle = some ⟨path, .characteristic, parent⟩
  settled : s.worker.Unsubscribed ∨
    (s.worker.discovered = true ∧ .managedObjects ∉ callsIn s.worker.stack)
  walked : s.tree ≠ none →
    s.worker.discovered = true ∨ ∃ c ∈ callsIn s.worker.stack, c.isGap = true
  faithful : s.Faithful

variable {s : NotifyRun} {w : Worker}

/-! ### Calls -/

theorem mem_inFlight {c : Call} {stack : List Frame} (about : c.isAttribute = true) :
    c ∈ inFlight stack ↔ c ∈ callsIn stack :=
  ⟨fun mem => (List.mem_filter.mp mem).1, fun mem => List.mem_filter.mpr ⟨mem, about⟩⟩

theorem unsubscribed_iff : w.Unsubscribed ↔
    w.notifySubs = [] ∧ ∀ c ∈ inFlight w.stack, c.startsNotify = false := by
  refine and_congr Iff.rfl ⟨fun none c mem => none c (List.mem_filter.mp mem).1, ?_⟩
  intro none c mem
  cases about : c.isAttribute with
  | true => exact none c ((mem_inFlight about).mpr mem)
  | false => cases c <;> first | rfl | cases about

/-! ### Events -/

theorem heard_silent {l : WorkerLabel} {outs : List Output} (silent : attributeEvents outs = []) :
    s.heard l outs = [] := by
  have quiet : ∀ ev ∈ outs.filterMap Output.event?, ev.notifyHandle = none := by
    intro ev mem
    have other := List.filter_eq_nil_iff.mp silent ev mem
    cases ev <;> first | rfl | exact absurd rfl other
  rw [NotifyRun.heard, List.filterMap_eq_nil_iff.mpr quiet]
  rfl

theorem heard_post {l : WorkerLabel} {ev : HostGattEvent} (result : ev.isResult = true) :
    s.heard l [.event ev] = [] := by
  cases ev <;> first | rfl | cases result

/-- What a signal posts is what was subscribed. -/
theorem heard_value (path : List Char) (values : List (List UInt8)) :
    ∀ n ∈ s.heard (.value path values) (s.worker.valueChanged path values),
      ∃ handle, (path, handle) ∈ s.worker.notifySubs ∧
        n = ⟨some path, handle, s.tree, s.enabled⟩ := by
  intro n mem
  obtain ⟨handle, posted, rfl⟩ := List.mem_map.mp mem
  obtain ⟨ev, mem, notified⟩ := List.mem_filterMap.mp posted
  obtain ⟨out, mem, event⟩ := List.mem_filterMap.mp mem
  unfold Worker.valueChanged at mem
  split at mem
  · rename_i handle' found
    obtain ⟨v, -, rfl⟩ := List.mem_map.mp mem
    obtain rfl := Option.some.inj event
    obtain rfl := Option.some.inj notified
    obtain ⟨before, after, same, -⟩ := List.lookup_eq_some_iff.mp found
    exact ⟨handle', by rw [same]; simp, rfl⟩
  · cases mem

/-! ### Steps -/

/-- Nothing about an attribute happens, and the map stays. -/
theorem InTune.aside {l : WorkerLabel} {r : Worker × List Output} (inv : InTune s)
    (one : OneAtATime r.1.stack)
    (other : ∀ work ∈ s.worker.workOf l, work.isAttribute = false ∧ work.remaps = false)
    (aside : Aside s.worker r) : InTune (s.after l r) := by
  have ghost : s.treeAfter (s.worker.workOf l) = s.tree ∧
      s.enabledAfter (s.worker.workOf l) = s.enabled := by
    cases performed : s.worker.workOf l with
    | none => exact ⟨rfl, rfl⟩
    | some work =>
        obtain ⟨apart, keeps⟩ := other work performed
        cases work with
        | finish | command => exact ⟨rfl, rfl⟩
        | change p =>
            cases p with
            | connected b =>
                cases b with
                | false => cases keeps
                | true => exact ⟨rfl, rfl⟩
            | _ => exact ⟨rfl, rfl⟩
        | resume c r =>
            cases c with
            | notify => cases apart
            | managedObjects =>
                cases r with
                | objects => cases keeps
                | _ => exact ⟨rfl, rfl⟩
            | _ => exact ⟨rfl, rfl⟩
  have serves (path : List Char) (handle : UInt16) :
      (s.after l r).Serves path handle ↔ s.Serves path handle := by
    show _ ∧ _ ↔ _ ∧ _
    rw [show (s.after l r).tree = s.tree from ghost.1,
      show (s.after l r).worker.handleMap = s.worker.handleMap from aside.map]
  have notifies (handle : UInt16) (enable : Bool) (path : List Char) :
      .notify handle enable path ∈ callsIn r.1.stack ↔
        .notify handle enable path ∈ callsIn s.worker.stack := by
    rw [← mem_inFlight rfl, ← mem_inFlight rfl, aside.inFlight]
  refine
    { one := one
      routed := ?routed
      subs := ?subs
      starting := ?starting
      stopping := ?stopping
      settled := ?settled
      walked := ?walked
      faithful := ?faithful }
  case routed =>
    show ∀ objs ∈ s.treeAfter _, ∀ handle path parent,
      r.1.handleMap.lookup handle = some ⟨path, .characteristic, parent⟩ → _
    rw [ghost.1, aside.map]
    exact inv.routed
  case subs =>
    show ∀ sub ∈ r.1.notifySubs, _ ∧ sub.2 ∈ s.enabledAfter _
    rw [ghost.2, aside.subs]
    exact fun sub mem => ⟨(serves _ _).mpr (inv.subs sub mem).1, (inv.subs sub mem).2⟩
  case starting =>
    exact fun handle path mem => (serves _ _).mpr
      (inv.starting handle path ((notifies handle true path).mp mem))
  case stopping =>
    show ∀ handle path, _ → r.1.notifySubs = [] ∨
      ∃ parent, r.1.handleMap.lookup handle = some ⟨path, .characteristic, parent⟩
    rw [aside.subs, aside.map]
    exact fun handle path mem => inv.stopping handle path ((notifies handle false path).mp mem)
  case settled =>
    rcases inv.settled with ⟨none, starts⟩ | ⟨discovered, still⟩
    · left
      refine unsubscribed_iff.mpr ⟨aside.subs.trans none, ?_⟩
      show ∀ c ∈ EsphomeHost.inFlight r.1.stack, _
      rw [aside.inFlight]
      exact (unsubscribed_iff.mp ⟨none, starts⟩).2
    · refine .inr ⟨aside.discovered discovered, fun walks => ?_⟩
      rcases aside.walks walks with before | undiscovered
      · exact still before
      · rw [discovered] at undiscovered
        cases undiscovered
  case walked =>
    show s.treeAfter _ ≠ none → _
    rw [ghost.1]
    intro linked
    rcases inv.walked linked with discovered | gap
    · exact .inl (aside.discovered discovered)
    · exact aside.gaps gap
  case faithful =>
    show ∀ n ∈ s.notified ++ s.heard l r.2, n.Faithful
    rw [heard_silent aside.silent, List.append_nil]
    exact inv.faithful

/-- Commands are handed over. -/
theorem InTune.took {cmds : List HostGattCommand} (inv : InTune s) (idle : s.worker.stack = []) :
    InTune (s.after (.take cmds) ({ s.worker with stack := [.commands cmds] }, [])) := by
  refine ⟨⟨rfl, Nat.zero_le _⟩, inv.routed, inv.subs, nofun, nofun, ?_, ?_, ?_⟩
  · rcases inv.settled with ⟨none, -⟩ | ⟨discovered, -⟩
    · exact .inl ⟨none, nofun⟩
    · exact .inr ⟨discovered, nofun⟩
  · intro linked
    rcases inv.walked linked with discovered | ⟨c, mem, -⟩
    · exact .inl discovered
    · rw [idle] at mem
      cases mem
  · show ∀ n ∈ s.notified ++ [], n.Faithful
    rw [List.append_nil]
    exact inv.faithful

/-- A value is signalled: it is posted under the handle of the subscription. -/
theorem InTune.signalled {path : List Char} {values : List (List UInt8)} (inv : InTune s) :
    InTune (s.after (.value path values) (s.worker, s.worker.valueChanged path values)) := by
  refine { inv with faithful := ?_ }
  intro n mem
  rcases List.mem_append.mp mem with old | new
  · exact inv.faithful n old
  · obtain ⟨handle, subscribed, rfl⟩ := heard_value path values n new
    obtain ⟨⟨linked, parent, found⟩, enabled⟩ := inv.subs _ subscribed
    obtain ⟨objs, tree⟩ := Option.ne_none_iff_exists'.mp linked
    exact ⟨⟨path, rfl, objs, tree, inv.routed objs tree handle path parent found⟩, enabled⟩

/-- The link is found down with nothing subscribed. -/
theorem InTune.lowered {ps : List PropertyChange} {below : List Frame} (inv : InTune s)
    (stack : s.worker.stack = .properties (.connected false :: ps) :: below)
    (unsubscribed : s.worker.Unsubscribed) (one : OneAtATime (.properties ps :: below)) :
    InTune (s.after .advance
      ({ s.worker with stack := .properties ps :: below }.workerOnConnectedChanged false)) := by
  have performed : s.worker.workOf .advance = some (.change (.connected false)) := by
    rw [Worker.workOf, stack]
    rfl
  have tree : s.treeAfter (s.worker.workOf .advance) = none := by rw [performed]; rfl
  obtain ⟨empty, starts⟩ := unsubscribed
  rw [stack] at starts
  refine ⟨one, ?_, ?_, ?_, fun _ _ _ => .inl empty, .inl ⟨empty, starts⟩, ?_, ?_⟩
  · show ∀ objs ∈ s.treeAfter _, _
    rw [tree]
    intro objs mem
    cases mem
  · show ∀ sub ∈ s.worker.notifySubs, _
    rw [empty]
    intro sub mem
    cases mem
  · intro handle path mem
    cases starts _ mem
  · show s.treeAfter _ ≠ none → _
    rw [tree]
    exact fun some => absurd rfl some
  · show ∀ n ∈ s.notified ++ [], n.Faithful
    rw [List.append_nil]
    exact inv.faithful

/-- The objects are linked: nothing is subscribed as long as a walk waits for them. -/
theorem InTune.linked {reply : List ManagedObject} {rest : List Frame} (inv : InTune s)
    (stack : s.worker.stack = .call .managedObjects (some (.objects reply)) :: rest)
    (one : OneAtATime ({ s.worker with stack := rest }.walkObjects reply).1.stack) :
    InTune (s.after .advance ({ s.worker with stack := rest }.walkObjects reply)) := by
  have performed : s.worker.workOf .advance = some (.resume .managedObjects (.objects reply)) := by
    rw [Worker.workOf, stack]
    rfl
  have tree : s.treeAfter (s.worker.workOf .advance) =
      (linkServices (gattObjects s.worker.devicePath reply)
        (gattObjects s.worker.devicePath reply) []).2.map
          fun _ => gattObjects s.worker.devicePath reply := by rw [performed]; rfl
  obtain ⟨empty, starts⟩ : s.worker.Unsubscribed := by
    refine inv.settled.resolve_right fun settled => settled.2 ?_
    rw [stack]
    exact List.mem_cons_self
  obtain ⟨subs, map, -, ⟨new, after, calls⟩, silent⟩ :=
    Worker.aloof_walkObjects (w := { s.worker with stack := rest }) reply
  have subs : ({ s.worker with stack := rest }.walkObjects reply).1.notifySubs = [] :=
    subs.trans empty
  have unsubscribed : ({ s.worker with stack := rest }.walkObjects reply).1.Unsubscribed := by
    refine unsubscribed_iff.mpr ⟨subs, ?_⟩
    rw [after, inFlight_new fun c mem => (calls c mem).1]
    intro c mem
    refine starts c ?_
    rw [stack]
    exact List.mem_cons_of_mem _ (List.mem_filter.mp mem).1
  refine ⟨one, ?_, ?_, ?_, fun _ _ _ => .inl subs, .inl unsubscribed, ?_, ?_⟩
  · show ∀ objs ∈ s.treeAfter _, ∀ handle path parent,
      ({ s.worker with stack := rest }.walkObjects reply).1.handleMap.lookup handle = _ → _
    rw [tree, map]
    intro objs linked handle path parent found
    obtain ⟨t, result, rfl⟩ := Option.map_eq_some_iff.mp linked
    exact assigns_of_linked (Prod.ext rfl result) found
  · show ∀ sub ∈ ({ s.worker with stack := rest }.walkObjects reply).1.notifySubs, _
    rw [subs]
    intro sub mem
    cases mem
  · intro handle path mem
    cases unsubscribed.2 _ mem
  · show s.treeAfter _ ≠ none → _
    rw [tree]
    intro linked
    cases result : (linkServices (gattObjects s.worker.devicePath reply)
        (gattObjects s.worker.devicePath reply) []).2 with
    | none => exact absurd (by rw [result]; rfl) linked
    | some t =>
        exact Worker.walkObjects_linked (w := { s.worker with stack := rest })
          (Prod.ext rfl result)
  · show ∀ n ∈ s.notified ++ s.heard .advance _, n.Faithful
    rw [heard_silent silent, List.append_nil]
    exact inv.faithful

/-- A command is begun: `StartNotify` is called for a handle that the map of a linked tree has. -/
theorem InTune.begun {cmd : HostGattCommand} {cmds : List HostGattCommand} (inv : InTune s)
    (guard : SubscribesInTree s .advance) (about : cmd.isAttribute = true)
    (stack : s.worker.stack = [.commands (cmd :: cmds)])
    (one : OneAtATime ({ s.worker with stack := [.commands cmds] }.execute cmd).1.stack) :
    InTune (s.after .advance ({ s.worker with stack := [.commands cmds] }.execute cmd)) := by
  have performed : s.worker.workOf .advance = some (.command cmd) := by
    rw [Worker.workOf, stack]
    rfl
  have admitted : s.Admits (.command cmd) := guard _ performed
  have discovered (linked : s.tree ≠ none) : s.worker.discovered = true := by
    rcases inv.walked linked with discovered | ⟨c, mem, -⟩
    · exact discovered
    · rw [stack] at mem
      cases mem
  have tree : s.treeAfter (s.worker.workOf .advance) = s.tree := by rw [performed]; rfl
  have enabled : s.enabledAfter (s.worker.workOf .advance) = s.enabled := by rw [performed]; rfl
  rcases execute_attribute (w := { s.worker with stack := [.commands cmds] }) about with
    ⟨ev, result, done⟩ | ⟨c, about, routes, done⟩
  · rw [done] at one ⊢
    refine
      { one := one
        routed := ?routed
        subs := ?subs
        starting := ?starting
        stopping := ?stopping
        settled := ?settled
        walked := ?walked
        faithful := ?faithful }
    case routed =>
      show ∀ objs ∈ s.treeAfter _, _
      rw [tree]
      exact inv.routed
    case subs =>
      show ∀ sub ∈ s.worker.notifySubs, (s.treeAfter _ ≠ none ∧ _) ∧ sub.2 ∈ s.enabledAfter _
      rw [tree, enabled]
      exact inv.subs
    case starting =>
      intro handle path mem
      cases mem
    case stopping =>
      intro handle path mem
      cases mem
    case settled =>
      rcases inv.settled with ⟨empty, -⟩ | ⟨discovered, -⟩
      · refine .inl ⟨empty, fun c mem => ?_⟩
        cases mem
      · refine .inr ⟨discovered, fun mem => ?_⟩
        cases mem
    case walked =>
      show s.treeAfter _ ≠ none → _
      rw [tree]
      exact fun linked => .inl (discovered linked)
    case faithful =>
      show ∀ n ∈ s.notified ++ s.heard .advance [.event ev], n.Faithful
      rw [heard_post result, List.append_nil]
      exact inv.faithful
  · rw [done] at one ⊢
    have only {c' : Call} (mem : c' ∈ callsIn (.call c none :: [.commands cmds])) : c' = c :=
      List.mem_singleton.mp mem
    have starting (handle : UInt16) (path : List Char) (same : c = .notify handle true path) :
        s.Serves path handle := by
      obtain ⟨rfl, parent, found⟩ := routes handle true path same
      exact ⟨admitted _ found rfl, parent, found⟩
    refine
      { one := one
        routed := ?routed
        subs := ?subs
        starting := ?starting
        stopping := ?stopping
        settled := ?settled
        walked := ?walked
        faithful := ?faithful }
    case routed =>
      show ∀ objs ∈ s.treeAfter _, _
      rw [tree]
      exact inv.routed
    case subs =>
      show ∀ sub ∈ s.worker.notifySubs, (s.treeAfter _ ≠ none ∧ _) ∧ sub.2 ∈ s.enabledAfter _
      rw [tree, enabled]
      exact inv.subs
    case starting =>
      intro handle path mem
      show s.treeAfter _ ≠ none ∧ _
      rw [tree]
      exact starting handle path (only mem).symm
    case stopping =>
      intro handle path mem
      exact .inr (routes handle false path (only mem).symm).2
    case settled =>
      cases start : c.startsNotify with
      | false =>
          rcases inv.settled with ⟨empty, -⟩ | ⟨discovered, -⟩
          · refine .inl ⟨empty, fun c' mem => ?_⟩
            rw [only mem]
            exact start
          · refine .inr ⟨discovered, fun mem => ?_⟩
            rw [← only mem] at about
            cases about
      | true =>
          refine .inr ⟨?_, fun mem => ?_⟩
          · cases c with
            | notify handle enable path =>
                obtain rfl : enable = true := start
                exact discovered (starting handle path rfl).1
            | _ => cases start
          · rw [← only mem] at about
            cases about
    case walked =>
      show s.treeAfter _ ≠ none → _
      rw [tree]
      exact fun linked => .inl (discovered linked)
    case faithful =>
      show ∀ n ∈ s.notified ++ [], n.Faithful
      rw [List.append_nil]
      exact inv.faithful

/-- What an attribute call leaves of the subscriptions was there before, or is the subscription of a
`StartNotify`; whatever is left is still enabled. -/
theorem InTune.subsAfter {c : Call} {r : Reply} {rest : List Frame} (inv : InTune s)
    (stack : s.worker.stack = .call c (some r) :: rest) :
    (∀ sub ∈ EsphomeHost.subsAfter s.worker.notifySubs c r,
      s.Serves sub.1 sub.2 ∧ sub.2 ∈ s.enabledAfter (some (.resume c r))) ∧
    (s.worker.notifySubs = [] → c.startsNotify = false →
      EsphomeHost.subsAfter s.worker.notifySubs c r = []) := by
  have kept : (∀ sub ∈ s.worker.notifySubs, s.Serves sub.1 sub.2 ∧ sub.2 ∈ s.enabled) ∧
      (s.worker.notifySubs = [] → c.startsNotify = false → s.worker.notifySubs = []) :=
    ⟨inv.subs, fun empty _ => empty⟩
  have waits : c ∈ callsIn s.worker.stack := by
    rw [stack]
    exact List.mem_cons_self
  cases c with
  | notify handle enable path =>
      cases r with
      | error => exact kept
      | _ =>
          cases enable with
          | true =>
              refine ⟨?_, fun _ start => by cases start⟩
              show ∀ sub ∈ subsSet s.worker.notifySubs handle true path,
                s.Serves sub.1 sub.2 ∧ sub.2 ∈ handle :: s.enabled
              have old (sub) (mem : sub ∈ s.worker.notifySubs) :
                  s.Serves sub.1 sub.2 ∧ sub.2 ∈ handle :: s.enabled :=
                ⟨(inv.subs sub mem).1, List.mem_cons_of_mem _ (inv.subs sub mem).2⟩
              unfold subsSet
              rw [if_pos rfl]
              split
              · exact old
              · intro sub mem
                rcases List.mem_append.mp mem with before | new
                · exact old sub before
                · obtain rfl := List.mem_singleton.mp new
                  exact ⟨inv.starting handle path waits, List.mem_cons_self⟩
          | false =>
              have left : subsSet s.worker.notifySubs handle false path =
                  s.worker.notifySubs.filter (·.1 ≠ path) := rfl
              constructor
              · show ∀ sub ∈ subsSet s.worker.notifySubs handle false path,
                  s.Serves sub.1 sub.2 ∧ sub.2 ∈ s.enabled.filter (· ≠ handle)
                rw [left]
                intro sub mem
                obtain ⟨mem, elsewhere⟩ := List.mem_filter.mp mem
                have elsewhere : sub.1 ≠ path := of_decide_eq_true elsewhere
                obtain ⟨serves, enabled⟩ := inv.subs sub mem
                refine ⟨serves, List.mem_filter.mpr ⟨enabled, decide_eq_true ?_⟩⟩
                -- the handle that is disabled leads to `path`, that of `sub` leads elsewhere
                intro same
                rcases inv.stopping handle path waits with empty | ⟨parent, found⟩
                · rw [empty] at mem
                  cases mem
                · obtain ⟨-, parent', there⟩ := serves
                  rw [same, found] at there
                  exact elsewhere (ObjEntry.mk.inj (Option.some.inj there)).1.symm
              · intro empty _
                show subsSet s.worker.notifySubs handle false path = []
                rw [left, empty]
                rfl
  | managedObjects => cases r <;> exact kept
  | _ => exact kept

/-- An attribute call is taken up. -/
theorem InTune.ended {c : Call} {r : Reply} {rest : List Frame} (inv : InTune s)
    (about : c.isAttribute = true) (stack : s.worker.stack = .call c (some r) :: rest)
    (one : OneAtATime ({ s.worker with stack := rest }.resume c r).1.stack) :
    InTune (s.after .advance ({ s.worker with stack := rest }.resume c r)) := by
  have performed : s.worker.workOf .advance = some (.resume c r) := by
    rw [Worker.workOf, stack]
    rfl
  have tree : s.treeAfter (s.worker.workOf .advance) = s.tree := by
    rw [performed]
    cases c <;> first | rfl | cases about
  have alone : inFlight rest = [] := by
    have before := inv.one
    rw [stack] at before
    exact before.alone about
  obtain ⟨subs, fresh⟩ := inv.subsAfter stack
  obtain ⟨ev, result, done⟩ := resume_attribute (w := { s.worker with stack := rest }) about r
  rw [done] at one ⊢
  have quiet (c' : Call) (about : c'.isAttribute = true) : c' ∉ callsIn rest := fun mem => by
    have mem := (mem_inFlight about).mpr mem
    rw [alone] at mem
    cases mem
  refine
    { one := one
      routed := ?routed
      subs := ?subs
      starting := ?starting
      stopping := ?stopping
      settled := ?settled
      walked := ?walked
      faithful := ?faithful }
  case routed =>
    show ∀ objs ∈ s.treeAfter _, _
    rw [tree]
    exact inv.routed
  case subs =>
    show ∀ sub ∈ EsphomeHost.subsAfter s.worker.notifySubs c r,
      (s.treeAfter _ ≠ none ∧ _) ∧ sub.2 ∈ s.enabledAfter (s.worker.workOf .advance)
    rw [tree, performed]
    exact subs
  case starting =>
    exact fun handle path mem => absurd mem (quiet _ rfl)
  case stopping =>
    exact fun handle path mem => absurd mem (quiet _ rfl)
  case settled =>
    rcases inv.settled with ⟨empty, starts⟩ | ⟨discovered, still⟩
    · rw [stack] at starts
      refine .inl ⟨fresh empty (starts c List.mem_cons_self), fun c' mem => ?_⟩
      exact starts c' (List.mem_cons_of_mem _ mem)
    · rw [stack] at still
      exact .inr ⟨discovered, fun mem => still (List.mem_cons_of_mem _ mem)⟩
  case walked =>
    show s.treeAfter _ ≠ none → s.worker.discovered = true ∨ ∃ c' ∈ callsIn rest, c'.isGap = true
    rw [tree]
    intro linked
    rcases inv.walked linked with discovered | ⟨c', mem, gap⟩
    · exact .inl discovered
    · rw [stack] at mem
      rcases List.mem_cons.mp mem with rfl | mem
      · cases c' <;> first | cases gap; done | cases about
      · exact .inr ⟨c', mem, gap⟩
  case faithful =>
    show ∀ n ∈ s.notified ++ s.heard .advance [.event ev], n.Faithful
    rw [heard_post result, List.append_nil]
    exact inv.faithful

/-- **One step keeps the subscriptions in tune with the map.** -/
theorem inTune_step {s t : NotifyRun} {l : WorkerLabel} (inv : InTune s)
    (guard : SubscribesInTree s l) (step : notifyMachine.step s l = some t) : InTune t := by
  obtain ⟨r, stepped, rfl⟩ := Option.map_eq_some_iff.mp step
  have move := workerStep_attributes inv.one.last stepped
  have one := inv.one.step move
  cases move with
  | took cmds idle => exact inv.took idle
  | begun cmd cmds about stack => exact inv.begun guard about stack one
  | ended c r rest about stack => exact inv.ended about stack one
  | lowered ps below stack =>
      have performed : s.worker.workOf .advance = some (.change (.connected false)) := by
        rw [Worker.workOf, stack]
        rfl
      exact inv.lowered stack (guard _ performed) one
  | walked reply rest stack => exact inv.linked stack one
  | signalled path values => exact inv.signalled
  | aside last given other aside => exact inv.aside one other aside

/-- **Every `NOTIFY` carries the handle that the connection's tree assigns to the characteristic,
and notifications were enabled on it in the connection**, in every run in which the link is found
down only while nothing is subscribed, and no tree is subscribed to that was not linked. -/
theorem faithful_of_unsubscribed {s : NotifyRun}
    (run : notifyMachine.ReachableUnder SubscribesInTree s) : s.Faithful := by
  refine (run.invariant (I := InTune) ?_ fun _ _ _ inv guard step =>
    inTune_step inv guard step).faithful
  rintro _ ⟨devicePath, rfl⟩
  exact ⟨⟨trivial, Nat.zero_le _⟩, nofun, nofun, nofun, nofun, .inl ⟨rfl, nofun⟩,
    fun linked => absurd rfl linked, nofun⟩

/-! ## Two runs -/

/-- A device with one characteristic, which has the handle. -/
def oneCharacteristic (handle : UInt16) : List ManagedObject :=
  [⟨"/d/s".toList, [(.service1, [])]⟩,
    ⟨"/d/s/c".toList, [(.characteristic1, [.handle handle, .service "/d/s".toList])]⟩]

/-- `GetManagedObjects` is answered, then what `synthesize_gap_service_` and `acquire_mtu_` ask. -/
def servesAt (handle : UInt16) : List WorkerLabel :=
  [.answer 0 (.objects (oneCharacteristic handle)), .advance, .answer 0 (.string [0x74]), .advance,
    .answer 0 (.uint16 0), .advance, .answer 0 (.uint16 100), .advance]

/-- The bus is opened and the device found connected and resolved. -/
def opening : List WorkerLabel :=
  [.take [.connect], .advance, .answer 0 .done, .advance, .answer 0 (.bool true), .advance,
    .answer 0 (.bool true), .advance]

def subscribing (handle : UInt16) (enable : Bool) : List WorkerLabel :=
  [.take [.setNotify handle enable], .advance, .answer 0 .done, .advance, .advance]

/-- The link goes down and comes up again. -/
def relinking : List WorkerLabel :=
  [.signal [.connected false], .advance, .advance, .signal [.connected true], .advance,
    .answer 0 (.bool true), .advance]

def valued : WorkerLabel := .value "/d/s/c".toList [[0x2A]]

def unlinked : NotifyRun := { worker := { devicePath := "/d".toList } }

/-- A client that unsubscribes before its link goes down, and subscribes under the new handle. -/
theorem faithful_resubscribed : ∃ s,
    notifyMachine.ReachableUnder SubscribesInTree s ∧ s.notified.map (·.handle) = [5, 7] ∧
      s.Faithful := by
  have ran : (notifyMachine.guarded SubscribesInTree).run unlinked
      (opening ++ servesAt 5 ++ [.advance] ++ subscribing 5 true ++ [valued] ++
        subscribing 5 false ++ relinking ++ servesAt 7 ++ [.advance] ++ subscribing 7 true ++
          [valued]) = some _ := rfl
  have run : notifyMachine.ReachableUnder SubscribesInTree _ :=
    ⟨unlinked, ⟨_, rfl⟩, Machine.run_guarded_reach ran⟩
  exact ⟨_, run, rfl, faithful_of_unsubscribed run⟩

/-- A subscription outlives its connection: in the next one, which has the characteristic at another
handle and subscribes to that, its value is notified under the old handle. -/
theorem not_faithful_reconnected : ∃ s, notifyMachine.Reachable s ∧
    s.notified.map (fun n => (n.handle, n.enabled)) = [(5, [7])] ∧ ¬ s.Faithful := by
  have ran : notifyMachine.run unlinked
      (opening ++ servesAt 5 ++ [.advance] ++ subscribing 5 true ++ relinking ++ servesAt 7 ++
        [.advance] ++ subscribing 7 true ++ [valued]) = some _ := rfl
  refine ⟨_, ⟨unlinked, ⟨_, rfl⟩, Machine.run_reach ran⟩, rfl, fun faithful => ?_⟩
  have enabled := (faithful _ List.mem_cons_self).enabled
  exact absurd enabled (by decide)

end EsphomeHost

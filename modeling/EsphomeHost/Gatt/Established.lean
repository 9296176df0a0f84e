import EsphomeHost.Gatt.Session

/-!
# Quiet sessions are established

* `Turn`: what is still to come of a session while a round of the worker is performed, and nothing
  is performed when the role is `plain`.
* `established_of_noLateRaise`: a client that was last asked to connect is `ESTABLISHED` once
  everything is quiet and the services are resolved, in every run in which the device is never found
  connected while `discovered_` is set.
* `not_established_reconnected`: `connect()` on an established client parks it in `CONNECTED`.
-/

namespace EsphomeHost

/-! ## What is still to come -/

/-- A change on which a discovery is tried. -/
def PropertyChange.rises : PropertyChange → Bool
  | connected b | servicesResolved b => b
  | other => false

/-- The two commands that decide over the link. -/
def HostGattCommand.drives : HostGattCommand → Bool
  | connect | disconnect => true
  | _ => false

def Frame.changes : Frame → List PropertyChange
  | properties rest => rest
  | _ => []

/-- `open_bus_` is waited for, or about to succeed. -/
def Frame.opens : Frame → Bool
  | call .openBus none => true
  | call .openBus (some (.error _ _)) => false
  | call .openBus (some _) => true
  | _ => false

/-- What surrounds the worker.  `served`: the client is established, once it has dispatched what is
queued. -/
structure Scene where
  link : Bool
  resolved : Bool
  signals : List PropertyChange
  queue : List HostGattCommand
  wanted : Bool
  served : Bool

/-- The changes a stack has still to go through. -/
def changesOf (stack : List Frame) : List PropertyChange := stack.flatMap Frame.changes

/-- The values of `Connected` still to be handled. -/
def upcoming (changes : List PropertyChange) : List Bool := changes.filterMap PropertyChange.link?

/-- The round that is performed, or a function that waits, has one of the roles. -/
def Holds (role : Role) (stack : List Frame) (roles : List Role) : Prop :=
  role ∈ roles ∨ ∃ f ∈ stack, f.role ∈ roles

/-- No `Connected` waits behind another function. -/
def InOrder (stack : List Frame) : Prop :=
  upcoming (changesOf stack) = [] ∨ ∃ b ps rest,
    stack = .properties (.connected b :: ps) :: rest ∧ upcoming (ps ++ changesOf rest) = []

namespace Scene

variable (x : Scene)

def changes (stack : List Frame) : List PropertyChange := changesOf stack ++ x.signals

def commands (stack : List Frame) : List HostGattCommand := x.queue ++ owedOf stack

/-- The main thread's side after some link events. -/
def after (evs : List HostGattEvent) : Scene :=
  { x with served := evs.foldl (fun _ e => e.isServicesDiscovered) x.served }

end Scene

/-- The roles that lead to a discovery or to the end of the link. -/
def rising : List Role := [.probe, .raise, .poll, .walk, .drop]

/-- The roles after which `SERVICES_DISCOVERED` is posted again or the link ends. -/
def serving : List Role := [.probe, .raise, .lower, .mtu, .drop]

/-- The worker and what surrounds it, while a round of the given role is performed. -/
structure Turn (role : Role) (x : Scene) (w : Worker) : Prop where
  closed : w.busOpen = false → w.discovered = false ∧ w.discovering = false ∧
    ¬ Holds role w.stack [.walk] ∧ upcoming (x.changes w.stack) = []
  calls : ¬ Holds role w.stack [.retry, .refuse]
  flight : w.discovering = true → Holds role w.stack [if w.discovered then .mtu else .walk]
  last : ∀ b ∈ (upcoming (x.changes w.stack)).getLast?, b = x.link
  lower : role = .lower → x.link = true → ∃ p ∈ x.changes w.stack, p.rises = true
  opens : x.wanted = true → w.busOpen = true ∨ role = .probe ∨ .connect ∈ x.commands w.stack ∨
    ∃ f ∈ w.stack, f.opens = true
  rises : w.busOpen = true → x.link = true → x.resolved = true → w.discovered = false →
    Holds role w.stack rising ∨ ∃ p ∈ x.changes w.stack, p.rises = true
  serves : w.discovered = true → x.link = true →
    Holds role w.stack serving ∨ upcoming (x.changes w.stack) ≠ [] ∨
      (∃ cmd ∈ x.commands w.stack, cmd.drives = true) ∨ x.served = true

variable {role : Role} {x : Scene} {w : Worker}

/-! ## Frames that come and go -/

theorem Holds.plain {stack : List Frame} {roles : List Role} (holds : Holds role stack roles)
    (out : role ∉ roles) (new : List Frame) : Holds .plain (new ++ stack) roles := by
  rcases holds with now | ⟨f, mem, later⟩
  · exact absurd now out
  · exact .inr ⟨f, List.mem_append_right _ mem, later⟩

theorem changesOf_append (new stack : List Frame) :
    changesOf (new ++ stack) = changesOf new ++ changesOf stack := List.flatMap_append

theorem upcoming_append (xs ys : List PropertyChange) :
    upcoming (xs ++ ys) = upcoming xs ++ upcoming ys := List.filterMap_append

theorem rises_of_upcoming {changes : List PropertyChange} (up : true ∈ upcoming changes) :
    ∃ p ∈ changes, p.rises = true := by
  obtain ⟨p, mem, value⟩ := List.mem_filterMap.mp up
  cases p with
  | connected b =>
      obtain rfl := Option.some.inj value
      exact ⟨_, mem, rfl⟩
  | _ => cases value

theorem changesOf_calls {new : List Frame} (calls : ∀ f ∈ new, ∃ c, f = .call c none) :
    changesOf new = [] :=
  List.flatMap_eq_nil_iff.mpr fun f mem => by
    obtain ⟨c, rfl⟩ := calls f mem
    rfl

/-! ### Taking a round up -/

/-- The roles that only a call has. -/
def Role.ofCall : Role → Bool
  | walk | mtu | retry | refuse => true
  | _ => false

theorem ofCall_command (cmd : HostGattCommand) : (Work.command cmd).role.ofCall = false := by
  cases cmd <;> rfl

theorem ofCall_change (p : PropertyChange) : (Work.change p).role.ofCall = false := by
  cases p with
  | other => rfl
  | connected b | servicesResolved b => cases b <;> rfl

section Next

variable {stack rest : List Frame} {work : Work}

/-- The round that is taken up, or a function that goes on waiting. -/
theorem holds_next (next : Worker.nextWork stack = some (work, rest)) {roles : List Role}
    (plain : Role.plain ∉ roles) (holds : Holds .plain stack roles) :
    Holds work.role rest roles := by
  rcases holds with now | ⟨f, mem, later⟩
  · exact absurd now plain
  rcases nextWork_cases next with ⟨f, rfl | rfl, rfl, rfl⟩ | ⟨cmd, cmds, below, rfl, rfl, rfl⟩ |
    ⟨p, ps, below, rfl, rfl, rfl⟩ | ⟨c, r, rfl, rfl⟩ <;>
    rcases List.mem_cons.mp mem with rfl | mem
  all_goals first
    | exact absurd later plain
    | exact .inr ⟨_, List.mem_cons_of_mem _ mem, later⟩
    | exact .inr ⟨_, mem, later⟩
    | exact .inl later

/-- A role that only a call has was there before. -/
theorem holds_before (next : Worker.nextWork stack = some (work, rest)) {roles : List Role}
    (calls : ∀ role ∈ roles, role.ofCall = true) (holds : Holds work.role rest roles) :
    Holds .plain stack roles := by
  have plain : Role.plain ∉ roles := fun mem => absurd (calls _ mem) (by decide)
  rcases nextWork_cases next with ⟨f, rfl | rfl, rfl, rfl⟩ | ⟨cmd, cmds, below, rfl, rfl, rfl⟩ |
    ⟨p, ps, below, rfl, rfl, rfl⟩ | ⟨c, r, rfl, rfl⟩
  · exact holds.plain plain [_]
  · exact holds.plain plain [_]
  · rcases holds with now | ⟨f, mem, later⟩
    · exact absurd (calls _ now) (by rw [ofCall_command]; decide)
    · rcases List.mem_cons.mp mem with rfl | mem
      · exact absurd later plain
      · exact .inr ⟨f, List.mem_cons_of_mem _ mem, later⟩
  · rcases holds with now | ⟨f, mem, later⟩
    · exact absurd (calls _ now) (by rw [ofCall_change]; decide)
    · rcases List.mem_cons.mp mem with rfl | mem
      · exact absurd later plain
      · exact .inr ⟨f, List.mem_cons_of_mem _ mem, later⟩
  · rcases holds with now | ⟨f, mem, later⟩
    · exact .inr ⟨_, List.mem_cons_self .., now⟩
    · exact .inr ⟨f, List.mem_cons_of_mem _ mem, later⟩

/-- The change that is handled in a round. -/
def Work.changes : Work → List PropertyChange
  | change p => [p]
  | _ => []

theorem changesOf_next (next : Worker.nextWork stack = some (work, rest)) :
    changesOf stack = work.changes ++ changesOf rest := by
  rcases nextWork_cases next with ⟨f, rfl | rfl, rfl, rfl⟩ | ⟨cmd, cmds, below, rfl, rfl, rfl⟩ |
    ⟨p, ps, below, rfl, rfl, rfl⟩ | ⟨c, r, rfl, rfl⟩ <;> rfl

/-- After a round is taken up, no `Connected` waits on the stack. -/
theorem upcoming_next (next : Worker.nextWork stack = some (work, rest)) (order : InOrder stack) :
    upcoming (changesOf rest) = [] := by
  rcases order with none | ⟨b, ps, below, rfl, none⟩
  · rw [changesOf_next next, upcoming_append] at none
    exact (List.append_eq_nil_iff.mp none).2
  · obtain ⟨-, rfl⟩ := Prod.mk.inj (Option.some.inj next)
    exact none

theorem opens_next (next : Worker.nextWork stack = some (work, rest))
    (opens : ∃ f ∈ stack, f.opens = true) :
    work.role = .probe ∨ ∃ f ∈ rest, f.opens = true := by
  obtain ⟨f, mem, opens⟩ := opens
  rcases nextWork_cases next with ⟨f, rfl | rfl, rfl, rfl⟩ | ⟨cmd, cmds, below, rfl, rfl, rfl⟩ |
    ⟨p, ps, below, rfl, rfl, rfl⟩ | ⟨c, r, rfl, rfl⟩ <;>
    rcases List.mem_cons.mp mem with rfl | mem
  all_goals first
    | cases opens
    | exact .inr ⟨_, mem, opens⟩
    | exact .inr ⟨_, List.mem_cons_of_mem _ mem, opens⟩
    | skip
  cases c with
  | openBus =>
      cases r with
      | error => cases opens
      | _ => exact .inl rfl
  | _ => cases opens

end Next

/-- A change that is handled raises the roles it stands for. -/
theorem rising_of_change {p : PropertyChange} (rises : p.rises = true) :
    (Work.change p).role ∈ rising := by
  cases p with
  | other => cases rises
  | connected b | servicesResolved b => cases b <;> first | decide | cases rises

theorem serving_of_change {p : PropertyChange} {b : Bool} (value : p.link? = some b) :
    (Work.change p).role ∈ serving := by
  cases p with
  | connected b => cases b <;> decide
  | _ => cases value

theorem serving_of_command {cmd : HostGattCommand} (drives : cmd.drives = true) :
    (Work.command cmd).role ∈ serving := by
  cases cmd <;> first | decide | cases drives

/-- Only a `Connected` that is false lowers. -/
theorem lower_eq {work : Work} (lower : work.role = .lower) :
    work = .change (.connected false) := by
  cases work with
  | finish => cases lower
  | command cmd => cases cmd <;> cases lower
  | change p =>
      cases p with
      | other => cases lower
      | connected b | servicesResolved b => cases b <;> first | rfl | cases lower
  | resume c r =>
      exfalso
      have never : ∀ (c : Call) (r : Reply), c.role (some r) ≠ .lower := by
        intro c r
        cases c with
        | openBus => cases r <;> exact nofun
        | getConnected | recheckConnected | servicesResolved =>
            cases r with
            | bool b => cases b <;> exact nofun
            | _ => exact nofun
        | connect attempt =>
            cases r with
            | error name message =>
                show (if _ then Role.raise else .retry) ≠ .lower
                split <;> exact nofun
            | _ => exact nofun
        | _ => exact nofun
      exact never c r lower

/-- **Taking up a round.** -/
theorem Turn.enter {rest : List Frame} {work : Work} (inv : Turn .plain x w)
    (next : Worker.nextWork w.stack = some (work, rest)) :
    Turn work.role x { w with stack := rest } := by
  have changes : x.changes w.stack = work.changes ++ x.changes rest := by
    rw [Scene.changes, Scene.changes, changesOf_next next, List.append_assoc]
  have commands : ∀ cmd ∈ x.commands w.stack, cmd ∈ work.commands ∨ cmd ∈ x.commands rest := by
    intro cmd mem
    rw [Scene.commands, owedOf_next next] at mem
    rw [Scene.commands]
    simp only [List.mem_append] at mem ⊢
    tauto
  refine
    { closed := fun closed => ?closed
      calls := fun holds => ?calls
      flight := fun discovering => ?flight
      last := fun b last => ?last
      lower := fun lower up => ?lower
      opens := fun wanted => ?opens
      rises := fun isOpen up resolved fresh => ?rises
      serves := fun discovered up => ?serves }
  case closed =>
    obtain ⟨undiscovered, settled, noWalk, quiet⟩ := inv.closed closed
    rw [changes, upcoming_append] at quiet
    exact ⟨undiscovered, settled, fun holds => noWalk (holds_before next (by decide) holds),
      (List.append_eq_nil_iff.mp quiet).2⟩
  case calls =>
    exact inv.calls (holds_before next (by decide) holds)
  case flight =>
    have flight := inv.flight discovering
    refine holds_next next ?_ flight
    split <;> decide
  case last =>
    refine inv.last b ?_
    rw [changes, upcoming_append, List.getLast?_append]
    rw [show _ = some b from last]
    rfl
  case lower =>
    obtain rfl := lower_eq lower
    refine rises_of_upcoming ?_
    have last := inv.last
    rw [changes, upcoming_append, List.getLast?_append, up] at last
    cases later : (upcoming (x.changes rest)).getLast? with
    | none =>
        rw [later] at last
        exact absurd (last false rfl) (by decide)
    | some b =>
        rw [later] at last
        rw [← last b rfl]
        exact List.mem_of_getLast? later
  case opens =>
    rcases inv.opens wanted with isOpen | now | owed | opens
    · exact .inl isOpen
    · cases now
    · rcases commands _ owed with now | later
      · cases work with
        | command cmd =>
            obtain rfl := List.mem_singleton.mp now
            exact .inr (.inl rfl)
        | _ => cases now
      · exact .inr (.inr (.inl later))
    · rcases opens_next next opens with now | opens
      · exact .inr (.inl now)
      · exact .inr (.inr (.inr opens))
  case rises =>
    rcases inv.rises isOpen up resolved fresh with holds | ⟨p, mem, rises⟩
    · exact .inl (holds_next next (by decide) holds)
    · rw [changes] at mem
      rcases List.mem_append.mp mem with now | later
      · cases work with
        | change q =>
            obtain rfl := List.mem_singleton.mp now
            exact .inl (.inl (rising_of_change rises))
        | _ => cases now
      · exact .inr ⟨p, later, rises⟩
  case serves =>
    rcases inv.serves discovered up with holds | pending | ⟨cmd, mem, drives⟩ | served
    · exact .inl (holds_next next (by decide) holds)
    · by_cases later : upcoming (x.changes rest) = []
      · rw [changes, upcoming_append, later, List.append_nil] at pending
        cases work with
        | change q =>
            cases value : q.link? with
            | some b => exact .inl (.inl (serving_of_change value))
            | none => exact absurd (List.filterMap_cons_none value) pending
        | _ => exact absurd rfl pending
      · exact .inr (.inl later)
    · rcases commands cmd mem with now | later
      · cases work with
        | command c =>
            obtain rfl := List.mem_singleton.mp now
            exact .inl (.inl (serving_of_command drives))
        | _ => cases now
      · exact .inr (.inr (.inl ⟨cmd, later, drives⟩))
    · exact .inr (.inr (.inr served))

/-! ## What a round does -/

namespace Turn

/-- A round that ends in a call with its own role. -/
theorem call {c : Call} (inv : Turn role x w) (same : c.role none = role)
    (opens : role = .probe → w.busOpen = true ∨ (Frame.call c none).opens = true) :
    Turn .plain x (w.call c) := by
  have changes : x.changes (w.call c).stack = x.changes w.stack := rfl
  have commands : x.commands (w.call c).stack = x.commands w.stack := rfl
  have holds : ∀ roles, Holds role w.stack roles → Holds .plain (w.call c).stack roles := by
    rintro roles (now | ⟨f, mem, later⟩)
    · exact .inr ⟨_, List.mem_cons_self .., by rwa [Frame.role, same]⟩
    · exact .inr ⟨f, List.mem_cons_of_mem _ mem, later⟩
  have before : ∀ roles, Role.plain ∉ roles → Holds .plain (w.call c).stack roles →
      Holds role w.stack roles := by
    rintro roles plain (now | ⟨f, mem, later⟩)
    · exact absurd now plain
    · rcases List.mem_cons.mp mem with rfl | mem
      · exact .inl (by rwa [Frame.role, same] at later)
      · exact .inr ⟨f, mem, later⟩
  refine ⟨fun closed => ?_, fun again => inv.calls (before _ (by decide) again),
    fun discovering => holds _ (inv.flight discovering), inv.last, nofun, fun wanted => ?_,
    fun isOpen up resolved fresh => (inv.rises isOpen up resolved fresh).imp_left (holds _),
    fun discovered up => (inv.serves discovered up).imp_left (holds _)⟩
  · obtain ⟨undiscovered, settled, noWalk, quiet⟩ := inv.closed closed
    exact ⟨undiscovered, settled, fun walk => noWalk (before _ (by decide) walk), quiet⟩
  · rcases inv.opens wanted with isOpen | now | owed | ⟨f, mem, opens⟩
    · exact .inl isOpen
    · rcases opens now with isOpen | opens
      · exact .inl isOpen
      · exact .inr (.inr (.inr ⟨_, List.mem_cons_self .., opens⟩))
    · exact .inr (.inr (.inl owed))
    · exact .inr (.inr (.inr ⟨f, List.mem_cons_of_mem _ mem, opens⟩))

/-- A round without consequence leaves plain calls behind. -/
theorem quiet {new : List Frame} {r : Worker × List Output} (inv : Turn .plain x w)
    (quiets : Quiets w new r) (calls : PlainCalls new) : Turn .plain x r.1 := by
  obtain ⟨isOpen, discovered, discovering, -⟩ := LinkState.mk.inj quiets.link
  have changes : x.changes r.1.stack = x.changes w.stack := by
    rw [Scene.changes, quiets.stack, changesOf_append, changesOf_calls calls.calls]
    rfl
  have commands : x.commands r.1.stack = x.commands w.stack := by
    rw [Scene.commands, quiets.stack, owedOf_append, owedOf_calls calls.calls]
    rfl
  have holds : ∀ roles, Role.plain ∉ roles →
      (Holds .plain r.1.stack roles ↔ Holds .plain w.stack roles) := by
    intro roles plain
    rw [quiets.stack]
    refine ⟨?_, fun holds => holds.plain plain new⟩
    rintro (now | ⟨f, mem, later⟩)
    · exact absurd now plain
    · rcases List.mem_append.mp mem with mem | mem
      · rw [calls.plain f mem] at later
        exact absurd later plain
      · exact .inr ⟨f, mem, later⟩
  refine
    { closed := fun closed => ?closed
      calls := ?calls
      flight := fun flying => ?flight
      last := ?last
      lower := nofun
      opens := fun wanted => ?opens
      rises := fun opened up resolved fresh => ?rises
      serves := fun served up => ?serves }
  case closed =>
    rw [changes, discovered, discovering, holds _ (by decide)]
    exact inv.closed (isOpen ▸ closed)
  case calls =>
    rw [holds _ (by decide)]
    exact inv.calls
  case flight =>
    rw [discovered, holds _ (by split <;> decide)]
    exact inv.flight (discovering ▸ flying)
  case last =>
    rw [changes]
    exact inv.last
  case opens =>
    rw [isOpen, commands, quiets.stack]
    rcases inv.opens wanted with isOpen | now | owed | ⟨f, mem, opens⟩
    · exact .inl isOpen
    · cases now
    · exact .inr (.inr (.inl owed))
    · exact .inr (.inr (.inr ⟨f, List.mem_append_right _ mem, opens⟩))
  case rises =>
    rw [changes, holds _ (by decide)]
    exact inv.rises (isOpen ▸ opened) up resolved (discovered ▸ fresh)
  case serves =>
    rw [changes, commands, holds _ (by decide)]
    exact inv.serves (discovered ▸ served) up

/-- While the bus is closed, a round leaves nothing to come. -/
theorem of_closed (inv : Turn role x w) (closed : w.busOpen = false) (probe : role ≠ .probe)
    (served : Bool) : Turn .plain { x with served := served } w := by
  obtain ⟨undiscovered, settled, noWalk, quiet⟩ := inv.closed closed
  have frames : ∀ roles, Role.plain ∉ roles → ¬ Holds role w.stack roles →
      ¬ Holds .plain w.stack roles := by
    rintro roles plain none (now | later)
    · exact plain now
    · exact none (.inr later)
  refine ⟨fun _ => ⟨undiscovered, settled, frames _ (by decide) noWalk, quiet⟩,
    frames _ (by decide) inv.calls, fun discovering => ?_, inv.last, nofun, fun wanted => ?_,
    fun isOpen => ?_, fun discovered => ?_⟩
  · rw [settled] at discovering
    cases discovering
  · rcases inv.opens wanted with isOpen | now | later
    · exact .inl isOpen
    · exact absurd now probe
    · exact .inr (.inr later)
  · rw [closed] at isOpen
    cases isOpen
  · rw [undiscovered] at discovered
    cases discovered

/-- While the bus is open, a round may turn into one whose role leads to a discovery. -/
theorem become {w' : Worker} {role' : Role} {served : Bool} (inv : Turn role x w)
    (isOpen : w'.busOpen = true) (stack : w'.stack = w.stack)
    (calls : role' ∉ [Role.retry, .refuse, .lower]) (rise : role' ∈ rising ∨ w'.discovered = true)
    (flight : w'.discovering = true → Holds role' w.stack [if w'.discovered then .mtu else .walk])
    (serves : w'.discovered = true → role' ∈ serving ∨ ∃ f ∈ w.stack, f.role ∈ serving) :
    Turn role' { x with served := served } w' := by
  refine
    { closed := fun closed => ?closed
      calls := ?calls
      flight := fun flying => ?flight
      last := ?last
      lower := fun lower => ?lower
      opens := fun _ => .inl isOpen
      rises := fun _ _ _ fresh => ?rises
      serves := fun discovered _ => ?serves }
  case closed =>
    rw [isOpen] at closed
    cases closed
  case calls =>
    rw [stack]
    rintro (now | later)
    · exact calls (List.mem_cons.mpr ((List.mem_cons.mp now).imp_right fun mem =>
        List.mem_cons.mpr (.inl (List.mem_singleton.mp mem))))
    · exact inv.calls (.inr later)
  case flight =>
    rw [stack]
    exact flight flying
  case last =>
    rw [stack]
    exact inv.last
  case lower =>
    rw [lower] at calls
    exact absurd calls (by decide)
  case rises =>
    rcases rise with rise | discovered
    · exact .inl (.inl rise)
    · rw [fresh] at discovered
      cases discovered
  case serves =>
    rw [stack]
    exact .inl (serves discovered)

theorem workerOnConnectedChanged_true (inv : Turn .raise x w)
    (early : w.discovered = false ∨ w.discovering = true) :
    Turn .plain (x.after (linkEvents (w.workerOnConnectedChanged true).2))
      (w.workerOnConnectedChanged true).1 := by
  show Turn .plain { x with served := false } (if w.busOpen then w.call .servicesResolved else w)
  cases isOpen : w.busOpen with
  | false => exact inv.of_closed isOpen (by decide) false
  | true =>
      have polling : Turn .poll { x with served := false } w := by
        refine inv.become isOpen rfl (by decide) (.inl (by decide)) (fun flying => ?_)
          fun discovered => ?_
        · rcases inv.flight flying with now | later
          · exact absurd now (by split <;> decide)
          · exact .inr later
        · rcases early with fresh | flying
          · rw [fresh] at discovered
            cases discovered
          · rcases inv.flight flying with now | ⟨f, mem, later⟩
            · exact absurd now (by split <;> decide)
            · rw [if_pos discovered] at later
              refine .inr ⟨f, mem, ?_⟩
              rw [List.mem_singleton.mp later]
              decide
      exact polling.call rfl nofun

theorem workerOnConnectedChanged_false (inv : Turn .lower x w) :
    Turn .plain (x.after (linkEvents (w.workerOnConnectedChanged false).2))
      (w.workerOnConnectedChanged false).1 := by
  have frames : ∀ roles, Role.plain ∉ roles → Role.lower ∉ roles → ¬ Holds .lower w.stack roles →
      ¬ Holds .plain w.stack roles := by
    rintro roles plain lower none (now | later)
    · exact plain now
    · exact none (.inr later)
  refine ⟨fun closed => ?_, frames _ (by decide) (by decide) inv.calls, nofun, inv.last, nofun,
    fun wanted => ?_, fun _ up _ _ => .inr (inv.lower rfl up), nofun⟩
  · obtain ⟨-, -, noWalk, quiet⟩ := inv.closed closed
    exact ⟨rfl, rfl, frames _ (by decide) (by decide) noWalk, quiet⟩
  · rcases inv.opens wanted with isOpen | now | later
    · exact .inl isOpen
    · cases now
    · exact .inr (.inr later)

/-- `do_disconnect_` on an open bus ends the link. -/
theorem doDisconnect (inv : Turn role x w) (probe : role ≠ .probe)
    (settled : w.discovering = false ∨ role ≠ .mtu ∧ role ≠ .walk) :
    Turn .plain (x.after (linkEvents w.doDisconnect.2)) w.doDisconnect.1 := by
  unfold Worker.doDisconnect
  cases isOpen : w.busOpen with
  | false => exact inv.of_closed isOpen probe false
  | true =>
      have dropping : Turn .drop x w := by
        refine inv.become isOpen rfl (by decide) (.inl (by decide)) (fun flying => ?_)
          fun _ => .inl (by decide)
        rcases settled with settled | ⟨notMtu, notWalk⟩
        · rw [settled] at flying
          cases flying
        · rcases inv.flight flying with now | later
          · have same := List.mem_singleton.mp now
            split at same
            · exact absurd same notMtu
            · exact absurd same notWalk
          · exact .inr later
      exact dropping.call rfl nofun

theorem open_of_walk (inv : Turn .walk x w) : w.busOpen = true := by
  by_contra closed
  obtain ⟨-, -, noWalk, -⟩ := inv.closed (by simpa using closed)
  exact noWalk (.inl (by decide))

theorem walkFailed {m : HandleMap} (inv : Turn .walk x w) :
    Turn .plain (x.after (linkEvents { w with handleMap := m }.walkFailed.2))
      { w with handleMap := m }.walkFailed.1 := by
  have failed : Turn .drop x { w with handleMap := m, discovering := false } :=
    inv.become inv.open_of_walk rfl (by decide) (.inl (by decide)) nofun fun _ => .inl (by decide)
  exact failed.doDisconnect (by decide) (.inl rfl)

/-- A discovery that is not entered again. -/
theorem of_flags (inv : Turn .poll x w) (flags : w.discovered = true ∨ w.discovering = true) :
    Turn .plain x w := by
  have frames : ∀ roles, Role.poll ∉ roles → Holds .poll w.stack roles →
      Holds .plain w.stack roles := fun roles poll holds => holds.plain poll []
  refine ⟨fun closed => ?_, ?_, fun flying => ?_, inv.last, nofun, fun wanted => ?_,
    fun isOpen up resolved fresh => ?_, fun discovered up => ?_⟩
  · obtain ⟨undiscovered, settled, -, -⟩ := inv.closed closed
    rw [undiscovered, settled] at flags
    simp at flags
  · rintro (now | later)
    · cases now with
      | tail _ now => cases now with | tail _ now => cases now
    · exact inv.calls (.inr later)
  · exact frames _ (by split <;> decide) (inv.flight flying)
  · rcases inv.opens wanted with isOpen | now | later
    · exact .inl isOpen
    · cases now
    · exact .inr (.inr later)
  · rcases flags with discovered | flying
    · rw [fresh] at discovered
      cases discovered
    · rcases inv.flight flying with now | ⟨f, mem, later⟩
      · exact absurd now (by split <;> decide)
      · refine .inl (.inr ⟨f, mem, ?_⟩)
        rw [if_neg (by simp [fresh])] at later
        rw [List.mem_singleton.mp later]
        decide
  · exact (inv.serves discovered up).imp_left (frames _ (by decide))

theorem tryStartDiscovery (inv : Turn .poll x w) :
    Turn .plain (x.after (linkEvents w.tryStartDiscovery.2)) w.tryStartDiscovery.1 := by
  unfold Worker.tryStartDiscovery
  split
  · rename_i flags
    exact inv.of_flags flags
  · rename_i fresh
    obtain ⟨undiscovered, settled⟩ := not_or.mp fresh
    dsimp only
    split
    · rename_i isOpen
      have entered : Turn .walk x { w with discovering := true } := by
        refine inv.become isOpen rfl (by decide) (.inl (by decide)) (fun _ => .inl ?_)
          fun discovered => absurd discovered undiscovered
        rw [if_neg undiscovered]
        exact List.mem_singleton_self _
      have called : Turn .plain x ({ w with discovering := true }.call .managedObjects) :=
        entered.call rfl nofun
      exact called
    · have same : { w with discovering := false } = w := by
        rw [← show w.discovering = false by simpa using settled]
      show Turn .plain (x.after (linkEvents { w with discovering := false }.doDisconnect.2))
        { w with discovering := false }.doDisconnect.1
      rw [same]
      exact inv.doDisconnect (by decide) (.inr (by decide))

theorem walking {m : HandleMap} {reads : List (UInt16 × List UInt8)} {c : Call}
    (inv : Turn .walk x w) (walk : c.role none = .walk) :
    Turn .plain x ({ w with handleMap := m, syntheticReads := reads }.call c) := by
  have walked : Turn .walk x { w with handleMap := m, syntheticReads := reads } :=
    ⟨inv.closed, inv.calls, inv.flight, inv.last, inv.lower, inv.opens, inv.rises, inv.serves⟩
  exact walked.call walk nofun

theorem finishDiscovery (inv : Turn .mtu x w) (tree : List DiscoveredService) (mtu : UInt16) :
    Turn .plain (x.after (linkEvents (w.finishDiscovery tree mtu).2))
      (w.finishDiscovery tree mtu).1 := by
  have frames : ∀ roles, Role.mtu ∉ roles → Holds .mtu w.stack roles →
      Holds .plain w.stack roles := fun roles mtu holds => holds.plain mtu []
  refine ⟨fun closed => ?_, ?_, nofun, inv.last, nofun, fun wanted => ?_,
    fun isOpen up resolved fresh => ?_, fun _ _ => .inr (.inr (.inr rfl))⟩
  · obtain ⟨undiscovered, -, noWalk, quiet⟩ := inv.closed closed
    refine ⟨undiscovered, rfl, ?_, quiet⟩
    rintro (now | later)
    · cases now with | tail _ now => cases now
    · exact noWalk (.inr later)
  · rintro (now | later)
    · cases now with
      | tail _ now => cases now with | tail _ now => cases now
    · exact inv.calls (.inr later)
  · rcases inv.opens wanted with isOpen | now | later
    · exact .inl isOpen
    · cases now
    · exact .inr (.inr later)
  · exact (inv.rises isOpen up resolved fresh).imp_left (frames _ (by decide))

theorem acquireMtu (inv : Turn .mtu x w) (tree : List DiscoveredService)
    (paths : List (List Char)) :
    Turn .plain (x.after (linkEvents (w.acquireMtu tree paths).2))
      (w.acquireMtu tree paths).1 := by
  cases paths with
  | nil => exact inv.finishDiscovery tree 23
  | cons path rest => exact inv.call rfl nofun

theorem treeWalked {m : HandleMap} {reads : List (UInt16 × List UInt8)}
    (inv : Turn .walk x w) (tree : List DiscoveredService) :
    Turn .plain
      (x.after (linkEvents ({ w with handleMap := m, syntheticReads := reads }.treeWalked tree).2))
      ({ w with handleMap := m, syntheticReads := reads }.treeWalked tree).1 := by
  have discovered : Turn .mtu x
      { w with handleMap := m, syntheticReads := reads, discovered := true } :=
    inv.become inv.open_of_walk rfl (by decide) (.inr rfl)
      (fun _ => .inl (List.mem_singleton_self _)) fun _ => .inl (by decide)
  exact discovered.acquireMtu tree _

/-- **A round leads to what it led to**, if it finds the device connected in time. -/
theorem effect {r : Worker × List Output} (inv : Turn role x w) (effect : Effect w role r)
    (early : role = .raise → w.discovered = false ∨ w.discovering = true) :
    Turn .plain (x.after (linkEvents r.2)) r.1 := by
  cases effect with
  | quiet new quiets calls =>
      rw [quiets.silent]
      exact inv.quiet quiets calls
  | opening => exact inv.call rfl fun _ => .inr rfl
  | opened =>
      have opened : Turn .probe x { w with busOpen := true } :=
        inv.become rfl rfl (by decide) (.inl (by decide)) inv.flight fun _ => .inl (by decide)
      have called : Turn .plain x ({ w with busOpen := true }.call .getConnected) :=
        opened.call rfl fun _ => .inl rfl
      exact called
  | retried again => exact absurd (.inl (by decide)) inv.calls
  | refused => exact absurd (.inl (by decide)) inv.calls
  | raised => exact inv.workerOnConnectedChanged_true (early rfl)
  | lowered => exact inv.workerOnConnectedChanged_false
  | started => exact inv.tryStartDiscovery
  | walking m reads walk => exact inv.walking walk
  | walkFailed => exact inv.walkFailed
  | treeWalked tree => exact inv.treeWalked tree
  | acquiring tree paths => exact inv.acquireMtu tree paths
  | acquired tree mtu => exact inv.finishDiscovery tree mtu
  | dropped => exact inv.doDisconnect (by decide) (.inr (by decide))

end Turn

/-! ## Answers -/

/-- What an answer makes of a call that waits. -/
theorem role_answer {z : BlueZ} {c : Call} {a : Reply} (answers : z.answers c a = true) :
    c.role (some a) = c.role none ∨ (c.role none = .probe ∧ c.role (some a) = .raise) ∨
      (z.link = false ∧ c.role none ∈ [Role.probe, .drop] ∧ c.role (some a) = .plain) ∨
      (z.resolved = false ∧ c.role none = .poll ∧ c.role (some a) = .plain) ∨
      c.role none = .retry := by
  cases c with
  | openBus =>
      cases a with
      | done => exact .inl rfl
      | _ => cases answers
  | getConnected =>
      cases a with
      | bool b =>
          cases b with
          | true => exact .inr (.inl ⟨rfl, rfl⟩)
          | false =>
              exact .inr (.inr (.inl ⟨(of_decide_eq_true answers).symm, by decide, rfl⟩))
      | _ => cases answers
  | connect attempt =>
      cases a with
      | done => exact .inl rfl
      | _ => cases answers
  | recheckConnected => exact .inr (.inr (.inr (.inr rfl)))
  | servicesResolved =>
      cases a with
      | bool b =>
          cases b with
          | true => exact .inl rfl
          | false => exact .inr (.inr (.inr (.inl ⟨(of_decide_eq_true answers).symm, rfl, rfl⟩)))
      | _ => cases answers
  | disconnect =>
      cases a with
      | done => exact .inr (.inr (.inl ⟨by simpa [BlueZ.answers] using answers, by decide, rfl⟩))
      | _ => cases answers
  | managedObjects | gapName | gapAppearance | mtu | read | write | notify | rssi | registerAgent
  | pair | removeBond => exact .inl rfl

/-- An answer neither makes nor ends a discovery. -/
theorem ofCall_answer {z : BlueZ} {c : Call} {a : Reply} (answers : z.answers c a = true)
    (retry : c.role none ≠ .retry)
    (call : (c.role none).ofCall = true ∨ (c.role (some a)).ofCall = true) :
    c.role (some a) = c.role none := by
  rcases role_answer answers with same | ⟨old, new⟩ | ⟨-, old, new⟩ | ⟨-, old, new⟩ | again
  · exact same
  · rw [old, new] at call
    exact absurd call (by decide)
  · rw [new] at call
    rcases List.mem_pair.mp old with old | old <;>
      rw [old] at call <;> exact absurd call (by decide)
  · rw [old, new] at call
    exact absurd call (by decide)
  · exact absurd again retry

theorem rising_answer {z : BlueZ} {c : Call} {a : Reply} (answers : z.answers c a = true)
    (up : z.link = true) (resolved : z.resolved = true) (now : c.role none ∈ rising) :
    c.role (some a) ∈ rising := by
  rcases role_answer answers with same | ⟨-, new⟩ | ⟨down, -⟩ | ⟨unresolved, -⟩ | again
  · rwa [same]
  · rw [new]
    decide
  · rw [up] at down
    cases down
  · rw [resolved] at unresolved
    cases unresolved
  · rw [again] at now
    exact absurd now (by decide)

theorem serving_answer {z : BlueZ} {c : Call} {a : Reply} (answers : z.answers c a = true)
    (up : z.link = true) (now : c.role none ∈ serving) : c.role (some a) ∈ serving := by
  rcases role_answer answers with same | ⟨-, new⟩ | ⟨down, -⟩ | ⟨-, old, -⟩ | again
  · rwa [same]
  · rw [new]
    decide
  · rw [up] at down
    cases down
  · rw [old] at now
    exact absurd now (by decide)
  · rw [again] at now
    exact absurd now (by decide)

theorem opens_answer {z : BlueZ} {c : Call} {a : Reply} (answers : z.answers c a = true)
    (opens : (Frame.call c none).opens = true) : (Frame.call c (some a)).opens = true := by
  cases c with
  | openBus =>
      cases a with
      | done => rfl
      | _ => cases answers
  | _ => cases opens

/-- The frame `f` is replaced by one that keeps the roles. -/
theorem holds_replace {above below : List Frame} {f g : Frame} {roles : List Role}
    (keeps : f.role ∈ roles → g.role ∈ roles)
    (holds : Holds role (above ++ f :: below) roles) : Holds role (above ++ g :: below) roles := by
  rcases holds with now | ⟨e, mem, later⟩
  · exact .inl now
  · rcases List.mem_append.mp mem with mem | mem
    · exact .inr ⟨e, List.mem_append_left _ mem, later⟩
    · rcases List.mem_cons.mp mem with rfl | mem
      · exact .inr ⟨g, List.mem_append_right _ (List.mem_cons_self ..), keeps later⟩
      · exact .inr ⟨e, List.mem_append_right _ (List.mem_cons_of_mem _ mem), later⟩

/-- **An answer that is true when it is given leaves everything still to come.** -/
theorem Turn.answer {z : BlueZ} {depth : Nat} {c : Call} {a : Reply} (inv : Turn .plain x w)
    (waits : w.stack[depth]? = some (.call c none)) (answers : z.answers c a = true)
    (link : x.link = z.link) (resolved : x.resolved = z.resolved) :
    Turn .plain x { w with stack := w.stack.set depth (.call c (some a)) } := by
  obtain ⟨above, below, same, replaced⟩ := split_of_frame waits
  have retry : c.role none ≠ .retry := fun retry => inv.calls
    (.inr ⟨.call c none, by rw [same]; simp, by rw [Frame.role, retry]; decide⟩)
  have changes : x.changes (w.stack.set depth (.call c (some a))) = x.changes w.stack := by
    rw [replaced, same, Scene.changes, Scene.changes, changesOf_append, changesOf_append]
    rfl
  have commands : x.commands (w.stack.set depth (.call c (some a))) = x.commands w.stack := by
    rw [replaced, same, Scene.commands, Scene.commands, owedOf_append, owedOf_append]
    rfl
  have holds : ∀ roles, (c.role none ∈ roles → c.role (some a) ∈ roles) →
      Holds .plain w.stack roles →
        Holds .plain (w.stack.set depth (.call c (some a))) roles := by
    intro roles keeps
    rw [replaced, same]
    exact holds_replace keeps
  have before : ∀ roles, (c.role (some a) ∈ roles → c.role none ∈ roles) →
      Holds .plain (w.stack.set depth (.call c (some a))) roles → Holds .plain w.stack roles := by
    intro roles keeps
    rw [replaced, same]
    exact holds_replace keeps
  have stays := ofCall_answer answers retry
  refine
    { closed := fun closed => ?closed
      calls := fun again => inv.calls (before _ (fun mem => ?calls) again)
      flight := fun flying => holds _ (fun mem => ?flight) (inv.flight flying)
      last := ?last
      lower := nofun
      opens := fun wanted => ?opens
      rises := fun isOpen up settled fresh => ?rises
      serves := fun discovered up => ?serves }
  case closed =>
    obtain ⟨undiscovered, settled, noWalk, quiet⟩ := inv.closed closed
    refine ⟨undiscovered, settled, fun walk => noWalk (before _ (fun mem => ?_) walk), ?_⟩
    · have call := stays (.inr (by rw [List.mem_singleton.mp mem]; rfl))
      rwa [← call]
    · rw [changes]
      exact quiet
  case calls =>
    have calls : ∀ role ∈ [Role.retry, .refuse], role.ofCall = true := by decide
    rwa [← stays (.inr (calls _ mem))]
  case flight =>
    have calls : ∀ role ∈ [if w.discovered then Role.mtu else .walk], role.ofCall = true := by
      split <;> decide
    rwa [stays (.inl (calls _ mem))]
  case last =>
    rw [changes]
    exact inv.last
  case opens =>
    rcases inv.opens wanted with isOpen | now | owed | ⟨f, mem, opens⟩
    · exact .inl isOpen
    · cases now
    · rw [commands]
      exact .inr (.inr (.inl owed))
    · refine .inr (.inr (.inr ?_))
      show ∃ f ∈ w.stack.set depth (.call c (some a)), f.opens = true
      rw [same] at mem
      rw [replaced]
      rcases List.mem_append.mp mem with mem | mem
      · exact ⟨f, List.mem_append_left _ mem, opens⟩
      · rcases List.mem_cons.mp mem with rfl | mem
        · exact ⟨_, List.mem_append_right _ (List.mem_cons_self ..), opens_answer answers opens⟩
        · exact ⟨f, List.mem_append_right _ (List.mem_cons_of_mem _ mem), opens⟩
  case rises =>
    rw [changes]
    exact (inv.rises isOpen up settled fresh).imp_left
      (holds _ (rising_answer answers (link ▸ up) (resolved ▸ settled)))
  case serves =>
    rw [changes, commands]
    exact (inv.serves discovered up).imp_left (holds _ (serving_answer answers (link ▸ up)))

/-! ## The main thread -/

namespace BLEClientBase

variable (c : BLEClientBase Unit)

/-- The commands the worker has not taken. -/
def queued : List HostGattCommand :=
  match c.host with
  | some h => h.commands.map (·.val)
  | none => []

/-- The events the main thread has not drained. -/
def incoming : List HostGattEvent :=
  match c.host with
  | some h => h.events.map (·.val)
  | none => []

variable {c}

theorem queued_congr {c' : BLEClientBase Unit} (host : c'.host = c.host) :
    c'.queued = c.queued := by
  unfold queued
  rw [host]

theorem incoming_congr {c' : BLEClientBase Unit} (host : c'.host = c.host) :
    c'.incoming = c.incoming := by
  unfold incoming
  rw [host]

theorem enqueue_incoming (cmd : HostGattCommand) : (c.enqueue cmd).incoming = c.incoming := by
  unfold enqueue incoming
  cases c.host <;> rfl

theorem enqueue_queued {h : BLEGattHost Unit} (host : c.host = some h) (cmd : HostGattCommand) :
    (c.enqueue cmd).queued = c.queued ++ [cmd] := by
  unfold enqueue queued
  rw [host]
  simp [BLEGattHost.enqueueCommand]

theorem mem_enqueue {cmd : HostGattCommand} (other : HostGattCommand) (mem : cmd ∈ c.queued) :
    cmd ∈ (c.enqueue other).queued := by
  cases host : c.host with
  | none =>
      rw [queued, host] at mem
      cases mem
  | some h =>
      rw [enqueue_queued host]
      exact List.mem_append_left _ mem

end BLEClientBase

/-- The events the client has still to dispatch. -/
def ClientRun.undispatched (r : ClientRun Unit) : List HostGattEvent :=
  r.drained.map (·.val) ++ r.client.incoming

/-- The client is established, once it has dispatched them. -/
def ClientRun.served (r : ClientRun Unit) : Bool :=
  (r.undispatched.filter (·.isLink)).foldl (fun _ e => e.isServicesDiscovered)
    (r.client.state = .established)

/-- A step of the main thread keeps what is queued, and what it takes from an established client it
makes up for with a command. -/
structure Forwards (r r' : ClientRun Unit) : Prop where
  host : r.client.host.isSome = true → r'.client.host.isSome = true
  queued : ∀ cmd ∈ r.client.queued, cmd ∈ r'.client.queued
  served : r.client.host.isSome = true → r.served = true →
    r'.served = true ∨ ∃ cmd ∈ r'.client.queued, cmd.drives = true

/-- A step that leaves both queues alone, and the state unless it was not `ESTABLISHED`. -/
theorem Forwards.of_same {r r' : ClientRun Unit} (host : r'.client.host = r.client.host)
    (drained : r'.drained = r.drained)
    (state : r.client.state = .established → r'.client.state = .established) : Forwards r r' := by
  have queued := BLEClientBase.queued_congr host
  have incoming := BLEClientBase.incoming_congr host
  refine ⟨fun some => by rwa [host], fun cmd mem => by rwa [queued], fun _ served => .inl ?_⟩
  unfold ClientRun.served ClientRun.undispatched at served ⊢
  rw [drained, incoming]
  generalize (r.drained.map (·.val) ++ r.client.incoming).filter (·.isLink) = evs at served ⊢
  cases evs with
  | nil => exact decide_eq_true (state (of_decide_eq_true served))
  | cons e evs => exact served

theorem Forwards.refl (r : ClientRun Unit) : Forwards r r := .of_same rfl rfl id

/-- A step that queues a deciding command. -/
theorem Forwards.of_drives {r r' : ClientRun Unit} (cmd : HostGattCommand)
    (host : r'.client.host = (r.client.enqueue cmd).host) (drives : cmd.drives = true) :
    Forwards r r' := by
  have queued := BLEClientBase.queued_congr host
  refine ⟨fun some => ?_, fun other mem => ?_, fun some _ => .inr ⟨cmd, ?_, drives⟩⟩
  · rw [host, BLEClientBase.enqueue, Option.isSome_map]
    exact some
  · rw [queued]
    exact BLEClientBase.mem_enqueue cmd mem
  · obtain ⟨h, found⟩ := Option.isSome_iff_exists.mp some
    rw [queued, BLEClientBase.enqueue_queued found]
    exact List.mem_append_right _ (List.mem_singleton_self _)

/-- A step that queues another command. -/
theorem forwards_enqueue (r : ClientRun Unit) (cmd : HostGattCommand) :
    Forwards r { r with client := r.client.enqueue cmd } := by
  refine ⟨fun some => ?_, fun other mem => BLEClientBase.mem_enqueue cmd mem,
    fun _ served => .inl ?_⟩
  · show (r.client.enqueue cmd).host.isSome = true
    rwa [BLEClientBase.enqueue, Option.isSome_map]
  · unfold ClientRun.served ClientRun.undispatched at served ⊢
    rwa [BLEClientBase.enqueue_incoming]

/-- A dispatched event decides over the state exactly as `served` has it. -/
theorem Forwards.of_dispatch {r r' : ClientRun Unit} {e : Stamped Unit HostGattEvent}
    (drained : r.drained = e :: r'.drained) (host : r'.client.host = r.client.host)
    (state : decide (r'.client.state = .established) =
      if e.val.isLink then e.val.isServicesDiscovered
      else decide (r.client.state = .established)) : Forwards r r' := by
  have queued := BLEClientBase.queued_congr host
  have incoming := BLEClientBase.incoming_congr host
  refine ⟨fun some => by rwa [host], fun cmd mem => by rwa [queued], fun _ served => .inl ?_⟩
  unfold ClientRun.served ClientRun.undispatched at served ⊢
  rw [drained, List.map_cons, List.cons_append] at served
  rw [incoming, state]
  split
  · rename_i link
    rwa [List.filter_cons_of_pos link, List.foldl_cons] at served
  · rename_i other
    rwa [List.filter_cons_of_neg other] at served

theorem forwards_dispatch {c : BLEClientBase Unit} {e : Stamped Unit HostGattEvent}
    {rest : List (Stamped Unit HostGattEvent)} (now : UInt32) :
    Forwards ⟨c, e :: rest⟩ ⟨(c.dispatchEvent now e.val).1, rest⟩ := by
  obtain ⟨⟨⟩, ev⟩ := e
  cases ev with
  | connected =>
      by_cases want : c.wantDisconnect = true
      · have same : (c.dispatchEvent now .connected).1 = c.unconditionalDisconnect now := by
          unfold BLEClientBase.dispatchEvent
          rw [if_pos want]
        rw [same]
        exact .of_drives .disconnect rfl rfl
      · have same : (c.dispatchEvent now .connected).1 = c.setState .connected := by
          unfold BLEClientBase.dispatchEvent
          rw [if_neg want]
        rw [same]
        exact .of_dispatch rfl rfl rfl
  | _ => exact .of_dispatch rfl rfl rfl

theorem forwards_drain (c : BLEClientBase Unit) : Forwards ⟨c, []⟩ ⟨c.drain.2, c.drain.1⟩ := by
  unfold BLEClientBase.drain
  cases host : c.host with
  | none => exact .refl _
  | some h =>
      refine ⟨fun _ => rfl, fun cmd mem => ?_, fun _ served => .inl ?_⟩
      · rwa [BLEClientBase.queued, host] at mem
      · unfold ClientRun.served ClientRun.undispatched BLEClientBase.incoming at served ⊢
        rw [host] at served
        dsimp only [BLEGattHost.drainEvents] at served ⊢
        rwa [List.map_nil, List.append_nil]

/-- **Every step of the main thread forwards.** -/
theorem forwards_step {r : ClientRun Unit} {l : ClientLabel Unit} {t : ClientRun Unit × Option Int}
    (take : l ≠ .take) (post : ∀ stamp ev, l ≠ .post stamp ev) (step : clientStep r l = some t) :
    Forwards r t.1 := by
  obtain ⟨c, drained⟩ := r
  cases l with
  | connect now =>
      obtain rfl := Option.some.inj step
      show Forwards ⟨c, drained⟩ ⟨c.connect now, drained⟩
      cases host : c.host with
      | some h =>
          refine .of_drives .connect ?_ rfl
          show (c.connect now).host = (c.enqueue .connect).host
          rw [BLEClientBase.connect, BLEClientBase.enqueue, BLEClientBase.setState_host, host]
          rfl
      | none =>
          refine ⟨fun some => ?_, fun cmd mem => ?_, fun some => ?_⟩
          · rw [show c.host.isSome = false by rw [host]; rfl] at some
            cases some
          · rw [show c.queued = [] by unfold BLEClientBase.queued; rw [host]] at mem
            cases mem
          · rw [show c.host.isSome = false by rw [host]; rfl] at some
            cases some
  | disconnect now =>
      obtain rfl := Option.some.inj step
      show Forwards ⟨c, drained⟩ ⟨c.disconnect now, drained⟩
      rcases c.disconnect_cases now with ⟨-, same⟩ | ⟨-, same⟩ | ⟨-, -, same⟩
      · rw [same]
        exact .refl _
      · rw [same]
        exact .of_same rfl rfl id
      · rw [same]
        exact .of_drives .disconnect rfl rfl
  | cancelPendingDisconnect =>
      obtain rfl := Option.some.inj step
      exact .of_same rfl rfl id
  | parseDevice device =>
      obtain rfl := Option.some.inj step
      show Forwards ⟨c, drained⟩ ⟨(c.parseDevice device).2, drained⟩
      rcases c.parseDevice_cases device with same | ⟨idle, -, -, -, same⟩
      · rw [same]
        exact .refl _
      · rw [same]
        exact .of_same rfl rfl fun established => by cases idle.symm.trans established
  | request r =>
      obtain rfl := Option.some.inj step
      show Forwards ⟨c, drained⟩ ⟨r.perform c, drained⟩
      rcases r.perform_cases c with same | ⟨cmd, queued⟩
      · rw [same]
        exact .refl _
      · rw [queued]
        exact forwards_enqueue ⟨c, drained⟩ cmd
  | drain =>
      cases drained with
      | cons => cases step
      | nil =>
          obtain rfl := Option.some.inj step
          exact forwards_drain c
  | dispatch now =>
      cases drained with
      | nil => cases step
      | cons e rest =>
          obtain rfl := Option.some.inj step
          exact forwards_dispatch now
  | connectTimeout now =>
      cases drained with
      | cons => cases step
      | nil =>
          obtain rfl := Option.some.inj step
          show Forwards ⟨c, []⟩ ⟨(c.checkConnectTimeout now).1, []⟩
          unfold BLEClientBase.checkConnectTimeout
          split
          · exact .of_drives .disconnect rfl rfl
          · exact .refl _
  | disconnectTimeout now =>
      cases drained with
      | cons => cases step
      | nil =>
          obtain rfl := Option.some.inj step
          show Forwards ⟨c, []⟩ ⟨(c.checkDisconnectTimeout now).1, []⟩
          unfold BLEClientBase.checkDisconnectTimeout
          split
          · rename_i expired
            have state : c.state = .disconnecting := (of_decide_eq_true expired).1
            exact .of_same rfl rfl fun established => by cases state.symm.trans established
          · exact .refl _
  | take => exact absurd rfl take
  | post stamp ev => exact absurd rfl (post stamp ev)

/-! ## What surrounds the worker -/

namespace Turn

/-- The main thread goes on. -/
theorem forwards {queue : List HostGattCommand} {wanted served : Bool} (inv : Turn .plain x w)
    (kept : ∀ cmd ∈ x.queue, cmd ∈ queue)
    (wants : wanted = true → x.wanted = true ∨ .connect ∈ queue)
    (serves : w.discovered = true → x.served = true →
      served = true ∨ ∃ cmd ∈ queue, cmd.drives = true) :
    Turn .plain { x with queue := queue, wanted := wanted, served := served } w := by
  have commands : ∀ cmd ∈ x.commands w.stack, cmd ∈ queue ++ owedOf w.stack := by
    intro cmd mem
    rcases List.mem_append.mp mem with mem | mem
    · exact List.mem_append_left _ (kept cmd mem)
    · exact List.mem_append_right _ mem
  refine ⟨inv.closed, inv.calls, inv.flight, inv.last, inv.lower, fun wanted => ?_, inv.rises,
    fun discovered up => ?_⟩
  · rcases wants wanted with wanted | queued
    · rcases inv.opens wanted with isOpen | now | owed | opens
      · exact .inl isOpen
      · cases now
      · exact .inr (.inr (.inl (commands _ owed)))
      · exact .inr (.inr (.inr opens))
    · exact .inr (.inr (.inl (List.mem_append_left _ queued)))
  · rcases inv.serves discovered up with holds | pending | ⟨cmd, mem, drives⟩ | now
    · exact .inl holds
    · exact .inr (.inl pending)
    · exact .inr (.inr (.inl ⟨cmd, commands cmd mem, drives⟩))
    · rcases serves discovered now with now | ⟨cmd, mem, drives⟩
      · exact .inr (.inr (.inr now))
      · exact .inr (.inr (.inl ⟨cmd, List.mem_append_left _ mem, drives⟩))

/-- The worker takes the command queue. -/
theorem take (inv : Turn .plain x w) (empty : w.stack = []) :
    Turn .plain { x with queue := [] } { w with stack := [.commands x.queue] } := by
  have none : ∀ roles, Role.plain ∉ roles → ∀ stack : List Frame, (∀ f ∈ stack, f.role = .plain) →
      ¬ Holds .plain stack roles := by
    rintro roles plain stack frames (now | ⟨f, mem, later⟩)
    · exact plain now
    · rw [frames f mem] at later
      exact plain later
  have taken : ∀ f ∈ [Frame.commands x.queue], f.role = .plain := by simp [Frame.role]
  have before : ∀ f ∈ w.stack, f.role = .plain := by simp [empty]
  have commands : x.commands w.stack = { x with queue := [] }.commands [.commands x.queue] := by
    simp [Scene.commands, owedOf, Frame.owed, empty]
  have changes : x.changes w.stack = { x with queue := [] }.changes [.commands x.queue] := by
    simp [Scene.changes, changesOf, Frame.changes, empty]
  refine ⟨fun closed => ?_, none _ (by decide) _ taken, fun flying => ?_, ?_, nofun,
    fun wanted => ?_, fun isOpen up resolved fresh => ?_, fun discovered up => ?_⟩
  · obtain ⟨undiscovered, settled, -, quiet⟩ := inv.closed closed
    rw [changes] at quiet
    exact ⟨undiscovered, settled, none _ (by decide) _ taken, quiet⟩
  · exact absurd (inv.flight flying) (none _ (by split <;> decide) _ before)
  · rw [← changes]
    exact inv.last
  · rw [← commands]
    rcases inv.opens wanted with isOpen | now | owed | ⟨f, mem, -⟩
    · exact .inl isOpen
    · cases now
    · exact .inr (.inr (.inl owed))
    · rw [empty] at mem
      cases mem
  · rw [← changes]
    exact (inv.rises isOpen up resolved fresh).imp_left
      fun holds => absurd holds (none _ (by decide) _ before)
  · rw [← changes, ← commands]
    exact (inv.serves discovered up).imp_left
      fun holds => absurd holds (none _ (by decide) _ before)

/-- A signal is handed to the worker. -/
theorem deliver {batch signals : List PropertyChange} (inv : Turn .plain x w)
    (queue : x.signals = batch ++ signals) (order : upcoming (changesOf w.stack) = []) :
    Turn .plain { x with signals := signals }
      { w with stack := .properties batch :: w.stack } := by
  have stack : ∀ f, f.role ≠ .plain → (f ∈ Frame.properties batch :: w.stack ↔ f ∈ w.stack) := by
    intro f role
    refine ⟨fun mem => ?_, List.mem_cons_of_mem _⟩
    rcases List.mem_cons.mp mem with rfl | mem
    · exact absurd rfl role
    · exact mem
  have holds : ∀ roles, Role.plain ∉ roles →
      (Holds .plain (Frame.properties batch :: w.stack) roles ↔ Holds .plain w.stack roles) := by
    intro roles plain
    refine or_congr_right ⟨?_, ?_⟩
    · rintro ⟨f, mem, later⟩
      exact ⟨f, (stack f fun role => plain (role ▸ later)).mp mem, later⟩
    · rintro ⟨f, mem, later⟩
      exact ⟨f, List.mem_cons_of_mem _ mem, later⟩
  have changes : { x with signals := signals }.changes (.properties batch :: w.stack) =
      batch ++ (changesOf w.stack ++ signals) := List.append_assoc ..
  have links : upcoming (x.changes w.stack) =
      upcoming (batch ++ (changesOf w.stack ++ signals)) := by
    simp only [Scene.changes, queue, upcoming_append, order, List.nil_append]
  have mem : ∀ p ∈ x.changes w.stack, p ∈ batch ++ (changesOf w.stack ++ signals) := by
    intro p
    simp only [Scene.changes, queue, List.mem_append]
    tauto
  refine
    { closed := fun closed => ?closed
      calls := ?calls
      flight := fun flying => ?flight
      last := ?last
      lower := fun now => ?lower
      opens := fun wanted => ?opens
      rises := fun isOpen up resolved fresh => ?rises
      serves := fun discovered up => ?serves }
  case closed =>
    obtain ⟨undiscovered, settled, noWalk, quiet⟩ := inv.closed closed
    rw [changes, ← links]
    exact ⟨undiscovered, settled, fun walk => noWalk ((holds _ (by decide)).mp walk), quiet⟩
  case calls =>
    rw [holds _ (by decide)]
    exact inv.calls
  case flight =>
    rw [holds _ (by split <;> decide)]
    exact inv.flight flying
  case last =>
    rw [changes, ← links]
    exact inv.last
  case lower =>
    cases now
  case opens =>
    rcases inv.opens wanted with isOpen | now | owed | ⟨f, mem, opens⟩
    · exact .inl isOpen
    · cases now
    · exact .inr (.inr (.inl owed))
    · exact .inr (.inr (.inr ⟨f, List.mem_cons_of_mem _ mem, opens⟩))
  case rises =>
    rw [changes, holds _ (by decide)]
    refine (inv.rises isOpen up resolved fresh).imp_right fun later => ?_
    obtain ⟨p, here, rises⟩ := later
    exact ⟨p, mem p here, rises⟩
  case serves =>
    rw [changes, ← links, holds _ (by decide)]
    exact inv.serves discovered up

/-- BlueZ changes a property, and signals it if the worker listens. -/
theorem changed {p : PropertyChange} {link resolved : Bool} (inv : Turn .plain x w)
    (value : ∀ b ∈ p.link?, b = link) (kept : p.link? = none → link = x.link)
    (rises : link = true → resolved = true → p.rises = false → x.link = true ∧ x.resolved = true) :
    Turn .plain { x with
      link := link
      resolved := resolved
      signals := if w.busOpen then x.signals ++ [p] else x.signals } w := by
  cases isOpen : w.busOpen with
  | false =>
      obtain ⟨undiscovered, settled, noWalk, quiet⟩ := inv.closed isOpen
      refine ⟨fun _ => ⟨undiscovered, settled, noWalk, quiet⟩, inv.calls, inv.flight, ?_, nofun,
        inv.opens, fun opened => ?_, fun discovered => ?_⟩
      · intro b last
        have last : b ∈ (upcoming (x.changes w.stack)).getLast? := last
        rw [quiet] at last
        cases last
      · rw [isOpen] at opened
        cases opened
      · rw [undiscovered] at discovered
        cases discovered
  | true =>
      have changes : changesOf w.stack ++ (x.signals ++ [p]) = x.changes w.stack ++ [p] :=
        (List.append_assoc ..).symm
      refine ⟨fun closed => ?_, inv.calls, inv.flight, fun b last => ?_, nofun, inv.opens,
        fun _ up settled fresh => ?_, fun discovered up => ?_⟩
      · rw [isOpen] at closed
        cases closed
      · rw [Scene.changes, if_pos rfl, changes, upcoming_append, List.getLast?_append] at last
        cases sets : p.link? with
        | some b' =>
            rw [show upcoming [p] = [b'] from List.filterMap_cons_some sets] at last
            obtain rfl := Option.some.inj last
            exact value b' sets
        | none =>
            rw [show upcoming [p] = [] from List.filterMap_cons_none sets] at last
            rw [kept sets]
            exact inv.last b last
      · rw [Scene.changes, if_pos rfl, changes]
        cases now : p.rises with
        | true => exact .inr ⟨p, by simp, now⟩
        | false =>
            obtain ⟨before, resolved⟩ := rises up settled now
            refine (inv.rises isOpen before resolved fresh).imp_right ?_
            exact fun ⟨q, mem, rises⟩ => ⟨q, List.mem_append_left _ mem, rises⟩
      · rw [Scene.changes, if_pos rfl, changes, upcoming_append]
        cases sets : p.link? with
        | some b =>
            refine .inr (.inl ?_)
            rw [show upcoming [p] = [b] from List.filterMap_cons_some sets]
            simp
        | none =>
            rw [show upcoming [p] = [] from List.filterMap_cons_none sets, List.append_nil]
            exact inv.serves discovered (kept sets ▸ up)

end Turn

/-! ## Runs -/

namespace Session

variable {s t : Session}

/-- What surrounds the worker of a session. -/
def scene (s : Session) : Scene where
  link := s.blueZ.link
  resolved := s.blueZ.resolved
  signals := s.blueZ.signals
  queue := s.run.client.queued
  wanted := s.wanted
  served := s.run.served

/-- What holds in every state of a guarded run. -/
structure Steady (s : Session) : Prop where
  host : s.worker.busOpen = true → s.run.client.host.isSome = true
  order : InOrder s.worker.stack
  turn : Turn .plain s.scene s.worker

/-- What the worker posts is queued behind what the client has still to dispatch. -/
theorem scene_afterWorker {h : BLEGattHost Unit} (host : s.run.client.host = some h)
    (r : Worker × List Output) : (s.afterWorker h r).scene = s.scene.after (linkEvents r.2) := by
  have served : (s.afterWorker h r).run.served =
      (linkEvents r.2).foldl (fun _ e => e.isServicesDiscovered) s.run.served := by
    unfold ClientRun.served ClientRun.undispatched BLEClientBase.incoming linkEvents
    rw [host, ← List.foldl_append, ← List.filter_append, List.append_assoc]
    simp only [afterWorker, List.map_append, List.map_map, Function.comp_def, List.map_id']
    rfl
  have queued : (s.afterWorker h r).run.client.queued = s.run.client.queued := by
    unfold BLEClientBase.queued
    rw [host]
    rfl
  unfold scene Scene.after
  rw [served, queued]
  rfl

theorem workerSteps_some {l : WorkerLabel} (step : s.workerSteps l = some t) :
    ∃ h r, s.run.client.host = some h ∧ workerStep s.worker l = some r ∧
      t = s.afterWorker h r := by
  unfold workerSteps at step
  cases host : s.run.client.host with
  | none =>
      rw [host] at step
      cases step
  | some h =>
      rw [host] at step
      obtain ⟨r, stepped, rfl⟩ := Option.map_eq_some_iff.mp step
      exact ⟨h, r, rfl, stepped, rfl⟩

theorem Steady.afterWorker {h : BLEGattHost Unit} {r : Worker × List Output}
    (host : s.run.client.host = some h) (order : InOrder r.1.stack)
    (turn : Turn .plain (s.scene.after (linkEvents r.2)) r.1) : (s.afterWorker h r).Steady := by
  refine ⟨fun _ => rfl, order, ?_⟩
  rw [scene_afterWorker host]
  exact turn

/-- A round of the worker. -/
theorem Steady.advance {r : Worker × List Output} (inv : s.Steady)
    (early : ∀ next ∈ Worker.nextWork s.worker.stack, next.1.role = .raise →
      s.worker.discovered = false ∨ s.worker.discovering = true)
    {h : BLEGattHost Unit} (host : s.run.client.host = some h)
    (step : s.worker.advance = some r) : (s.afterWorker h r).Steady := by
  obtain ⟨⟨work, rest⟩, next, rfl⟩ := Option.map_eq_some_iff.mp step
  have effect := perform_effect { s.worker with stack := rest } work
  refine .afterWorker host (.inl ?_) ((inv.turn.enter next).effect effect (early _ next))
  obtain ⟨new, stack, calls⟩ := effect.stack
  rw [stack, changesOf_append, changesOf_calls calls]
  exact upcoming_next next inv.order

/-- An answer does not change what waits on the stack. -/
theorem inOrder_answer {stack : List Frame} {depth : Nat} {c : Call} (a : Reply)
    (waits : stack[depth]? = some (.call c none)) (order : InOrder stack) :
    InOrder (stack.set depth (.call c (some a))) := by
  obtain ⟨above, below, same, replaced⟩ := split_of_frame waits
  have changes : changesOf (stack.set depth (.call c (some a))) = changesOf stack := by
    rw [replaced, same, changesOf_append, changesOf_append]
    rfl
  rcases order with none | ⟨b, ps, rest, top, none⟩
  · exact .inl (by rwa [changes])
  · cases above with
    | nil =>
        rw [top] at same
        cases same
    | cons f above =>
        rw [top] at same
        obtain ⟨rfl, tail⟩ := List.cons.inj same
        refine .inr ⟨b, ps, above ++ .call c (some a) :: below, replaced _, ?_⟩
        rw [show rest = above ++ _ from tail, changesOf_append] at none
        rwa [changesOf_append]

/-- A step of the worker, signals and the command queue apart. -/
theorem Steady.worker {l : WorkerLabel} (inv : s.Steady)
    (answered : ∀ depth a, l = .answer depth a → s.answered depth a = true)
    (early : NoLateRaise s (.worker l)) (take : ∀ cmds, l ≠ .take cmds)
    (signal : ∀ changes, l ≠ .signal changes) (step : s.workerSteps l = some t) : t.Steady := by
  obtain ⟨h, r, host, stepped, rfl⟩ := workerSteps_some step
  rcases workerStep_cases stepped with ⟨work, rest, rfl, -, -⟩ | ⟨depth, c, a, rfl, waits, rfl⟩ |
    ⟨cmds, rfl, -⟩ | ⟨changes, rfl, -⟩ | quiets
  · exact inv.advance early host stepped
  · refine .afterWorker host (inOrder_answer a waits inv.order) ?_
    have answers := answered depth a rfl
    rw [Session.answered, waits] at answers
    exact inv.turn.answer waits answers rfl rfl
  · exact absurd rfl (take cmds)
  · exact absurd rfl (signal changes)
  · refine .afterWorker host ?_ ?_
    · rw [quiets.stack]
      exact inv.order
    · rw [quiets.silent]
      exact inv.turn.quiet quiets plainCalls_nil

theorem Steady.take {h : BLEGattHost Unit} {r : Worker × List Output} (inv : s.Steady)
    (host : s.run.client.host = some h)
    (step : workerStep s.worker (.take (h.commands.map (·.val))) = some r) :
    (s.afterWorker { h with commands := [] } r).Steady := by
  have queue : s.scene.queue = h.commands.map (·.val) := by
    show s.run.client.queued = _
    unfold BLEClientBase.queued
    rw [host]
  unfold workerStep at step
  dsimp only at step
  split at step
  · rename_i empty
    obtain rfl := Option.some.inj step
    have taken := inv.turn.take empty
    rw [queue] at taken
    refine ⟨fun _ => rfl, .inl rfl, ?_⟩
    have scene : (s.afterWorker { h with commands := [] }
        ({ s.worker with stack := [.commands (h.commands.map (·.val))] }, [])).scene =
          { s.scene with queue := [] } := by
      unfold Session.scene ClientRun.served ClientRun.undispatched BLEClientBase.incoming
      rw [host]
      simp [Session.afterWorker, BLEClientBase.queued]
    rw [scene]
    exact taken
  · cases step

/-- On top of a waiting call nothing waits in line. -/
theorem order_of_pumping {w : Worker} (order : InOrder w.stack) (pumping : w.pumping = true) :
    upcoming (changesOf w.stack) = [] := by
  rcases order with none | ⟨b, ps, rest, top, -⟩
  · exact none
  · unfold Worker.pumping at pumping
    rw [top] at pumping
    cases pumping

theorem Steady.deliver {p : PropertyChange} {signals : List PropertyChange} {more : Nat}
    (inv : s.Steady) (queue : s.blueZ.signals = p :: signals)
    (first : (signals.take more).filterMap PropertyChange.link? = [])
    (step : { s with blueZ := { s.blueZ with signals := signals.drop more } }.workerSteps
      (.signal (p :: signals.take more)) = some t) : t.Steady := by
  obtain ⟨h, r, host, stepped, rfl⟩ := workerSteps_some step
  obtain ⟨⟨pumping, -⟩, done⟩ := Option.ite_none_right_eq_some.mp stepped
  obtain rfl := Option.some.inj done
  have none := order_of_pumping inv.order pumping
  have split : s.scene.signals = (p :: signals.take more) ++ signals.drop more := by
    rw [List.cons_append, List.take_append_drop]
    exact queue
  refine .afterWorker host ?_ (inv.turn.deliver split none)
  cases value : p.link? with
  | some b =>
      cases p with
      | connected b' =>
          refine .inr ⟨b', signals.take more, s.worker.stack, rfl, ?_⟩
          rw [upcoming_append, none, List.append_nil]
          exact first
      | _ => cases value
  | none =>
      refine .inl ?_
      show upcoming ((p :: signals.take more) ++ changesOf s.worker.stack) = []
      rw [upcoming_append, none, List.append_nil]
      exact (List.filterMap_cons_none value).trans first

/-- A step of the main thread. -/
theorem Steady.client {l : ClientLabel Unit} {r : ClientRun Unit × Option Int} (inv : s.Steady)
    (take : l ≠ .take) (post : ∀ stamp ev, l ≠ .post stamp ev)
    (step : clientStep s.run l = some r) :
    ({ s with run := r.1, wanted := requested s.wanted l } : Session).Steady := by
  have forwards := forwards_step take post step
  refine ⟨fun isOpen => forwards.host (inv.host isOpen), inv.order, ?_⟩
  refine inv.turn.forwards forwards.queued ?_ fun discovered served => ?_
  · intro wanted
    cases l with
    | connect now =>
        right
        obtain rfl := Option.some.inj step
        show .connect ∈ (s.run.client.connect now).queued
        simp [BLEClientBase.queued, BLEClientBase.connect, BLEGattHost.enqueueCommand]
    | disconnect now => cases wanted
    | _ => exact .inl wanted
  · have isOpen : s.worker.busOpen = true := by
      by_contra closed
      have fresh := (inv.turn.closed (by simpa using closed)).1
      rw [discovered] at fresh
      cases fresh
    exact forwards.served (inv.host isOpen) served

theorem Steady.changed (inv : s.Steady) (p : PropertyChange) (link resolved : Bool)
    (value : ∀ b ∈ p.link?, b = link) (kept : p.link? = none → link = s.blueZ.link)
    (rises : link = true → resolved = true → p.rises = false →
      s.blueZ.link = true ∧ s.blueZ.resolved = true) :
    ({ s with blueZ := { s.signalled p with link := link, resolved := resolved } } :
      Session).Steady := by
  refine ⟨inv.host, inv.order, ?_⟩
  have turn := inv.turn.changed value kept rises
  have signals : (s.signalled p).signals =
      if s.worker.busOpen then s.blueZ.signals ++ [p] else s.blueZ.signals := by
    unfold signalled
    split <;> rfl
  unfold Session.scene
  dsimp only
  rw [signals]
  exact turn

/-- **Every step keeps a session steady**, under the condition. -/
theorem steady_step {l : SessionLabel} (inv : s.Steady) (guard : NoLateRaise s l)
    (step : sessionStep s l = some t) : t.Steady := by
  cases l with
  | client l =>
      have main (take : l ≠ .take) (post : ∀ stamp ev, l ≠ .post stamp ev)
          (step : (clientStep s.run l).map (fun r =>
            ({ s with run := r.1, wanted := requested s.wanted l } : Session)) = some t) :
          t.Steady := by
        obtain ⟨r, stepped, rfl⟩ := Option.map_eq_some_iff.mp step
        exact inv.client take post stepped
      cases l with
      | take | post => cases step
      | _ => exact main nofun nofun step
  | take =>
      unfold sessionStep at step
      dsimp only at step
      split at step
      · rename_i h host
        obtain ⟨r, stepped, rfl⟩ := Option.map_eq_some_iff.mp step
        exact inv.take host stepped
      · cases step
  | worker l =>
      cases l with
      | take | signal => cases step
      | answer depth a =>
          obtain ⟨answered, step⟩ := Option.ite_none_right_eq_some.mp step
          refine inv.worker (fun depth a same => ?_) guard nofun nofun step
          obtain ⟨rfl, rfl⟩ := WorkerLabel.answer.inj same
          exact answered
      | _ => exact inv.worker (fun _ _ same => by cases same) guard nofun nofun step
  | deliver more =>
      unfold sessionStep at step
      dsimp only at step
      split at step
      · cases step
      · rename_i p signals queue
        obtain ⟨first, step⟩ := Option.ite_none_right_eq_some.mp step
        exact inv.deliver queue first step
  | link b =>
      obtain rfl := Option.some.inj step
      have changed := inv.changed (.connected b) b s.blueZ.resolved
        (fun _ same => (Option.some.inj same).symm) nofun
        fun up _ rises => by cases up.symm.trans rises
      have same : (s.signalled (.connected b)).resolved = s.blueZ.resolved := by
        unfold signalled
        split <;> rfl
      rwa [← same] at changed
  | resolved b =>
      obtain rfl := Option.some.inj step
      have changed := inv.changed (.servicesResolved b) s.blueZ.link b nofun (fun _ => rfl)
        fun _ resolved rises => by cases resolved.symm.trans rises
      have same : (s.signalled (.servicesResolved b)).link = s.blueZ.link := by
        unfold signalled
        split <;> rfl
      rwa [← same] at changed

/-- **A quiet client that was last asked to connect is established**, in every run in which the
device is never found connected while `discovered_` is set. -/
theorem established_of_noLateRaise
    (run : sessionMachine.ReachableUnder NoLateRaise s) : s.Established := by
  have inv : s.Steady := by
    refine run.invariant (I := Steady) ?_ fun _ _ _ inv guard step => steady_step inv guard step
    rintro _ ⟨c, link, resolved, host, -, rfl⟩
    have none : ∀ roles, Role.plain ∉ roles → ¬ Holds .plain [] roles := by
      rintro roles plain (now | ⟨f, mem, -⟩)
      · exact plain now
      · cases mem
    exact ⟨nofun, .inl rfl, fun _ => ⟨rfl, rfl, none _ (by decide), rfl⟩, none _ (by decide), nofun,
      nofun, nofun, nofun, nofun, nofun⟩
  rintro ⟨drained, queues, signals, idle⟩ up resolved wanted
  have none : ∀ roles, Role.plain ∉ roles → ¬ Holds .plain s.worker.stack roles := by
    rintro roles plain (now | ⟨f, mem, -⟩)
    · exact plain now
    · rw [idle] at mem
      cases mem
  have empty : s.run.client.queued = [] ∧ s.run.client.incoming = [] := by
    unfold BLEClientBase.queued BLEClientBase.incoming
    cases host : s.run.client.host with
    | none => exact ⟨rfl, rfl⟩
    | some h =>
        obtain ⟨commands, events⟩ := queues h host
        exact ⟨congrArg _ commands, congrArg _ events⟩
  have commands : s.scene.commands s.worker.stack = [] := by
    show s.run.client.queued ++ owedOf s.worker.stack = []
    rw [empty.1, idle]
    rfl
  have changes : s.scene.changes s.worker.stack = [] := by
    show changesOf s.worker.stack ++ s.blueZ.signals = []
    rw [signals, idle]
    rfl
  have isOpen : s.worker.busOpen = true := by
    rcases inv.turn.opens wanted with isOpen | now | owed | ⟨f, mem, -⟩
    · exact isOpen
    · cases now
    · rw [commands] at owed
      cases owed
    · rw [idle] at mem
      cases mem
  have discovered : s.worker.discovered = true := by
    by_contra fresh
    rcases inv.turn.rises isOpen up resolved (by simpa using fresh) with holds | ⟨p, mem, -⟩
    · exact none _ (by decide) holds
    · rw [changes] at mem
      cases mem
  rcases inv.turn.serves discovered up with holds | pending | ⟨cmd, mem, -⟩ | served
  · exact absurd holds (none _ (by decide))
  · rw [changes] at pending
    exact absurd rfl pending
  · rw [commands] at mem
    cases mem
  · have served : s.run.served = true := served
    unfold ClientRun.served ClientRun.undispatched at served
    rw [drained, empty.2] at served
    exact of_decide_eq_true served

/-! ## Two runs -/

/-- A client after `setup`, its device not connected. -/
def freshSession : Session where
  run := ⟨({ stamp := () } : BLEClientBase Unit).setup, []⟩
  worker := { devicePath := [] }
  blueZ := ⟨false, false, []⟩

/-- `connect()`, up to `ESTABLISHED`. -/
def connects : List SessionLabel :=
  [.client (.connect 0), .take, .worker .advance, .worker (.answer 0 .done), .worker .advance,
    .worker (.answer 0 (.bool false)), .worker .advance, .link true, .worker (.answer 0 .done),
    .deliver 0, .worker .advance, .worker (.answer 0 (.bool false)), .worker .advance,
    .worker .advance, .worker .advance, .worker .advance, .resolved true, .deliver 0,
    .worker .advance, .worker (.answer 0 (.objects [])), .worker .advance,
    .worker (.answer 0 (.string [0x74])), .worker .advance, .worker (.answer 0 (.uint16 0)),
    .worker .advance, .worker .advance, .client .drain, .client (.dispatch 1),
    .client (.dispatch 1)]

/-- A second `connect()`: the device is found connected. -/
def connectsAgain : List SessionLabel :=
  [.client (.connect 2), .take, .worker .advance, .worker (.answer 0 (.bool true)),
    .worker .advance, .worker (.answer 0 (.bool true)), .worker .advance, .worker .advance,
    .client .drain, .client (.dispatch 3)]

theorem freshSession_init : sessionMachine.init freshSession := ⟨_, _, _, rfl, rfl, rfl⟩

/-- The premises of the property. -/
def Resolved (s : Session) : Prop :=
  s.Quiescent ∧ s.blueZ.link = true ∧ s.blueZ.resolved = true ∧ s.wanted = true

instance (s : Session) : Decidable s.Resolved := inferInstanceAs (Decidable (_ ∧ _ ∧ _ ∧ _))

theorem established_connected : ∃ s, sessionMachine.Reach NoLateRaise freshSession s ∧
    s.Resolved ∧ s.run.client.state = .established := by
  have replay : ((sessionMachine.guarded NoLateRaise).run freshSession connects).map
      (fun s => decide s.Resolved) = some true := by decide
  obtain ⟨s, ran, holds⟩ := Option.map_eq_some_iff.mp replay
  obtain ⟨quiet, up, resolved, wanted⟩ := of_decide_eq_true holds
  have reach := Machine.run_guarded_reach ran
  exact ⟨s, reach, ⟨quiet, up, resolved, wanted⟩,
    established_of_noLateRaise ⟨_, freshSession_init, reach⟩ quiet up resolved wanted⟩

/-- `connect()` on an established client parks it in `CONNECTED`: `CONNECTED` is posted again, and
`SERVICES_DISCOVERED` is not. -/
theorem not_established_reconnected : ∃ s, sessionMachine.Reachable s ∧
    s.Resolved ∧ s.run.client.state = .connected ∧
      (∀ now, s.run.client.connectTimedOut now = false ∧
        s.run.client.disconnectTimedOut now = false) ∧ ¬ s.Established := by
  have replay : (sessionMachine.run freshSession (connects ++ connectsAgain)).map
      (fun s => decide (s.Resolved ∧ s.run.client.state = .connected)) = some true := by decide
  obtain ⟨s, reach, holds⟩ := Machine.reach_of_run replay
  obtain ⟨⟨quiet, up, resolved, wanted⟩, connected⟩ := of_decide_eq_true holds
  refine ⟨s, ⟨_, freshSession_init, reach⟩, ⟨quiet, up, resolved, wanted⟩, connected,
    fun now => ?_, fun established => ?_⟩
  · simp [BLEClientBase.connectTimedOut, BLEClientBase.disconnectTimedOut, connected]
  · have state := established quiet up resolved wanted
    rw [connected] at state
    cases state

end Session

end EsphomeHost

import EsphomeHost.Client.Action
import EsphomeHost.Client.BleClient

/-!
# Connect and disconnect actions

`BLEClientConnectAction` goes on with its chain at the next `SERVICES_DISCOVERED`, and
`BLEClientDisconnectAction` at the next `DISCONNECTED`.  Neither looks at the state it was started
in, at the outcome of the attempt, or at a play that it is still waiting with.

* `LinkActions`: a client with such actions among its nodes.
* `idle_of_step`: only a `DISCONNECTED` makes the client idle.
* `settles_of_answerable`: **every play is continued once, and none is pending when the client is
  idle with nothing in its queues**, in every run in which what an action waits for can still come.
* `not_settles_idle`: a disconnect action played on an idle client, a connect action whose attempt
  fails, and an action played twice.
-/

namespace EsphomeHost

/-! ## The actions -/

inductive LinkActionKind
  | connect
  | disconnect
deriving DecidableEq

namespace LinkActionKind

/-- The event in whose hook the action calls `play_next_tuple_`. -/
def hears : LinkActionKind → HostGattEvent → Bool
  | connect, .servicesDiscovered _ _ | disconnect, .disconnected _ => true
  | _, _ => false

/-- What `play_complex` calls. -/
def start (c : BLEClient) (now : UInt32) : LinkActionKind → BLEClient
  | connect => (c.setEnabled true now).connect now
  | disconnect => (c.setEnabled false now).disconnect now

end LinkActionKind

structure LinkAction (α : Type) where
  kind : LinkActionKind
  state : ActionState α := {}
deriving DecidableEq

/-- A client and its actions, in the order in which they were registered.  `due` is what a running
`dispatch_event_` has still to call; `played` and `continued` are records of the plays. -/
structure LinkActions (α : Type) where
  client : BLEClient
  actions : List (LinkAction α) := []
  due : List (Visit Unit) := []
  played : List α := []
  continued : List (Play α) := []
deriving DecidableEq

inductive LinkLabel (α : Type)
  | client (l : ClientLabel Unit)
  | unconditionalDisconnect (now : UInt32)
  | setEnabled (enabled : Bool) (now : UInt32)
  | play (i : Nat) (x : α) (now : UInt32)
  /-- `dispatch_event_` calls the hook of the next node. -/
  | visit
deriving DecidableEq

namespace LinkActions

variable {α : Type} (s : LinkActions α)

/-- `play_complex` of action `i`. -/
def play (i : Nat) (x : α) (now : UInt32) : Option (LinkActions α) :=
  s.actions[i]?.map fun a =>
    { s with
      client := a.kind.start s.client now
      actions := s.actions.set i { a with state := a.state.play ⟨s.played.length, x⟩ }
      played := s.played ++ [x] }

/-- The hook of a node. -/
def hook (v : Visit Unit) : LinkActions α :=
  match s.actions[v.node]? with
  | some a =>
      if a.kind.hears v.event.val = true then
        { s with
          actions := s.actions.set v.node { a with state := a.state.playNextTuple.1 }
          continued := s.continued ++ a.state.playNextTuple.2 }
      else s
  | none => s

/-- `loop` goes on when `dispatch_event_` has returned. -/
def step : LinkLabel α → Option (LinkActions α)
  | .client l =>
      if l.ofLoop = true ∧ s.due ≠ [] then none
      else (s.client.step l).map fun c =>
        { s with
          client := c
          due := (s.client.run.dispatched l).elim s.due (visitsOf · s.actions.length) }
  | .unconditionalDisconnect now => some { s with client := s.client.unconditionalDisconnect now }
  | .setEnabled enabled now => some { s with client := s.client.setEnabled enabled now }
  | .play i x now => s.play i x now
  | .visit =>
      match s.due with
      | [] => none
      | v :: rest => some ({ s with due := rest }.hook v)

/-! ## The property -/

/-- The client is idle, so that no timeout is running, and its queues are empty. -/
def AtRest : Prop :=
  s.due = [] ∧ s.client.run.events = [] ∧ s.client.run.commands = [] ∧ s.client.state = .idle

instance : Decidable s.AtRest := inferInstanceAs (Decidable (_ ∧ _ ∧ _ ∧ _))

/-- No play is continued twice, each is continued with its own arguments, and at rest no action is
pending. -/
structure Settles : Prop where
  once : (s.continued.map Play.number).Nodup
  own : ∀ p ∈ s.continued, s.played[p.number]? = some p.args
  settled : s.AtRest → ∀ a ∈ s.actions, ¬ a.state.Waits

/-! ## The condition -/

/-- A `DISCONNECTED` that action `i` will hear is queued or being fanned out. -/
def Owed (i : Nat) : Prop :=
  (∃ v ∈ s.due, v.node = i ∧ LinkActionKind.disconnect.hears v.event.val = true) ∨
    ∃ x ∈ s.client.run.events, LinkActionKind.disconnect.hears x.val = true

instance (i : Nat) : Decidable (s.Owed i) := inferInstanceAs (Decidable (_ ∨ _))

/-- What the action waits for can still come: an action is not played while it waits, a disconnect
action is not played on an idle client unless a `DISCONNECTED` is on its way to it, and no
`DISCONNECTED` is dispatched while a connect action waits. -/
def Answerable : LinkLabel α → Prop
  | .play i _ _ => ∀ a ∈ s.actions[i]?, ¬ a.state.Waits ∧
      (a.kind = .disconnect → s.client.state = .idle → s.Owed i)
  | .client l => ∀ x ∈ s.client.run.dispatched l,
      LinkActionKind.disconnect.hears x.val = true →
        ∀ a ∈ s.actions, a.kind = .connect → ¬ a.state.Waits
  | _ => True

instance : (l : LinkLabel α) → Decidable (s.Answerable l)
  | .play i _ _ => inferInstanceAs (Decidable (∀ a ∈ s.actions[i]?, ¬ a.state.Waits ∧
      (a.kind = .disconnect → s.client.state = .idle → s.Owed i)))
  | .client l => inferInstanceAs (Decidable (∀ x ∈ s.client.run.dispatched l,
      LinkActionKind.disconnect.hears x.val = true →
        ∀ a ∈ s.actions, a.kind = .connect → ¬ a.state.Waits))
  | .unconditionalDisconnect _ | .setEnabled _ _ | .visit => isTrue trivial

end LinkActions

/-- A client after `setup`, with actions that have not been played. -/
def linkMachine (α : Type) : Machine (LinkActions α) (LinkLabel α) where
  init s := (clientMachine Unit).init s.client.run ∧ s.due = [] ∧ s.played = [] ∧
    s.continued = [] ∧ ∀ a ∈ s.actions, a.state.numRunning = 0
  step s l := s.step l

/-! ## What a step does to the client -/

/-- **Only a `DISCONNECTED` makes the client idle.** -/
theorem idle_of_step {τ : Type} {s : ClientRun τ} {l : ClientLabel τ}
    {t : ClientRun τ × Option Int} (step : clientStep s l = some t)
    (busy : s.client.state ≠ .idle) (idle : t.1.client.state = .idle) :
    ∃ x ∈ s.dispatched l, LinkActionKind.disconnect.hears x.val = true := by
  rcases clientStep_cases step with ⟨now, rfl, rfl⟩ | ⟨now, rfl, rfl⟩ | ⟨rfl, rfl⟩ |
    ⟨device, rfl, rfl⟩ | ⟨now, e, rest, rfl, head, rfl⟩ | ⟨now, rfl, -, rfl⟩ |
      ⟨now, rfl, -, rfl⟩ | ⟨-, -, quiet⟩
  · cases idle
  · rcases s.client.disconnect_cases now with ⟨already, -⟩ | ⟨state, same⟩ | ⟨-, -, same⟩
    · exact absurd already busy
    · rw [same] at idle
      exact absurd idle busy
    · rw [same] at idle
      cases idle
  · exact absurd idle busy
  · rcases s.client.parseDevice_cases device with same | ⟨already, -⟩
    · rw [same] at idle
      exact absurd idle busy
    · exact absurd already busy
  · refine ⟨e, by rw [ClientRun.dispatched, head]; rfl, ?_⟩
    obtain ⟨stamp, ev⟩ := e
    cases ev with
    | disconnected => rfl
    | connected =>
        unfold BLEClientBase.dispatchEvent at idle
        dsimp only at idle
        split at idle <;> cases idle
    | servicesDiscovered => cases idle
    | _ => exact absurd idle busy
  · unfold BLEClientBase.checkConnectTimeout at idle
    split at idle
    · rename_i expired
      exact ⟨_, if_pos expired, rfl⟩
    · exact absurd idle busy
  · unfold BLEClientBase.checkDisconnectTimeout at idle
    split at idle
    · rename_i expired
      exact ⟨_, if_pos expired, rfl⟩
    · exact absurd idle busy
  · rw [quiet.state] at idle
    exact absurd idle busy

/-- The call does not make the client idle and leaves the events alone. -/
structure StaysUp (c d : BLEClient) : Prop where
  busy : c.state ≠ .idle → d.state ≠ .idle
  events : d.run.events = c.run.events

section StaysUp

variable (c : BLEClient) (now : UInt32)

theorem StaysUp.trans {c d e : BLEClient} (left : StaysUp c d) (right : StaysUp d e) :
    StaysUp c e :=
  ⟨right.busy ∘ left.busy, right.events.trans left.events⟩

theorem stays_withBase {base : BLEClientBase Unit}
    (queues : BLEClientBase.Queues (fun _ => True) c.base base)
    (busy : c.state ≠ .idle → base.state ≠ .idle) : StaysUp c (c.withBase base) :=
  ⟨busy, congrArg (c.run.drained ++ ·) queues.events⟩

theorem stays_connect : StaysUp c (c.connect now) :=
  stays_withBase c (BLEClientBase.queues_connect trivial now) fun _ idle => by cases idle

theorem stays_unconditionalDisconnect : StaysUp c (c.unconditionalDisconnect now) :=
  stays_withBase c (BLEClientBase.queues_unconditionalDisconnect trivial now)
    fun _ idle => by cases idle

theorem stays_disconnect : StaysUp c (c.disconnect now) := by
  refine stays_withBase c (BLEClientBase.queues_disconnect trivial now) fun busy => ?_
  rcases c.base.disconnect_cases now with ⟨idle, -⟩ | ⟨-, same⟩ | ⟨-, -, same⟩
  · exact absurd idle busy
  · rw [same]
    exact busy
  · rw [same]
    intro idle
    cases idle

theorem stays_setEnabled (enabled : Bool) : StaysUp c (c.setEnabled enabled now) := by
  unfold BLEClient.setEnabled
  split
  · exact ⟨id, rfl⟩
  · dsimp only
    split
    · have stays := stays_disconnect { c with enabled := enabled } now
      exact ⟨stays.busy, stays.events⟩
    · exact ⟨id, rfl⟩

theorem stays_start (kind : LinkActionKind) : StaysUp c (kind.start c now) := by
  cases kind with
  | connect => exact (stays_setEnabled c now true).trans (stays_connect _ now)
  | disconnect => exact (stays_setEnabled c now false).trans (stays_disconnect _ now)

end StaysUp

/-! ## Runs -/

namespace LinkActions

variable {α : Type} {s t : LinkActions α}

theorem Owed.of_same {i : Nat} (owed : s.Owed i) (due : t.due = s.due)
    (events : t.client.run.events = s.client.run.events) : t.Owed i := by
  rcases owed with ⟨v, mem, visit⟩ | ⟨x, mem, heard⟩
  · exact .inl ⟨v, due ▸ mem, visit⟩
  · exact .inr ⟨x, events ▸ mem, heard⟩

/-- The plays are in order, and what each waiting action waits for can still come. -/
structure Heard (s : LinkActions α) : Prop where
  plays : PlayedOnce (s.actions.map LinkAction.state) s.played s.continued
  connecting : ∀ a ∈ s.actions, a.kind = .connect → a.state.Waits → s.client.state ≠ .idle
  disconnecting : ∀ (i : Nat) (a : LinkAction α), s.actions[i]? = some a → a.kind = .disconnect →
    a.state.Waits → s.client.state ≠ .idle ∨ s.Owed i

theorem Heard.of_stays (heard : s.Heard) {c : BLEClient} (stays : StaysUp s.client c) :
    ({ s with client := c } : LinkActions α).Heard := by
  refine ⟨heard.plays, fun a mem kind waits => stays.busy (heard.connecting a mem kind waits),
    fun i a here kind waits => ?_⟩
  rcases heard.disconnecting i a here kind waits with busy | owed
  · exact .inl (stays.busy busy)
  · exact .inr (owed.of_same rfl stays.events)

theorem Heard.client (heard : s.Heard) {l : ClientLabel Unit} (guard : s.Answerable (.client l))
    (step : s.step (.client l) = some t) : t.Heard := by
  obtain ⟨free, moved⟩ := Option.ite_none_left_eq_some.mp step
  obtain ⟨c, performed, rfl⟩ := Option.map_eq_some_iff.mp moved
  obtain ⟨-, r, ran, run⟩ := BLEClient.step_enabled performed
  have state : c.state = r.1.client.state := congrArg (·.client.state) run
  have queued {x : Stamped Unit HostGattEvent} (mem : x ∈ s.client.run.events)
      (kept : s.client.run.dispatched l ≠ some x) : x ∈ c.run.events := by
    rw [run]
    exact (queued_of_step ran mem).resolve_right kept
  have busy (kept : ∀ x ∈ s.client.run.dispatched l,
      LinkActionKind.disconnect.hears x.val ≠ true) (up : s.client.state ≠ .idle) :
      c.state ≠ .idle := by
    intro idle
    obtain ⟨x, dispatched, down⟩ := idle_of_step ran up (state.symm.trans idle)
    exact kept x dispatched down
  cases dispatched : s.client.run.dispatched l with
  | none =>
      rw [dispatched] at busy queued
      refine ⟨heard.plays, fun a mem kind waits => ?_, fun i a here kind waits => ?_⟩
      · exact busy (by simp) (heard.connecting a mem kind waits)
      · rcases heard.disconnecting i a here kind waits with up | ⟨v, mem, visit⟩ | ⟨x, mem, down⟩
        · exact .inl (busy (by simp) up)
        · exact .inr (.inl ⟨v, mem, visit⟩)
        · exact .inr (.inr ⟨x, queued mem (by simp), down⟩)
  | some y =>
      have none_due : s.due = [] := by
        by_contra due
        exact free ⟨ofLoop_of_dispatched dispatched, due⟩
      by_cases ends : LinkActionKind.disconnect.hears y.val = true
      · refine ⟨heard.plays, fun a mem kind waits => ?_, fun i a here kind waits => ?_⟩
        · exact absurd waits (guard y dispatched ends a mem kind)
        · obtain ⟨inside, -⟩ := List.getElem?_eq_some_iff.mp here
          exact .inr (.inl ⟨⟨y, i⟩, mem_visitsOf.mpr ⟨rfl, inside⟩, rfl, ends⟩)
      · have kept : ∀ x ∈ s.client.run.dispatched l,
            LinkActionKind.disconnect.hears x.val ≠ true := by
          intro x mem
          rw [dispatched] at mem
          rwa [← Option.some.inj mem]
        refine ⟨heard.plays, fun a mem kind waits => ?_, fun i a here kind waits => ?_⟩
        · exact busy kept (heard.connecting a mem kind waits)
        · rcases heard.disconnecting i a here kind waits with up | ⟨v, mem, -⟩ | ⟨x, mem, down⟩
          · exact .inl (busy kept up)
          · rw [none_due] at mem
            cases mem
          · refine .inr (.inr ⟨x, queued mem fun same => ?_, down⟩)
            exact kept x same down

theorem Heard.play (heard : s.Heard) {i : Nat} {x : α} {now : UInt32}
    (guard : s.Answerable (.play i x now)) (step : s.step (.play i x now) = some t) :
    t.Heard := by
  obtain ⟨a, here, rfl⟩ := Option.map_eq_some_iff.mp step
  obtain ⟨idle, may⟩ := guard a here
  have stays := stays_start s.client now a.kind
  have old := heard.of_stays stays
  refine ⟨?_, fun b mem kind waits => ?_, fun j b there kind waits => ?_⟩
  · exact heard.plays.play_at here idle rfl
  · rcases List.mem_or_eq_of_mem_set mem with mem | rfl
    · exact old.connecting b mem kind waits
    · have connects : a.kind = .connect := kind
      show (a.kind.start s.client now).state ≠ .idle
      rw [connects]
      intro down
      cases down
  · rcases getElem?_set_cases there with ⟨rfl, rfl⟩ | ⟨-, there⟩
    · by_cases down : s.client.state = .idle
      · exact .inr ((may kind down).of_same rfl stays.events)
      · exact .inl (stays.busy down)
    · exact (old.disconnecting j b there kind waits).imp_right (·.of_same rfl rfl)

theorem Heard.visit (heard : s.Heard) (step : s.step .visit = some t) : t.Heard := by
  unfold LinkActions.step at step
  cases due : s.due with
  | nil =>
      rw [due] at step
      cases step
  | cons v rest =>
      rw [due] at step
      obtain rfl := Option.some.inj step
      -- an action that is not visited, or does not hear the event, is owed what it was owed
      have owed {i : Nat} (owed : s.Owed i)
          (other : i = v.node → LinkActionKind.disconnect.hears v.event.val ≠ true)
          {u : LinkActions α} (left : u.due = rest) (client : u.client = s.client) : u.Owed i := by
        rcases owed with ⟨w, mem, node, hears⟩ | ⟨x, mem, hears⟩
        · rw [due] at mem
          rcases List.mem_cons.mp mem with rfl | later
          · exact absurd hears (other node.symm)
          · exact .inl ⟨w, left ▸ later, node, hears⟩
        · exact .inr ⟨x, client ▸ mem, hears⟩
      unfold LinkActions.hook
      dsimp only
      split
      · rename_i a here
        split
        · rename_i hears
          have ended := heard.plays.not_waits_next (map_here here)
          refine ⟨?_, fun b mem kind waits => ?_, fun j b there kind waits => ?_⟩
          · exact heard.plays.next_at here rfl
          · rcases List.mem_or_eq_of_mem_set mem with mem | rfl
            · exact heard.connecting b mem kind waits
            · exact absurd waits ended
          · rcases getElem?_set_cases there with ⟨rfl, rfl⟩ | ⟨apart, there⟩
            · exact absurd waits ended
            · refine (heard.disconnecting j b there kind waits).imp_right fun before => ?_
              exact owed before (fun same => absurd same.symm apart) rfl rfl
        · rename_i deaf
          refine ⟨heard.plays, heard.connecting, fun j b there kind waits => ?_⟩
          refine (heard.disconnecting j b there kind waits).imp_right fun before => ?_
          refine owed before (fun same hears => ?_) rfl rfl
          subst same
          obtain rfl := Option.some.inj (here.symm.trans there)
          rw [kind] at deaf
          exact deaf hears
      · rename_i missing
        refine ⟨heard.plays, heard.connecting, fun j b there kind waits => ?_⟩
        refine (heard.disconnecting j b there kind waits).imp_right fun before => ?_
        refine owed before (fun same => ?_) rfl rfl
        subst same
        rw [missing] at there
        cases there

theorem heard_step {l : LinkLabel α} (heard : s.Heard) (guard : s.Answerable l)
    (step : s.step l = some t) : t.Heard := by
  cases l with
  | client l => exact heard.client guard step
  | unconditionalDisconnect now =>
      obtain rfl := Option.some.inj step
      exact heard.of_stays (stays_unconditionalDisconnect s.client now)
  | setEnabled enabled now =>
      obtain rfl := Option.some.inj step
      exact heard.of_stays (stays_setEnabled s.client now enabled)
  | play i x now => exact heard.play guard step
  | visit => exact heard.visit step

theorem heard_of_answerable (run : (linkMachine α).ReachableUnder Answerable s) : s.Heard := by
  refine run.invariant (fun s init => ?_) fun s l t heard guard step => heard_step heard guard step
  obtain ⟨-, -, played, continued, idle⟩ := init
  refine ⟨?_, fun a mem _ waits => absurd (idle a mem) (Nat.ne_of_gt waits),
    fun i a here _ waits => absurd (idle a (List.mem_of_getElem? here)) (Nat.ne_of_gt waits)⟩
  rw [played, continued]
  refine .fresh fun a mem => ?_
  obtain ⟨b, member, rfl⟩ := List.mem_map.mp mem
  exact idle b member

end LinkActions

open LinkActions

/-- **The actions settle** in every run in which what an action waits for can still come. -/
theorem settles_of_answerable {α : Type} {s : LinkActions α}
    (run : (linkMachine α).ReachableUnder Answerable s) : s.Settles := by
  have heard := heard_of_answerable run
  refine ⟨heard.plays.once, heard.plays.own, ?_⟩
  rintro ⟨due, events, -, idle⟩ a mem waits
  cases kind : a.kind with
  | connect => exact heard.connecting a mem kind waits idle
  | disconnect =>
      obtain ⟨i, here⟩ := List.getElem?_of_mem mem
      rcases heard.disconnecting i a here kind waits with busy | ⟨v, visit, -⟩ | ⟨x, queued, -⟩
      · exact busy idle
      · rw [due] at visit
        cases visit
      · rw [events] at queued
        cases queued

/-! ## Runs -/

/-- A client after `setup`, with a connect and a disconnect action. -/
def linkStart : LinkActions Nat :=
  { client := { run := ⟨({ stamp := () } : BLEClientBase Unit).setup, []⟩ }
    actions := [{ kind := .connect }, { kind := .disconnect }] }

theorem linkStart_init : (linkMachine Nat).init linkStart :=
  ⟨⟨_, rfl, rfl, rfl⟩, rfl, rfl, rfl, by decide⟩

/-- The worker posts an event, and the next `loop` fans it out to the two actions. -/
def fannedOut (ev : HostGattEvent) : List (LinkLabel Nat) :=
  [.client .take, .client (.post () ev), .client .drain, .client (.dispatch 0), .visit, .visit]

/-- The client is connected by one action and disconnected by the other. -/
def connectThenDisconnect : List (LinkLabel Nat) :=
  .play 0 5 0 :: fannedOut .connected ++ fannedOut (.servicesDiscovered 247 []) ++
    .play 1 6 0 :: fannedOut (.disconnected 0)

/-- Both plays are continued. -/
theorem settles_connected : ∃ s, (linkMachine Nat).run linkStart connectThenDisconnect = some s ∧
    s.AtRest ∧ s.continued = [⟨0, 5⟩, ⟨1, 6⟩] ∧ s.Settles := by
  obtain ⟨s, ran, replay, rest, continued⟩ : ∃ s,
      ((linkMachine Nat).guarded Answerable).run linkStart connectThenDisconnect = some s ∧
      (linkMachine Nat).run linkStart connectThenDisconnect = some s ∧ s.AtRest ∧
        s.continued = [⟨0, 5⟩, ⟨1, 6⟩] := ⟨_, rfl, rfl, by decide, rfl⟩
  exact ⟨s, replay, rest, continued,
    settles_of_answerable ⟨linkStart, linkStart_init, Machine.run_guarded_reach ran⟩⟩

/-- A disconnect action on an idle client and a connect action whose attempt fails stay pending,
and a connect action that is played twice goes on twice with the arguments of its second play. -/
theorem not_settles_idle :
    (∃ s, (linkMachine Nat).Reachable s ∧ s.AtRest ∧
      ∃ a ∈ s.actions, a.kind = .disconnect ∧ a.state.Waits) ∧
    (∃ s, (linkMachine Nat).Reachable s ∧ s.AtRest ∧
      ∃ a ∈ s.actions, a.kind = .connect ∧ a.state.Waits) ∧
    ∃ s, (linkMachine Nat).Reachable s ∧ s.played = [5, 6] ∧ s.continued = [⟨1, 6⟩, ⟨1, 6⟩] := by
  refine ⟨?_, ?_, ?_⟩
  · obtain ⟨s, ran, pending⟩ : ∃ s, (linkMachine Nat).run linkStart [.play 1 5 0] = some s ∧
        s.AtRest ∧ ∃ a ∈ s.actions, a.kind = .disconnect ∧ a.state.Waits := ⟨_, rfl, by decide⟩
    exact ⟨s, ⟨linkStart, linkStart_init, Machine.run_reach ran⟩, pending⟩
  · obtain ⟨s, ran, pending⟩ : ∃ s, (linkMachine Nat).run linkStart
          (.play 0 5 0 :: fannedOut (.disconnected ESP_GATT_ERROR)) = some s ∧
        s.AtRest ∧ ∃ a ∈ s.actions, a.kind = .connect ∧ a.state.Waits := ⟨_, rfl, by decide⟩
    exact ⟨s, ⟨linkStart, linkStart_init, Machine.run_reach ran⟩, pending⟩
  · have replay : ((linkMachine Nat).run linkStart
        (.play 0 5 0 :: .play 0 6 0 :: fannedOut .connected ++
          fannedOut (.servicesDiscovered 247 []) ++ fannedOut (.disconnected 0) ++
            .client (.connect 0) :: fannedOut .connected ++
              fannedOut (.servicesDiscovered 247 []))).map
          (fun s => decide (s.played = [5, 6] ∧ s.continued = [⟨1, 6⟩, ⟨1, 6⟩])) = some true := by
      decide +kernel
    obtain ⟨s, reach, twice⟩ := Machine.reach_of_run replay
    exact ⟨s, ⟨linkStart, linkStart_init, reach⟩, of_decide_eq_true twice⟩

end EsphomeHost

import EsphomeHost.Lib.Machine
import Mathlib.Data.List.Nodup

/-!
# Sessions of the event source

Connection threads make sessions, publish them in `sessions_` and then call `on_connect_`; the main
loop sends to the published sessions and collects those whose descriptor is closed: it calls
`on_disconnect_` and deletes them.  The blocks under a mutex and the callbacks are the steps.

* `Kept`: what holds between the threads as long as every session that is collected has been
  connected.
* `orderly_iff_collectsConnected`: **then every session has its callbacks once and in their order
  and is not used after it is deleted; and a collection that takes a session before its
  `on_connect_` call has returned can be followed by a violation.**
-/

namespace EsphomeHost.AsyncEventSource

/-- Which callbacks are set. -/
structure Callbacks where
  onConnect : Bool
  onDisconnect : Bool

/-- Where `handleRequest` is with its session.  What it does after the `on_connect_` call does not
touch the session. -/
inductive Handling
  | constructed
  | published
  | connected
deriving DecidableEq

/-- What happens to a session: it is read or written, passed to a callback, deleted. -/
inductive Happening
  | use
  | onConnect
  | onDisconnect
  | delete
deriving DecidableEq

/-- The source and the message generator of an entity's state. -/
structure DeferredEvent where
  source : Nat
  messageGenerator : Nat
deriving DecidableEq

/-- `AsyncEventSourceResponse`, with all that has happened to it; `isOpen` is `fd_ ≥ 0`. -/
structure Session where
  handling : Handling := .constructed
  isOpen : Bool := false
  deferredQueue : List DeferredEvent := []
  log : List Happening := []

namespace Session

variable (s : Session)

def note (h : Happening) : Session := { s with log := s.log ++ [h] }

/-- The constructor, with the outcome of sending the header. -/
def construct (sent : Bool) : Session := { isOpen := sent, log := [.use] }

def sendRaw (sent : Bool) : Session :=
  if s.isOpen ∧ ¬ sent then { s with isOpen := false } else s

def trySendNodefer (sent : Bool) : Session := (s.note .use).sendRaw sent

def deqPushBackWithDedup (event : DeferredEvent) : Session :=
  if event ∈ s.deferredQueue then s
  else { s with deferredQueue := s.deferredQueue ++ [event] }

def deferrableSendState (event : DeferredEvent) : Session :=
  (s.note .use).deqPushBackWithDedup event

/-- One round of `process_deferred_queue_`: the front event generates nothing or a frame, which is
sent or not. -/
def processDeferred (outcome : Option Bool) : Session :=
  if outcome = some false then (s.note .use).sendRaw false
  else { s.note .use with deferredQueue := s.deferredQueue.tail }

end Session

/-- Where the main loop is: servicing the snapshot, or disposing of the dead sessions, the first of
which may have had its `on_disconnect_` call. -/
inductive MainLoop
  | between
  | servicing (snapshot : List Nat)
  | disposing (dead : List Nat)
  | deleting (d : Nat) (dead : List Nat)
deriving DecidableEq

/-- The sessions made so far are those below `made`. -/
structure State where
  session : Nat → Session := fun _ => {}
  made : Nat := 0
  sessions : List Nat := []
  main : MainLoop := .between

namespace State

variable (s : State)

def modify (x : Nat) (f : Session → Session) : State :=
  { s with session := fun y => if y = x then f (s.session x) else s.session y }

/-- A loop over sessions. -/
def forEach (xs : List Nat) (f : Nat → Session → Session) : State :=
  xs.foldl (fun s x => s.modify x (f x)) s

def opened (x : Nat) : Bool := (s.session x).isOpen

end State

/-- The steps of the threads, with the outcome of each send.  The callback of `connect` may send to
its session; the main loop may send between any two of its steps, as callbacks do. -/
inductive Action
  | construct (sent : Bool)
  | publish (x : Nat)
  | connect (x : Nat) (sent : List Bool)
  | trySendNodefer (sent : Nat → Bool)
  | deferrableSendState (event : DeferredEvent)
  | loop
  | processDeferred (outcome : Option Bool)
  | serviced
  | collect
  | disconnect
  | delete
  | looped

/-- The `on_connect_` call. -/
def Callbacks.callOnConnect (cb : Callbacks) (sent : List Bool) (s : Session) : Session :=
  if cb.onConnect then sent.foldl Session.trySendNodefer (s.note .onConnect) else s

/-- The `on_disconnect_` call. -/
def Callbacks.callOnDisconnect (cb : Callbacks) (s : Session) : Session :=
  if cb.onDisconnect then s.note .onDisconnect else s

def step (cb : Callbacks) (s : State) : Action → Option State
  | .construct sent =>
      some { s.modify s.made fun _ => Session.construct sent with made := s.made + 1 }
  | .publish x =>
      if x < s.made ∧ (s.session x).handling = .constructed then
        some { s.modify x fun a => { a with handling := .published } with
          sessions := s.sessions ++ [x] }
      else none
  | .connect x sent =>
      if x < s.made ∧ (s.session x).handling = .published then
        some (s.modify x fun a => { cb.callOnConnect sent a with handling := .connected })
      else none
  | .trySendNodefer sent =>
      some (s.forEach s.sessions fun x a => a.trySendNodefer (sent x))
  | .deferrableSendState event =>
      some (s.forEach s.sessions fun _ a => a.deferrableSendState event)
  | .loop =>
      if s.main = .between then some { s with main := .servicing s.sessions } else none
  | .processDeferred outcome =>
      match s.main with
      | .servicing (x :: _) =>
          if s.opened x ∧ (s.session x).deferredQueue ≠ [] then
            some (s.modify x fun a => a.processDeferred outcome)
          else none
      | _ => none
  | .serviced =>
      match s.main with
      | .servicing (x :: snapshot) =>
          if s.opened x ∧ (s.session x).deferredQueue ≠ [] then none
          else some { s.modify x fun a => a.note .use with main := .servicing snapshot }
      | _ => none
  | .collect =>
      if s.main = .servicing [] then
        some { s.forEach s.sessions fun _ a => a.note .use with
          sessions := s.sessions.filter s.opened
          main := .disposing (s.sessions.filter fun x => !s.opened x) }
      else none
  | .disconnect =>
      match s.main with
      | .disposing (d :: dead) =>
          some { s.modify d cb.callOnDisconnect with main := .deleting d dead }
      | _ => none
  | .delete =>
      match s.main with
      | .deleting d dead =>
          some { s.modify d fun a => a.note .delete with main := .disposing dead }
      | _ => none
  | .looped => if s.main = .disposing [] then some { s with main := .between } else none

def machine (cb : Callbacks) : Machine State Action where
  init := fun s => s = {}
  step := step cb

/-! ## What a session may go through -/

/-- The `on_connect_` call comes before any `on_disconnect_` call, and nothing after `delete`. -/
structure InOrder (cb : Callbacks) (log : List Happening) : Prop where
  before : ∀ first, first ++ [.onDisconnect] <+: log → cb.onConnect → .onConnect ∈ first
  last : ∀ first, first ++ [.delete] <+: log → log = first ++ [.delete]

/-- One `on_connect_` call, where one is set, and everything in order. -/
structure Orderly (cb : Callbacks) (s : Session) : Prop where
  once : s.log.count .onConnect = if cb.onConnect ∧ s.handling = .connected then 1 else 0
  inOrder : InOrder cb s.log

/-- A collection takes connected sessions only. -/
def CollectsConnected (cb : Callbacks) (s : State) : Action → Prop
  | .collect => cb.onConnect → ∀ x ∈ s.sessions, s.opened x = false →
      (s.session x).handling = .connected
  | _ => True

instance (cb : Callbacks) (s : State) : (act : Action) → Decidable (CollectsConnected cb s act)
  | .collect => inferInstanceAs (Decidable (cb.onConnect → ∀ x ∈ s.sessions,
      s.opened x = false → (s.session x).handling = .connected))
  | .construct _ | .publish _ | .connect _ _ | .trySendNodefer _ | .deferrableSendState _ | .loop
  | .processDeferred _ | .serviced | .disconnect | .delete | .looped => isTrue trivial

variable {cb : Callbacks} {s t u : State} {a b c : Session} {x y : Nat} {h : Happening}
  {log : List Happening}

theorem InOrder.nil : InOrder cb [] :=
  have long (first : List Happening) (k : Happening) : first ++ [k] ≠ [] :=
    List.append_ne_nil_of_right_ne_nil _ (List.cons_ne_nil _ _)
  ⟨fun _ early => absurd (List.prefix_nil.mp early) (long _ _),
    fun _ early => absurd (List.prefix_nil.mp early) (long _ _)⟩

theorem prefix_note {α : Type} {first log : List α} {h k : α} :
    first ++ [k] <+: log ++ [h] ↔ first = log ∧ k = h ∨ first ++ [k] <+: log := by
  rw [List.prefix_concat_iff]
  refine or_congr_left ⟨fun same => ?_, fun ⟨first, last⟩ => by rw [first, last]⟩
  obtain ⟨first, last⟩ := List.append_inj' same rfl
  exact ⟨first, (List.cons.inj last).1⟩

/-- What may be noted next. -/
theorem InOrder.note (inOrder : InOrder cb log) (alive : .delete ∉ log)
    (connected : h = .onDisconnect → cb.onConnect → .onConnect ∈ log) :
    InOrder cb (log ++ [h]) := by
  refine ⟨fun first early set => ?_, fun first early => ?_⟩
  · rcases prefix_note.mp early with ⟨rfl, last⟩ | earlier
    · exact connected last.symm set
    · exact inOrder.before first earlier set
  · rcases prefix_note.mp early with ⟨rfl, rfl⟩ | earlier
    · rfl
    · exact absurd (earlier.subset (List.mem_append_right _ (List.mem_singleton_self _))) alive

theorem InOrder.uses (inOrder : InOrder cb log) (alive : .delete ∉ log) (n : Nat) :
    InOrder cb (log ++ List.replicate n .use) := by
  induction n with
  | zero => rwa [List.replicate_zero, List.append_nil]
  | succ n ih =>
      rw [List.replicate_succ', ← List.append_assoc]
      refine ih.note ?_ fun same => Happening.noConfusion same
      intro deleted
      rcases List.mem_append.mp deleted with old | new
      · exact alive old
      · exact absurd (List.eq_of_mem_replicate new) (by decide)

/-! ## Uses -/

def Alive (s : Session) : Prop := .delete ∉ s.log

/-- `b` is `a` after it has been used. -/
structure Used (a b : Session) : Prop where
  handling : b.handling = a.handling
  log : ∃ n, b.log = a.log ++ List.replicate n .use

theorem Used.refl (a : Session) : Used a a := ⟨rfl, 0, (List.append_nil _).symm⟩

theorem Used.trans (left : Used a b) (right : Used b c) : Used a c := by
  obtain ⟨n, first⟩ := left.log
  obtain ⟨m, rest⟩ := right.log
  refine ⟨right.handling.trans left.handling, n + m, ?_⟩
  rw [rest, first, List.append_assoc, List.replicate_append_replicate]

theorem used_note : Used a (a.note .use) := ⟨rfl, 1, rfl⟩

theorem used_sendRaw (sent : Bool) : Used a (a.sendRaw sent) := by
  unfold Session.sendRaw
  split
  · exact ⟨rfl, (Used.refl a).log⟩
  · exact .refl a

theorem used_trySendNodefer (sent : Bool) : Used a (a.trySendNodefer sent) :=
  used_note.trans (used_sendRaw sent)

theorem used_deferrableSendState (event : DeferredEvent) :
    Used a (a.deferrableSendState event) := by
  refine used_note.trans ?_
  unfold Session.deferrableSendState Session.deqPushBackWithDedup
  split
  · exact .refl _
  · exact ⟨rfl, (Used.refl _).log⟩

theorem used_processDeferred (outcome : Option Bool) : Used a (a.processDeferred outcome) := by
  unfold Session.processDeferred
  split
  · exact used_note.trans (used_sendRaw _)
  · exact ⟨rfl, used_note.log⟩

theorem used_foldl (sent : List Bool) : Used a (sent.foldl Session.trySendNodefer a) := by
  induction sent generalizing a with
  | nil => exact .refl a
  | cons first sent ih => exact (used_trySendNodefer first).trans ih

theorem Used.alive (used : Used a b) (alive : Alive a) : Alive b := by
  obtain ⟨n, log⟩ := used.log
  unfold Alive
  rw [log]
  intro deleted
  rcases List.mem_append.mp deleted with old | new
  · exact alive old
  · exact absurd (List.eq_of_mem_replicate new) (by decide)

theorem Used.count (used : Used a b) : b.log.count .onConnect = a.log.count .onConnect := by
  obtain ⟨n, log⟩ := used.log
  rw [log, List.count_append, List.count_replicate]
  rfl

theorem Used.orderly (used : Used a b) (alive : Alive a) (orderly : Orderly cb a) :
    Orderly cb b := by
  refine ⟨by rw [used.count, used.handling, orderly.once], ?_⟩
  obtain ⟨n, log⟩ := used.log
  rw [log]
  exact orderly.inOrder.uses alive n

/-! ## Loops over sessions -/

/-- `t` is `s` after uses of the sessions `xs`. -/
structure Aside (xs : List Nat) (s t : State) : Prop where
  made : t.made = s.made
  sessions : t.sessions = s.sessions
  main : t.main = s.main
  used : ∀ x, Used (s.session x) (t.session x)
  other : ∀ x, x ∉ xs → t.session x = s.session x

theorem session_modify_self (f : Session → Session) : (s.modify x f).session x = f (s.session x) :=
  if_pos rfl

theorem session_modify_of_ne {f : Session → Session} (other : y ≠ x) :
    (s.modify x f).session y = s.session y := if_neg other

theorem aside_modify {f : Session → Session} (uses : ∀ a, Used a (f a)) :
    Aside [x] s (s.modify x f) := by
  refine ⟨rfl, rfl, rfl, fun y => ?_, fun y other => ?_⟩
  · by_cases same : y = x
    · rw [same, session_modify_self]
      exact uses _
    · rw [session_modify_of_ne same]
      exact .refl _
  · exact session_modify_of_ne fun same => other (List.mem_singleton.mpr same)

theorem aside_forEach {f : Nat → Session → Session} (uses : ∀ x a, Used a (f x a))
    (xs : List Nat) (s : State) : Aside xs s (s.forEach xs f) := by
  induction xs generalizing s with
  | nil => exact ⟨rfl, rfl, rfl, fun _ => .refl _, fun _ _ => rfl⟩
  | cons x xs ih =>
      have first := aside_modify (s := s) (x := x) (uses x)
      have rest := ih (s.modify x (f x))
      refine ⟨rest.made, rest.sessions, rest.main,
        fun y => (first.used y).trans (rest.used y), fun y other => ?_⟩
      exact (rest.other y (List.not_mem_of_not_mem_cons other)).trans
        (session_modify_of_ne (List.ne_of_not_mem_cons other))

/-! ## Between the threads -/

namespace MainLoop

/-- What is left of the snapshot. -/
def snapshot : MainLoop → List Nat
  | .servicing snapshot => snapshot
  | _ => []

/-- The collected sessions that are not deleted yet. -/
def dead : MainLoop → List Nat
  | .disposing dead => dead
  | .deleting d dead => d :: dead
  | _ => []

end MainLoop

/-- The connection thread is through with the session. -/
structure Released (cb : Callbacks) (a : Session) : Prop where
  published : a.handling ≠ .constructed
  connected : cb.onConnect → a.handling = .connected

/-- **What holds between the threads.** -/
structure Kept (cb : Callbacks) (s : State) : Prop where
  orderly : ∀ x, Orderly cb (s.session x)
  distinct : s.sessions.Nodup
  listed : ∀ x ∈ s.sessions,
    x < s.made ∧ (s.session x).handling ≠ .constructed ∧ Alive (s.session x)
  snapshot : ∀ x ∈ s.main.snapshot, x ∈ s.sessions
  deadDistinct : s.main.dead.Nodup
  dead : ∀ x ∈ s.main.dead,
    x < s.made ∧ x ∉ s.sessions ∧ Released cb (s.session x) ∧ Alive (s.session x)
  gone : ∀ x < s.made, ¬ Alive (s.session x) → Released cb (s.session x)

theorem Used.released (used : Used a b) (released : Released cb a) : Released cb b :=
  ⟨used.handling ▸ released.published, used.handling ▸ released.connected⟩

theorem orderly_new (sent : Bool) : Orderly cb (Session.construct sent) :=
  ⟨(if_neg fun done => Handling.noConfusion done.2).symm,
    InOrder.nil.uses (List.not_mem_nil) 1⟩

theorem kept_init : Kept cb {} where
  orderly _ := ⟨(if_neg fun done => Handling.noConfusion done.2).symm, .nil⟩
  distinct := .nil
  listed := List.forall_mem_nil _
  snapshot := List.forall_mem_nil _
  deadDistinct := .nil
  dead := List.forall_mem_nil _
  gone x below := absurd below (Nat.not_lt_zero x)

/-- Uses of sessions that are not deleted. -/
theorem Kept.aside {xs : List Nat} (kept : Kept cb s) (aside : Aside xs s t)
    (alive : ∀ x ∈ xs, Alive (s.session x)) : Kept cb t where
  orderly x := by
    by_cases mem : x ∈ xs
    · exact (aside.used x).orderly (alive x mem) (kept.orderly x)
    · rw [aside.other x mem]
      exact kept.orderly x
  distinct := aside.sessions ▸ kept.distinct
  listed x mem := by
    rw [aside.sessions] at mem
    obtain ⟨below, published, alive⟩ := kept.listed x mem
    rw [aside.made, (aside.used x).handling]
    exact ⟨below, published, (aside.used x).alive alive⟩
  snapshot x mem := by
    rw [aside.main] at mem
    rw [aside.sessions]
    exact kept.snapshot x mem
  deadDistinct := aside.main ▸ kept.deadDistinct
  dead x mem := by
    rw [aside.main] at mem
    obtain ⟨below, unlisted, released, alive⟩ := kept.dead x mem
    rw [aside.made, aside.sessions]
    exact ⟨below, unlisted, (aside.used x).released released, (aside.used x).alive alive⟩
  gone x below deleted := by
    rw [aside.made] at below
    exact (aside.used x).released
      (kept.gone x below fun alive => deleted ((aside.used x).alive alive))

theorem Kept.alive_listed (kept : Kept cb s) : ∀ x ∈ s.sessions, Alive (s.session x) :=
  fun x mem => (kept.listed x mem).2.2

theorem Kept.alive_serviced (kept : Kept cb s) {snapshot : List Nat}
    (servicing : s.main = .servicing (x :: snapshot)) : Alive (s.session x) := by
  refine kept.alive_listed x (kept.snapshot x ?_)
  rw [servicing]
  exact List.mem_cons_self

/-- The session `x` is now `a`, and the others are as they were. -/
structure Changed (x : Nat) (a : Session) (s t : State) : Prop where
  here : t.session x = a
  there : ∀ y, y ≠ x → t.session y = s.session y

theorem changed_modify (f : Session → Session) :
    Changed x (f (s.session x)) s (s.modify x f) :=
  ⟨session_modify_self f, fun _ => session_modify_of_ne⟩

theorem Changed.orderly (changed : Changed x a s t) (kept : Kept cb s) (orderly : Orderly cb a) :
    ∀ y, Orderly cb (t.session y) := by
  intro y
  by_cases same : y = x
  · rw [same, changed.here]
    exact orderly
  · rw [changed.there y same]
    exact kept.orderly y

theorem kept_construct (kept : Kept cb s) {sent : Bool}
    (changed : Changed s.made (Session.construct sent) s t) (made : t.made = s.made + 1)
    (sessions : t.sessions = s.sessions) (main : t.main = s.main) : Kept cb t where
  orderly := changed.orderly kept (orderly_new sent)
  distinct := sessions ▸ kept.distinct
  listed x mem := by
    rw [sessions] at mem
    obtain ⟨below, rest⟩ := kept.listed x mem
    rw [made, changed.there x (Nat.ne_of_lt below)]
    exact ⟨Nat.lt_succ_of_lt below, rest⟩
  snapshot := sessions ▸ main ▸ kept.snapshot
  deadDistinct := main ▸ kept.deadDistinct
  dead x mem := by
    rw [main] at mem
    obtain ⟨below, rest⟩ := kept.dead x mem
    rw [made, sessions, changed.there x (Nat.ne_of_lt below)]
    exact ⟨Nat.lt_succ_of_lt below, rest⟩
  gone x below deleted := by
    by_cases new : x = s.made
    · rw [new, changed.here] at deleted
      exact absurd (by decide : .delete ∉ [Happening.use]) deleted
    · rw [made] at below
      rw [changed.there x new] at deleted ⊢
      exact kept.gone x (Nat.lt_of_le_of_ne (Nat.le_of_lt_succ below) new) deleted

theorem kept_publish (kept : Kept cb s) (below : x < s.made)
    (constructed : (s.session x).handling = .constructed)
    (changed : Changed x { s.session x with handling := .published } s t) (made : t.made = s.made)
    (sessions : t.sessions = s.sessions ++ [x]) (main : t.main = s.main) : Kept cb t := by
  have unlisted : x ∉ s.sessions := fun mem => (kept.listed x mem).2.1 constructed
  have living : x ∉ s.main.dead := fun mem => (kept.dead x mem).2.2.1.published constructed
  have alive : Alive (s.session x) := by
    by_contra deleted
    exact (kept.gone x below deleted).published constructed
  constructor
  case orderly =>
    refine changed.orderly kept ⟨?_, (kept.orderly x).inOrder⟩
    have none := (kept.orderly x).once
    rw [constructed, if_neg (fun done => Handling.noConfusion done.2)] at none
    exact none.trans (if_neg fun done => Handling.noConfusion done.2).symm
  case distinct =>
    rw [sessions, ← List.concat_eq_append]
    exact kept.distinct.concat unlisted
  case listed =>
    intro y mem
    rw [sessions] at mem
    rw [made]
    rcases List.mem_append.mp mem with old | new
    · rw [changed.there y fun same => unlisted (same ▸ old)]
      exact kept.listed y old
    · rw [List.mem_singleton.mp new, changed.here]
      exact ⟨below, fun same => Handling.noConfusion same, alive⟩
  case snapshot =>
    intro y mem
    rw [main] at mem
    rw [sessions]
    exact List.mem_append_left _ (kept.snapshot y mem)
  case deadDistinct => exact main ▸ kept.deadDistinct
  case dead =>
    intro y mem
    rw [main] at mem
    have ne : y ≠ x := fun same => living (same ▸ mem)
    obtain ⟨small, absent, rest⟩ := kept.dead y mem
    rw [made, sessions, changed.there y ne]
    refine ⟨small, fun listed => ?_, rest⟩
    rcases List.mem_append.mp listed with old | new
    · exact absent old
    · exact ne (List.mem_singleton.mp new)
  case gone =>
    intro y small deleted
    by_cases same : y = x
    · rw [same, changed.here] at deleted
      exact absurd alive deleted
    · rw [changed.there y same] at deleted ⊢
      exact kept.gone y (made ▸ small) deleted

/-- A session changes and is not deleted. -/
theorem Kept.change (kept : Kept cb s) (changed : Changed x a s t) (made : t.made = s.made)
    (sessions : t.sessions = s.sessions) (main : t.main = s.main) (orderly : Orderly cb a)
    (published : a.handling ≠ .constructed)
    (connected : (s.session x).handling = .connected → a.handling = .connected)
    (living : Alive (s.session x) → Alive a) : Kept cb t := by
  have follows (y : Nat) : Released cb (s.session y) → Released cb (t.session y) := by
    intro released
    by_cases same : y = x
    · subst same
      rw [changed.here]
      exact ⟨published, fun set => connected (released.connected set)⟩
    · rw [changed.there y same]
      exact released
  have lives (y : Nat) : Alive (s.session y) → Alive (t.session y) := by
    intro alive
    by_cases same : y = x
    · subst same
      rw [changed.here]
      exact living alive
    · rw [changed.there y same]
      exact alive
  constructor
  case orderly => exact changed.orderly kept orderly
  case distinct => exact sessions ▸ kept.distinct
  case listed =>
    intro y mem
    rw [sessions] at mem
    obtain ⟨below, started, alive⟩ := kept.listed y mem
    refine ⟨made ▸ below, ?_, lives y alive⟩
    by_cases same : y = x
    · rw [same, changed.here]
      exact published
    · rw [changed.there y same]
      exact started
  case snapshot => exact sessions ▸ main ▸ kept.snapshot
  case deadDistinct => exact main ▸ kept.deadDistinct
  case dead =>
    intro y mem
    rw [main] at mem
    obtain ⟨below, absent, released, alive⟩ := kept.dead y mem
    exact ⟨made ▸ below, sessions ▸ absent, follows y released, lives y alive⟩
  case gone =>
    intro y below deleted
    exact follows y (kept.gone y (made ▸ below) fun alive => deleted (lives y alive))

/-- The main loop goes on with the same dead sessions. -/
theorem Kept.goOn (kept : Kept cb s) {main : MainLoop}
    (snapshot : ∀ x ∈ main.snapshot, x ∈ s.sessions) (dead : main.dead = s.main.dead) :
    Kept cb { s with main := main } where
  orderly := kept.orderly
  distinct := kept.distinct
  listed := kept.listed
  snapshot := snapshot
  deadDistinct := dead ▸ kept.deadDistinct
  dead x mem := kept.dead x (dead ▸ mem)
  gone := kept.gone

theorem used_callOnConnect (set : cb.onConnect) (sent : List Bool) (a : Session) :
    Used (a.note .onConnect) (cb.callOnConnect sent a) := by
  rw [Callbacks.callOnConnect, if_pos set]
  exact used_foldl sent

theorem alive_note (other : h ≠ .delete) (alive : Alive a) : Alive (a.note h) := by
  intro deleted
  rcases List.mem_append.mp deleted with old | new
  · exact alive old
  · exact other (List.mem_singleton.mp new).symm

theorem alive_callOnConnect (sent : List Bool) (alive : Alive a) :
    Alive (cb.callOnConnect sent a) := by
  by_cases set : cb.onConnect
  · exact (used_callOnConnect set sent a).alive (alive_note (by decide) alive)
  · rw [Callbacks.callOnConnect, if_neg set]
    exact alive

/-- The `on_connect_` call of a session that is not deleted. -/
theorem orderly_connect (orderly : Orderly cb a) (published : a.handling = .published)
    (alive : cb.onConnect → Alive a) (sent : List Bool) :
    Orderly cb { cb.callOnConnect sent a with handling := .connected } := by
  have none := orderly.once
  rw [published, if_neg (fun done => Handling.noConfusion done.2)] at none
  by_cases set : cb.onConnect
  · have noted : Orderly cb { a.note .onConnect with handling := .connected } := by
      refine ⟨?_, orderly.inOrder.note (alive set) fun same => Happening.noConfusion same⟩
      rw [if_pos ⟨set, rfl⟩, Session.note, List.count_append, none]
      rfl
    have used : Used { a.note .onConnect with handling := .connected }
        { cb.callOnConnect sent a with handling := .connected } :=
      ⟨rfl, (used_callOnConnect set sent a).log⟩
    have noted_alive : Alive (a.note .onConnect) :=
      alive_note (fun same => Happening.noConfusion same) (alive set)
    exact used.orderly noted_alive noted
  · rw [Callbacks.callOnConnect, if_neg set]
    refine ⟨none.trans (if_neg fun done => set done.1).symm, orderly.inOrder⟩

theorem kept_connect (kept : Kept cb s) (below : x < s.made)
    (published : (s.session x).handling = .published) (sent : List Bool) :
    Kept cb (s.modify x fun a => { cb.callOnConnect sent a with handling := .connected }) := by
  have alive (set : cb.onConnect) : Alive (s.session x) := by
    by_contra deleted
    exact Handling.noConfusion (published.symm.trans ((kept.gone x below deleted).connected set))
  exact kept.change (changed_modify _) rfl rfl rfl
    (orderly_connect (kept.orderly x) published alive sent)
    (fun same => Handling.noConfusion same) (fun _ => rfl) (alive_callOnConnect sent)

/-! ## Collecting and deleting -/

theorem kept_collect (kept : Kept cb s) (guard : CollectsConnected cb s .collect) :
    Kept cb { s.forEach s.sessions fun _ a => a.note .use with
      sessions := s.sessions.filter s.opened
      main := .disposing (s.sessions.filter fun x => !s.opened x) } := by
  have aside := aside_forEach (fun _ _ => used_note) s.sessions s
  have used := kept.aside aside kept.alive_listed
  constructor
  case orderly => exact used.orderly
  case distinct => exact kept.distinct.filter _
  case listed =>
    intro x mem
    have old : x ∈ s.sessions := (List.mem_filter.mp mem).1
    exact used.listed x (by rwa [aside.sessions])
  case snapshot => exact List.forall_mem_nil _
  case deadDistinct => exact kept.distinct.filter _
  case dead =>
    intro x mem
    obtain ⟨old, closed⟩ := List.mem_filter.mp mem
    rw [Bool.not_eq_true'] at closed
    obtain ⟨below, published, alive⟩ := used.listed x (by rwa [aside.sessions])
    refine ⟨below, fun opened => ?_, ⟨published, fun set => ?_⟩, alive⟩
    · exact absurd ((List.mem_filter.mp opened).2.symm.trans closed) (by decide)
    · exact (aside.used x).handling.trans (guard set x old closed)
  case gone => exact used.gone

/-- The `on_disconnect_` call of a session that is released and not deleted. -/
theorem orderly_disconnect (orderly : Orderly cb a) (released : Released cb a) (alive : Alive a) :
    Orderly cb (a.note .onDisconnect) := by
  refine ⟨?_, orderly.inOrder.note alive fun _ set => ?_⟩
  · rw [Session.note, List.count_append, orderly.once]
    rfl
  · have once := orderly.once
    rw [if_pos ⟨set, released.connected set⟩] at once
    exact List.count_pos_iff.mp (once ▸ Nat.one_pos)

theorem kept_disconnect (kept : Kept cb s) {d : Nat} {dead : List Nat}
    (disposing : s.main = .disposing (d :: dead)) :
    Kept cb { s.modify d cb.callOnDisconnect with main := .deleting d dead } := by
  have same : s.main.dead = d :: dead := by
    rw [disposing]
    rfl
  obtain ⟨below, absent, released, alive⟩ := kept.dead d (same ▸ List.mem_cons_self)
  have called : Kept cb (s.modify d cb.callOnDisconnect) := by
    refine kept.change (changed_modify _) rfl rfl rfl ?_ ?_ ?_ ?_ <;>
      unfold Callbacks.callOnDisconnect <;> split
    · exact orderly_disconnect (kept.orderly d) released alive
    · exact kept.orderly d
    · exact released.published
    · exact released.published
    · exact id
    · exact id
    · exact alive_note (fun same => Happening.noConfusion same)
    · exact id
  exact called.goOn (List.forall_mem_nil _) same.symm

theorem orderly_delete (orderly : Orderly cb a) (alive : Alive a) :
    Orderly cb (a.note .delete) := by
  refine ⟨?_, orderly.inOrder.note alive fun same => Happening.noConfusion same⟩
  rw [Session.note, List.count_append, orderly.once]
  rfl

theorem kept_delete (kept : Kept cb s) {d : Nat} {dead : List Nat}
    (deleting : s.main = .deleting d dead) :
    Kept cb { s.modify d fun a => a.note .delete with main := .disposing dead } := by
  have same : s.main.dead = d :: dead := by
    rw [deleting]
    rfl
  obtain ⟨fresh, distinct⟩ := List.nodup_cons.mp (same ▸ kept.deadDistinct)
  obtain ⟨below, absent, released, alive⟩ := kept.dead d (same ▸ List.mem_cons_self)
  have changed := changed_modify (s := s) (x := d) fun a => a.note .delete
  constructor
  case orderly => exact changed.orderly kept (orderly_delete (kept.orderly d) alive)
  case distinct => exact kept.distinct
  case listed =>
    intro x mem
    rw [changed.there x fun same => absent (same ▸ mem)]
    exact kept.listed x mem
  case snapshot => exact List.forall_mem_nil _
  case deadDistinct => exact distinct
  case dead =>
    intro x mem
    rw [changed.there x fun same => fresh (same ▸ mem)]
    exact kept.dead x (same ▸ List.mem_cons_of_mem _ mem)
  case gone =>
    intro x small deleted
    by_cases same : x = d
    · rw [same, changed.here]
      exact ⟨released.published, released.connected⟩
    · rw [changed.there x same] at deleted ⊢
      exact kept.gone x small deleted

/-- **A step that collects connected sessions only.** -/
theorem kept_step {act : Action} (kept : Kept cb s) (guard : CollectsConnected cb s act)
    (stepped : step cb s act = some t) : Kept cb t := by
  cases act with
  | construct sent =>
      cases stepped
      have changed := changed_modify (s := s) (x := s.made) fun _ => Session.construct sent
      exact kept_construct kept ⟨changed.here, changed.there⟩ rfl rfl rfl
  | publish x =>
      obtain ⟨⟨below, constructed⟩, stepped⟩ := Option.ite_none_right_eq_some.mp stepped
      cases stepped
      have changed := changed_modify (s := s) (x := x) fun a => { a with handling := .published }
      exact kept_publish kept below constructed ⟨changed.here, changed.there⟩ rfl rfl rfl
  | connect x sent =>
      obtain ⟨⟨below, published⟩, stepped⟩ := Option.ite_none_right_eq_some.mp stepped
      cases stepped
      exact kept_connect kept below published sent
  | trySendNodefer sent =>
      cases stepped
      exact kept.aside (aside_forEach (fun _ _ => used_trySendNodefer _) _ _) kept.alive_listed
  | deferrableSendState event =>
      cases stepped
      exact kept.aside (aside_forEach (fun _ _ => used_deferrableSendState _) _ _)
        kept.alive_listed
  | loop =>
      obtain ⟨between, stepped⟩ := Option.ite_none_right_eq_some.mp stepped
      cases stepped
      exact kept.goOn (fun _ mem => mem) (by rw [between]; rfl)
  | processDeferred outcome =>
      dsimp only [step] at stepped
      split at stepped
      · rename_i x snapshot servicing
        obtain ⟨-, stepped⟩ := Option.ite_none_right_eq_some.mp stepped
        cases stepped
        exact kept.aside (aside_modify fun _ => used_processDeferred outcome)
          (List.forall_mem_singleton.mpr (kept.alive_serviced servicing))
      · cases stepped
  | serviced =>
      dsimp only [step] at stepped
      split at stepped
      · rename_i x snapshot servicing
        obtain ⟨-, stepped⟩ := Option.ite_none_left_eq_some.mp stepped
        cases stepped
        have used := kept.aside (aside_modify fun _ => used_note)
          (List.forall_mem_singleton.mpr (kept.alive_serviced servicing))
        refine used.goOn (fun y mem => kept.snapshot y ?_) ?_
        · rw [servicing]
          exact List.mem_cons_of_mem _ mem
        · exact (congrArg MainLoop.dead servicing).symm
      · cases stepped
  | collect =>
      obtain ⟨-, stepped⟩ := Option.ite_none_right_eq_some.mp stepped
      cases stepped
      exact kept_collect kept guard
  | disconnect =>
      dsimp only [step] at stepped
      split at stepped
      · rename_i d dead disposing
        cases stepped
        exact kept_disconnect kept disposing
      · cases stepped
  | delete =>
      dsimp only [step] at stepped
      split at stepped
      · rename_i d dead deleting
        cases stepped
        exact kept_delete kept deleting
      · cases stepped
  | looped =>
      obtain ⟨disposed, stepped⟩ := Option.ite_none_right_eq_some.mp stepped
      cases stepped
      exact kept.goOn (List.forall_mem_nil _) (by rw [disposed]; rfl)

theorem kept_of_reachableUnder (reachable : (machine cb).ReachableUnder (CollectsConnected cb) s) :
    Kept cb s :=
  reachable.invariant (fun _ init => by cases init; exact kept_init)
    fun _ _ _ kept guard stepped => kept_step kept guard stepped

/-! ## A session that is collected too early -/

/-- A published session whose `on_connect_` call is still to come is among the dead ones. -/
structure Doomed (x : Nat) (dead : List Nat) (s : State) : Prop where
  disposing : s.main = .disposing dead
  mem : x ∈ dead
  made : x < s.made
  published : (s.session x).handling = .published
  uncalled : .onConnect ∉ (s.session x).log

theorem not_orderly_of_disconnect (set : cb.onConnect) (uncalled : .onConnect ∉ a.log) :
    ¬ Orderly cb (a.note .onDisconnect) := fun orderly =>
  uncalled (orderly.inOrder.before a.log (List.prefix_refl _) set)

theorem not_orderly_of_delete (log : b.log = a.log ++ [.delete] ++ [.onConnect]) :
    ¬ Orderly cb b := by
  intro orderly
  have ended := orderly.inOrder.last a.log (log ▸ List.prefix_append _ _)
  rw [log] at ended
  exact absurd (List.append_right_eq_self.mp ended) (List.cons_ne_nil _ _)

/-- The main loop disposes of one dead session. -/
theorem disconnect_delete (cb : Callbacks) {d : Nat} {dead : List Nat}
    (disposing : s.main = .disposing (d :: dead)) :
    ∃ called deleted,
      (machine cb).Reach (CollectsConnected cb) s called ∧
      Changed d (cb.callOnDisconnect (s.session d)) s called ∧
      (machine cb).Reach (CollectsConnected cb) s deleted ∧
      Changed d ((cb.callOnDisconnect (s.session d)).note .delete) s deleted ∧
      deleted.main = .disposing dead ∧ deleted.made = s.made := by
  have change := changed_modify (s := s) (x := d) cb.callOnDisconnect
  generalize state : s.modify d cb.callOnDisconnect = m at change
  have made : m.made = s.made := by rw [← state]; rfl
  have disconnect : (machine cb).step s .disconnect = some { m with main := .deleting d dead } := by
    dsimp only [machine, step]
    rw [disposing, ← state]
  have change' := changed_modify (s := m) (x := d) fun a => a.note .delete
  have first : (machine cb).Reach (CollectsConnected cb) s { m with main := .deleting d dead } :=
    .single (l := .disconnect) trivial disconnect
  refine ⟨{ m with main := .deleting d dead },
    { m.modify d fun a => a.note .delete with main := .disposing dead }, first,
    ⟨change.here, change.there⟩, first.tail (l := .delete) trivial rfl,
    ⟨change'.here.trans (by rw [change.here]), fun y other =>
      (change'.there y other).trans (change.there y other)⟩, rfl, made⟩

/-- The main loop goes on disposing until it comes to the session; the induction is on the dead
sessions. -/
theorem Doomed.violation {dead : List Nat} (doomed : Doomed x dead s) (set : cb.onConnect) :
    ∃ u, (machine cb).Reach (CollectsConnected cb) s u ∧ ¬ ∀ y, Orderly cb (u.session y) := by
  induction dead generalizing s with
  | nil => exact absurd doomed.mem List.not_mem_nil
  | cons d dead ih =>
      obtain ⟨called, deleted, first, told, second, gone, disposing, made⟩ :=
        disconnect_delete cb doomed.disposing
      by_cases same : d = x
      · subst same
        by_cases tells : cb.onDisconnect
        · refine ⟨called, first, fun orderly => ?_⟩
          have broken := orderly d
          rw [told.here, Callbacks.callOnDisconnect, if_pos tells] at broken
          exact not_orderly_of_disconnect set doomed.uncalled broken
        · have here := gone.here
          rw [Callbacks.callOnDisconnect, if_neg tells] at here
          have ready : d < deleted.made ∧ (deleted.session d).handling = .published := by
            rw [made, here]
            exact ⟨doomed.made, doomed.published⟩
          refine ⟨_, second.tail (l := .connect d []) trivial (if_pos ready), fun orderly => ?_⟩
          have broken := orderly d
          rw [session_modify_self, here] at broken
          refine not_orderly_of_delete (a := s.session d) ?_ broken
          rw [Callbacks.callOnConnect, if_pos set]
          rfl
      · have other := gone.there x (Ne.symm same)
        have mem : x ∈ dead := (List.mem_cons.mp doomed.mem).resolve_left (Ne.symm same)
        obtain ⟨u, rest, broken⟩ := ih (s := deleted) ⟨disposing, mem, made ▸ doomed.made,
          other ▸ doomed.published, other ▸ doomed.uncalled⟩
        exact ⟨u, second.trans rest, broken⟩

/-- A collection of a published session whose `on_connect_` call is still to come. -/
theorem doomed_of_collect {act : Action} (kept : Kept cb s)
    (early : ¬ CollectsConnected cb s act) (stepped : step cb s act = some t) :
    cb.onConnect ∧ ∃ x dead, Doomed x dead t := by
  cases act with
  | collect =>
      obtain ⟨set, early⟩ := Classical.not_imp.mp early
      obtain ⟨x, early⟩ := Classical.not_forall.mp early
      obtain ⟨mem, early⟩ := Classical.not_imp.mp early
      obtain ⟨closed, unconnected⟩ := Classical.not_imp.mp early
      obtain ⟨below, started, alive⟩ := kept.listed x mem
      have published : (s.session x).handling = .published := by
        cases handling : (s.session x).handling with
        | constructed => exact absurd handling started
        | published => rfl
        | connected => exact absurd handling unconnected
      have none := (kept.orderly x).once
      rw [if_neg fun done => unconnected done.2] at none
      have aside := aside_forEach (fun _ _ => used_note) s.sessions s
      obtain ⟨-, stepped⟩ := Option.ite_none_right_eq_some.mp stepped
      cases stepped
      refine ⟨set, x, s.sessions.filter fun x => !s.opened x, rfl,
        List.mem_filter.mpr ⟨mem, by rw [closed]; rfl⟩, aside.made ▸ below,
        (aside.used x).handling.trans published, ?_⟩
      exact List.count_eq_zero.mp ((aside.used x).count.trans none)
  | _ => exact absurd trivial early

/-- **As long as every session that is collected is connected, each session has one `on_connect_`
call, before its `on_disconnect_` call, and nothing happens to it after it is deleted; and after any
other collection the threads can go on so that this fails.** -/
theorem orderly_iff_collectsConnected
    (reachable : (machine cb).ReachableUnder (CollectsConnected cb) s) :
    (∀ x, Orderly cb (s.session x)) ∧
      ∀ act t, (machine cb).step s act = some t →
        (CollectsConnected cb s act ↔
          ∀ u, (machine cb).Reach (CollectsConnected cb) t u → ∀ x, Orderly cb (u.session x)) := by
  refine Machine.weakest_guard (P := fun s => ∀ x, Orderly cb (s.session x))
    (fun s reachable => (kept_of_reachableUnder reachable).orderly) ?_ reachable
  intro s act t reachable early stepped
  obtain ⟨set, x, dead, doomed⟩ :=
    doomed_of_collect (kept_of_reachableUnder reachable) early stepped
  exact doomed.violation set

/-- A client that goes away after its `on_connect_` call. -/
def leaves : List Action :=
  [.construct true, .publish 0, .connect 0 [true], .loop, .trySendNodefer fun _ => false, .serviced,
    .collect, .disconnect, .delete]

theorem orderly_leaves : ∃ s, (machine ⟨true, true⟩).run {} leaves = some s ∧
    (s.session 0).log = [.use, .onConnect, .use, .use, .use, .use, .onDisconnect, .delete] ∧
      ∀ x, Orderly ⟨true, true⟩ (s.session x) := by
  have replay : ((machine ⟨true, true⟩).guarded (CollectsConnected ⟨true, true⟩)).run {} leaves =
      some _ := rfl
  have reachable : (machine ⟨true, true⟩).ReachableUnder (CollectsConnected ⟨true, true⟩) _ :=
    ⟨{}, rfl, Machine.run_guarded_reach replay⟩
  exact ⟨_, rfl, rfl, (orderly_iff_collectsConnected reachable).1⟩

/-- A client that is gone before the header is sent: its session is collected before the
`on_connect_` call, which gets it deleted. -/
def goneEarly : List Action :=
  [.construct false, .publish 0, .loop, .serviced, .collect, .disconnect, .delete, .connect 0 []]

theorem not_orderly_goneEarly : ∃ s, (machine ⟨true, true⟩).Reachable s ∧
    (s.session 0).log = [.use, .use, .use, .onDisconnect, .delete, .onConnect] ∧
      ¬ Orderly ⟨true, true⟩ (s.session 0) := by
  have replay : (machine ⟨true, true⟩).run {} goneEarly = some _ := rfl
  refine ⟨_, ⟨{}, rfl, Machine.run_reach replay⟩, rfl, fun orderly => ?_⟩
  exact absurd (orderly.inOrder.before [.use, .use, .use] ⟨[.delete, .onConnect], rfl⟩ rfl)
    (by decide)

end EsphomeHost.AsyncEventSource

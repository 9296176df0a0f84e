import EsphomeHost.Lib.Machine
import EsphomeHost.Web.Auth

/-!
# The life of the web server

`WebServerBase` makes its server at the first `init` and deletes it at the last `deinit`; a handler
that is added goes to the list of the base and then to that of the server.  The server accepts
connections as soon as it is made, before it has any handler, and every connection has a thread of
its own that takes a copy of the list.

* `Lifecycle`: the base, its server, the main thread and the connections that are not handled yet.
* `Lists`: how the two lists of handlers stand to each other.
* `lifecycle_serves`: **if every `deinit` has its `init`, a connection is answered with all handlers
  that are registered, or, while the main thread is adding some, as if there were none; none finds
  its server deleted unless `deinit` has overtaken it**.
-/

namespace EsphomeHost.AsyncWebServer

/-! ## The base and its server -/

/-- The handler that `add_handler` or `add_handler_without_auth` registers. -/
def WebServerBase.entry (base : WebServerBase) : Registration → WebHandler
  | .addHandler handler =>
      if base.credentials.username ≠ [] then .auth handler else .bare handler
  | .addHandlerWithoutAuth handler => .bare handler

/-- What the main thread has left to do: the loop of `init`, or the second half of
`add_handler_without_auth`. -/
inductive MainThread
  | idle
  | adding (rest : List WebHandler)
  | appending (handler : WebHandler)

def MainThread.isIdle : MainThread → Bool
  | idle => true
  | adding _ | appending _ => false

/-- A connection that was handled, with the base as it was then. -/
structure Handled where
  recv : List (List UInt8)
  answer : List Nat × List Entry
  base : WebServerBase
  settled : Bool

/-- `created` counts the servers, `originHeaders` the entries of the default headers; a connection
is the number of its server.  It is among `strays` if it finds that deleted; `overlapped` is set
when a server with connections is. -/
structure Lifecycle where
  base : WebServerBase
  initialized : UInt8 := 0
  server : Option (List WebHandler) := none
  main : MainThread := .idle
  created : Nat := 0
  originHeaders : Nat := 0
  connections : List Nat := []
  overlapped : Bool := false
  strays : Nat := 0
  handled : List Handled := []

inductive LifecycleLabel
  | init
  | register (r : Registration)
  /-- The main thread goes on with `init` or `add_handler_without_auth`. -/
  | proceed
  | deinit
  | accept
  /-- A connection thread reads its request and dispatches it. -/
  | handle (i : Nat) (recv : List (List UInt8))

namespace Lifecycle

/-- The first half of `init`, or all of it when the server is there. -/
def init (s : Lifecycle) : Lifecycle :=
  if s.initialized ≠ 0 then { s with initialized := s.initialized + 1 }
  else
    { s with
      server := some [], created := s.created + 1, originHeaders := s.originHeaders + 1
      main := .adding s.base.handlers }

def deinit (s : Lifecycle) : Lifecycle :=
  let s := { s with initialized := s.initialized - 1 }
  if s.initialized = 0 then
    { s with server := none, overlapped := s.overlapped || !s.connections.isEmpty }
  else s

/-- `handle_connection_`, with a copy of the list. -/
def handle (g : Nat) (recv : List (List UInt8)) (s : Lifecycle) : Lifecycle :=
  match s.server with
  | some handlers =>
      if g = s.created then
        let answer := { s.base with handlers := handlers }.handleConnection recv
        { s with handled := s.handled ++ [⟨recv, answer, s.base, s.main.isIdle⟩] }
      else { s with strays := s.strays + 1 }
  | none => { s with strays := s.strays + 1 }

def step (s : Lifecycle) : LifecycleLabel → Option Lifecycle
  | .init => if s.main.isIdle then some s.init else none
  | .register r =>
      if s.main.isIdle then
        some { s with
          base := s.base.register r
          main := if s.server.isSome then .appending (s.base.entry r) else .idle }
      else none
  | .proceed =>
      match s.main with
      | .idle => none
      | .adding [] => some { s with initialized := s.initialized + 1, main := .idle }
      | .adding (h :: rest) =>
          some { s with server := s.server.map (· ++ [h]), main := .adding rest }
      | .appending h => some { s with server := s.server.map (· ++ [h]), main := .idle }
  | .deinit => if s.main.isIdle then some s.deinit else none
  | .accept =>
      if s.server.isSome then some { s with connections := s.connections ++ [s.created] } else none
  | .handle i recv => s.connections[i]?.map fun g =>
      { s with connections := s.connections.eraseIdx i }.handle g recv

def machine (base : WebServerBase) : Machine Lifecycle LifecycleLabel where
  init s := s = { base := base }
  step := step

/-- Every `deinit` has its `init`, and there are never more than 255 at a time. -/
def Paired (s : Lifecycle) : LifecycleLabel → Prop
  | .init => s.initialized ≠ 255
  | .deinit => s.initialized ≠ 0
  | _ => True

instance (s : Lifecycle) (l : LifecycleLabel) : Decidable (s.Paired l) := by
  cases l <;> unfold Paired <;> infer_instance

end Lifecycle

/-- The answer is that of the base with all its handlers or, before the main thread is done, with
none. -/
def Handled.Answered (d : Handled) : Prop :=
  d.answer = d.base.handleConnection d.recv ∨
    d.settled = false ∧ d.answer = { d.base with handlers := [] }.handleConnection d.recv

namespace Lifecycle

/-- What every run keeps to. -/
structure Serves (s : Lifecycle) : Prop where
  server : s.main.isIdle = true →
    s.server = if s.initialized = 0 then none else some s.base.handlers
  origin : s.originHeaders = s.created
  overtaken : s.strays ≠ 0 → s.overlapped = true
  answered : ∀ d ∈ s.handled, d.Answered

end Lifecycle

/-! ## A copy of the list -/

namespace WebServerBase

variable (base : WebServerBase)

theorem register_eq (r : Registration) :
    base.register r = { base with handlers := base.handlers ++ [base.entry r] } := by
  cases r <;> rfl

/-- The list matters for the first handler only that takes the request. -/
theorem dispatch_handlers {hs hs' : List WebHandler} {x : Exchange}
    (found : hs.find? (·.canHandle x.request) = hs'.find? (·.canHandle x.request)) :
    { base with handlers := hs }.dispatch x = { base with handlers := hs' }.dispatch x := by
  unfold dispatch
  dsimp only
  rw [found]

/-- **The first handlers of the list answer like all of them, or like none.** -/
theorem handleConnection_front {front rest : List WebHandler}
    (all : front ++ rest = base.handlers) (recv : List (List UInt8)) :
    { base with handlers := front }.handleConnection recv = base.handleConnection recv ∨
      { base with handlers := front }.handleConnection recv =
        { base with handlers := [] }.handleConnection recv := by
  unfold handleConnection
  cases parseRequest recv with
  | none => exact .inl rfl
  | some r =>
      dsimp only
      cases found : front.find? (·.canHandle r) with
      | some h =>
          have same : front.find? (·.canHandle r) = base.handlers.find? (·.canHandle r) := by
            rw [← all, List.find?_append, found, Option.some_or]
          exact .inl (by rw [dispatch_handlers base (x := { request := r }) same])
      | none =>
          have same : front.find? (·.canHandle r) = [].find? (·.canHandle r) := found
          exact .inr (by rw [dispatch_handlers base (x := { request := r }) same])

end WebServerBase

/-! ## The invariant -/

namespace Lifecycle

variable {base : WebServerBase} {s t : Lifecycle}

/-- The handlers of the server are the first of the base; what is missing the main thread has left
to add. -/
inductive Lists (s : Lifecycle) : Prop
  | down (main : s.main = .idle) (server : s.server = none) (count : s.initialized = 0)
  | adding (front rest : List WebHandler) (main : s.main = .adding rest)
      (server : s.server = some front) (all : front ++ rest = s.base.handlers)
      (count : s.initialized = 0)
  | up (main : s.main = .idle) (server : s.server = some s.base.handlers)
      (count : s.initialized ≠ 0)
  | appending (front : List WebHandler) (h : WebHandler) (main : s.main = .appending h)
      (server : s.server = some front) (all : front ++ [h] = s.base.handlers)
      (count : s.initialized ≠ 0)

structure Inv (s : Lifecycle) : Prop where
  lists : Lists s
  origin : s.originHeaders = s.created
  current : ∀ g ∈ s.connections, g = s.created ∧ s.server.isSome = true ∨ s.overlapped = true
  overtaken : s.strays ≠ 0 → s.overlapped = true
  answered : ∀ d ∈ s.handled, d.Answered

/-- While the main thread is idle, the server is down or has all handlers. -/
theorem Lists.of_idle (lists : Lists s) (idle : s.main.isIdle = true) :
    s.main = .idle ∧ (s.server = none ∧ s.initialized = 0 ∨
      s.server = some s.base.handlers ∧ s.initialized ≠ 0) := by
  cases lists with
  | down main server count => exact ⟨main, .inl ⟨server, count⟩⟩
  | up main server count => exact ⟨main, .inr ⟨server, count⟩⟩
  | adding front rest main server all count =>
      rw [main] at idle
      cases idle
  | appending front h main server all count =>
      rw [main] at idle
      cases idle

theorem Inv.serves (inv : Inv s) : Serves s := by
  refine ⟨fun idle => ?_, inv.origin, inv.overtaken, inv.answered⟩
  rcases (inv.lists.of_idle idle).2 with ⟨server, count⟩ | ⟨server, count⟩
  · rw [server, if_pos count]
  · rw [server, if_neg count]

/-- What the server has are the first handlers of the base, and all when the main thread is idle. -/
theorem Lists.front (lists : Lists s) {handlers : List WebHandler}
    (server : s.server = some handlers) :
    ∃ rest, handlers ++ rest = s.base.handlers ∧ (s.main.isIdle = true → rest = []) := by
  cases lists with
  | down main server' count => exact nomatch server.symm.trans server'
  | adding front rest main server' all count =>
      cases server.symm.trans server'
      exact ⟨rest, all, fun idle => by rw [main] at idle; cases idle⟩
  | up main server' count =>
      cases server.symm.trans server'
      exact ⟨[], List.append_nil _, fun _ => rfl⟩
  | appending front h main server' all count =>
      cases server.symm.trans server'
      exact ⟨[h], all, fun idle => by rw [main] at idle; cases idle⟩

/-! ## One step -/

theorem succ_ne_zero {n : UInt8} (bound : n ≠ 255) : n + 1 ≠ 0 := by
  intro zero
  refine bound (UInt8.toNat_inj.mp ?_)
  have sum := congrArg UInt8.toNat zero
  have small := n.toNat_lt
  rw [UInt8.toNat_add] at sum
  simp at sum ⊢
  omega

theorem Inv.init (inv : Inv s) (idle : s.main.isIdle = true) (paired : s.initialized ≠ 255) :
    Inv s.init := by
  unfold Lifecycle.init
  rcases inv.lists.of_idle idle with ⟨main, ⟨server, count⟩ | ⟨server, count⟩⟩
  · rw [if_neg (not_not.mpr count)]
    refine ⟨.adding [] _ rfl rfl rfl count, congrArg (· + 1) inv.origin, fun g mem => ?_,
      inv.overtaken, inv.answered⟩
    rcases inv.current g mem with ⟨-, there⟩ | overlapped
    · rw [server] at there
      cases there
    · exact .inr overlapped
  · rw [if_pos count]
    exact ⟨.up main server (succ_ne_zero paired), inv.origin, inv.current, inv.overtaken,
      inv.answered⟩

theorem Inv.register (inv : Inv s) (idle : s.main.isIdle = true) (r : Registration) :
    Inv { s with
      base := s.base.register r
      main := if s.server.isSome then .appending (s.base.entry r) else .idle } := by
  refine ⟨?_, inv.origin, inv.current, inv.overtaken, inv.answered⟩
  rcases (inv.lists.of_idle idle).2 with ⟨server, count⟩ | ⟨server, count⟩
  · rw [server]
    exact .down rfl rfl count
  · rw [server]
    refine .appending s.base.handlers (s.base.entry r) rfl rfl ?_ count
    rw [WebServerBase.register_eq]

theorem Inv.proceed (inv : Inv s) (step : Lifecycle.step s .proceed = some t) : Inv t := by
  have current : ∀ handlers : Option (List WebHandler), handlers.isSome = true →
      ∀ g ∈ s.connections, g = s.created ∧ handlers.isSome = true ∨ s.overlapped = true :=
    fun handlers there g mem => (inv.current g mem).imp (fun same => ⟨same.1, there⟩) id
  unfold Lifecycle.step at step
  cases inv.lists with
  | down main server count =>
      rw [main] at step
      cases step
  | up main server count =>
      rw [main] at step
      cases step
  | adding front rest main server all count =>
      rw [main] at step
      cases rest with
      | nil =>
          cases step
          rw [List.append_nil] at all
          have counted : s.initialized + 1 ≠ 0 := succ_ne_zero (by rw [count]; decide)
          exact ⟨.up rfl (all ▸ server) counted, inv.origin, inv.current, inv.overtaken,
            inv.answered⟩
      | cons h rest =>
          cases step
          refine ⟨.adding (front ++ [h]) rest rfl (by rw [server]; rfl) ?_ count, inv.origin,
            current _ (by rw [server]; rfl), inv.overtaken, inv.answered⟩
          rw [List.append_assoc]
          exact all
  | appending front h main server all count =>
      rw [main] at step
      cases step
      exact ⟨.up rfl (by rw [server, ← all]; rfl) count, inv.origin,
        current _ (by rw [server]; rfl), inv.overtaken, inv.answered⟩

theorem Inv.deinit (inv : Inv s) (idle : s.main.isIdle = true) (paired : s.initialized ≠ 0) :
    Inv s.deinit := by
  unfold Lifecycle.deinit
  dsimp only
  rcases inv.lists.of_idle idle with ⟨main, ⟨server, count⟩ | ⟨server, count⟩⟩
  · exact absurd count paired
  · split
    case isTrue last =>
      refine ⟨.down main rfl last, inv.origin, fun g mem => .inr ?_, fun strays => ?_,
        inv.answered⟩
      · rw [Bool.or_eq_true]
        right
        cases conns : s.connections with
        | nil =>
            rw [conns] at mem
            cases mem
        | cons _ _ => rfl
      · rw [inv.overtaken strays]
        rfl
    case isFalse more =>
      exact ⟨.up main server more, inv.origin, inv.current, inv.overtaken, inv.answered⟩

/-- The connections do not matter to the lists. -/
theorem Lists.of_same (lists : Lists s) (connections : List Nat) (strays : Nat)
    (handled : List Handled) :
    Lists { s with connections := connections, strays := strays, handled := handled } := by
  cases lists with
  | down main server count => exact .down main server count
  | adding front rest main server all count => exact .adding front rest main server all count
  | up main server count => exact .up main server count
  | appending front h main server all count => exact .appending front h main server all count

theorem Inv.accept (inv : Inv s) (there : s.server.isSome = true) :
    Inv { s with connections := s.connections ++ [s.created] } := by
  refine ⟨inv.lists.of_same _ _ _, inv.origin, fun g mem => ?_, inv.overtaken, inv.answered⟩
  rcases List.mem_append.mp mem with before | new
  · exact inv.current g before
  · exact .inl ⟨List.mem_singleton.mp new, there⟩

theorem Inv.handle (inv : Inv s) {i g : Nat} (here : s.connections[i]? = some g)
    (recv : List (List UInt8)) :
    Inv ({ s with connections := s.connections.eraseIdx i }.handle g recv) := by
  have rest : ∀ g ∈ s.connections.eraseIdx i,
      g = s.created ∧ s.server.isSome = true ∨ s.overlapped = true :=
    fun g mem => inv.current g (List.mem_of_mem_eraseIdx mem)
  have mine := inv.current g (List.mem_of_getElem? here)
  unfold Lifecycle.handle
  dsimp only
  split
  case h_1 handlers server =>
    split
    case isTrue same =>
      refine ⟨inv.lists.of_same _ _ _, inv.origin, rest, inv.overtaken, fun d mem => ?_⟩
      rcases List.mem_append.mp mem with before | new
      · exact inv.answered d before
      · cases List.mem_singleton.mp new
        obtain ⟨missing, all, settled⟩ := inv.lists.front server
        by_cases idle : s.main.isIdle = true
        · rw [settled idle, List.append_nil] at all
          exact .inl (by rw [all])
        · exact (s.base.handleConnection_front all recv).imp id fun none =>
            ⟨Bool.eq_false_of_not_eq_true idle, none⟩
    case isFalse other =>
      refine ⟨inv.lists.of_same _ _ _, inv.origin, rest, fun _ => ?_, inv.answered⟩
      rcases mine with ⟨same, -⟩ | overlapped
      · exact absurd same other
      · exact overlapped
  case h_2 server =>
    refine ⟨inv.lists.of_same _ _ _, inv.origin, rest, fun _ => ?_, inv.answered⟩
    rcases mine with ⟨-, there⟩ | overlapped
    · rw [server] at there
      cases there
    · exact overlapped

/-- **A step keeps the invariant.** -/
theorem Inv.step (inv : Inv s) {l : LifecycleLabel} (paired : s.Paired l)
    (step : Lifecycle.step s l = some t) : Inv t := by
  cases l with
  | init =>
      obtain ⟨idle, step⟩ := Option.ite_none_right_eq_some.mp step
      cases step
      exact inv.init idle paired
  | register r =>
      obtain ⟨idle, step⟩ := Option.ite_none_right_eq_some.mp step
      cases step
      exact inv.register idle r
  | proceed => exact inv.proceed step
  | deinit =>
      obtain ⟨idle, step⟩ := Option.ite_none_right_eq_some.mp step
      cases step
      exact inv.deinit idle paired
  | accept =>
      obtain ⟨there, step⟩ := Option.ite_none_right_eq_some.mp step
      cases step
      exact inv.accept there
  | handle i recv =>
      obtain ⟨g, here, rfl⟩ := Option.map_eq_some_iff.mp step
      exact inv.handle here recv

/-- **The server over its whole life.** -/
theorem lifecycle_serves (reachable : (machine base).ReachableUnder Paired s) : Serves s := by
  refine Inv.serves (reachable.invariant (fun s start => ?_) fun s l t inv paired step =>
    inv.step paired step)
  cases start
  exact ⟨.down rfl rfl rfl, rfl, List.forall_mem_nil _, fun strays => absurd rfl strays,
    List.forall_mem_nil _⟩

/-- A connection before the server has its first handler, and one after the second was added. -/
def sampleLabels : List LifecycleLabel :=
  [.register (.addHandler plainHandler), .init, .accept, .handle 0 [], .proceed, .proceed,
    .register (.addHandlerWithoutAuth plainHandler), .proceed, .accept, .handle 0 [], .deinit]

def sampleBase : WebServerBase := { credentials := ⟨ascii "user", ascii "secret"⟩ }

theorem lifecycle_serves_sample :
    ∃ s, ((machine sampleBase).guarded Paired).run { base := sampleBase } sampleLabels = some s ∧
      s.handled.length = 2 ∧ Serves s := by
  obtain ⟨s, ran, count⟩ : ∃ s, ((machine sampleBase).guarded Paired).run { base := sampleBase }
      sampleLabels = some s ∧ s.handled.length = 2 := ⟨_, rfl, rfl⟩
  exact ⟨s, ran, count, lifecycle_serves ⟨_, rfl, Machine.run_guarded_reach ran⟩⟩

end Lifecycle

end EsphomeHost.AsyncWebServer

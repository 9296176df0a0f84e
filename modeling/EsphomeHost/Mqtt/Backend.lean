import EsphomeHost.Lib.Machine

/-!
# The lock of the MQTT backend

The main thread calls `connect`, `disconnect`, `publish`, `subscribe` and `unsubscribe`, each of
which holds `mu_` throughout; the library's thread runs the user's callbacks, which call the last
three.  `connect` and `disconnect` join that thread with `mu_` held, and `connect` calls
`on_disconnect_` with `mu_` held when it fails.

* `Kept`: who holds `mu_`, where there is a loop thread, and that nobody waits for a thread that
  waits for it.
* `free_iff_undisturbed`: **there is no deadlock as long as no callback is in the way of a thread
  that is about to join its thread; and after any other step the threads can go on to one.**
-/

namespace EsphomeHost.MqttBackendHost

/-- The calls that callbacks make. -/
inductive Call
  | publish
  | subscribe
  | unsubscribe
deriving DecidableEq

inductive Op
  | connect
  | disconnect
  | call (c : Call)
deriving DecidableEq

/-- The operations that stop the loop thread. -/
def Op.stops : Op → Bool
  | .call _ => false
  | _ => true

/-- The callbacks of the user. -/
inductive UserCallback
  | onConnect
  | onDisconnect
  | onSubscribe
  | onUnsubscribe
  | onPublish
  | onMessage
deriving DecidableEq

/-- What the library's thread reports; `rc` is its result code, and a message may be null. -/
inductive Event
  | connect (rc : Int)
  | disconnect (rc : Int)
  | subscribe
  | unsubscribe
  | publish
  | message (isNull : Bool)
deriving DecidableEq

/-- The user's callback that `s_on_connect` and its siblings call. -/
def Event.callback : Event → Option UserCallback
  | .connect rc => if rc = 0 then some .onConnect else some .onDisconnect
  | .disconnect _ => some .onDisconnect
  | .subscribe => some .onSubscribe
  | .unsubscribe => some .onUnsubscribe
  | .publish => some .onPublish
  | .message isNull => if isNull then none else some .onMessage

/-- The thread that calls the backend: it waits for `mu_`, has just taken it, joins the loop thread,
makes a new client, is in the `on_disconnect_` call of a failed `connect`, waits for `mu_` in that
call, or is about to release `mu_`. -/
inductive MainThread
  | idle
  | waiting (op : Op)
  | entered (op : Op)
  | joining (op : Op)
  | creating
  | reporting
  | blocked (c : Call)
  | leaving
deriving DecidableEq

/-- The thread of the library: there is none, it is in the library, in a callback, in a call that
waits for `mu_` or holds it, or has ended. -/
inductive LoopThread
  | absent
  | running
  | inCallback
  | waiting (c : Call)
  | holding (c : Call)
  | ended
deriving DecidableEq

inductive Thread
  | main
  | loop
deriving DecidableEq

/-- `mosq` is `mosq_ != nullptr`, `owner` is who holds `mu_`. -/
structure Backend where
  mosq : Bool := false
  loopStarted : Bool := false
  owner : Option Thread := none
  main : MainThread := .idle
  loop : LoopThread := .absent
deriving DecidableEq

/-- How the library takes the steps of `connect`. -/
inductive Creation
  | newFailed
  | connectFailed
  | loopStartFailed
  | started
deriving DecidableEq

inductive Act
  | call (op : Op)
  | lock
  | library
  | stop
  | nothingToStop
  | joined
  | create (outcome : Creation)
  | reportCall (c : Call)
  | reported
  | unlock
  | event (e : Event)
  | callbackCall (c : Call)
  | loopLock
  | loopUnlock
  | callbackReturn
  | loopEnd
deriving DecidableEq

namespace Backend

variable (b : Backend)

/-- `mosq_ != nullptr` and `loop_started_`. -/
def toStop : Bool := b.mosq && b.loopStarted

/-- What follows the join, or stands in its place. -/
def stopped : Op → Backend
  | .connect => { b with mosq := false, main := .creating }
  | _ => { b with main := .leaving }

/-- The part of `connect` that makes a new client. -/
def create (set : UserCallback → Bool) : Creation → Backend
  | .newFailed =>
      { b with mosq := false, main := if set .onDisconnect then .reporting else .leaving }
  | .connectFailed =>
      if set .onDisconnect then { b with mosq := true, main := .reporting }
      else { b with mosq := false, main := .leaving }
  | .loopStartFailed => { b with mosq := false, main := .leaving }
  | .started => { b with mosq := true, loopStarted := true, main := .leaving, loop := .running }

end Backend

/-- `set` tells which callbacks are set. -/
def step (set : UserCallback → Bool) (b : Backend) : Act → Option Backend
  | .call op => if b.main = .idle then some { b with main := .waiting op } else none
  | .lock =>
      match b.main, b.owner with
      | .waiting op, none => some { b with main := .entered op, owner := some .main }
      | _, _ => none
  | .library =>
      match b.main with
      | .entered op => if op.stops then none else some { b with main := .leaving }
      | _ => none
  | .stop =>
      match b.main with
      | .entered op =>
          if op.stops ∧ b.toStop then some { b with main := .joining op } else none
      | _ => none
  | .nothingToStop =>
      match b.main with
      | .entered op => if op.stops ∧ ¬ b.toStop then some (b.stopped op) else none
      | _ => none
  | .joined =>
      match b.main with
      | .joining op =>
          if b.loop = .ended then
            some ({ b with loopStarted := false, loop := .absent }.stopped op)
          else none
      | _ => none
  | .create outcome => if b.main = .creating then some (b.create set outcome) else none
  | .reportCall c => if b.main = .reporting then some { b with main := .blocked c } else none
  | .reported =>
      if b.main = .reporting then some { b with mosq := false, main := .leaving } else none
  | .unlock =>
      if b.main = .leaving then some { b with main := .idle, owner := none } else none
  | .event e =>
      if b.loop = .running then
        some (if e.callback.any set then { b with loop := .inCallback } else b)
      else none
  | .callbackCall c =>
      if b.loop = .inCallback then some { b with loop := .waiting c } else none
  | .loopLock =>
      match b.loop, b.owner with
      | .waiting c, none => some { b with loop := .holding c, owner := some .loop }
      | _, _ => none
  | .loopUnlock =>
      match b.loop with
      | .holding _ => some { b with loop := .inCallback, owner := none }
      | _ => none
  | .callbackReturn => if b.loop = .inCallback then some { b with loop := .running } else none
  | .loopEnd => if b.loop = .running then some { b with loop := .ended } else none

def machine (set : UserCallback → Bool) : Machine Backend Act where
  init := fun b => b = {}
  step := step set

/-! ## Deadlocks -/

namespace MainThread

def waits : MainThread → Bool
  | .waiting _ | .blocked _ => true
  | _ => false

def joins : MainThread → Bool
  | .joining _ => true
  | _ => false

def holds : MainThread → Bool
  | .idle | .waiting _ => false
  | _ => true

/-- `connect` after the old client is gone. -/
def creates : MainThread → Bool
  | .creating | .reporting => true
  | _ => false

def isBlocked : MainThread → Bool
  | .blocked _ => true
  | _ => false

/-- It waits for `mu_` to stop the loop thread. -/
def willStop : MainThread → Bool
  | .waiting op => op.stops
  | _ => false

end MainThread

namespace LoopThread

def waits : LoopThread → Bool
  | .waiting _ => true
  | _ => false

def holds : LoopThread → Bool
  | .holding _ => true
  | _ => false

end LoopThread

/-- No thread waits for `mu_` that it holds, or for a thread that waits for `mu_`. -/
structure Free (b : Backend) : Prop where
  main : b.owner = some .main → b.main.waits = false
  loop : b.owner = some .loop → b.loop.waits = false
  join : b.main.joins = true → b.loop.waits = false

/-- The main thread joins the loop thread, or has taken `mu_` to do so. -/
def Backend.stopping (b : Backend) : Bool :=
  match b.main with
  | .entered op => op.stops && b.toStop
  | .joining _ => true
  | _ => false

/-- `mu_` is taken to stop the loop thread only while that does not wait for it, no callback calls
from there to the end of the join, and `connect`'s own `on_disconnect_` call makes no call. -/
def Undisturbed (b : Backend) : Act → Prop
  | .lock => b.main.willStop = true → b.toStop = true → b.loop.waits = false
  | .callbackCall _ => b.stopping = false
  | .reportCall _ => False
  | _ => True

/-- **What holds between the threads.** -/
structure Kept (b : Backend) : Prop where
  ownerMain : b.owner = some .main ↔ b.main.holds = true
  ownerLoop : b.owner = some .loop ↔ b.loop.holds = true
  thread : b.loop ≠ .absent → b.toStop = true
  fresh : b.main.creates = true → b.loop = .absent
  unblocked : b.main.isBlocked = false
  clear : b.stopping = true → b.loop.waits = false

instance (b : Backend) : (act : Act) → Decidable (Undisturbed b act)
  | .lock => inferInstanceAs
      (Decidable (b.main.willStop = true → b.toStop = true → b.loop.waits = false))
  | .callbackCall _ => inferInstanceAs (Decidable (b.stopping = false))
  | .reportCall _ => isFalse id
  | .call _ | .library | .stop | .nothingToStop | .joined | .create _ | .reported | .unlock
  | .event _ | .loopLock | .loopUnlock | .callbackReturn | .loopEnd => isTrue trivial

variable {set : UserCallback → Bool} {b b' : Backend} {act : Act}

theorem stopping_entered {op : Op} (entered : b.main = .entered op) :
    b.stopping = (op.stops && b.toStop) := by
  unfold Backend.stopping
  rw [entered]

theorem not_stopping (unheld : b.main.holds = false) : b.stopping = false := by
  unfold Backend.stopping
  cases main : b.main with
  | entered op =>
      rw [main] at unheld
      exact absurd unheld.symm Bool.false_ne_true
  | joining op =>
      rw [main] at unheld
      exact absurd unheld.symm Bool.false_ne_true
  | _ => rfl

theorem Kept.free (kept : Kept b) : Free b where
  main owned := by
    have holds := kept.ownerMain.mp owned
    have unblocked := kept.unblocked
    cases main : b.main with
    | waiting op =>
        rw [main] at holds
        exact absurd holds Bool.false_ne_true
    | blocked c =>
        rw [main] at unblocked
        exact absurd unblocked.symm Bool.false_ne_true
    | _ => rfl
  loop owned := by
    have holds := kept.ownerLoop.mp owned
    cases loop : b.loop with
    | waiting c =>
        rw [loop] at holds
        exact absurd holds Bool.false_ne_true
    | _ => rfl
  join joins := by
    refine kept.clear ?_
    unfold Backend.stopping
    cases main : b.main with
    | joining op => rfl
    | _ =>
        rw [main] at joins
        exact absurd joins Bool.false_ne_true

theorem kept_init : Kept {} where
  ownerMain := by decide
  ownerLoop := by decide
  thread there := absurd rfl there
  fresh _ := rfl
  unblocked := rfl
  clear _ := rfl

theorem Kept.owned (kept : Kept b) {main : MainThread} (same : b.main = main)
    (holds : main.holds = true) : b.owner = some .main :=
  kept.ownerMain.mpr (same ▸ holds)

theorem Kept.unheld (kept : Kept b) (free : b.owner ≠ some .main) : b.main.holds = false := by
  cases holds : b.main.holds with
  | false => rfl
  | true => exact absurd (kept.ownerMain.mpr holds) free

/-! ## The main thread -/

/-- The main thread goes on without `mu_` changing hands. -/
theorem Kept.goOn (kept : Kept b) {main : MainThread} (holds : main.holds = b.main.holds)
    (creates : main.creates = false) (unblocked : main.isBlocked = false)
    (clear : ({ b with main := main } : Backend).stopping = true → b.loop.waits = false) :
    Kept { b with main := main } where
  ownerMain := by rw [holds]; exact kept.ownerMain
  ownerLoop := kept.ownerLoop
  thread := kept.thread
  fresh new := absurd (new.symm.trans creates) Bool.false_ne_true.symm
  unblocked := unblocked
  clear := clear

/-- The main thread has `mu_` and there is no loop thread. -/
theorem kept_absent (owner : b.owner = some .main) (holds : b.main.holds = true)
    (absent : b.loop = .absent) (unblocked : b.main.isBlocked = false) : Kept b where
  ownerMain := iff_of_true owner holds
  ownerLoop := by
    rw [owner, absent]
    decide
  thread there := absurd absent there
  fresh _ := absent
  unblocked := unblocked
  clear _ := by
    rw [absent]
    rfl

theorem kept_stopped (owner : b.owner = some .main) (absent : b.loop = .absent) (op : Op) :
    Kept (b.stopped op) := by
  cases op with
  | connect => exact kept_absent owner rfl absent rfl
  | disconnect => exact kept_absent owner rfl absent rfl
  | call c => exact kept_absent owner rfl absent rfl

theorem kept_create (owner : b.owner = some .main) (absent : b.loop = .absent)
    (outcome : Creation) : Kept (b.create set outcome) := by
  cases outcome with
  | newFailed =>
      cases told : set .onDisconnect <;> simp only [Backend.create, told] <;>
        exact kept_absent owner rfl absent rfl
  | connectFailed =>
      cases told : set .onDisconnect <;> simp only [Backend.create, told] <;>
        exact kept_absent owner rfl absent rfl
  | loopStartFailed => exact kept_absent owner rfl absent rfl
  | started =>
      refine ⟨iff_of_true owner rfl, ?_, fun _ => rfl, ?_, rfl, fun _ => rfl⟩
      · rw [Backend.create, owner]
        decide
      · exact fun new => absurd new Bool.false_ne_true

/-! ## The loop thread -/

/-- The loop thread goes on without `mu_` changing hands. -/
theorem Kept.loopOn (kept : Kept b) {loop : LoopThread} (there : b.loop ≠ .absent)
    (holds : loop.holds = b.loop.holds) (clear : b.stopping = true → loop.waits = false) :
    Kept { b with loop := loop } where
  ownerMain := kept.ownerMain
  ownerLoop := by rw [holds]; exact kept.ownerLoop
  thread _ := kept.thread there
  fresh new := absurd (kept.fresh new) there
  unblocked := kept.unblocked
  clear := clear

/-- `mu_` passes to the loop thread or back, while the main thread does not hold it. -/
theorem Kept.handOver (kept : Kept b) {loop : LoopThread} {owner : Option Thread}
    (there : b.loop ≠ .absent) (unheld : b.main.holds = false) (other : owner ≠ some .main)
    (holds : owner = some .loop ↔ loop.holds = true) :
    Kept { b with loop := loop, owner := owner } where
  ownerMain := iff_of_false other (by rw [unheld]; exact Bool.false_ne_true)
  ownerLoop := holds
  thread _ := kept.thread there
  fresh new := absurd (kept.fresh new) there
  unblocked := kept.unblocked
  clear stopping := absurd (stopping.symm.trans (not_stopping unheld)) Bool.false_ne_true.symm

/-- **A step that disturbs nobody.** -/
theorem kept_step (kept : Kept b) (guard : Undisturbed b act)
    (stepped : step set b act = some b') : Kept b' := by
  cases act with
  | call op =>
      obtain ⟨idle, stepped⟩ := Option.ite_none_right_eq_some.mp stepped
      cases stepped
      exact kept.goOn (by rw [idle]; rfl) rfl rfl fun stopping =>
        absurd stopping Bool.false_ne_true
  | lock =>
      dsimp only [step] at stepped
      split at stepped
      · rename_i op waiting free
        cases stepped
        have unheld : b.loop.holds ≠ true := fun holds =>
          Option.some_ne_none _ ((kept.ownerLoop.mpr holds).symm.trans free)
        have other : some Thread.main ≠ some Thread.loop := by decide
        refine ⟨iff_of_true rfl rfl, iff_of_false other unheld, kept.thread, ?_, rfl, ?_⟩
        · exact fun new => absurd new Bool.false_ne_true
        · intro stopping
          obtain ⟨stops, toStop⟩ := Bool.and_eq_true_iff.mp stopping
          exact guard (by rw [waiting]; exact stops) toStop
      · cases stepped
  | library =>
      dsimp only [step] at stepped
      split at stepped
      · rename_i op entered
        obtain ⟨-, stepped⟩ := Option.ite_none_left_eq_some.mp stepped
        cases stepped
        exact kept.goOn (by rw [entered]; rfl) rfl rfl fun stopping =>
          absurd stopping Bool.false_ne_true
      · cases stepped
  | stop =>
      dsimp only [step] at stepped
      split at stepped
      · rename_i op entered
        obtain ⟨⟨stops, toStop⟩, stepped⟩ := Option.ite_none_right_eq_some.mp stepped
        cases stepped
        refine kept.goOn (by rw [entered]; rfl) rfl rfl fun _ => kept.clear ?_
        rw [stopping_entered entered, stops, toStop]
        rfl
      · cases stepped
  | nothingToStop =>
      dsimp only [step] at stepped
      split at stepped
      · rename_i op entered
        obtain ⟨⟨-, nothing⟩, stepped⟩ := Option.ite_none_right_eq_some.mp stepped
        cases stepped
        have absent : b.loop = .absent := Decidable.byContradiction fun there =>
          nothing (kept.thread there)
        exact kept_stopped (kept.owned entered rfl) absent op
      · cases stepped
  | joined =>
      dsimp only [step] at stepped
      split at stepped
      · rename_i op joining
        obtain ⟨-, stepped⟩ := Option.ite_none_right_eq_some.mp stepped
        cases stepped
        have owner := kept.owned joining rfl
        exact kept_stopped (b := { b with loopStarted := false, loop := .absent }) owner rfl op
      · cases stepped
  | create outcome =>
      obtain ⟨creating, stepped⟩ := Option.ite_none_right_eq_some.mp stepped
      cases stepped
      exact kept_create (kept.owned creating rfl) (kept.fresh (by rw [creating]; rfl)) outcome
  | reportCall c => exact guard.elim
  | reported =>
      obtain ⟨reporting, stepped⟩ := Option.ite_none_right_eq_some.mp stepped
      cases stepped
      exact kept_absent (kept.owned reporting rfl) rfl (kept.fresh (by rw [reporting]; rfl)) rfl
  | unlock =>
      obtain ⟨leaving, stepped⟩ := Option.ite_none_right_eq_some.mp stepped
      cases stepped
      have owner := kept.owned leaving rfl
      have unheld : b.loop.holds ≠ true := fun holds =>
        Thread.noConfusion (Option.some.inj (owner.symm.trans (kept.ownerLoop.mpr holds)))
      have free : (none : Option Thread) ≠ some .main := (Option.some_ne_none _).symm
      exact ⟨iff_of_false free Bool.false_ne_true,
        iff_of_false (Option.some_ne_none _).symm unheld, kept.thread,
        fun new => absurd new Bool.false_ne_true, rfl,
        fun stopping => absurd stopping Bool.false_ne_true⟩
  | event e =>
      obtain ⟨running, stepped⟩ := Option.ite_none_right_eq_some.mp stepped
      cases stepped
      split
      · exact kept.loopOn (by rw [running]; decide) (by rw [running]; rfl) fun _ => rfl
      · exact kept
  | callbackCall c =>
      obtain ⟨inCallback, stepped⟩ := Option.ite_none_right_eq_some.mp stepped
      cases stepped
      refine kept.loopOn (by rw [inCallback]; decide) (by rw [inCallback]; rfl) fun stopping => ?_
      exact absurd (stopping.symm.trans guard) (by decide)
  | loopLock =>
      dsimp only [step] at stepped
      split at stepped
      · rename_i c waiting free
        cases stepped
        exact kept.handOver (by rw [waiting]; exact fun same => LoopThread.noConfusion same)
          (kept.unheld (by rw [free]; decide)) (by decide) (iff_of_true rfl rfl)
      · cases stepped
  | loopUnlock =>
      dsimp only [step] at stepped
      split at stepped
      · rename_i c holding
        cases stepped
        have owned : b.owner = some .loop := kept.ownerLoop.mpr (by rw [holding]; rfl)
        exact kept.handOver (by rw [holding]; exact fun same => LoopThread.noConfusion same)
          (kept.unheld (by rw [owned]; decide)) (by decide) (by decide)
      · cases stepped
  | callbackReturn =>
      obtain ⟨inCallback, stepped⟩ := Option.ite_none_right_eq_some.mp stepped
      cases stepped
      exact kept.loopOn (by rw [inCallback]; decide) (by rw [inCallback]; rfl) fun _ => rfl
  | loopEnd =>
      obtain ⟨running, stepped⟩ := Option.ite_none_right_eq_some.mp stepped
      cases stepped
      exact kept.loopOn (by rw [running]; decide) (by rw [running]; rfl) fun _ => rfl

theorem kept_of_reachableUnder (reachable : (machine set).ReachableUnder Undisturbed b) :
    Kept b :=
  reachable.invariant (fun _ init => by cases init; exact kept_init)
    fun _ _ _ kept guard stepped => kept_step kept guard stepped

/-! ## A step that disturbs -/

/-- The main thread is about to join a loop thread that waits for it. -/
theorem deadlock_of_stopping (stopping : b.stopping = true) (waits : b.loop.waits = true) :
    ∃ b', (machine set).Reach Undisturbed b b' ∧ ¬ Free b' := by
  cases main : b.main with
  | entered op =>
      rw [stopping_entered main, Bool.and_eq_true_iff] at stopping
      have stop : (machine set).step b .stop = some { b with main := .joining op } := by
        dsimp only [machine, step]
        rw [main]
        exact if_pos stopping
      refine ⟨_, .single (l := .stop) trivial stop, fun free => ?_⟩
      exact absurd ((free.join rfl).symm.trans waits) Bool.false_ne_true
  | joining op =>
      refine ⟨b, .refl, fun free => ?_⟩
      have joins : b.main.joins = true := by
        rw [main]
        rfl
      exact absurd ((free.join joins).symm.trans waits) Bool.false_ne_true
  | _ =>
      unfold Backend.stopping at stopping
      rw [main] at stopping
      exact absurd stopping Bool.false_ne_true

/-- **After a step that disturbs a deadlock is within reach.** -/
theorem deadlock_of_disturbed (kept : Kept b) (disturbed : ¬ Undisturbed b act)
    (stepped : step set b act = some b') :
    ∃ u, (machine set).Reach Undisturbed b' u ∧ ¬ Free u := by
  cases act with
  | lock =>
      obtain ⟨stops, disturbed⟩ := Classical.not_imp.mp disturbed
      obtain ⟨toStop, waits⟩ := Classical.not_imp.mp disturbed
      dsimp only [step] at stepped
      split at stepped
      · rename_i op waiting free
        cases stepped
        rw [waiting] at stops
        refine deadlock_of_stopping ?_ (Bool.of_not_eq_false waits)
        exact (stopping_entered rfl).trans (Bool.and_eq_true_iff.mpr ⟨stops, toStop⟩)
      · cases stepped
  | callbackCall c =>
      obtain ⟨-, stepped⟩ := Option.ite_none_right_eq_some.mp stepped
      cases stepped
      exact deadlock_of_stopping (Bool.of_not_eq_false disturbed) rfl
  | reportCall c =>
      obtain ⟨reporting, stepped⟩ := Option.ite_none_right_eq_some.mp stepped
      cases stepped
      have owner := kept.owned reporting rfl
      exact ⟨_, .refl, fun free => absurd (free.main owner) Bool.false_ne_true.symm⟩
  | _ => exact absurd trivial disturbed

/-- **There is no deadlock as long as nobody is disturbed, and after any step that disturbs the
threads can go on to one.** -/
theorem free_iff_undisturbed (reachable : (machine set).ReachableUnder Undisturbed b) :
    Free b ∧ ∀ act b', (machine set).step b act = some b' →
      (Undisturbed b act ↔ ∀ u, (machine set).Reach Undisturbed b' u → Free u) :=
  Machine.weakest_guard (fun _ reachable => (kept_of_reachableUnder reachable).free)
    (fun _ _ _ reachable disturbed stepped =>
      deadlock_of_disturbed (kept_of_reachableUnder reachable) disturbed stepped) reachable

/-- A connection on which a message is answered before the client disconnects. -/
def answered : List Act :=
  [.call .connect, .lock, .nothingToStop, .create .started, .unlock, .event (.connect 0),
    .callbackCall .subscribe, .loopLock, .loopUnlock, .callbackReturn, .event (.message false),
    .callbackCall .publish, .loopLock, .loopUnlock, .callbackReturn, .call .disconnect, .lock,
    .stop, .loopEnd, .joined]

theorem free_answered : ∃ b, (machine fun _ => true).run {} answered = some b ∧
    b.main = .leaving ∧ b.loop = .absent ∧ Free b := by
  have replay : ((machine fun _ => true).guarded Undisturbed).run {} answered = some _ := rfl
  have reachable : (machine fun _ => true).ReachableUnder Undisturbed _ :=
    ⟨{}, rfl, Machine.run_guarded_reach replay⟩
  exact ⟨_, rfl, rfl, rfl, (free_iff_undisturbed reachable).1⟩

/-- A message is answered while the client disconnects. -/
def answeredLate : List Act :=
  [.call .connect, .lock, .nothingToStop, .create .started, .unlock, .event (.message false),
    .call .disconnect, .lock, .callbackCall .publish, .stop]

theorem not_free_answeredLate : ∃ b, (machine fun _ => true).Reachable b ∧
    b.main = .joining .disconnect ∧ b.loop = .waiting .publish ∧ b.owner = some .main ∧
      ¬ Free b := by
  have replay : (machine fun _ => true).run {} answeredLate = some _ := rfl
  exact ⟨_, ⟨{}, rfl, Machine.run_reach replay⟩, rfl, rfl, rfl,
    fun free => absurd (free.join rfl) (by decide)⟩

end EsphomeHost.MqttBackendHost

import EsphomeHost.Tracker.Loop

/-!
# The promotion of discovered clients

A state change of any client bumps the eight-bit `state_version_`, and `loop()` looks for clients to
promote when that differs from what it was at the last scan.  Here a client is its state: which
state changes the listeners make when the drained devices are handed to them is up to the
environment, and of `connect()` only that it leaves the client out of `DISCOVERED` is known.

* `promoted_iff_notWrapped`: **no loop leaves a client `DISCOVERED` exactly in the runs in which
  no loop that finds one comes a positive multiple of 256 state changes after the last scan**.
* `not_promoted_wrapped`: 128 clients that are set up and seen before the first loop.
* `loop_view`: the loop of `ESP32BLETracker` is one of these.
-/

namespace EsphomeHost

/-- The states that one call of `connect()` sets its client to. -/
structure ConnectCall where
  before : List ClientState := []
  last : ClientState
  leaves : last ≠ .discovered

def ConnectCall.states (c : ConnectCall) : List ClientState := c.before ++ [c.last]

/-- The fields of the tracker that the promotion is about; `changes` counts the state changes since
the last scan, and `left` names the clients that a loop has left `DISCOVERED`. -/
structure Promotion where
  clients : List ClientState := []
  stateVersion : UInt8 := 0
  lastStateVersion : UInt8 := 0
  changes : Nat := 0
  left : List Nat := []
deriving DecidableEq

namespace Promotion

/-- `set_state` of client `i`. -/
def setState (s : Promotion) (i : Nat) (st : ClientState) : Promotion :=
  { s with
    clients := s.clients.set i st
    stateVersion := s.stateVersion + 1
    changes := s.changes + 1 }

/-- The state changes of a client, one after another. -/
def setStates (s : Promotion) (i : Nat) (sts : List ClientState) : Promotion :=
  sts.foldl (·.setState i) s

/-- The state changes the listeners make. -/
def hear (s : Promotion) (heard : List (Nat × ClientState)) : Promotion :=
  heard.foldl (fun s c => s.setState c.1 c.2) s

def tryPromote (connect : Nat → ConnectCall) (s : Promotion) (i : Nat) : Promotion :=
  if s.clients[i]? = some .discovered then s.setStates i (connect i).states else s

/-- `try_promote_discovered_clients_`. -/
def tryPromoteDiscoveredClients (s : Promotion) (connect : Nat → ConnectCall) : Promotion :=
  (List.range s.clients.length).foldl (tryPromote connect) s

/-- `loop()` after the drained devices have been handed out. -/
def scan (s : Promotion) (connect : Nat → ConnectCall) : Promotion :=
  if s.clients ≠ [] ∧ s.stateVersion ≠ s.lastStateVersion then
    { s with lastStateVersion := s.stateVersion, changes := 0 }.tryPromoteDiscoveredClients connect
  else s

/-- The clients that are `DISCOVERED` before the scan and after it. -/
def stillDiscovered (s t : Promotion) : List Nat :=
  (List.range s.clients.length).filter fun i =>
    s.clients[i]? = some .discovered ∧ t.clients[i]? = some .discovered

/-- `loop()`. -/
def loop (s : Promotion) (heard : List (Nat × ClientState)) (connect : Nat → ConnectCall) :
    Promotion :=
  let t := (s.hear heard).scan connect
  { t with left := s.left ++ stillDiscovered (s.hear heard) t }

inductive Label
  /-- `register_client`, of a client that has not been set up. -/
  | register
  /-- A state change between two loops. -/
  | setState (i : Nat) (st : ClientState)
  | loop (heard : List (Nat × ClientState)) (connect : Nat → ConnectCall)

def step (s : Promotion) : Label → Option Promotion
  | .register => some { s with clients := s.clients ++ [.init] }
  | .setState i st => if i < s.clients.length then some (s.setState i st) else none
  | .loop heard connect =>
      if ∀ c ∈ heard, c.1 < s.clients.length then some (s.loop heard connect) else none

/-- The tracker before any client is registered. -/
def machine : Machine Promotion Label where
  init s := s = {}
  step := step

/-- Every loop has promoted the clients that were `DISCOVERED` when its devices had been handed
out. -/
def Promoted (s : Promotion) : Prop := s.left = []

/-- The condition on a step: when the devices have been handed out, the number of state changes
since the last scan is no multiple of 256, or no client is `DISCOVERED`. -/
def NotWrapped (s : Promotion) : Label → Prop
  | .loop heard _ => 256 ∣ (s.hear heard).changes → .discovered ∉ (s.hear heard).clients
  | _ => True

/-! ## What the steps do -/

/-- The version is ahead by the changes since the scan. -/
def Counted (s : Promotion) : Prop :=
  s.stateVersion = s.lastStateVersion + UInt8.ofNat s.changes

/-- A scan leaves no client to find. -/
structure Inv (s : Promotion) : Prop where
  counted : s.Counted
  quiet : s.changes = 0 → .discovered ∉ s.clients

section Steps

variable {s t : Promotion} {connect : Nat → ConnectCall} {i j : Nat}

theorem Counted.setState (counted : s.Counted) (i : Nat) (st : ClientState) :
    (s.setState i st).Counted := by
  show s.stateVersion + 1 = s.lastStateVersion + UInt8.ofNat (s.changes + 1)
  rw [counted, UInt8.add_assoc, UInt8.ofNat_add]
  rfl

theorem Counted.setStates (counted : s.Counted) (i : Nat) (sts : List ClientState) :
    (s.setStates i sts).Counted := by
  induction sts generalizing s with
  | nil => exact counted
  | cons st sts ih => exact ih (counted.setState i st)

theorem Counted.tryPromoted (counted : s.Counted) (is : List Nat) :
    (is.foldl (tryPromote connect) s).Counted := by
  induction is generalizing s with
  | nil => exact counted
  | cons i is ih =>
      apply ih
      unfold tryPromote
      split
      · exact counted.setStates i _
      · exact counted

theorem Inv.setState (inv : Inv s) (i : Nat) (st : ClientState) : Inv (s.setState i st) :=
  ⟨inv.counted.setState i st, fun none => absurd none (Nat.succ_ne_zero _)⟩

theorem Inv.hear (inv : Inv s) (heard : List (Nat × ClientState)) : Inv (s.hear heard) := by
  induction heard generalizing s with
  | nil => exact inv
  | cons c heard ih => exact ih (inv.setState c.1 c.2)

/-- The versions are equal after a multiple of 256 changes. -/
theorem Counted.version_eq_iff (counted : s.Counted) :
    s.stateVersion = s.lastStateVersion ↔ 256 ∣ s.changes := by
  rw [counted, ← UInt8.toNat_inj, UInt8.toNat_add, UInt8.toNat_ofNat']
  have := s.lastStateVersion.toNat_lt
  omega

/-- The state changes of one client leave the others alone. -/
theorem getElem?_setStates (other : i ≠ j) (sts : List ClientState) :
    (s.setStates i sts).clients[j]? = s.clients[j]? := by
  induction sts generalizing s with
  | nil => rfl
  | cons st sts ih => exact ih.trans (List.getElem?_set_ne other)

/-- After `connect()` a client is not `DISCOVERED`. -/
theorem getElem?_tryPromote_self : (tryPromote connect s i).clients[i]? ≠ some .discovered := by
  unfold tryPromote
  split
  · rw [ConnectCall.states, setStates, List.foldl_append]
    show ((setStates s i (connect i).before).clients.set i (connect i).last)[i]? ≠ _
    intro still
    rw [List.getElem?_set_self'] at still
    obtain ⟨_, _, same⟩ := Option.map_eq_some_iff.mp still
    exact (connect i).leaves same
  · assumption

theorem getElem?_tryPromote (other : i ≠ j) :
    (tryPromote connect s i).clients[j]? = s.clients[j]? := by
  unfold tryPromote
  split
  · exact getElem?_setStates other _
  · rfl

/-- **The scan leaves no client `DISCOVERED`**: each one is promoted when its turn comes, and the
turns of the others do not touch it. -/
theorem getElem?_promoted (n : Nat) (inside : j < n) :
    ((List.range n).foldl (tryPromote connect) s).clients[j]? ≠ some .discovered := by
  induction n with
  | zero => omega
  | succ n ih =>
      rw [List.range_succ, List.foldl_append, List.foldl_cons, List.foldl_nil]
      by_cases last : n = j
      · subst last
        exact getElem?_tryPromote_self
      · rw [getElem?_tryPromote last]
        exact ih (by omega)

theorem left_setStates (sts : List ClientState) : (s.setStates i sts).left = s.left := by
  induction sts generalizing s with
  | nil => rfl
  | cons st sts ih => exact ih

theorem left_tryPromoted (is : List Nat) : (is.foldl (tryPromote connect) s).left = s.left := by
  induction is generalizing s with
  | nil => rfl
  | cons i is ih =>
      refine ih.trans ?_
      unfold tryPromote
      split
      · exact left_setStates _
      · rfl

theorem length_setStates (sts : List ClientState) :
    (s.setStates i sts).clients.length = s.clients.length := by
  induction sts generalizing s with
  | nil => rfl
  | cons st sts ih => exact ih.trans List.length_set

theorem length_tryPromoted (is : List Nat) :
    (is.foldl (tryPromote connect) s).clients.length = s.clients.length := by
  induction is generalizing s with
  | nil => rfl
  | cons i is ih =>
      refine ih.trans ?_
      unfold tryPromote
      split
      · exact length_setStates _
      · rfl

theorem not_discovered_tryPromoteDiscoveredClients :
    .discovered ∉ (s.tryPromoteDiscoveredClients connect).clients := by
  intro mem
  obtain ⟨j, found⟩ := List.mem_iff_getElem?.mp mem
  have inside := (List.getElem?_eq_some_iff.mp found).1
  rw [tryPromoteDiscoveredClients, length_tryPromoted] at inside
  exact getElem?_promoted _ inside found

/-- **What a scan does.**  It is skipped after a multiple of 256 changes, and with no clients;
otherwise it leaves none of them `DISCOVERED`. -/
theorem scan_cases (counted : s.Counted) (connect : Nat → ConnectCall) :
    (s.scan connect = s ∧ (s.clients = [] ∨ 256 ∣ s.changes)) ∨
      (¬ 256 ∣ s.changes ∧ (s.scan connect).Counted ∧ (s.scan connect).left = s.left ∧
        .discovered ∉ (s.scan connect).clients) := by
  unfold scan
  split
  · rename_i due
    refine .inr ⟨fun wrapped => due.2 (counted.version_eq_iff.mpr wrapped), ?_, left_tryPromoted _,
      not_discovered_tryPromoteDiscoveredClients⟩
    have fresh : Counted { s with lastStateVersion := s.stateVersion, changes := 0 } :=
      (UInt8.add_zero s.stateVersion).symm
    exact fresh.tryPromoted _
  · rename_i skipped
    refine .inl ⟨rfl, ?_⟩
    by_cases none : s.clients = []
    · exact .inl none
    · refine .inr (counted.version_eq_iff.mp (by_contra fun due => skipped ⟨none, due⟩))

theorem stillDiscovered_eq_nil (none : .discovered ∉ t.clients) : stillDiscovered s t = [] := by
  refine List.filter_eq_nil_iff.mpr fun i _ still => ?_
  simp only [decide_eq_true_eq] at still
  exact none (List.mem_of_getElem? still.2)

theorem stillDiscovered_ne_nil (some : .discovered ∈ s.clients) : stillDiscovered s s ≠ [] := by
  obtain ⟨i, found⟩ := List.mem_iff_getElem?.mp some
  have inside := (List.getElem?_eq_some_iff.mp found).1
  refine List.ne_nil_of_mem (List.mem_filter.mpr ⟨List.mem_range.mpr inside, ?_⟩)
  simp [found]

/-- **A loop leaves a client `DISCOVERED` exactly if it finds one after a multiple of 256
changes.** -/
theorem loop_left (inv : Inv s) (heard : List (Nat × ClientState)) (connect : Nat → ConnectCall) :
    Inv (s.loop heard connect) ∧
      ((s.loop heard connect).left = s.left ↔
        (256 ∣ (s.hear heard).changes → .discovered ∉ (s.hear heard).clients)) := by
  have heardInv := inv.hear heard
  have left : (s.loop heard connect).left =
    s.left ++ stillDiscovered (s.hear heard) ((s.hear heard).scan connect) := rfl
  rw [left, List.append_right_eq_self]
  rcases scan_cases heardInv.counted connect with
    ⟨same, skipped⟩ | ⟨due, counted, -, none⟩
  · refine ⟨?_, ?_⟩
    · show Inv { (s.hear heard).scan connect with left := _ }
      rw [same]
      exact ⟨heardInv.counted, heardInv.quiet⟩
    · rw [same]
      constructor
      · intro nothing _ found
        exact stillDiscovered_ne_nil found nothing
      · intro notWrapped
        apply stillDiscovered_eq_nil
        rcases skipped with empty | wrapped
        · rw [empty]
          exact List.not_mem_nil
        · exact notWrapped wrapped
  · refine ⟨⟨counted, fun _ => none⟩, ?_⟩
    exact iff_of_true (stillDiscovered_eq_nil none) fun wrapped => absurd wrapped due

/-- No step forgets a client that was left behind. -/
theorem step_inv {l : Label} (inv : Inv s) (step : s.step l = some t) :
    Inv t ∧ (t.left = s.left ↔ NotWrapped s l) := by
  cases l with
  | register =>
      obtain rfl := Option.some.inj step
      refine ⟨⟨inv.counted, fun none => ?_⟩, iff_of_true rfl trivial⟩
      simpa using inv.quiet none
  | setState i st =>
      obtain ⟨-, done⟩ := Option.ite_none_right_eq_some.mp step
      obtain rfl := Option.some.inj done
      exact ⟨inv.setState i st, iff_of_true rfl trivial⟩
  | loop heard connect =>
      obtain ⟨-, done⟩ := Option.ite_none_right_eq_some.mp step
      obtain rfl := Option.some.inj done
      exact loop_left inv heard connect

end Steps

/-- **No loop leaves a client `DISCOVERED`, exactly in the runs in which no loop finds one after a
multiple of 256 state changes.** -/
theorem promoted_iff_notWrapped {s : Promotion} (init : machine.init s) (ls : List Label) :
    machine.Throughout Promoted s ls ↔ machine.Meets NotWrapped s ls := by
  obtain rfl : s = {} := init
  have start : Inv {} := ⟨(UInt8.add_zero 0).symm, fun _ => List.not_mem_nil⟩
  have promoted : Promoted {} := rfl
  refine Machine.throughout_iff_meets (I := Inv) ?_ ?_ start promoted ls
  · intro s l t inv promoted notWrapped step
    obtain ⟨inv', same⟩ := step_inv inv step
    exact ⟨inv', (same.mpr notWrapped).trans promoted⟩
  · intro s l t inv promoted wrapped step promoted'
    obtain ⟨-, same⟩ := step_inv inv step
    exact wrapped (same.mp (promoted'.trans promoted.symm))

/-- `BLEClientBase::connect`. -/
def connecting : ConnectCall := ⟨[], .connecting, by decide⟩

/-- A client is set up and seen. -/
def seenOnce : List Label :=
  [.register, .setState 0 .idle, .loop [(0, .discovered)] fun _ => connecting]

theorem promoted_seenOnce :
    machine.Throughout Promoted {} seenOnce ∧ machine.Meets NotWrapped {} seenOnce := by
  have meets : machine.Meets NotWrapped {} seenOnce := by
    simp [Machine.Meets, machine, step, seenOnce, NotWrapped, hear, setState]
  exact ⟨(promoted_iff_notWrapped rfl _).mpr meets, meets⟩

/-- 128 clients that connect by themselves are set up, and all of their devices are in the queue
when the loop runs for the first time: 256 state changes, and none of them is promoted. -/
def seenBeforeFirstLoop : List Label :=
  List.replicate 128 .register ++ (List.range 128).map (.setState · .idle) ++
    [.loop ((List.range 128).map (·, .discovered)) fun _ => connecting]

theorem not_promoted_wrapped :
    (machine.run {} seenBeforeFirstLoop).map left = some (List.range 128) ∧
      ¬ machine.Throughout Promoted {} seenBeforeFirstLoop := by
  have left : (machine.run {} seenBeforeFirstLoop).map left = some (List.range 128) := by
    decide +kernel
  refine ⟨left, fun promoted => ?_⟩
  obtain ⟨s, run, left⟩ := Option.map_eq_some_iff.mp left
  exact absurd (left.symm.trans (promoted.last run)) (by decide)

/-! ## The loop of the tracker -/

section View

/-- What the promotion sees of clients: their states, and the version their changes add up to. -/
def view (other last : UInt8) (clients : List BLEClient) (changes : Nat) : Promotion where
  clients := clients.map BLEClient.state
  stateVersion := clients.foldl (fun v c => v + c.base.stateVersion) other
  lastStateVersion := last
  changes := changes

/-- A client is set to these states, one after another. -/
structure Sets (c d : BLEClient) (sts : List ClientState) : Prop where
  state : d.state = sts.foldl (fun _ st => st) c.state
  version : d.base.stateVersion = c.base.stateVersion + UInt8.ofNat sts.length

variable {c d : BLEClient} {sts : List ClientState} {other last : UInt8}

theorem setStates_eq {s : Promotion} {i : Nat} {st : ClientState} (found : s.clients[i]? = some st)
    (sts : List ClientState) :
    s.setStates i sts = { s with
      clients := s.clients.set i (sts.foldl (fun _ st => st) st)
      stateVersion := s.stateVersion + UInt8.ofNat sts.length
      changes := s.changes + sts.length } := by
  induction sts generalizing s st with
  | nil =>
      have same : s.clients.set i st = s.clients := by
        obtain ⟨inside, rfl⟩ := List.getElem?_eq_some_iff.mp found
        exact List.set_getElem_self inside
      show s = { s with clients := s.clients.set i st, stateVersion := s.stateVersion + 0 }
      rw [same, UInt8.add_zero]
  | cons st' sts ih =>
      have inside := (List.getElem?_eq_some_iff.mp found).1
      have found' : (s.setState i st').clients[i]? = some st' := List.getElem?_set_self inside
      refine (ih found').trans ?_
      show { s with
        clients := (s.clients.set i st').set i _
        stateVersion := s.stateVersion + 1 + _
        changes := s.changes + 1 + _ : Promotion } = _
      rw [List.set_set, List.length_cons, UInt8.add_assoc, Nat.add_assoc, Nat.add_comm 1,
        UInt8.ofNat_add, UInt8.add_comm 1]
      rfl

theorem foldl_versions (clients : List BLEClient) (v k : UInt8) :
    clients.foldl (fun v c => v + c.base.stateVersion) (v + k) =
      clients.foldl (fun v c => v + c.base.stateVersion) v + k := by
  induction clients generalizing v with
  | nil => rfl
  | cons c clients ih =>
      rw [List.foldl_cons, List.foldl_cons, ← ih, UInt8.add_assoc, UInt8.add_comm k,
        ← UInt8.add_assoc]

/-- One client of several changes its state. -/
theorem view_setStates (sets : Sets c d sts) (before after : List BLEClient) (changes : Nat) :
    (view other last (before ++ c :: after) changes).setStates before.length sts =
      view other last (before ++ d :: after) (changes + sts.length) := by
  have found : (view other last (before ++ c :: after) changes).clients[before.length]? =
      some c.state := by
    simp [view]
  rw [setStates_eq found]
  simp only [view, List.map_append, List.map_cons, List.foldl_append, List.foldl_cons, sets.version,
    sets.state, ← UInt8.add_assoc, foldl_versions]
  simp

theorem sets_nothing (c : BLEClient) : Sets c c [] :=
  ⟨rfl, (UInt8.add_zero c.base.stateVersion).symm⟩

theorem sets_parseDevice (device : ESPBTDevice) (c : BLEClient) :
    ∃ sts, Sets c (c.parseDevice device) sts := by
  by_cases known : c.base.address ≠ 0 ∧ device.addressUint64 = c.base.address
  · by_cases waiting : c.base.state = .idle ∧ c.base.autoConnect
    · refine ⟨[.discovered], ?_⟩
      have seen : (c.base.parseDevice device).2 = c.base.setState .discovered := by
        simp [BLEClientBase.parseDevice, known, waiting]
      rw [BLEClient.parseDevice, seen]
      exact ⟨rfl, rfl⟩
    · refine ⟨[], ?_⟩
      have seen : (c.base.parseDevice device).2 = c.base := by
        simp [BLEClientBase.parseDevice, known, waiting]
      rw [BLEClient.parseDevice, seen]
      exact sets_nothing c
  · refine ⟨[], ?_⟩
    have seen : (c.base.parseDevice device).2 = c.base := by
      rw [not_and_or, not_not] at known
      unfold BLEClientBase.parseDevice
      rcases known with none | other
      · rw [if_pos none]
      · rw [if_pos other]
        split <;> rfl
    rw [BLEClient.parseDevice, seen]
    exact sets_nothing c

theorem sets_promote (now : UInt32) (c : BLEClient) :
    Sets c (ESP32BLETracker.promote now c)
      (if c.state = .discovered then connecting.states else []) := by
  unfold ESP32BLETracker.promote
  split
  · exact ⟨rfl, rfl⟩
  · exact sets_nothing c

/-- The devices go through the clients one by one. -/
theorem view_map (other last : UInt8) (f : BLEClient → BLEClient)
    (sets : ∀ c, ∃ sts, Sets c (f c) sts) (before after : List BLEClient) (changes : Nat) :
    ∃ heard changes', (∀ h ∈ heard, h.1 < (before ++ after).length) ∧
      (view other last (before ++ after) changes).hear heard =
        view other last (before ++ after.map f) changes' := by
  induction after generalizing before changes with
  | nil => exact ⟨[], changes, nofun, rfl⟩
  | cons c after ih =>
      obtain ⟨sts, set⟩ := sets c
      obtain ⟨heard, changes', inside, rest⟩ := ih (before ++ [f c]) (changes + sts.length)
      refine ⟨sts.map (before.length, ·) ++ heard, changes', ?_, ?_⟩
      · intro h mem
        rcases List.mem_append.mp mem with mem | mem
        · obtain ⟨st, -, rfl⟩ := List.mem_map.mp mem
          simp
        · simpa using inside h mem
      · rw [hear, List.foldl_append, List.foldl_map]
        show hear (setStates _ before.length sts) heard = _
        rw [view_setStates set]
        simpa using rest

theorem view_deliver (other last : UInt8) (devices : List ESPBTDevice) (clients : List BLEClient)
    (changes : Nat) :
    ∃ heard changes', (∀ h ∈ heard, h.1 < clients.length) ∧
      (view other last clients changes).hear heard =
        view other last (devices.foldl (fun cs d => cs.map (·.parseDevice d)) clients)
          changes' := by
  induction devices generalizing clients changes with
  | nil => exact ⟨[], changes, nofun, rfl⟩
  | cons d devices ih =>
      obtain ⟨first, changes', inside, seen⟩ := view_map other last
        (BLEClient.parseDevice · d) (sets_parseDevice d) [] clients changes
      obtain ⟨heard, changes'', inside', rest⟩ := ih (clients.map (·.parseDevice d)) changes'
      refine ⟨first ++ heard, changes'', ?_, ?_⟩
      · intro h mem
        rcases List.mem_append.mp mem with mem | mem
        · exact inside h mem
        · simpa using inside' h mem
      · rw [hear, List.foldl_append]
        exact (congrArg (hear · heard) seen).trans rest

/-- The clients are promoted one by one. -/
theorem view_promote (other last : UInt8) (now : UInt32) (before after : List BLEClient)
    (changes : Nat) :
    ∃ changes', (List.range' before.length after.length).foldl (tryPromote fun _ => connecting)
        (view other last (before ++ after) changes) =
      view other last (before ++ after.map (ESP32BLETracker.promote now)) changes' := by
  induction after generalizing before changes with
  | nil => exact ⟨changes, rfl⟩
  | cons c after ih =>
      have here : tryPromote (fun _ => connecting) (view other last (before ++ c :: after) changes)
          before.length = view other last (before ++ ESP32BLETracker.promote now c :: after)
            (changes + (if c.state = .discovered then connecting.states else []).length) := by
        rw [← view_setStates (sets_promote now c), tryPromote]
        have found : (view other last (before ++ c :: after) changes).clients[before.length]? =
            some c.state := by
          simp [view]
        rw [found]
        by_cases discovered : c.state = .discovered <;> simp [discovered, setStates]
      obtain ⟨changes', rest⟩ := ih (before ++ [ESP32BLETracker.promote now c])
        (changes + (if c.state = .discovered then connecting.states else []).length)
      refine ⟨changes', ?_⟩
      rw [List.length_cons, List.range'_succ, List.foldl_cons, here]
      simpa using rest

/-- **The loop of `ESP32BLETracker` is a loop of this machine**: its clients change state when they
see their device, and `connect()` sets them to `CONNECTING`. -/
theorem loop_view (t : ESP32BLETracker) (now : UInt32) (changes : Nat) :
    ∃ heard changes', (∀ h ∈ heard, h.1 < t.clients.length) ∧
      ((view t.otherVersion t.lastStateVersion t.clients changes).hear heard).scan
          (fun _ => connecting) =
        view (t.loop now).otherVersion (t.loop now).lastStateVersion (t.loop now).clients
          changes' := by
  obtain ⟨heard, changes', inside, seen⟩ :=
    view_deliver t.otherVersion t.lastStateVersion t.queue t.clients changes
  refine ⟨heard, ?_⟩
  rw [seen]
  show ∃ changes', _ ∧ scan (view t.otherVersion t.lastStateVersion t.deliverQueued.clients _) _ = _
  by_cases due : t.deliverQueued.clients ≠ [] ∧
      t.deliverQueued.stateVersion ≠ t.deliverQueued.lastStateVersion
  · have scanned : t.loop now = { t.deliverQueued with
        lastStateVersion := t.deliverQueued.stateVersion }.tryPromoteDiscoveredClients now :=
      if_pos due
    obtain ⟨changes'', promoted⟩ := view_promote t.otherVersion t.deliverQueued.stateVersion
      now [] t.deliverQueued.clients 0
    refine ⟨changes'', inside, ?_⟩
    rw [scanned, scan, if_pos ⟨by simpa [view] using due.1, due.2⟩]
    rw [tryPromoteDiscoveredClients, List.range_eq_range']
    show (List.range' 0 (t.deliverQueued.clients.map BLEClient.state).length).foldl _ _ = _
    rw [List.length_map]
    exact promoted
  · have skipped : t.loop now = t.deliverQueued := if_neg due
    refine ⟨changes', inside, ?_⟩
    rw [skipped, scan, if_neg]
    · rfl
    · intro due'
      exact due ⟨by simpa [view] using due'.1, due'.2⟩

end View

end Promotion

end EsphomeHost

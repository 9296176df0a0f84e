import Mathlib.Data.UInt
import EsphomeHost.Lib.LastWrite
import EsphomeHost.Lib.Machine

/-!
# The connected centrals

The worker turns the `Connected` signals of BlueZ into connect and disconnect events, under a
synthetic connection id for each device; `BLEServer::loop` keeps the list of clients and calls back.
Once the application is registered, the devices that are connected already are enumerated.

* `centralMachine`: BlueZ, the worker and the main loop, in any order of their steps.
* `UniqueIds`: while the 16-bit counter has not wrapped, ids are distinct and none is 0.
* `Central.Settled`: once everything in flight is handled, a device is listed if and only if BlueZ
  has it connected.
* `tracks_of_unwrapped`: **connected devices have ids of their own, the callbacks of each device
  alternate, and when nothing is in flight the clients are the connected devices**, in every run
  that gives out no more than 65535 ids.
* `not_tracks_wrapped`: the next device gets id 0.
-/

namespace EsphomeHost

/-! ## State -/

/-- `ServerEvent`. -/
inductive ServerEvent
  | connect (connId : UInt16)
  | disconnect (connId : UInt16)
deriving DecidableEq

def ServerEvent.connId : ServerEvent → UInt16
  | connect connId | disconnect connId => connId

def ServerEvent.isConnect : ServerEvent → Bool
  | connect _ => true
  | disconnect _ => false

/-- How far the one enumeration is: not begun, waiting for the reply, or going through it. -/
inductive Enumeration
  | pending
  | called
  | replied (rest : List (List Char))
  | done
deriving DecidableEq

/-- `connected` and `signals` are BlueZ's: the devices it has connected and the `Connected` signals
the worker has not handled.  `deviceConnIds`, `nextConnId` and `events` are `BLEGattServer`'s,
`clients` is `BLEServer`'s, `drained` the local queue of its `loop` and `callbacks` what it called,
with `true` for `on_connect`. -/
structure Central where
  connected : List (List Char)
  signals : List (List Char × Bool) := []
  enumeration : Enumeration := .pending
  deviceConnIds : List (List Char × UInt16) := []
  nextConnId : UInt16 := 1
  events : List ServerEvent := []
  drained : List ServerEvent := []
  clients : List UInt16 := []
  callbacks : List (Bool × UInt16) := []
deriving DecidableEq

namespace Central

variable (s : Central)

/-! ## The functions of the source -/

/-- `intern_device_`. -/
def internDevice (device : List Char) : UInt16 × Central :=
  match s.deviceConnIds.lookup device with
  | some id => (id, s)
  | none =>
      (s.nextConnId,
        { s with
          deviceConnIds := (device, s.nextConnId) :: s.deviceConnIds
          nextConnId := s.nextConnId + 1 })

/-- `post_event_`. -/
def postEvent (ev : ServerEvent) : Central := { s with events := s.events ++ [ev] }

/-- The end of `on_device_props_changed_`, for a signal that carries `Connected`; any other is
dropped before it. -/
def onDevicePropsChanged (path : List Char) (connected : Bool) : Central :=
  let (connId, s) := s.internDevice path
  s.postEvent (if connected then .connect connId else .disconnect connId)

/-- `host_on_connect`. -/
def hostOnConnect (connId : UInt16) : Central :=
  if connId ∈ s.clients then s
  else { s with clients := s.clients ++ [connId], callbacks := s.callbacks ++ [(true, connId)] }

/-- `host_on_disconnect`. -/
def hostOnDisconnect (connId : UInt16) : Central :=
  if connId ∈ s.clients then
    { s with clients := s.clients.erase connId, callbacks := s.callbacks ++ [(false, connId)] }
  else s

/-- The `switch` of `BLEServer::loop`. -/
def handle : ServerEvent → Central
  | .connect connId => s.hostOnConnect connId
  | .disconnect connId => s.hostOnDisconnect connId

/-- The worker is not inside `enumerate_connected_devices_`. -/
def workerFree : Bool :=
  match s.enumeration with
  | .pending | .done => true
  | .called | .replied _ => false

end Central

/-! ## Steps -/

inductive CentralLabel
  /-- A device connects or disconnects, and BlueZ signals it. -/
  | link (device : List Char) (connected : Bool)
  /-- The worker handles the next signal. -/
  | signal
  /-- A read or a write of an attribute, with the device BlueZ names. -/
  | access (device : Option (List Char))
  /-- The worker calls `GetManagedObjects`. -/
  | call
  /-- BlueZ replies with the devices it has connected, in any order. -/
  | snapshot (devices : List (List Char))
  /-- The worker goes on with the reply. -/
  | enumerate
  /-- `BLEServer::loop` drains the events. -/
  | drain
  /-- `BLEServer::loop` handles the next one. -/
  | handle
deriving DecidableEq

def centralStep (s : Central) : CentralLabel → Option Central
  | .link device connected => some
      { s with
        signals := s.signals ++ [(device, connected)]
        connected := if connected then device :: s.connected
          else s.connected.filter (· ≠ device) }
  | .signal =>
      match s.signals with
      | [] => none
      | (path, connected) :: rest =>
          if s.workerFree then some ({ s with signals := rest }.onDevicePropsChanged path connected)
          else none
  | .access device =>
      if s.workerFree then
        some (match device with
          | some device => (s.internDevice device).2
          | none => s)
      else none
  | .call => if s.enumeration = .pending then some { s with enumeration := .called } else none
  | .snapshot devices =>
      if s.enumeration = .called ∧ devices ⊆ s.connected ∧ s.connected ⊆ devices then
        some { s with enumeration := .replied devices }
      else none
  | .enumerate =>
      match s.enumeration with
      | .replied [] => some { s with enumeration := .done }
      | .replied (device :: rest) =>
          let (connId, s) := { s with enumeration := .replied rest }.internDevice device
          some (s.postEvent (.connect connId))
      | _ => none
  | .drain =>
      match s.drained with
      | [] => some { s with drained := s.events, events := [] }
      | _ :: _ => none
  | .handle =>
      match s.drained with
      | [] => none
      | ev :: rest => some ({ s with drained := rest }.handle ev)

/-- The signal match is installed, and any devices may be connected. -/
def centralMachine : Machine Central CentralLabel where
  init s := ∃ connected, s = { connected := connected }
  step := centralStep

/-! ## What has to hold -/

/-- `b`, then the other one, and so on. -/
def Alternating (b : Bool) : List Bool → Prop
  | [] => True
  | x :: rest => x = b ∧ Alternating (!b) rest

/-- The callbacks made with a connection id. -/
def callsOf (connId : UInt16) (callbacks : List (Bool × UInt16)) : List Bool :=
  (callbacks.filter (·.2 = connId)).map (·.1)

/-- No event is queued and no message of BlueZ undelivered. -/
def Central.Quiet (s : Central) : Prop :=
  s.enumeration = .done ∧ s.signals = [] ∧ s.events = [] ∧ s.drained = []

structure Central.Tracks (s : Central) : Prop where
  distinct : ∀ d ∈ s.connected, ∀ e ∈ s.connected, ∀ connId,
    s.deviceConnIds.lookup d = some connId → s.deviceConnIds.lookup e = some connId → d = e
  nonzero : ∀ d ∈ s.connected, s.deviceConnIds.lookup d ≠ some 0
  alternate : ∀ d connId, s.deviceConnIds.lookup d = some connId →
    Alternating true (callsOf connId s.callbacks)
  listed : s.Quiet → s.clients.Nodup ∧ ∀ connId, connId ∈ s.clients ↔
    ∃ d ∈ s.connected, s.deviceConnIds.lookup d = some connId

/-- The device a step interns. -/
def Central.interns (s : Central) : CentralLabel → Option (List Char)
  | .signal => s.signals.head?.map (·.1)
  | .access device => device
  | .enumerate =>
      match s.enumeration with
      | .replied rest => rest.head?
      | _ => none
  | _ => none

/-- The condition on a step: a device is given an id only while the counter has not wrapped. -/
def Unwrapped (s : Central) (l : CentralLabel) : Prop :=
  ∀ d ∈ s.interns l, s.deviceConnIds.lookup d = none → s.nextConnId ≠ 0

instance (s : Central) (l : CentralLabel) : Decidable (Unwrapped s l) :=
  @Option.decidableForallMem _ _ (fun _ => inferInstanceAs (Decidable (_ → _))) (s.interns l)

/-! ## Connection ids -/

namespace Central

variable {s t : Central} {l : CentralLabel} {d e : List Char} {connId : UInt16}

/-- The ids given out so far are below the counter, nonzero and distinct, and the ids in use are
among them. -/
structure UniqueIds (s : Central) : Prop where
  below : ∀ d connId, s.deviceConnIds.lookup d = some connId →
    connId ≠ 0 ∧ (s.nextConnId = 0 ∨ connId.toNat < s.nextConnId.toNat)
  inj : ∀ d e connId, s.deviceConnIds.lookup d = some connId →
    s.deviceConnIds.lookup e = some connId → d = e
  client : ∀ connId ∈ s.clients, ∃ d, s.deviceConnIds.lookup d = some connId
  event : ∀ ev ∈ s.drained ++ s.events, ∃ d, s.deviceConnIds.lookup d = some ev.connId

/-- A connection id is listed once the events in flight are handled. -/
def view (s : Central) (connId : UInt16) : Bool :=
  LastWrite.after ServerEvent.connId ServerEvent.isConnect connId (decide (connId ∈ s.clients))
    (s.drained ++ s.events)

/-- A device is listed once the events in flight are handled. -/
def lists (s : Central) (d : List Char) : Bool :=
  match s.deviceConnIds.lookup d with
  | some connId => s.view connId
  | none => false

theorem lists_of_lookup (known : s.deviceConnIds.lookup d = some connId) :
    s.lists d = s.view connId := by
  rw [lists, known]

theorem lists_of_none (unknown : s.deviceConnIds.lookup d = none) : s.lists d = false := by
  rw [lists, unknown]

/-- The next id is not in use. -/
theorem UniqueIds.next_fresh (ids : s.UniqueIds) (unwrapped : s.nextConnId ≠ 0) (d : List Char) :
    s.deviceConnIds.lookup d ≠ some s.nextConnId := by
  intro known
  rcases (ids.below d _ known).2 with wrapped | below
  · exact unwrapped wrapped
  · exact absurd below (Nat.lt_irrefl _)

theorem UniqueIds.view_next (ids : s.UniqueIds) (unwrapped : s.nextConnId ≠ 0) :
    s.view s.nextConnId = false := by
  have unlisted : s.nextConnId ∉ s.clients := fun mem =>
    (ids.client _ mem).elim (ids.next_fresh unwrapped)
  rw [view, decide_eq_false unlisted]
  refine LastWrite.after_of_fresh fun ev mem same => ?_
  obtain ⟨d, known⟩ := ids.event ev mem
  exact ids.next_fresh unwrapped d (same ▸ known)

/-- What `intern_device_` does: the device has an id, nobody else's changes, and what is listed
stays listed. -/
structure Interned (s : Central) (d : List Char) (r : UInt16 × Central) : Prop where
  only : ∃ deviceConnIds nextConnId,
    r.2 = { s with deviceConnIds := deviceConnIds, nextConnId := nextConnId }
  ids : r.2.UniqueIds
  known : r.2.deviceConnIds.lookup d = some r.1
  lists : ∀ e, r.2.lists e = s.lists e

theorem interned (ids : s.UniqueIds)
    (guard : s.deviceConnIds.lookup d = none → s.nextConnId ≠ 0) :
    Interned s d (s.internDevice d) := by
  unfold internDevice
  cases known : s.deviceConnIds.lookup d with
  | some connId => exact ⟨⟨_, _, rfl⟩, ids, known, fun _ => rfl⟩
  | none =>
      have unwrapped := guard known
      have bound := s.nextConnId.toNat_lt
      -- the counter goes up, or wraps to 0
      have next : s.nextConnId + 1 = 0 ∨
          (s.nextConnId + 1).toNat = s.nextConnId.toNat + 1 := by
        rcases Nat.lt_or_ge (s.nextConnId.toNat + 1) (2 ^ 16) with small | full
        · refine .inr ?_
          rw [UInt16.toNat_add]
          exact Nat.mod_eq_of_lt small
        · refine .inl (UInt16.toNat_inj.mp ?_)
          rw [UInt16.toNat_add]
          show (s.nextConnId.toNat + 1) % 2 ^ 16 = 0
          omega
      have lookup (e : List Char) :
          ((d, s.nextConnId) :: s.deviceConnIds).lookup e =
            if e = d then some s.nextConnId else s.deviceConnIds.lookup e := by
        rw [List.lookup_cons]
        by_cases same : e = d
        · rw [if_pos same, same, beq_self_eq_true]
        · rw [if_neg same, beq_false_of_ne same]
      refine ⟨⟨_, _, rfl⟩, ⟨?_, ?_, ?_, ?_⟩, by rw [lookup, if_pos rfl], ?_⟩
      · intro e connId known
        rw [lookup] at known
        split at known
        · obtain rfl := Option.some.inj known
          refine ⟨unwrapped, next.imp id fun value => ?_⟩
          rw [value]
          exact Nat.lt_succ_self _
        · obtain ⟨nonzero, below⟩ := ids.below e connId known
          refine ⟨nonzero, next.imp id fun value => ?_⟩
          have before := below.resolve_left unwrapped
          rw [value]
          exact Nat.lt_succ_of_lt before
      · intro e f connId knownE knownF
        rw [lookup] at knownE knownF
        split at knownE
        · rename_i sameE
          split at knownF
          · rename_i sameF
            exact sameE.trans sameF.symm
          · obtain rfl := Option.some.inj knownE
            exact absurd knownF (ids.next_fresh unwrapped f)
        · split at knownF
          · obtain rfl := Option.some.inj knownF
            exact absurd knownE (ids.next_fresh unwrapped e)
          · exact ids.inj e f connId knownE knownF
      · intro connId mem
        obtain ⟨e, known'⟩ := ids.client connId mem
        refine ⟨e, ?_⟩
        rw [lookup, if_neg, known']
        rintro rfl
        cases known.symm.trans known'
      · intro ev mem
        obtain ⟨e, known'⟩ := ids.event ev mem
        refine ⟨e, ?_⟩
        rw [lookup, if_neg, known']
        rintro rfl
        cases known.symm.trans known'
      · intro e
        by_cases same : e = d
        · subst same
          have fresh : s.view s.nextConnId = false := ids.view_next unwrapped
          rw [lists_of_none known, lists_of_lookup (by rw [lookup, if_pos rfl])]
          exact fresh
        · have kept := lookup e
          rw [if_neg same] at kept
          cases before : s.deviceConnIds.lookup e with
          | none => rw [lists_of_none before, lists_of_none (kept.trans before)]
          | some connId =>
              rw [lists_of_lookup before, lists_of_lookup (kept.trans before)]
              rfl

/-! ## Events -/

/-- Posting an event decides whether its device will be listed. -/
theorem lists_postEvent (ids : s.UniqueIds) {ev : ServerEvent}
    (known : s.deviceConnIds.lookup d = some ev.connId) (e : List Char) :
    (s.postEvent ev).lists e = if e = d then ev.isConnect else s.lists e := by
  have posted (connId : UInt16) : (s.postEvent ev).view connId =
      if ev.connId = connId then ev.isConnect else s.view connId := by
    rw [view, postEvent, ← List.append_assoc, LastWrite.after_concat]
    rfl
  cases before : s.deviceConnIds.lookup e with
  | none =>
      have other : e ≠ d := by
        rintro rfl
        cases before.symm.trans known
      rw [if_neg other, lists_of_none before]
      exact lists_of_none before
  | some connId =>
      have after : (s.postEvent ev).lists e = (s.postEvent ev).view connId :=
        lists_of_lookup (s := s.postEvent ev) before
      rw [after, posted, lists_of_lookup before]
      by_cases same : e = d
      · subst same
        rw [if_pos rfl, if_pos (Option.some.inj (known.symm.trans before))]
      · have differ : ev.connId ≠ connId := by
          rintro rfl
          exact same (ids.inj e d _ before known)
        rw [if_neg same, if_neg differ]

theorem uniqueIds_postEvent (ids : s.UniqueIds) {ev : ServerEvent}
    (known : s.deviceConnIds.lookup d = some ev.connId) : (s.postEvent ev).UniqueIds := by
  refine ⟨ids.below, ids.inj, ids.client, ?_⟩
  intro other mem
  rw [postEvent, ← List.append_assoc] at mem
  rcases List.mem_append.mp mem with old | new
  · exact ids.event other old
  · obtain rfl := List.mem_singleton.mp new
    exact ⟨d, known⟩

theorem mem_hostOnConnect (k connId : UInt16) :
    connId ∈ (s.hostOnConnect k).clients ↔ k = connId ∨ connId ∈ s.clients := by
  unfold hostOnConnect
  by_cases listed : k ∈ s.clients
  · rw [if_pos listed]
    exact ⟨.inr, fun mem => mem.elim (fun same => same ▸ listed) id⟩
  · rw [if_neg listed, List.mem_append, List.mem_singleton, eq_comm, or_comm]

theorem mem_hostOnDisconnect (distinct : s.clients.Nodup) (k connId : UInt16) :
    connId ∈ (s.hostOnDisconnect k).clients ↔ k ≠ connId ∧ connId ∈ s.clients := by
  unfold hostOnDisconnect
  by_cases listed : k ∈ s.clients
  · rw [if_pos listed, distinct.mem_erase_iff, ne_comm]
  · rw [if_neg listed]
    exact ⟨fun mem => ⟨fun same => listed (same ▸ mem), mem⟩, And.right⟩

/-- Handling an event settles whether its id is listed. -/
theorem mem_handle (distinct : s.clients.Nodup) (ev : ServerEvent) (connId : UInt16) :
    connId ∈ (s.handle ev).clients ↔
      if ev.connId = connId then ev.isConnect = true else connId ∈ s.clients := by
  by_cases same : ev.connId = connId
  · rw [if_pos same]
    cases ev with
    | connect k => exact (mem_hostOnConnect k connId).trans ⟨fun _ => rfl, fun _ => .inl same⟩
    | disconnect k =>
        refine (mem_hostOnDisconnect distinct k connId).trans ⟨fun mem => absurd same mem.1, ?_⟩
        exact fun never => absurd never Bool.false_ne_true
  · rw [if_neg same]
    cases ev with
    | connect k => exact (mem_hostOnConnect k connId).trans ⟨fun mem => mem.resolve_left same, .inr⟩
    | disconnect k =>
        exact (mem_hostOnDisconnect distinct k connId).trans ⟨And.right, fun mem => ⟨same, mem⟩⟩

/-! ## Callbacks -/

theorem alternating_concat {b x : Bool} {l : List Bool} (alternating : Alternating b l)
    (next : x = if l.length % 2 = 0 then b else !b) : Alternating b (l ++ [x]) := by
  induction l generalizing b with
  | nil => exact ⟨next, trivial⟩
  | cons y l ih =>
      obtain ⟨head, tail⟩ := alternating
      refine ⟨head, ih tail ?_⟩
      rw [next, List.length_cons, Bool.not_not]
      by_cases even : l.length % 2 = 0
      · rw [if_pos even, if_neg (by omega)]
      · rw [if_neg even, if_pos (by omega)]

theorem callsOf_concat (connId : UInt16) (callbacks : List (Bool × UInt16)) (b : Bool)
    (k : UInt16) : callsOf connId (callbacks ++ [(b, k)]) =
      if k = connId then callsOf connId callbacks ++ [b] else callsOf connId callbacks := by
  rw [callsOf, List.filter_append, List.map_append, ← callsOf]
  by_cases same : k = connId <;> simp [same]

/-- The callbacks made with an id alternate, and the last one tells whether it is listed. -/
structure CallsAlternate (s : Central) : Prop where
  distinct : s.clients.Nodup
  alternate : ∀ connId, Alternating true (callsOf connId s.callbacks)
  listed : ∀ connId, connId ∈ s.clients ↔ (callsOf connId s.callbacks).length % 2 = 1

theorem callsAlternate_handle (calls : s.CallsAlternate) (ev : ServerEvent) :
    (s.handle ev).CallsAlternate := by
  cases ev with
  | connect k =>
      have mem := mem_hostOnConnect (s := s) k
      by_cases known : k ∈ s.clients
      · rw [handle, hostOnConnect, if_pos known]
        exact calls
      · have even : (callsOf k s.callbacks).length % 2 = 0 := by
          have odd := mt (calls.listed k).mpr known
          omega
        simp only [handle, hostOnConnect, if_neg known] at mem ⊢
        refine ⟨?_, fun connId => ?_, fun connId => ?_⟩
        · rw [List.nodup_append]
          refine ⟨calls.distinct, List.nodup_singleton k, fun a old b new => ?_⟩
          obtain rfl := List.mem_singleton.mp new
          exact fun same => known (same ▸ old)
        · rw [callsOf_concat]
          split
          · rename_i same
            subst same
            exact alternating_concat (calls.alternate k) (by rw [if_pos even])
          · exact calls.alternate connId
        · rw [mem, callsOf_concat]
          by_cases same : k = connId
          · subst same
            rw [if_pos rfl, List.length_append, List.length_singleton]
            exact ⟨fun _ => by omega, fun _ => .inl rfl⟩
          · rw [if_neg same, ← calls.listed connId]
            exact ⟨fun mem => mem.resolve_left same, .inr⟩
  | disconnect k =>
      have mem := mem_hostOnDisconnect calls.distinct k
      by_cases known : k ∈ s.clients
      · have odd := (calls.listed k).mp known
        simp only [handle, hostOnDisconnect, if_pos known] at mem ⊢
        refine ⟨calls.distinct.erase k, fun connId => ?_, fun connId => ?_⟩
        · rw [callsOf_concat]
          split
          · rename_i same
            subst same
            refine alternating_concat (calls.alternate k) ?_
            rw [if_neg (by omega)]
            rfl
          · exact calls.alternate connId
        · rw [mem, callsOf_concat]
          by_cases same : k = connId
          · subst same
            rw [if_pos rfl, List.length_append, List.length_singleton]
            exact ⟨fun mem => absurd rfl mem.1, fun even => by omega⟩
          · rw [if_neg same, ← calls.listed connId]
            exact ⟨And.right, fun mem => ⟨same, mem⟩⟩
      · rw [handle, hostOnDisconnect, if_neg known]
        exact calls

/-! ## In flight -/

/-- The enumeration will list a device. -/
def awaited (s : Central) (d : List Char) : Bool :=
  match s.enumeration with
  | .pending | .called => decide (d ∈ s.connected)
  | .replied rest => decide (d ∈ rest)
  | .done => false

/-- Once everything in flight is handled, exactly the connected devices are listed. -/
def Settled (s : Central) : Prop :=
  ∀ d, LastWrite.after Prod.fst Prod.snd d (s.lists d || s.awaited d) s.signals =
    decide (d ∈ s.connected)

/-- The invariant of a run. -/
structure Sound (s : Central) : Prop where
  ids : s.UniqueIds
  calls : s.CallsAlternate
  settled : s.Settled

/-- While the worker is free, the enumeration awaits nothing but connected devices. -/
theorem awaited_of_workerFree (free : s.workerFree = true) (d : List Char) :
    s.awaited d = true → d ∈ s.connected := by
  unfold workerFree at free
  unfold awaited
  split at free
  · rename_i pending
    rw [pending]
    exact of_decide_eq_true
  · rename_i done
    rw [done]
    exact fun never => absurd never Bool.false_ne_true
  · cases free
  · cases free

/-- An event is posted for the device that was interned. -/
theorem sound_posted {r : UInt16 × Central} (interned : Interned s d r)
    (calls : s.CallsAlternate) {ev : ServerEvent} (id : ev.connId = r.1)
    (settled : ∀ e, LastWrite.after Prod.fst Prod.snd e
      ((if e = d then ev.isConnect else s.lists e) || s.awaited e) s.signals =
        decide (e ∈ s.connected)) : (r.2.postEvent ev).Sound := by
  have known : r.2.deviceConnIds.lookup d = some ev.connId := id ▸ interned.known
  have lists := lists_postEvent interned.ids known
  have ids := uniqueIds_postEvent interned.ids known
  obtain ⟨map, next, only⟩ := interned.only
  simp only [interned.lists] at lists
  rw [only] at ids lists ⊢
  refine ⟨ids, ⟨calls.distinct, calls.alternate, calls.listed⟩, fun e => ?_⟩
  rw [lists]
  exact settled e

theorem mem_link (b : Bool) :
    e ∈ (if b then d :: s.connected else s.connected.filter (· ≠ d)) ↔
      if d = e then b = true else e ∈ s.connected := by
  cases b <;> by_cases same : d = e
  · subst same
    simp
  · simp [same, Ne.symm same]
  · subst same
    simp
  · simp [same, Ne.symm same]

theorem sound_link (sound : s.Sound) (b : Bool) (step : centralStep s (.link d b) = some t) :
    t.Sound := by
  obtain rfl := Option.some.inj step
  refine ⟨⟨sound.ids.below, sound.ids.inj, sound.ids.client, sound.ids.event⟩,
    ⟨sound.calls.distinct, sound.calls.alternate, sound.calls.listed⟩, fun e => ?_⟩
  rw [LastWrite.after_concat]
  have member := mem_link (s := s) (d := d) (e := e) b
  by_cases same : d = e
  · rw [if_pos same] at member ⊢
    exact Bool.eq_iff_iff.mpr (member.symm.trans (decide_eq_true_iff).symm)
  · rw [if_neg same] at member ⊢
    rw [decide_eq_decide.mpr member, ← sound.settled e]
    congr 2
    unfold awaited
    dsimp only
    cases s.enumeration with
    | pending | called => exact decide_eq_decide.mpr member
    | replied rest | done => rfl

theorem sound_signal (sound : s.Sound) (guard : Unwrapped s .signal)
    (step : centralStep s .signal = some t) : t.Sound := by
  simp only [centralStep] at step
  split at step
  · cases step
  · rename_i path b rest pending
    obtain ⟨free, same⟩ := Option.ite_none_right_eq_some.mp step
    obtain rfl := Option.some.inj same
    have fresh : s.deviceConnIds.lookup path = none → s.nextConnId ≠ 0 :=
      guard path (by simp [interns, pending])
    have handed : Interned { s with signals := rest } path
        ({ s with signals := rest }.internDevice path) :=
      interned ⟨sound.ids.below, sound.ids.inj, sound.ids.client, sound.ids.event⟩ fresh
    refine sound_posted handed ⟨sound.calls.distinct, sound.calls.alternate, sound.calls.listed⟩
      (by cases b <;> rfl) fun e => ?_
    have settled := sound.settled e
    rw [pending, LastWrite.after_cons] at settled
    have isConnect (k : UInt16) : (if b = true then ServerEvent.connect k else
        .disconnect k).isConnect = b := by
      cases b <;> rfl
    rw [isConnect]
    by_cases own : e = path
    · subst own
      rw [if_pos rfl] at settled ⊢
      rcases LastWrite.after_cases Prod.fst Prod.snd e rest with untouched | ⟨c, written⟩
      · rw [untouched] at settled ⊢
        have awaits := awaited_of_workerFree free e
        cases b with
        | true => rw [Bool.true_or, ← settled]
        | false =>
            have absent : e ∉ s.connected := of_decide_eq_false settled.symm
            rw [Bool.false_or, ← settled]
            exact Bool.eq_false_of_not_eq_true fun await => absent (awaits await)
      · rw [written] at settled ⊢
        exact settled
    · rw [if_neg (Ne.symm own)] at settled
      rw [if_neg own]
      exact settled

theorem sound_access (sound : s.Sound) {device : Option (List Char)}
    (guard : Unwrapped s (.access device)) (step : centralStep s (.access device) = some t) :
    t.Sound := by
  obtain ⟨-, same⟩ := Option.ite_none_right_eq_some.mp step
  obtain rfl := Option.some.inj same
  cases device with
  | none => exact sound
  | some device =>
      have handed := interned sound.ids (guard device rfl)
      obtain ⟨map, next, only⟩ := handed.only
      have ids := handed.ids
      have lists := handed.lists
      dsimp only
      rw [only] at ids lists ⊢
      refine ⟨ids, ⟨sound.calls.distinct, sound.calls.alternate, sound.calls.listed⟩, fun e => ?_⟩
      rw [lists]
      exact sound.settled e

/-- The enumeration goes from one phase to the next. -/
theorem sound_phase (sound : s.Sound) {phase : Enumeration}
    (awaited : ∀ e, awaited { s with enumeration := phase } e = s.awaited e) :
    Sound { s with enumeration := phase } := by
  refine ⟨⟨sound.ids.below, sound.ids.inj, sound.ids.client, sound.ids.event⟩,
    ⟨sound.calls.distinct, sound.calls.alternate, sound.calls.listed⟩, fun e => ?_⟩
  rw [awaited]
  exact sound.settled e

theorem sound_call (sound : s.Sound) (step : centralStep s .call = some t) : t.Sound := by
  obtain ⟨pending, same⟩ := Option.ite_none_right_eq_some.mp step
  obtain rfl := Option.some.inj same
  refine sound_phase sound fun e => ?_
  unfold awaited
  rw [pending]

theorem sound_snapshot (sound : s.Sound) {devices : List (List Char)}
    (step : centralStep s (.snapshot devices) = some t) : t.Sound := by
  obtain ⟨⟨called, sub, all⟩, same⟩ := Option.ite_none_right_eq_some.mp step
  obtain rfl := Option.some.inj same
  refine sound_phase sound fun e => ?_
  unfold awaited
  rw [called]
  exact decide_eq_decide.mpr ⟨fun mem => sub mem, fun mem => all mem⟩

theorem sound_enumerate (sound : s.Sound) (guard : Unwrapped s .enumerate)
    (step : centralStep s .enumerate = some t) : t.Sound := by
  simp only [centralStep] at step
  split at step
  · rename_i replied
    obtain rfl := Option.some.inj step
    refine sound_phase sound fun e => ?_
    unfold awaited
    rw [replied]
    exact (decide_eq_false List.not_mem_nil).symm
  · rename_i device rest replied
    obtain rfl := Option.some.inj step
    have fresh : s.deviceConnIds.lookup device = none → s.nextConnId ≠ 0 :=
      guard device (by simp [interns, replied])
    have handed : Interned { s with enumeration := .replied rest } device
        ({ s with enumeration := .replied rest }.internDevice device) :=
      interned ⟨sound.ids.below, sound.ids.inj, sound.ids.client, sound.ids.event⟩ fresh
    refine sound_posted handed ⟨sound.calls.distinct, sound.calls.alternate, sound.calls.listed⟩
      rfl fun e => ?_
    rw [← sound.settled e]
    congr 1
    show ((if e = device then true else s.lists e) || decide (e ∈ rest)) =
      (s.lists e || s.awaited e)
    rw [awaited, replied]
    by_cases same : e = device
    · subst same
      simp
    · simp [same]
  · cases step

theorem sound_drain (sound : s.Sound) (step : centralStep s .drain = some t) : t.Sound := by
  simp only [centralStep] at step
  split at step
  · rename_i empty
    obtain rfl := Option.some.inj step
    have moved : s.events ++ [] = s.drained ++ s.events := by rw [empty, List.append_nil]; rfl
    refine ⟨⟨sound.ids.below, sound.ids.inj, sound.ids.client, moved ▸ sound.ids.event⟩,
      ⟨sound.calls.distinct, sound.calls.alternate, sound.calls.listed⟩, fun e => ?_⟩
    have lists : Central.lists { s with drained := s.events, events := [] } e = s.lists e := by
      unfold lists view
      rw [moved]
    rw [lists]
    exact sound.settled e
  · cases step

/-- Handling an event touches the clients and the callbacks only. -/
theorem handle_only (s : Central) (ev : ServerEvent) : ∃ clients callbacks,
    s.handle ev = { s with clients := clients, callbacks := callbacks } := by
  cases ev with
  | connect k =>
      rw [handle, hostOnConnect]
      split <;> exact ⟨_, _, rfl⟩
  | disconnect k =>
      rw [handle, hostOnDisconnect]
      split <;> exact ⟨_, _, rfl⟩

theorem sound_handle (sound : s.Sound) (step : centralStep s .handle = some t) : t.Sound := by
  simp only [centralStep] at step
  split at step
  · cases step
  · rename_i ev rest drained
    obtain rfl := Option.some.inj step
    have calls := callsAlternate_handle (s := { s with drained := rest })
      ⟨sound.calls.distinct, sound.calls.alternate, sound.calls.listed⟩ ev
    have mem := mem_handle (s := { s with drained := rest }) sound.calls.distinct ev
    obtain ⟨clients, callbacks, only⟩ := handle_only { s with drained := rest } ev
    rw [only] at calls mem ⊢
    have own : ∃ d, s.deviceConnIds.lookup d = some ev.connId :=
      sound.ids.event ev (by rw [drained]; exact List.mem_cons_self)
    refine ⟨⟨sound.ids.below, sound.ids.inj, ?_, ?_⟩, calls, fun e => ?_⟩
    · intro connId listed
      have before := (mem connId).mp listed
      by_cases same : ev.connId = connId
      · exact same ▸ own
      · rw [if_neg same] at before
        exact sound.ids.client connId before
    · intro other inside
      refine sound.ids.event other ?_
      rw [drained]
      exact List.mem_cons_of_mem ev inside
    · have view (connId : UInt16) : Central.view
          { s with drained := rest, clients := clients, callbacks := callbacks } connId =
            s.view connId := by
        unfold view
        rw [drained, List.cons_append, LastWrite.after_cons]
        congr 1
        have member := mem connId
        by_cases same : ev.connId = connId
        · rw [if_pos same] at member ⊢
          exact Bool.eq_iff_iff.mpr (decide_eq_true_iff.trans member)
        · rw [if_neg same] at member ⊢
          exact decide_eq_decide.mpr member
      have lists : Central.lists
          { s with drained := rest, clients := clients, callbacks := callbacks } e = s.lists e := by
        unfold lists
        simp only [view]
      rw [lists]
      exact sound.settled e

theorem sound_step (sound : s.Sound) (guard : Unwrapped s l) (step : centralStep s l = some t) :
    t.Sound := by
  cases l with
  | link d b => exact sound_link sound b step
  | signal => exact sound_signal sound guard step
  | access device => exact sound_access sound guard step
  | call => exact sound_call sound step
  | snapshot devices => exact sound_snapshot sound step
  | enumerate => exact sound_enumerate sound guard step
  | drain => exact sound_drain sound step
  | handle => exact sound_handle sound step

theorem sound_init (connected : List (List Char)) : Sound { connected := connected } :=
  ⟨⟨nofun, nofun, nofun, nofun⟩, ⟨.nil, fun _ => trivial, by simp [callsOf]⟩, fun _ => rfl⟩

/-! ## The result -/

theorem Sound.tracks (sound : s.Sound) : s.Tracks := by
  refine ⟨fun d _ e _ => sound.ids.inj d e, fun d _ zero => (sound.ids.below d 0 zero).1 rfl,
    fun d connId _ => sound.calls.alternate connId, ?_⟩
  rintro ⟨done, signals, events, drained⟩
  have view (connId : UInt16) : s.view connId = decide (connId ∈ s.clients) := by
    rw [view, drained, events]
    rfl
  have settled (d : List Char) : s.lists d = decide (d ∈ s.connected) := by
    have settled := sound.settled d
    rw [signals, awaited, done, Bool.or_false] at settled
    exact settled
  refine ⟨sound.calls.distinct, fun connId => ⟨fun listed => ?_, ?_⟩⟩
  · obtain ⟨d, known⟩ := sound.ids.client connId listed
    have connected := settled d
    rw [lists_of_lookup known, view, decide_eq_decide] at connected
    exact ⟨d, connected.mp listed, known⟩
  · rintro ⟨d, connected, known⟩
    have listed := settled d
    rw [lists_of_lookup known, view, decide_eq_decide] at listed
    exact listed.mpr connected

/-- **The clients are the connected centrals**, in every run in which a device is given an id only
while the counter has not wrapped. -/
theorem tracks_of_unwrapped (run : centralMachine.ReachableUnder Unwrapped s) : s.Tracks := by
  refine (run.invariant (I := Sound) ?_ fun _ _ _ sound guard step =>
    sound_step sound guard step).tracks
  rintro s ⟨connected, rfl⟩
  exact sound_init connected

/-! ## Two runs -/

/-- One central is connected before the start and one connects; the enumeration repeats it. -/
def startup : List CentralLabel :=
  [.link ['b'] true, .signal, .call, .snapshot [['a'], ['b']], .enumerate, .enumerate, .enumerate,
    .drain, .handle, .handle, .handle]

theorem tracks_startup : ∃ s, centralMachine.run { connected := [['a']] } startup = some s ∧
    s.Quiet ∧ s.clients = [1, 2] ∧ s.callbacks = [(true, 1), (true, 2)] ∧ s.Tracks := by
  obtain ⟨s, ran, replay, quiet, clients, callbacks⟩ : ∃ s,
      (centralMachine.guarded Unwrapped).run { connected := [['a']] } startup = some s ∧
        centralMachine.run { connected := [['a']] } startup = some s ∧ s.Quiet ∧
          s.clients = [1, 2] ∧ s.callbacks = [(true, 1), (true, 2)] :=
    ⟨_, rfl, rfl, ⟨rfl, rfl, rfl, rfl⟩, rfl, rfl⟩
  exact ⟨s, replay, quiet, clients, callbacks,
    tracks_of_unwrapped ⟨_, ⟨[['a']], rfl⟩, Machine.run_guarded_reach ran⟩⟩

/-- No device is connected, no signal undelivered, and the enumeration is still to come. -/
structure Idle (s : Central) : Prop where
  connected : s.connected = []
  signals : s.signals = []
  pending : s.enumeration = .pending

/-- The state after a device that was not seen before connects. -/
def joined (s : Central) (d : List Char) : Central :=
  { s with
    connected := [d]
    deviceConnIds := (d, s.nextConnId) :: s.deviceConnIds
    nextConnId := s.nextConnId + 1
    events := s.events ++ [.connect s.nextConnId] }

theorem reach_joined (idle : s.Idle) (unknown : s.deviceConnIds.lookup d = none) :
    centralMachine.Reach Machine.anyStep s (s.joined d) := by
  have linked : centralMachine.step s (.link d true) =
      some { s with signals := [(d, true)], connected := [d] } := by
    show some _ = some _
    rw [idle.signals, idle.connected]
    rfl
  have handled : centralMachine.step { s with signals := [(d, true)], connected := [d] } .signal =
      some (s.joined d) := by
    simp [centralMachine, centralStep, workerFree, idle.pending, onDevicePropsChanged,
      internDevice, unknown, postEvent, joined, idle.signals]
  exact (Machine.Reach.single (l := .link d true) trivial linked).tail (l := .signal) trivial
    handled

/-- It disconnects again. -/
theorem reach_left (idle : s.Idle) (d : List Char) :
    centralMachine.Reach Machine.anyStep (s.joined d)
      { s.joined d with
        connected := []
        events := (s.joined d).events ++ [.disconnect s.nextConnId] } := by
  have linked : centralMachine.step (s.joined d) (.link d false) =
      some { s.joined d with signals := [(d, false)], connected := [] } := by
    simp [centralMachine, centralStep, joined, idle.signals]
  have handled : centralMachine.step
      { s.joined d with signals := [(d, false)], connected := [] } .signal =
        some { s.joined d with
          connected := []
          events := (s.joined d).events ++ [.disconnect s.nextConnId] } := by
    simp [centralMachine, centralStep, workerFree, idle.pending, onDevicePropsChanged,
      internDevice, postEvent, joined, idle.signals]
  exact (Machine.Reach.single (l := .link d false) trivial linked).tail (l := .signal) trivial
    handled

/-- As many devices as we like, each with a path of its own. -/
def passerby (n : Nat) : List Char := List.replicate n 'd'

theorem passerby_ne {m n : Nat} (after : n < m) : passerby m ≠ passerby n := fun same => by
  have lengths := congrArg List.length same
  rw [passerby, passerby, List.length_replicate, List.length_replicate] at lengths
  exact absurd lengths (Nat.ne_of_gt after)

/-- After `n` devices have come and gone the counter is at `n + 1`. -/
theorem reach_passersby (n : Nat) : ∃ s, centralMachine.Reachable s ∧ s.Idle ∧
    s.nextConnId = UInt16.ofNat (n + 1) ∧
      ∀ m, n ≤ m → s.deviceConnIds.lookup (passerby m) = none := by
  induction n with
  | zero =>
      exact ⟨{ connected := [] }, ⟨_, ⟨[], rfl⟩, .refl⟩, ⟨rfl, rfl, rfl⟩, rfl, fun _ _ => rfl⟩
  | succ n ih =>
      obtain ⟨s, ⟨start, init, reach⟩, idle, next, fresh⟩ := ih
      have came := reach_joined idle (fresh n (Nat.le_refl n))
      have went := reach_left idle (passerby n)
      refine ⟨_, ⟨start, init, (reach.trans came).trans went⟩, ⟨rfl, idle.signals, idle.pending⟩,
        ?_, fun m after => ?_⟩
      · show s.nextConnId + 1 = UInt16.ofNat (n + 1 + 1)
        rw [next, UInt16.ofNat_add (n + 1) 1]
        rfl
      · show ((passerby n, s.nextConnId) :: s.deviceConnIds).lookup (passerby m) = none
        rw [List.lookup_cons, beq_false_of_ne (passerby_ne after)]
        exact fresh m (Nat.le_of_succ_le after)

/-- The device that connects after 65535 others have come and gone gets id 0. -/
theorem not_tracks_wrapped : ∃ s, centralMachine.Reachable s ∧ ∃ d ∈ s.connected,
    s.deviceConnIds.lookup d = some 0 ∧ ¬ s.Tracks := by
  obtain ⟨s, ⟨start, init, reach⟩, idle, next, fresh⟩ := reach_passersby 65535
  have wrapped : s.nextConnId = 0 := by
    rw [next]
    rfl
  have came := reach_joined idle (fresh 65535 (Nat.le_refl _))
  generalize passerby 65535 = d at came
  have known : (s.joined d).deviceConnIds.lookup d = some 0 := by
    rw [joined, List.lookup_cons, beq_self_eq_true, wrapped]
  have connected : d ∈ (s.joined d).connected := List.mem_singleton_self d
  refine ⟨s.joined d, ⟨start, init, reach.trans came⟩, d, connected, known, ?_⟩
  exact fun tracks => tracks.nonzero d connected known

end Central

end EsphomeHost

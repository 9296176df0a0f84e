import EsphomeHost.Gatt.Attributes
import EsphomeHost.Gatt.Routing

/-!
# Writes of the client characteristic configuration

The comment in `do_write_` promises that a client which enables or disables notifications by writing
the descriptor 0x2902 is redirected to `StartNotify` and `StopNotify` of the characteristic.  The
code writes the descriptor like any other.

* `Redirects`: what the comment promises of a write.
* `doWrite_call`: **every write of a handle that leads to an object calls `WriteValue` on it.**
* `redirects_iff`: the promise is kept exactly for the writes it leaves alone; in a tree whose
  handles are all different these are the writes that stand for no subscription
  (`Handled.redirects_alone`).
* `not_redirects_enabling`: a write that enables notifications is sent to the descriptor.
-/

namespace EsphomeHost

/-! ## The promise -/

/-- The methods of a GATT object. -/
inductive GattMethod
  | readValue
  | writeValue
  | startNotify
  | stopNotify
deriving DecidableEq

/-- The interface the code names: everything but a descriptor is a characteristic. -/
def GattKind.named : GattKind → GattKind
  | descriptor => descriptor
  | _ => characteristic

/-- The method that is called, the interface it is called on and the path of the object. -/
def Call.method? : Call → Option (GattMethod × GattKind × List Char)
  | read _ _ entry => some (.readValue, entry.kind.named, entry.path)
  | write _ _ _ _ entry => some (.writeValue, entry.kind.named, entry.path)
  | notify _ enable path =>
      some (if enable then .startNotify else .stopNotify, .characteristic, path)
  | _ => none

/-- The calls a command makes. -/
def Worker.callsMade (w : Worker) (cmd : HostGattCommand) : List Call :=
  callsIn ({ w with stack := [] }.execute cmd).1.stack

def CCCD_UUID : UInt16 := 0x2902

/-- The subscription that a write of the descriptor stands for. -/
def subscription (uuid : ESPBTUUID) (data : List UInt8) : Option Bool :=
  if uuid.as128bit ≠ (ESPBTUUID.fromUint16 CCCD_UUID).as128bit then none
  else if data = [0x01, 0x00] ∨ data = [0x02, 0x00] then some true
  else if data = [0x00, 0x00] then some false
  else none

/-- The write of `data` to the descriptor `d` of the characteristic `c` does what the comment in
`do_write_` says.  The worker `v` is as it is when the call is answered. -/
structure Redirects (w : Worker) (c d : ManagedObject) (data : List UInt8) (response : Bool) :
    Prop where
  calls : (w.callsMade (.writeDesc (d.handle?.getD 0) data response)).map Call.method? =
    [some (match subscription d.uuid data with
      | some true => (.startNotify, .characteristic, c.path)
      | some false => (.stopNotify, .characteristic, c.path)
      | none => (.writeValue, .descriptor, d.path))]
  subs : ∀ call ∈ w.callsMade (.writeDesc (d.handle?.getD 0) data response),
    ∀ (v : Worker) (r : Reply), (v.resume call r).1.notifySubs = match subscription d.uuid data with
      | some enable =>
          subsAfter v.notifySubs (.notify (c.handle?.getD 0) enable c.path) r
      | none => v.notifySubs
  event : ∀ call ∈ w.callsMade (.writeDesc (d.handle?.getD 0) data response),
    ∀ (v : Worker) (r : Reply), ∃ status,
      (v.resume call r).2 = [.event (.descWrite (d.handle?.getD 0) status)]

/-- The handle of `d` leads to `d`. -/
def Worker.Reaches (w : Worker) (d : ManagedObject) : Prop :=
  ∃ entry, w.handleMap.lookup (d.handle?.getD 0) = some entry ∧ entry.path = d.path ∧
    entry.kind = .descriptor

/-! ## What the code does -/

variable {w : Worker} {c d : ManagedObject} {data : List UInt8} {response : Bool}

/-- **Every write of a handle that leads to an object calls `WriteValue` on the object**, whatever
is written to it. -/
theorem doWrite_call {handle : UInt16} {entry : ObjEntry}
    (found : w.handleMap.lookup handle = some entry) :
    w.callsMade (.writeDesc handle data response) = [.write handle data response true entry] := by
  show callsIn ({ w with stack := [] }.doWrite handle data response true).1.stack = _
  unfold Worker.doWrite
  simp only [found]
  rfl

theorem doWrite_nothing {handle : UInt16} (lost : w.handleMap.lookup handle = none) :
    w.callsMade (.writeDesc handle data response) = [] := by
  show callsIn ({ w with stack := [] }.doWrite handle data response true).1.stack = _
  unfold Worker.doWrite
  simp only [lost]
  rfl

/-- A write ends in its own event and leaves the subscriptions alone. -/
theorem write_resume (v : Worker) (handle : UInt16) (entry : ObjEntry) (r : Reply) :
    (v.resume (.write handle data response true entry) r).1.notifySubs = v.notifySubs ∧
      ∃ status, (v.resume (.write handle data response true entry) r).2 =
        [.event (.descWrite handle status)] := by
  cases r <;> exact ⟨rfl, _, rfl⟩

/-- A write that does what the comment says is one that the comment leaves alone. -/
theorem Redirects.alone (kept : Redirects w c d data response) :
    subscription d.uuid data = none ∧ w.Reaches d := by
  have calls := kept.calls
  cases found : w.handleMap.lookup (d.handle?.getD 0) with
  | none =>
      rw [doWrite_nothing found] at calls
      cases calls
  | some entry =>
      rw [doWrite_call found] at calls
      have method := Option.some.inj (List.cons.inj calls).1
      cases stands : subscription d.uuid data with
      | some enable =>
          rw [stands] at method
          cases enable <;> cases method
      | none =>
          rw [stands] at method
          obtain ⟨kind, path⟩ := Prod.mk.inj (Prod.mk.inj method).2
          refine ⟨rfl, entry, found, path, ?_⟩
          cases same : entry.kind <;> rw [same] at kind <;> first | rfl | cases kind

/-- A write that the comment leaves alone, of a handle that leads to the descriptor. -/
theorem Worker.Reaches.redirects (reaches : w.Reaches d) (alone : subscription d.uuid data = none) :
    Redirects w c d data response := by
  obtain ⟨entry, found, path, kind⟩ := reaches
  have made : w.callsMade (.writeDesc (d.handle?.getD 0) data response) =
      [.write (d.handle?.getD 0) data response true entry] := doWrite_call found
  refine ⟨?_, ?_, ?_⟩
  · rw [made, alone, ← path]
    simp [Call.method?, kind, GattKind.named]
  · rw [made, alone]
    intro call mem v r
    rw [List.mem_singleton.mp mem]
    exact (write_resume v _ entry r).1
  · rw [made]
    intro call mem v r
    rw [List.mem_singleton.mp mem]
    exact (write_resume v _ entry r).2

/-- **A write does what the comment says exactly if the comment leaves it alone** and its handle
leads to the descriptor. -/
theorem redirects_iff (w : Worker) (c d : ManagedObject) (data : List UInt8) (response : Bool) :
    Redirects w c d data response ↔ subscription d.uuid data = none ∧ w.Reaches d :=
  ⟨Redirects.alone, fun ⟨alone, reaches⟩ => reaches.redirects alone⟩

/-- In a tree in which all attributes have handles of their own, every handle leads to its
descriptor. -/
theorem Handled.reaches {devicePath : List Char} {reply : List ManagedObject}
    (handled : Handled devicePath reply) (map : w.handleMap = replyMap devicePath reply)
    {s : ManagedObject} (service : s ∈ replyServices devicePath reply)
    (characteristic : c ∈ replyCharacteristics devicePath reply s)
    (descriptor : d ∈ replyDescriptors devicePath reply c) : w.Reaches d := by
  obtain ⟨listed, kind⟩ := attribute_of_descriptor descriptor
  have emitted : d.handle?.getD 0 ∈ attributeHandles (describedServices devicePath reply) := by
    rw [← describedRoutes_handles]
    have route : (d.handle?.getD 0, ⟨d.path, .descriptor, c.handle?.getD 0⟩) ∈
        describedRoutes devicePath reply :=
      List.mem_flatMap.mpr ⟨s, service, List.mem_flatMap.mpr ⟨c, characteristic,
        List.mem_cons_of_mem _ (List.mem_map.mpr ⟨d, descriptor, rfl⟩)⟩⟩
    exact List.mem_map.mpr ⟨_, route, rfl⟩
  obtain ⟨entry, found, path, same⟩ := handled.lookup listed emitted
  rw [kind] at same
  rw [Worker.Reaches, map]
  exact ⟨entry, found, path, same⟩

/-- In such a tree a write does what the comment says exactly if it stands for no subscription. -/
theorem Handled.redirects_alone {devicePath : List Char} {reply : List ManagedObject}
    (handled : Handled devicePath reply) (map : w.handleMap = replyMap devicePath reply)
    {s : ManagedObject} (service : s ∈ replyServices devicePath reply)
    (characteristic : c ∈ replyCharacteristics devicePath reply s)
    (descriptor : d ∈ replyDescriptors devicePath reply c) :
    Redirects w c d data response ↔ subscription d.uuid data = none :=
  ⟨fun kept => kept.alone.1,
    (handled.reaches map service characteristic descriptor).redirects⟩

/-! ## A write that enables notifications -/

/-- The characteristic of a device with one. -/
def notifying : ManagedObject :=
  ⟨"/d/s/c".toList, [(.characteristic1, [.handle 2, .service "/d/s".toList])]⟩

/-- Its 0x2902. -/
def configuration : ManagedObject :=
  ⟨"/d/s/c/e".toList, [(.descriptor1, [.uuid "00002902-0000-1000-8000-00805f9b34fb".toList,
    .handle 3, .characteristic "/d/s/c".toList])]⟩

def notifyingReply : List ManagedObject :=
  [⟨"/d/s".toList, [(.service1, [.handle 1])]⟩, notifying, configuration]

/-- The worker of the device, once its tree is walked. -/
def walkedWorker : Worker :=
  { devicePath := "/d".toList, busOpen := true, handleMap := replyMap "/d".toList notifyingReply }

/-- Notifications are enabled by a write of the descriptor: `WriteValue` is called on it. -/
theorem not_redirects_enabling :
    configuration ∈ replyDescriptors "/d".toList notifyingReply notifying ∧
    (walkedWorker.callsMade (.writeDesc 3 [0x01, 0x00] true)).map Call.method? =
      [some (.writeValue, .descriptor, "/d/s/c/e".toList)] ∧
    ¬ Redirects walkedWorker notifying configuration [0x01, 0x00] true := by
  refine ⟨List.mem_cons_self, rfl, fun kept => ?_⟩
  have calls : [some (GattMethod.writeValue, GattKind.descriptor, "/d/s/c/e".toList)] = _ :=
    kept.calls
  have stands : subscription configuration.uuid [0x01, 0x00] = some true := by decide
  rw [stands] at calls
  cases calls

end EsphomeHost

import EsphomeHost.Proxy.Accounting

/-!
# Rejected connection requests

`get_connection_` reserves a slot before `bluetooth_device_request` has looked at the request.  A
request that is then rejected for its missing address type keeps the slot.

* `Rejected`: the requests to connect for which no attempt is started.
* `answered_iff`: they are the ones that are answered with "not connected".
* `Unchanged p q`: the slots and the accounting are as they were.
* `rejected_unchanged_iff`: **a rejected request leaves them alone exactly if it takes no slot**.
-/

namespace EsphomeHost

/-- A report that the link is not up. -/
def ApiMessage.isDown : ApiMessage → Bool
  | .deviceConnection _ connected _ _ => !connected
  | _ => false

/-- The requests to connect. -/
def DeviceRequestType.connects : DeviceRequestType → Bool
  | connect | connectV3WithCache | connectV3WithoutCache => true
  | _ => false

namespace BluetoothProxy

variable {p q : BluetoothProxy} {i : Nat} {c : BluetoothConnection} {address : UInt64}
  {type : DeviceRequestType} {hasAddressType : Bool} {now : UInt32}

/-- The request to connect is rejected: there is no slot for it, its address type is missing, or its
type is not supported. -/
def Rejected (p : BluetoothProxy) (address : UInt64) (hasAddressType : Bool) :
    DeviceRequestType → Prop
  | .connect => True
  | .connectV3WithCache | .connectV3WithoutCache =>
      p.findConnection address true = none ∨ hasAddressType = false
  | _ => False

/-- The state of the link of every slot. -/
def states (p : BluetoothProxy) : List ClientState := p.connections.map (·.base.state)

/-- The slots and the accounting are as they were. -/
structure Unchanged (p q : BluetoothProxy) : Prop where
  addresses : q.addresses = p.addresses
  states : q.states = p.states
  free : q.connectionsFree.free = p.connectionsFree.free
  allocated : q.connectionsFree.allocated = p.connectionsFree.allocated

/-! ## The answer -/

theorem speaks_connectConnection {connection : ConnectionType} :
    Speaks True (fun m => m.isDown = false) p (p.connectConnection i address connection) := by
  have free (q : BluetoothProxy) :
      Speaks True (fun m => m.isDown = false) q q.sendConnectionsFree := speaks_sendIfConnected rfl
  have up : Speaks True (fun m => m.isDown = false) p
      (p.sendDeviceConnection address true 0 ESP_OK) := speaks_sendIfConnected rfl
  unfold connectConnection withConnection
  cases p.connections[i]? with
  | none => exact .refl
  | some c =>
      dsimp only
      cases c.base.state with
      | connected | established => exact up.trans (free _)
      | connecting =>
          dsimp only
          split
          · exact speaks_update i _
          · exact .refl
      | init => exact (speaks_update i _).trans (free _)
      | idle | disconnecting | discovered => exact .refl

/-- A message to the subscriber is among what was sent. -/
theorem mem_newMessages_sendIfConnected {client : Nat} {m : ApiMessage}
    (subscribed : q.apiConnection = some client) (outbox : q.outbox = p.outbox) :
    (client, m) ∈ newMessages p (q.sendIfConnected m) := by
  unfold newMessages sendIfConnected sendMessage
  rw [subscribed, if_neg (Option.some_ne_none client)]
  simp [outbox]

/-- A reservation sends nothing. -/
theorem getConnection_silent (p : BluetoothProxy) (address : UInt64) (reserve : Bool) :
    (p.getConnection address reserve).2.outbox = p.outbox ∧
      (p.getConnection address reserve).2.nullDeref = p.nullDeref ∧
        (p.getConnection address reserve).2.apiConnection = p.apiConnection := by
  unfold getConnection
  cases found : p.findConnection address reserve with
  | none => exact ⟨rfl, rfl, rfl⟩
  | some i =>
      obtain ⟨c, here, -⟩ := findConnection_some found
      simp only [withConnection_of here]
      split
      · exact ⟨rfl, rfl, rfl⟩
      · rw [reserveConnection, withConnection_of here]
        exact ⟨rfl, rfl, rfl⟩

theorem getConnection_fst (p : BluetoothProxy) (address : UInt64) (reserve : Bool) :
    (p.getConnection address reserve).1 = p.findConnection address reserve := by
  unfold getConnection
  cases p.findConnection address reserve <;> rfl

theorem connectRequest_answered {client : Nat} {connection : ConnectionType}
    (subscribed : p.apiConnection = some client) :
    (∃ m ∈ newMessages p (p.connectRequest address hasAddressType connection),
      m.2.isDown = true) ↔ p.findConnection address true = none ∨ hasAddressType = false := by
  obtain ⟨outbox, deref, kept⟩ := p.getConnection_silent address true
  have first := p.getConnection_fst address true
  unfold connectRequest
  split
  · rename_i q got
    rw [got] at first outbox kept
    refine iff_of_true ⟨_, mem_newMessages_sendIfConnected (kept.trans subscribed) outbox, rfl⟩ ?_
    exact .inl first.symm
  · rename_i i q got
    rw [got] at first outbox deref kept
    split
    · rename_i typed
      refine iff_of_false ?_ (not_or.mpr ⟨first ▸ Option.some_ne_none i, by simp [typed]⟩)
      rintro ⟨m, sent, down⟩
      have silent : Speaks True (fun m => m.isDown = false) p q := .silent deref outbox
      have up := (silent.trans speaks_connectConnection).newMessages m sent
      exact absurd (down.symm.trans up) (by decide)
    · rename_i untyped
      refine iff_of_true
        ⟨_, mem_newMessages_sendIfConnected (kept.trans subscribed) outbox, rfl⟩ ?_
      exact .inr (Bool.eq_false_of_not_eq_true untyped)

/-- **The rejected requests are those that are answered with "not connected".** -/
theorem answered_iff {client : Nat} (subscribed : p.apiConnection = some client)
    (connects : type.connects = true) :
    (∃ m ∈ newMessages p (p.request now (.device address type hasAddressType)),
      m.2.isDown = true) ↔ p.Rejected address hasAddressType type := by
  cases type with
  | connect =>
      exact iff_of_true ⟨_, mem_newMessages_sendIfConnected subscribed rfl, rfl⟩ trivial
  | connectV3WithCache | connectV3WithoutCache => exact connectRequest_answered subscribed
  | disconnect | pair | unpair | clearCache => cases connects

/-! ## What it leaves -/

theorem sendIfConnected_connectionsFree (m : ApiMessage) :
    (p.sendIfConnected m).connectionsFree = p.connectionsFree := by
  unfold sendIfConnected
  split
  · rfl
  · unfold sendMessage
    split <;> rfl

/-- The answer itself changes nothing. -/
theorem unchanged_sendIfConnected (m : ApiMessage) : Unchanged p (p.sendIfConnected m) := by
  refine ⟨?_, ?_, ?_, ?_⟩
  · rw [addresses, sendIfConnected_connections]
    rfl
  · rw [states, sendIfConnected_connections]
    rfl
  · rw [sendIfConnected_connectionsFree]
  · rw [sendIfConnected_connectionsFree]

/-- **A reservation that is followed by the answer changes an address.** -/
theorem changed_reserveConnection (here : p.connections[i]? = some c)
    (other : c.base.address ≠ address) (m : ApiMessage) :
    ¬ Unchanged p ((p.reserveConnection i address).sendIfConnected m) := by
  intro same
  have kept := congrArg (·[i]?) same.addresses
  have taken : ((p.reserveConnection i address).sendIfConnected m).addresses =
      p.addresses.set i address := by
    rw [addresses, sendIfConnected_connections, reserveConnection, withConnection_of here]
    exact addresses_update here (·.reserve address)
  obtain ⟨inside, value⟩ := List.getElem?_eq_some_iff.mp (addresses_of_here here)
  simp only [taken, List.getElem?_set_self inside, addresses_of_here here,
    Option.some.injEq] at kept
  exact other kept.symm

/-- A `CONNECT_V3` request that is rejected. -/
theorem unchanged_connectRequest_iff {connection : ConnectionType}
    (rejected : p.findConnection address true = none ∨ hasAddressType = false)
    (reserves : (ApiRequest.device address type hasAddressType).reserves = true) :
    Unchanged p (p.connectRequest address hasAddressType connection) ↔
      p.reservation (.request (.device address type hasAddressType) now) = none := by
  rw [reservation, if_pos reserves]
  show _ ↔ (p.findConnection address true).bind _ = none
  cases found : p.findConnection address true with
  | none =>
      rw [connectRequest, getConnection, found]
      exact iff_of_true (unchanged_sendIfConnected _) rfl
  | some i =>
      have untyped : hasAddressType = false :=
        rejected.resolve_left (found ▸ Option.some_ne_none i)
      obtain ⟨c, here, serves⟩ := findConnection_some found
      rw [connectRequest, getConnection, found]
      simp only [withConnection_of here, untyped, here, Option.bind_some, Option.any_some]
      by_cases same : c.base.address = address
      · simp only [same]
        refine iff_of_true (unchanged_sendIfConnected _) ?_
        simp [ApiRequest.address]
      · simp only [if_neg same]
        refine iff_of_false (changed_reserveConnection here same _) ?_
        simp [same, ApiRequest.address]

/-- **A rejected request leaves the slots and the accounting alone exactly if it takes no slot.** -/
theorem rejected_unchanged_iff (rejected : p.Rejected address hasAddressType type) :
    Unchanged p (p.request now (.device address type hasAddressType)) ↔
      p.reservation (.request (.device address type hasAddressType) now) = none := by
  cases type with
  | connect => exact iff_of_true (unchanged_sendIfConnected _) rfl
  | connectV3WithCache => exact unchanged_connectRequest_iff rejected rfl
  | connectV3WithoutCache => exact unchanged_connectRequest_iff rejected rfl
  | disconnect | pair | unpair | clearCache => exact rejected.elim

/-! ## Two rejected requests -/

/-- A device that the slot already serves is rejected without a trace. -/
theorem rejected_unchanged_served : ∃ p,
    (proxyMachine plainConfig).run oneSlot [.request (.device deviceA .connectV3WithCache true) 0] =
      some p ∧ Unchanged p (p.request 5 (.device deviceA .connectV3WithCache false)) := by
  obtain ⟨p, ran, free⟩ : ∃ p,
      (proxyMachine plainConfig).run oneSlot
        [.request (.device deviceA .connectV3WithCache true) 0] = some p ∧
      p.reservation (.request (.device deviceA .connectV3WithCache false) 5) = none :=
    ⟨_, rfl, by decide⟩
  have rejected : p.Rejected deviceA false .connectV3WithCache := Or.inr rfl
  exact ⟨p, ran, (rejected_unchanged_iff rejected).mpr free⟩

/-- A device that no slot serves is told that it is not connected, and takes the slot. -/
theorem not_unchanged_untyped : ∃ p, (proxyMachine plainConfig).Reachable p ∧
    p.Rejected deviceA false .connectV3WithCache ∧
    (p.request 5 (.device deviceA .connectV3WithCache false)).addresses = [deviceA] ∧
    (p.request 5 (.device deviceA .connectV3WithCache false)).connectionsFree.free = 0 ∧
    ¬ Unchanged p (p.request 5 (.device deviceA .connectV3WithCache false)) := by
  refine ⟨oneSlot, ⟨_, oneSlot_init, .refl⟩, Or.inr rfl, by decide, by decide, fun same => ?_⟩
  exact absurd same.free (by decide)

end BluetoothProxy

end EsphomeHost

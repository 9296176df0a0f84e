import Mathlib.Data.UInt
import EsphomeHost.Lib.Occupancy
import EsphomeHost.Proxy.Slots

/-!
# The slot accounting

The proxy keeps three records of who is connected: the addresses of its slots, the counter `free`,
and the array `allocated`, which `set_address` updates by search and replace.

* `Accounts p q`: if the records agree in `p`, they agree in `q`.  Every handler has a lemma of this
  form.
* `accounted_of_reach`: **the records agree in every state reached**.
-/

namespace EsphomeHost

open Occupancy

/-- The search of `update_allocated_slot_` is the library's. -/
theorem updateAllocatedSlot_eq (find set : UInt64) (allocated : List UInt64) :
    updateAllocatedSlot find set allocated = allocated.replace find set := by
  induction allocated with
  | nil => rfl
  | cons slot rest ih =>
      rw [updateAllocatedSlot, List.replace_cons, ih]
      by_cases same : slot = find
      · rw [if_pos same, beq_iff_eq.mpr same.symm]
      · rw [if_neg same, beq_false_of_ne (Ne.symm same)]

namespace BluetoothProxy

variable {cfg : ProxyConfig} {p q r : BluetoothProxy} {l : ProxyLabel} {i : Nat}
  {c : BluetoothConnection}

/-- The addresses of the slots. -/
def addresses (p : BluetoothProxy) : List UInt64 := p.connections.map (·.base.address)

/-- The records agree. -/
structure Accounted (limit : UInt32) (p : BluetoothProxy) : Prop where
  told : p.connectionsFree.limit = limit
  balanced : Balanced p.addresses p.connectionsFree.allocated p.connectionsFree.free.toNat
    limit.toNat

/-- If the records agree in `p`, they agree in `q`. -/
def Accounts (p q : BluetoothProxy) : Prop := ∀ limit, p.Accounted limit → q.Accounted limit

theorem Accounts.refl : Accounts p p := fun _ => id

theorem Accounts.trans (left : Accounts p q) (right : Accounts q r) : Accounts p r :=
  fun limit => right limit ∘ left limit

/-- Nothing happened to the records. -/
theorem Accounts.of_same (addresses : q.addresses = p.addresses)
    (ledger : q.connectionsFree = p.connectionsFree) : Accounts p q := by
  intro limit accounted
  refine ⟨?_, ?_⟩
  · rw [ledger]
    exact accounted.told
  · rw [addresses, ledger]
    exact accounted.balanced

/-! ## Taking and freeing a slot -/

theorem addresses_of_here (here : p.connections[i]? = some c) :
    p.addresses[i]? = some c.base.address := by
  rw [addresses, List.getElem?_map, here]
  rfl

theorem addresses_update (here : p.connections[i]? = some c)
    (f : BluetoothConnection → BluetoothConnection) :
    (p.update i f).addresses = p.addresses.set i (f c).base.address := by
  have acts := acts_update (N := True) (P := fun _ => True) here f
  rw [addresses, acts.after, List.map_set]
  rfl

theorem setAddress_free (ledger : ConnectionsFree) {old : UInt64} (used : old ≠ 0) :
    ledger.setAddress old 0 =
      { ledger with free := ledger.free + 1, allocated := ledger.allocated.replace old 0 } := by
  rw [ConnectionsFree.setAddress, if_pos ⟨rfl, used⟩, updateAllocatedSlot_eq]

theorem setAddress_take (ledger : ConnectionsFree) {new : UInt64} (used : new ≠ 0) :
    ledger.setAddress 0 new =
      { ledger with free := ledger.free - 1, allocated := ledger.allocated.replace 0 new } := by
  rw [ConnectionsFree.setAddress, if_neg fun free => used free.1, if_pos ⟨used, rfl⟩,
    updateAllocatedSlot_eq]

theorem accounts_withConnection {f : BluetoothConnection → BluetoothProxy}
    (each : ∀ c, p.connections[i]? = some c → Accounts p (f c)) :
    Accounts p (p.withConnection i f) := by
  cases here : p.connections[i]? with
  | none =>
      rw [withConnection, here]
      exact .refl
  | some c =>
      rw [withConnection_of here]
      exact each c here

theorem accounts_update {f : BluetoothConnection → BluetoothConnection}
    (same : ∀ c, p.connections[i]? = some c → (f c).base.address = c.base.address) :
    Accounts p (p.update i f) := by
  cases here : p.connections[i]? with
  | none =>
      refine .of_same ?_ rfl
      rw [addresses, update_connections, List.modify_eq_self (List.getElem?_eq_none_iff.mp here)]
      rfl
  | some c =>
      refine .of_same ?_ rfl
      obtain ⟨inside, value⟩ := List.getElem?_eq_some_iff.mp (addresses_of_here here)
      rw [addresses_update here, same c here, ← value, List.set_getElem_self]

/-- `set_address(0)`. -/
theorem accounts_free : Accounts p (p.setAddress i 0) := by
  refine accounts_withConnection fun c here limit accounted => ?_
  by_cases free : c.base.address = 0
  · -- the slot is free already
    have ledger : p.connectionsFree.setAddress c.base.address 0 = p.connectionsFree := by
      rw [free]
      rfl
    have same : Accounts p (p.update i (·.setAddress 0)) := by
      refine accounts_update fun d there => ?_
      obtain rfl := Option.some.inj (here.symm.trans there)
      exact free.symm
    rw [ledger]
    exact same limit accounted
  · obtain ⟨room, balanced⟩ := accounted.balanced.release (addresses_of_here here) free
    have counted : (p.connectionsFree.free + 1).toNat = p.connectionsFree.free.toNat + 1 := by
      have bound := limit.toNat_lt
      rw [UInt32.toNat_add, UInt32.toNat_one]
      exact Nat.mod_eq_of_lt (by omega)
    rw [setAddress_free _ free]
    refine ⟨accounted.told, ?_⟩
    show Balanced (p.update i (·.setAddress 0)).addresses _ (p.connectionsFree.free + 1).toNat _
    rw [addresses_update here, counted]
    exact balanced

/-- A reservation. -/
theorem accounts_reserveConnection {address : UInt64} (here : p.connections[i]? = some c)
    (free : c.base.address = 0) (known : address ≠ 0) :
    Accounts p (p.reserveConnection i address) := by
  intro limit accounted
  obtain ⟨positive, balanced⟩ := accounted.balanced.reserve
    ((addresses_of_here here).trans (congrArg some free)) known
  have counted : (p.connectionsFree.free - 1).toNat = p.connectionsFree.free.toNat - 1 :=
    UInt32.toNat_sub_of_le _ _ positive
  rw [reserveConnection, withConnection_of here, free, setAddress_take _ known]
  refine ⟨accounted.told, ?_⟩
  show Balanced (p.update i (·.reserve address)).addresses _ (p.connectionsFree.free - 1).toNat _
  rw [addresses_update here, counted]
  exact balanced

/-! ## Sending -/

theorem accounts_sendMessage (m : ApiMessage) : Accounts p (p.sendMessage m) := by
  unfold sendMessage
  split <;> exact .of_same rfl rfl

theorem accounts_sendIfConnected (m : ApiMessage) : Accounts p (p.sendIfConnected m) := by
  unfold sendIfConnected
  split
  · exact .refl
  · exact accounts_sendMessage m

theorem accounts_flushPendingAdvertisements : Accounts p p.flushPendingAdvertisements := by
  unfold flushPendingAdvertisements
  split
  · exact .refl
  · exact (accounts_sendMessage _).trans (.of_same rfl rfl)

theorem accounts_sendResult {address : UInt64} {handle : UInt16} {status : Int}
    {response : ApiMessage} : Accounts p (p.sendResult address handle status response) := by
  unfold sendResult
  split
  · exact accounts_sendIfConnected _
  · split
    · exact accounts_sendMessage _
    · exact .refl

/-! ## The methods of a slot -/

theorem accounts_resetConnection {reason : Int} : Accounts p (p.resetConnection i reason) := by
  refine accounts_withConnection fun c _ => ?_
  have told : Accounts p (p.sendDeviceConnection c.base.address false 0 reason) :=
    accounts_sendIfConnected _
  have cleared := (told.trans (accounts_free (i := i))).trans (accounts_update (i := i)
    (f := fun c => { c with sendService := INIT_SENDING_SERVICES, seenServices := false })
    fun _ _ => rfl)
  exact cleared.trans (accounts_sendIfConnected _)

/-- The outcome of an event that leaves the client its device. -/
theorem accounts_applyBase {o : BLEClientBase Origin × Option Int}
    (here : p.connections[i]? = some c) (keeps : c.base.Keeps o.1) :
    Accounts p (p.applyBase i o) := by
  have stored : Accounts p (p.update i (·.withBase o.1)) := by
    refine accounts_update fun d there => ?_
    obtain rfl := Option.some.inj (here.symm.trans there)
    exact keeps.address
  unfold applyBase
  cases o.2 with
  | none => exact stored
  | some reason =>
      refine stored.trans (accounts_withConnection fun c _ => ?_)
      split
      · exact .refl
      · exact accounts_resetConnection

theorem accounts_fanOut {ev : HostGattEvent} : Accounts p (p.fanOut i ev) := by
  refine accounts_withConnection fun c _ => ?_
  cases ev with
  | servicesDiscovered mtu services =>
      have up : Accounts p (p.sendDeviceConnection c.base.address true c.base.mtu ESP_OK) :=
        accounts_sendIfConnected _
      exact up.trans (accounts_sendIfConnected _)
  | readComplete | descRead | writeComplete | descWrite | notifyRegistered =>
      exact accounts_sendResult
  | notify handle data =>
      simp only
      split
      · exact accounts_sendMessage _
      · exact .refl
  | pairingComplete success reason => exact accounts_sendIfConnected _
  | connected | disconnected | rssi | passkeyRequest | passkeyNotify | numericCompare => exact .refl

theorem accounts_dispatchEvent {now : UInt32} {x : Stamped Origin HostGattEvent} :
    Accounts p (p.dispatchEvent i now x) := by
  refine accounts_withConnection fun c here => ?_
  have noted := acts_update (N := True) (P := fun _ => True) here (·.note x)
  have same : Accounts p (p.update i (·.note x)) :=
    accounts_update fun d _ => congrArg _ (d.note_base x)
  refine (same.trans (accounts_applyBase noted.there ?_)).trans accounts_fanOut
  rw [BluetoothConnection.note_base]
  exact c.base.keeps_dispatchEvent now x.val

theorem accounts_checkConnectTimeout {now : UInt32} : Accounts p (p.checkConnectTimeout i now) :=
  accounts_withConnection fun c here =>
    accounts_applyBase here (c.base.calm_checkConnectTimeout now).toKeeps

theorem accounts_checkDisconnectTimeout {now : UInt32} :
    Accounts p (p.checkDisconnectTimeout i now) :=
  accounts_withConnection fun c here =>
    accounts_applyBase here (c.base.calm_checkDisconnectTimeout now).toKeeps

theorem accounts_streamServices : Accounts p (p.streamServices cfg i) := by
  refine accounts_withConnection fun c _ => ?_
  split
  · exact .refl
  · split
    · refine accounts_withConnection fun c _ => ?_
      split
      · have marked : Accounts p (p.update i fun c =>
            { c with sendService := DONE_SENDING_SERVICES }) := accounts_update fun _ _ => rfl
        exact (marked.trans (accounts_sendIfConnected _)).trans (accounts_update fun _ _ => rfl)
      · split
        · exact accounts_update fun _ _ => rfl
        · refine Accounts.trans ?_ (accounts_sendMessage _)
          exact accounts_update fun _ _ => rfl
    · exact .refl

/-! ## Requests -/

theorem accounts_connectConnection {address : UInt64} {type : ConnectionType} :
    Accounts p (p.connectConnection i address type) := by
  refine accounts_withConnection fun c _ => ?_
  cases c.base.state with
  | connected | established =>
      exact (accounts_sendIfConnected _).trans (accounts_sendIfConnected _)
  | connecting =>
      simp only
      split
      · exact accounts_update fun _ _ => rfl
      · exact .refl
  | init =>
      have found : Accounts p (p.update i (·.discover type)) := accounts_update fun _ _ => rfl
      exact found.trans (accounts_sendIfConnected _)
  | idle | disconnecting | discovered => exact .refl

theorem accounts_getConnection {address : UInt64} {reserve : Bool} :
    Accounts p (p.getConnection address reserve).2 := by
  unfold getConnection
  cases found : p.findConnection address reserve with
  | none => exact .refl
  | some i =>
      obtain ⟨c, here, serves⟩ := findConnection_some found
      simp only [withConnection_of here]
      split
      · exact .refl
      · rename_i other
        have free := (serves.resolve_left other).2
        exact accounts_reserveConnection here free fun zero => other (free.trans zero.symm)

theorem accounts_connectRequest {address : UInt64} {hasAddressType : Bool} {type : ConnectionType} :
    Accounts p (p.connectRequest address hasAddressType type) := by
  have got : Accounts p (p.getConnection address true).2 := accounts_getConnection
  unfold connectRequest
  split
  · rename_i q scanned
    rw [scanned] at got
    exact got.trans (accounts_sendIfConnected _)
  · rename_i i q scanned
    rw [scanned] at got
    split
    · exact got.trans accounts_connectConnection
    · exact got.trans (accounts_sendIfConnected _)

theorem accounts_disconnectRequest {now : UInt32} {address : UInt64} :
    Accounts p (p.disconnectRequest now address) := by
  unfold disconnectRequest
  split
  · exact (accounts_sendIfConnected _).trans (accounts_sendIfConnected _)
  · refine accounts_withConnection fun c _ => ?_
    split
    · exact accounts_update fun d _ => (d.base.calm_disconnect now).address
    · exact (accounts_free.trans (accounts_sendIfConnected _)).trans (accounts_sendIfConnected _)

theorem accounts_pairRequest {address : UInt64} : Accounts p (p.pairRequest address) := by
  unfold pairRequest
  split
  · exact .refl
  · rename_i i found
    refine accounts_withConnection fun c _ => ?_
    split
    · have queued : Accounts p (p.update i fun c => c.withBase c.base.pair.2) :=
        accounts_update fun _ _ => rfl
      simp only
      split
      · exact queued.trans (accounts_sendIfConnected _)
      · exact queued
    · exact accounts_sendIfConnected _

theorem accounts_unpairRequest {address : UInt64} : Accounts p (p.unpairRequest address) := by
  unfold unpairRequest
  split
  · exact accounts_sendIfConnected _
  · rename_i i found
    have queued : Accounts p (p.update i fun c => c.withBase c.base.removeBond.2) :=
      accounts_update fun _ _ => rfl
    exact queued.trans (accounts_sendIfConnected _)

theorem accounts_gattRequest {address : UInt64} {handle : UInt16}
    {op : BLEClientBase Origin → Int × BLEClientBase Origin}
    (keeps : ∀ b, (op b).2.address = b.address) :
    Accounts p (p.gattRequest address handle op) := by
  unfold gattRequest
  split
  · exact accounts_sendIfConnected _
  · rename_i i found
    refine accounts_withConnection fun c _ => ?_
    have queued : Accounts p (p.update i fun c => c.withBase (op c.base).2) :=
      accounts_update fun d _ => keeps d.base
    simp only
    split
    · exact queued.trans (accounts_sendIfConnected _)
    · exact queued

theorem accounts_bluetoothGattSendServices {address : UInt64} :
    Accounts p (p.bluetoothGattSendServices address) := by
  unfold bluetoothGattSendServices
  split
  · exact accounts_sendIfConnected _
  · refine accounts_withConnection fun c _ => ?_
    split
    · exact accounts_sendIfConnected _
    · split
      · exact accounts_sendIfConnected _
      · split
        · exact accounts_update fun _ _ => rfl
        · exact .refl

theorem accounts_bluetoothSetConnectionParams {address : UInt64} :
    Accounts p (p.bluetoothSetConnectionParams address) := by
  unfold bluetoothSetConnectionParams
  split
  · exact .refl
  · split
    · exact accounts_sendMessage _
    · refine accounts_withConnection fun c _ => ?_
      split <;> exact accounts_sendMessage _

theorem address_primitive (b : BLEClientBase Origin) (cmd : HostGattCommand) :
    (b.primitive cmd).2.address = b.address := by
  rcases b.primitive_snd cmd with same | queued
  · rw [same]
  · rw [queued]
    rfl

theorem accounts_request (now : UInt32) (r : ApiRequest) : Accounts p (p.request now r) := by
  cases r with
  | device address type hasAddressType =>
      cases type with
      | connectV3WithCache | connectV3WithoutCache => exact accounts_connectRequest
      | disconnect => exact accounts_disconnectRequest
      | pair => exact accounts_pairRequest
      | unpair => exact accounts_unpairRequest
      | clearCache => exact accounts_sendMessage _
      | connect => exact accounts_sendIfConnected _
  | gattRead | gattWrite | gattReadDescriptor | gattWriteDescriptor | gattNotify =>
      exact accounts_gattRequest fun b => address_primitive b _
  | gattGetServices => exact accounts_bluetoothGattSendServices
  | setConnectionParams => exact accounts_bluetoothSetConnectionParams

/-! ## Steps and runs -/

theorem accounts_parseDevice {serverConnected : Bool} {device : ESPBTDevice} :
    Accounts p (p.parseDevice cfg serverConnected device) := by
  unfold parseDevice
  split
  · exact .refl
  · have stored : Accounts p
        { p with advertisements := p.advertisements ++ [rawAdvertisement device] } :=
      .of_same rfl rfl
    simp only
    split
    · exact stored.trans accounts_flushPendingAdvertisements
    · exact stored

/-- What changes every slot but no address. -/
theorem accounts_map {f : BluetoothConnection → BluetoothConnection}
    (same : ∀ c, (f c).base.address = c.base.address) :
    Accounts p { p with connections := p.connections.map f } := by
  refine .of_same ?_ rfl
  simp only [addresses, List.map_map]
  exact List.map_congr_left fun c _ => same c

theorem accounts_loop {serverConnected : Bool} {now : UInt32} :
    Accounts p (p.loop serverConnected now) := by
  unfold loop
  split
  · exact .refl
  · have stamped : Accounts p { p with lastAdvertisementFlushTime := now } := .of_same rfl rfl
    simp only
    split
    · exact stamped.trans accounts_flushPendingAdvertisements
    · refine stamped.trans (accounts_map fun c => ?_)
      split
      · exact (c.base.calm_disconnect now).address
      · rfl

/-- **What a step does to the records.** -/
theorem proxyStep_accounts (step : p.proxyStep cfg l = some q) : Accounts p q := by
  cases l with
  | request r now =>
      obtain rfl := Option.some.inj step
      exact accounts_request now r
  | scannerSetMode | connectionsFree =>
      obtain rfl := Option.some.inj step
      exact .of_same rfl rfl
  | subscribe client state scanActive =>
      obtain rfl := Option.some.inj step
      unfold subscribeApiConnection
      split
      · exact .refl
      · have stored : Accounts p { p with apiConnection := some client } := .of_same rfl rfl
        exact stored.trans (accounts_sendMessage _)
  | unsubscribe client =>
      obtain rfl := Option.some.inj step
      unfold unsubscribeApiConnection
      split <;> exact .of_same rfl rfl
  | scannerState state scanActive =>
      obtain rfl := Option.some.inj step
      unfold onScannerState
      split
      · exact accounts_sendMessage _
      · exact .refl
  | advertisement serverConnected device =>
      obtain rfl := Option.some.inj step
      exact accounts_parseDevice.trans
        (accounts_map fun c => (c.base.calm_parseDevice device).address)
  | loop serverConnected now =>
      obtain rfl := Option.some.inj step
      exact accounts_loop
  | promote i now =>
      obtain ⟨c, here, found⟩ := slotStep_some step
      obtain ⟨discovered, same⟩ := Option.ite_none_right_eq_some.mp found
      obtain rfl := Option.some.inj same
      exact accounts_update fun _ _ => rfl
  | drain i =>
      obtain ⟨c, here, empty, rfl⟩ := afterDrain_some step
      exact accounts_update fun d _ => (quiet_drain d.base).address
  | dispatch i now =>
      obtain ⟨c, here, found⟩ := slotStep_some step
      split at found
      · cases found
      · rename_i x rest head
        obtain rfl := Option.some.inj found
        have popped : Accounts p (p.update i fun c => { c with drained := rest }) :=
          accounts_update fun _ _ => rfl
        exact popped.trans accounts_dispatchEvent
  | connectTimeout i now =>
      obtain ⟨c, here, empty, rfl⟩ := afterDrain_some step
      exact accounts_checkConnectTimeout
  | disconnectTimeout i now =>
      obtain ⟨c, here, empty, rfl⟩ := afterDrain_some step
      exact accounts_checkDisconnectTimeout
  | stream i =>
      obtain ⟨c, here, empty, rfl⟩ := afterDrain_some step
      exact accounts_streamServices
  | take i | post i ev | finish i | signal i ev =>
      obtain ⟨c, f, worker⟩ := worker_step rfl step
      rw [worker.moved]
      exact accounts_update fun d _ => (worker.quiet d).address

theorem accounted_setup (limit : UInt8) (adapters : List (List Char)) (scanActive : Bool) :
    Accounted limit.toUInt32 (setup limit adapters scanActive) := by
  have free : occupied (setup limit adapters scanActive).addresses = 0 := by
    refine Multiset.eq_zero_of_forall_notMem fun address mem => ?_
    obtain ⟨mem, used⟩ := mem_occupied.mp mem
    obtain ⟨c, slot, rfl⟩ := List.mem_map.mp mem
    obtain ⟨adapter, -, rfl⟩ := List.mem_map.mp slot
    exact used rfl
  refine ⟨rfl, ?_, ?_, ?_, ?_⟩
  · simp [setup, addresses]
  · simp [setup]
  · rw [free]
    exact occupied_replicate _
  · rw [free]
    rfl

theorem accounted_of_reach {limit : UInt8} {adapters : List (List Char)} {scanActive : Bool}
    (run : (proxyMachine cfg).Reach Machine.anyStep (setup limit adapters scanActive) p) :
    Accounted limit.toUInt32 p :=
  run.invariant (fun _ _ _ accounted _ step => proxyStep_accounts step _ accounted)
    (accounted_setup limit adapters scanActive)

/-- **The counter is what the slots in use leave of the limit, and `allocated` holds their
addresses**, in every state reached from `setup`. -/
theorem slots_accounted {limit : UInt8} {adapters : List (List Char)} {scanActive : Bool}
    (run : (proxyMachine cfg).Reach Machine.anyStep (setup limit adapters scanActive) p) :
    p.connectionsFree.limit = limit.toUInt32 ∧
      p.connectionsFree.free.toNat =
        limit.toNat - p.connections.countP (fun c => c.base.address ≠ 0) ∧
      p.connections.countP (fun c => c.base.address ≠ 0) ≤ limit.toNat ∧
      (p.connectionsFree.allocated.filter (· ≠ 0) : Multiset UInt64) =
        (p.connections.map (·.base.address)).filter (· ≠ 0) := by
  obtain ⟨told, size, room, record, free⟩ := accounted_of_reach run
  have counted : (occupied p.addresses).card =
      p.connections.countP fun c => c.base.address ≠ 0 := by
    rw [card_occupied, addresses, List.countP_map]
    rfl
  rw [counted, UInt8.toNat_toUInt32] at free
  exact ⟨told, by omega, by omega, record⟩

/-- Two slots of three are in use, and then the first is freed. -/
theorem slots_accounted_freed : ∃ p, (proxyMachine plainConfig).run
    (setup 3 ["hci0".toList, "hci0".toList] true) (connectBoth ++ (sessionOf deviceB).drop 2) =
      some p ∧ p.connectionsFree.free = 2 ∧ p.connectionsFree.allocated = [0, deviceA, 0] ∧
        (p.connectionsFree.allocated.filter (· ≠ 0) : Multiset UInt64) =
          (p.connections.map (·.base.address)).filter (· ≠ 0) := by
  obtain ⟨p, ran, free, allocated⟩ : ∃ p, (proxyMachine plainConfig).run
      (setup 3 ["hci0".toList, "hci0".toList] true) (connectBoth ++ (sessionOf deviceB).drop 2) =
        some p ∧ p.connectionsFree.free = 2 ∧ p.connectionsFree.allocated = [0, deviceA, 0] :=
    ⟨_, rfl, by decide, by decide⟩
  exact ⟨p, ran, free, allocated, (slots_accounted (Machine.run_reach ran)).2.2.2⟩

end BluetoothProxy

end EsphomeHost

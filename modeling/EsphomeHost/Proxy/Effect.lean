import EsphomeHost.Proxy.Machine

/-!
# What the handlers do to a slot

* `Acts N P i p c q d`: from `p` to `q` slot `i` went from `c` to `d`, no other slot changed, and
  the proxy spoke `P`.  Effects compose by `Acts.trans`, so a handler's lemma follows its text.
* `reset`, `outcome` and `dispatched`: what the methods of a slot leave of it, in closed form.
-/

namespace EsphomeHost

namespace HostGattEvent

/-- The events that `BluetoothConnection::dispatch_event_` passes on to the API client. -/
def isFannedOut : HostGattEvent → Bool
  | servicesDiscovered _ _ | readComplete _ _ _ | writeComplete _ _ | descRead _ _ _
  | descWrite _ _ | notify _ _ | notifyRegistered _ _ | pairingComplete _ _ => true
  | _ => false

def isDiscovery : HostGattEvent → Bool
  | servicesDiscovered _ _ => true
  | _ => false

/-- What an event may report on a slot that serves `address`. -/
structure Reports (ev : HostGattEvent) (address : UInt64) (m : ApiMessage) : Prop where
  fannedOut : ev.isFannedOut = true
  address : m.address? = some address
  up : m.isUp = true → ev.isDiscovery = true

end HostGattEvent

namespace BluetoothConnection

variable (c : BluetoothConnection)

/-- What `reset_connection_` leaves of a slot. -/
def reset : BluetoothConnection :=
  { c.setAddress 0 with sendService := INIT_SENDING_SERVICES, seenServices := false }

/-- What the outcome of an event leaves: an attempt that ended frees the slot of its device. -/
def outcome (o : BLEClientBase Origin × Option Int) : BluetoothConnection :=
  if o.2 ≠ none ∧ o.1.address ≠ 0 then (c.withBase o.1).reset else c.withBase o.1

/-- What the dispatch of an event leaves. -/
def dispatched (now : UInt32) (e : Stamped Origin HostGattEvent) : BluetoothConnection :=
  (c.note e).outcome (c.base.dispatchEvent now e.val)

/-- Apart from the progress of the service streaming the slots are the same. -/
structure Alike (c d : BluetoothConnection) : Prop where
  base : ∃ services, d.base = { c.base with services := services }
  drained : d.drained = c.drained
  taken : d.taken = c.taken
  pairedBy : d.pairedBy = c.pairedBy
  linkedBy : d.linkedBy = c.linkedBy

theorem alike_refl : c.Alike c := ⟨⟨c.base.services, rfl⟩, rfl, rfl, rfl, rfl⟩

/-- Freeing a slot does not touch its client's state. -/
theorem outcome_state (o : BLEClientBase Origin × Option Int) :
    (c.outcome o).base.state = o.1.state ∧
      (c.outcome o).base.wantDisconnect = o.1.wantDisconnect := by
  unfold outcome
  split <;> exact ⟨rfl, rfl⟩

@[simp] theorem withBase_base (base : BLEClientBase Origin) : (c.withBase base).base = base := rfl

@[simp] theorem note_base (e : Stamped Origin HostGattEvent) : (c.note e).base = c.base := by
  unfold note
  split <;> rfl

@[simp] theorem note_drained (e : Stamped Origin HostGattEvent) :
    (c.note e).drained = c.drained := by
  unfold note
  split <;> rfl

@[simp] theorem note_taken (e : Stamped Origin HostGattEvent) : (c.note e).taken = c.taken := by
  unfold note
  split <;> rfl

/-- An event that is passed on does not change whom the slot serves. -/
theorem dispatched_address (now : UInt32) {x : Stamped Origin HostGattEvent}
    (fannedOut : x.val.isFannedOut = true) :
    (c.dispatched now x).base.address = c.base.address := by
  obtain ⟨stamp, ev⟩ := x
  cases ev with
  | connected | disconnected | rssi | passkeyRequest | passkeyNotify | numericCompare =>
      cases fannedOut
  | _ => rfl

end BluetoothConnection

namespace BluetoothProxy

variable {p q r : BluetoothProxy} {N : Prop} {P : ApiMessage → Prop} {i : Nat}
  {c d e : BluetoothConnection}

theorem withConnection_of (here : p.connections[i]? = some c)
    (f : BluetoothConnection → BluetoothProxy) : p.withConnection i f = f c := by
  unfold withConnection
  rw [here]

/-! ## Effects on one slot -/

/-- From `p` to `q` slot `i` went from `c` to `d`, and the proxy spoke `P`. -/
structure Acts (N : Prop) (P : ApiMessage → Prop) (i : Nat) (p : BluetoothProxy)
    (c : BluetoothConnection) (q : BluetoothProxy) (d : BluetoothConnection) : Prop where
  speaks : Speaks N P p q
  before : p.connections[i]? = some c
  after : q.connections = p.connections.set i d

theorem Acts.there (acts : Acts N P i p c q d) : q.connections[i]? = some d := by
  obtain ⟨bound, -⟩ := List.getElem?_eq_some_iff.mp acts.before
  rw [acts.after, List.getElem?_set_self bound]

theorem Acts.others (acts : Acts N P i p c q d) {j : Nat} (other : i ≠ j) :
    q.connections[j]? = p.connections[j]? := by
  rw [acts.after, List.getElem?_set_ne other]

theorem Acts.trans (left : Acts N P i p c q d) (right : Acts N P i q d r e) :
    Acts N P i p c r e :=
  ⟨left.speaks.trans right.speaks, left.before, by
    rw [right.after, left.after, List.set_set]⟩

/-- A handler that leaves the slots alone. -/
theorem Acts.of_speaks (here : p.connections[i]? = some c) (speaks : Speaks N P p q)
    (same : q.connections = p.connections) : Acts N P i p c q c := by
  refine ⟨speaks, here, ?_⟩
  obtain ⟨bound, value⟩ := List.getElem?_eq_some_iff.mp here
  rw [same, ← value, List.set_getElem_self]

theorem Acts.refl (here : p.connections[i]? = some c) : Acts N P i p c p c :=
  .of_speaks here .refl rfl

theorem acts_update (here : p.connections[i]? = some c)
    (f : BluetoothConnection → BluetoothConnection) : Acts N P i p c (p.update i f) (f c) := by
  refine ⟨speaks_update i f, here, ?_⟩
  obtain ⟨bound, -⟩ := List.getElem?_eq_some_iff.mp here
  refine List.ext_getElem? fun j => ?_
  rw [update_connections]
  by_cases same : i = j
  · subst same
    rw [List.getElem?_modify_eq, List.getElem?_set_self bound, here]
    rfl
  · rw [List.getElem?_modify_ne _ _ same, List.getElem?_set_ne same]

theorem acts_sendIfConnected (here : p.connections[i]? = some c) {m : ApiMessage}
    (holds : P m) : Acts N P i p c (p.sendIfConnected m) c :=
  .of_speaks here (speaks_sendIfConnected holds) (p.sendIfConnected_connections m)

theorem acts_setAddress (here : p.connections[i]? = some c) (address : UInt64) :
    Acts N P i p c (p.setAddress i address) (c.setAddress address) := by
  unfold setAddress
  rw [withConnection_of here]
  have updated := acts_update (N := N) (P := P) here (·.setAddress address)
  exact updated.trans (.of_speaks updated.there (.silent rfl rfl) rfl)

theorem acts_sendResult (here : p.connections[i]? = some c) {address : UInt64} {handle : UInt16}
    {status : Int} {response : ApiMessage} (error : P (.gattError address handle status))
    (ok : P response) :
    Acts N P i p c (p.sendResult address handle status response) c := by
  unfold sendResult
  split
  · exact acts_sendIfConnected here error
  · split
    · rename_i connected
      exact .of_speaks here (speaks_sendMessage (fun none => absurd none connected) ok)
        (p.sendMessage_connections response)
    · exact .refl here

/-! ## The methods of a slot -/

section Methods

variable (silent : ∀ m, m.isReport = false → P m)

include silent

theorem acts_resetConnection (here : p.connections[i]? = some c) (reason : Int) :
    Acts N P i p c (p.resetConnection i reason) c.reset := by
  unfold resetConnection
  rw [withConnection_of here]
  have told : Acts N P i p c (p.sendDeviceConnection c.base.address false 0 reason) c :=
    acts_sendIfConnected here (silent _ rfl)
  have freed := told.trans (acts_setAddress told.there 0)
  have cleared := freed.trans (acts_update freed.there fun c =>
    { c with sendService := INIT_SENDING_SERVICES, seenServices := false })
  exact cleared.trans (acts_sendIfConnected cleared.there (silent _ rfl))

theorem acts_applyBase (here : p.connections[i]? = some c)
    (o : BLEClientBase Origin × Option Int) :
    Acts N P i p c (p.applyBase i o) (c.outcome o) := by
  unfold applyBase BluetoothConnection.outcome
  have stored := acts_update (N := N) (P := P) here (·.withBase o.1)
  cases ended : o.2 with
  | none => simpa [ended] using stored
  | some reason =>
      simp only [onDisconnectComplete, withConnection_of stored.there,
        BluetoothConnection.withBase_base]
      by_cases free : o.1.address = 0
      · simpa [free] using stored
      · simpa [free] using stored.trans (acts_resetConnection silent stored.there reason)

theorem acts_fanOut (here : p.connections[i]? = some c) (ev : HostGattEvent)
    (reports : ∀ m, ev.Reports c.base.address m → P m) :
    Acts N P i p c (p.fanOut i ev) c := by
  unfold fanOut
  rw [withConnection_of here]
  cases ev with
  | servicesDiscovered mtu services =>
      have up : Acts N P i p c (p.sendDeviceConnection c.base.address true c.base.mtu ESP_OK) c :=
        acts_sendIfConnected here (reports _ ⟨rfl, rfl, fun _ => rfl⟩)
      exact up.trans (acts_sendIfConnected up.there (silent _ rfl))
  | readComplete handle status data | descRead handle status data =>
      exact acts_sendResult here (reports _ ⟨rfl, rfl, nofun⟩) (reports _ ⟨rfl, rfl, nofun⟩)
  | writeComplete handle status | descWrite handle status | notifyRegistered handle status =>
      exact acts_sendResult here (reports _ ⟨rfl, rfl, nofun⟩) (reports _ ⟨rfl, rfl, nofun⟩)
  | notify handle data =>
      simp only
      split
      · rename_i connected
        exact .of_speaks here
          (speaks_sendMessage (fun none => absurd none connected) (reports _ ⟨rfl, rfl, nofun⟩))
          (p.sendMessage_connections _)
      · exact .refl here
  | pairingComplete success reason =>
      exact acts_sendIfConnected here (reports _ ⟨rfl, rfl, nofun⟩)
  | connected | disconnected | rssi | passkeyRequest | passkeyNotify | numericCompare =>
      exact .refl here

/-- The dispatch of an event. -/
theorem acts_dispatchEvent (here : p.connections[i]? = some c) (now : UInt32)
    (x : Stamped Origin HostGattEvent)
    (reports : ∀ m, x.val.Reports c.base.address m → P m) :
    Acts N P i p c (p.dispatchEvent i now x) (c.dispatched now x) := by
  unfold dispatchEvent
  rw [withConnection_of here]
  have noted := acts_update (N := N) (P := P) here (·.note x)
  have applied := noted.trans (acts_applyBase silent noted.there (c.base.dispatchEvent now x.val))
  refine applied.trans (acts_fanOut silent applied.there x.val fun m report => reports m ?_)
  refine ⟨report.fannedOut, report.address.trans (congrArg some ?_), report.up⟩
  exact c.dispatched_address now report.fannedOut

theorem acts_checkConnectTimeout (here : p.connections[i]? = some c) (now : UInt32) :
    Acts N P i p c (p.checkConnectTimeout i now) (c.outcome (c.base.checkConnectTimeout now)) := by
  unfold checkConnectTimeout
  rw [withConnection_of here]
  exact acts_applyBase silent here _

theorem acts_checkDisconnectTimeout (here : p.connections[i]? = some c) (now : UInt32) :
    Acts N P i p c (p.checkDisconnectTimeout i now)
      (c.outcome (c.base.checkDisconnectTimeout now)) := by
  unfold checkDisconnectTimeout
  rw [withConnection_of here]
  exact acts_applyBase silent here _

theorem acts_sendServiceForDiscovery (cfg : ProxyConfig) (here : p.connections[i]? = some c) :
    ∃ d, c.Alike d ∧ Acts N P i p c (p.sendServiceForDiscovery cfg i) d := by
  unfold sendServiceForDiscovery
  rw [withConnection_of here]
  split
  · have marked := acts_update (N := N) (P := P) here fun c =>
      { c with sendService := DONE_SENDING_SERVICES }
    have told := marked.trans (acts_sendIfConnected marked.there
      (silent (.gattServicesDone c.base.address) rfl))
    have released := told.trans (acts_update told.there fun c => c.withBase c.base.releaseServices)
    refine ⟨_, ?_, released⟩
    exact ⟨⟨[], rfl⟩, rfl, rfl, rfl, rfl⟩
  · split
    · refine ⟨_, ?_, acts_update here fun c => { c with sendService := DONE_SENDING_SERVICES }⟩
      exact ⟨⟨c.base.services, rfl⟩, rfl, rfl, rfl, rfl⟩
    · rename_i client subscribed
      have advanced := acts_update (N := N) (P := P) here fun c' =>
        { c' with sendService := c'.sendService + Int16.ofNat (serviceBatch cfg
          (cfg.supportsEfficientUuids client) (c.base.services.drop c.sendService.toInt.toNat) []
            (cfg.responseSize c.base.address)).length }
      refine ⟨_, ?_, advanced.trans (.of_speaks advanced.there
        (speaks_sendMessage (fun none => ?_) (silent (.gattServices _ _) rfl))
        (sendMessage_connections _ _))⟩
      · exact ⟨⟨c.base.services, rfl⟩, rfl, rfl, rfl, rfl⟩
      · exact absurd (none.symm.trans subscribed) nofun

theorem acts_streamServices (cfg : ProxyConfig) (here : p.connections[i]? = some c) :
    ∃ d, c.Alike d ∧ Acts N P i p c (p.streamServices cfg i) d := by
  unfold streamServices
  rw [withConnection_of here]
  split
  · exact ⟨c, c.alike_refl, .refl here⟩
  · split
    · exact acts_sendServiceForDiscovery silent cfg here
    · exact ⟨c, c.alike_refl, .refl here⟩

end Methods

end BluetoothProxy

end EsphomeHost

import EsphomeHost.Proxy.Paths

/-!
# Whose event a report passes on

Events carry no address, and the pairing flag survives a reset, so a report is about the right
device only if nothing of an earlier tenancy is left in the slot.

* `Attributed`: a report is the answer to a request that names its address, or rests on an event
  that a command for that address or a signal of that device caused in the slot's current tenancy.
* `attributed_of_fresh`: every report is, in every run in which a slot is only reserved when it is
  `Vacant`, no event is passed on from a free slot and no request for address 0 finds a raised one.
* `not_attributed_paired`: the pairing of a slot's first device answers a `PAIR` of its second.
-/

namespace EsphomeHost

/-! ## Events a report can rest on -/

/-- The events passed on, and `CONNECTED`, which raises the link. -/
def HostGattEvent.counts : HostGattEvent → Bool
  | connected => true
  | ev => ev.isFannedOut

/-- The commands that may cause such an event. -/
def HostGattCommand.counts : HostGattCommand → Bool
  | disconnect | readRssi | passkeyReply _ | confirmReply _ | removeBond => false
  | _ => true

theorem HostGattEvent.counts_of_fannedOut {ev : HostGattEvent} (fannedOut : ev.isFannedOut = true) :
    ev.counts = true := by
  cases ev with
  | connected => rfl
  | _ => exact fannedOut

theorem HostGattCommand.counts_of_posts {cmd : HostGattCommand} {ev : HostGattEvent}
    (posts : cmd.posts ev = true) (counts : ev.counts = true) : cmd.counts = true := by
  cases cmd with
  | disconnect | readRssi | passkeyReply | confirmReply | removeBond =>
      cases ev <;> first | (cases posts; done) | cases counts
  | _ => rfl

namespace BluetoothConnection

variable {c d : BluetoothConnection}

/-! ## The invariant of a slot -/

/-- Everything in a slot that serves a device stems from its current tenancy. -/
structure Current (c : BluetoothConnection) : Prop where
  owner : ∀ h, c.base.host = some h → h.owner.address = c.base.address
  commands : ∀ h, c.base.host = some h → ∀ x ∈ h.commands, x.val.counts = true →
    x.stamp = c.base.stamp
  events : ∀ h, c.base.host = some h → ∀ x ∈ h.events, x.val.counts = true →
    x.stamp = c.base.stamp
  taken : ∀ x ∈ c.taken, x.val.counts = true → x.stamp = c.base.stamp
  drained : ∀ x ∈ c.drained, x.val.counts = true → x.stamp = c.base.stamp
  paired : c.base.paired = true → c.pairedBy = some c.base.stamp
  linked : c.base.Up → c.linkedBy = some c.base.stamp

structure Owned (c : BluetoothConnection) : Prop where
  stamp : c.base.stamp.address = c.base.address
  current : c.base.address ≠ 0 → c.Current

/-- Nothing a report could rest on is left in the slot, and its worker, if any, is for `address`. -/
def Vacant (c : BluetoothConnection) (address : UInt64) : Prop :=
  c.base.paired = false ∧ (∀ x ∈ c.taken, x.val.counts = false) ∧
    (∀ x ∈ c.drained, x.val.counts = false) ∧
      ∀ h ∈ c.base.host, h.owner.address = address ∧
        (∀ x ∈ h.commands, x.val.counts = false) ∧ ∀ x ∈ h.events, x.val.counts = false

instance (address : UInt64) : Decidable (c.Vacant address) :=
  inferInstanceAs (Decidable (_ ∧ (∀ _ ∈ _, _) ∧ (∀ _ ∈ _, _) ∧
    ∀ _ ∈ _, _ ∧ (∀ _ ∈ _, _) ∧ ∀ _ ∈ _, _))

theorem owned_freshConnection (adapter : List Char) :
    (BluetoothProxy.freshConnection adapter).Owned :=
  ⟨rfl, fun used => absurd rfl used⟩

/-- A slot that serves no device. -/
theorem owned_of_free (stamp : c.base.stamp.address = c.base.address) (free : c.base.address = 0) :
    c.Owned := ⟨stamp, fun used => absurd free used⟩

theorem Current.of_keeps (current : c.Current) (keeps : c.base.Keeps d.base)
    (drained : d.drained = c.drained) (taken : d.taken = c.taken)
    (paired : d.base.paired = true → d.pairedBy = some c.base.stamp)
    (linked : d.base.Up → d.linkedBy = some c.base.stamp) : d.Current := by
  obtain ⟨cmds, host⟩ := keeps.host
  refine
    { owner := ?owner
      commands := ?commands
      events := ?events
      taken := ?taken
      drained := ?drained
      paired := ?paired
      linked := ?linked }
  case owner =>
    intro h' bound
    obtain ⟨h, before, rfl⟩ := Option.map_eq_some_iff.mp (host.symm.trans bound)
    rw [keeps.address]
    exact current.owner h before
  case commands =>
    intro h' bound x mem counts
    obtain ⟨h, before, rfl⟩ := Option.map_eq_some_iff.mp (host.symm.trans bound)
    rw [keeps.stamp]
    rcases List.mem_append.mp mem with old | new
    · exact current.commands h before x old counts
    · obtain ⟨cmd, -, rfl⟩ := List.mem_map.mp new
      rfl
  case events =>
    intro h' bound
    obtain ⟨h, before, rfl⟩ := Option.map_eq_some_iff.mp (host.symm.trans bound)
    rw [keeps.stamp]
    exact current.events h before
  case taken =>
    rw [taken, keeps.stamp]
    exact current.taken
  case drained =>
    rw [drained, keeps.stamp]
    exact current.drained
  case paired =>
    rw [keeps.stamp]
    exact paired
  case linked =>
    rw [keeps.stamp]
    exact linked

theorem Owned.of_calm (owned : c.Owned) (calm : c.base.Calm d.base)
    (drained : d.drained = c.drained) (taken : d.taken = c.taken)
    (pairedBy : d.pairedBy = c.pairedBy) (linkedBy : d.linkedBy = c.linkedBy) : d.Owned := by
  refine ⟨?_, fun used => ?_⟩
  · rw [calm.stamp, calm.address]
    exact owned.stamp
  · rw [calm.address] at used
    have current := owned.current used
    refine current.of_keeps calm.toKeeps drained taken ?_ ?_
    · rw [calm.paired, pairedBy]
      exact current.paired
    · intro up
      rw [linkedBy]
      exact current.linked (calm.up up)

theorem Owned.withBase (owned : c.Owned) {base : BLEClientBase Origin}
    (calm : c.base.Calm base) : (c.withBase base).Owned :=
  owned.of_calm calm rfl rfl rfl rfl

/-- The slot after a reservation. -/
theorem Vacant.reserve {address : UInt64} (vacant : c.Vacant address) :
    (c.reserve address).Owned := by
  obtain ⟨unpaired, taken, drained, host⟩ := vacant
  have none : ∀ {counts : Bool} {α : Prop}, counts = false → counts = true → α := fun no yes => by
    rw [no] at yes
    cases yes
  refine ⟨rfl, fun _ => ⟨?_, ?_, ?_, ?_, ?_, ?_, ?_⟩⟩
  · exact fun h bound => (host h bound).1
  · exact fun h bound x mem => none ((host h bound).2.1 x mem)
  · exact fun h bound x mem => none ((host h bound).2.2 x mem)
  · exact fun x mem => none (taken x mem)
  · exact fun x mem => none (drained x mem)
  · exact none unpaired
  · exact fun up => absurd up (BLEClientBase.not_up_of_state _ rfl ⟨nofun, nofun⟩)

/-- The outcome of a call that raises and pairs nothing. -/
theorem Owned.outcome (owned : c.Owned) {o : BLEClientBase Origin × Option Int}
    (calm : c.base.Calm o.1) : (c.outcome o).Owned := by
  unfold BluetoothConnection.outcome
  split
  · exact owned_of_free rfl rfl
  · exact owned.withBase calm

theorem Owned.connect (owned : c.Owned) (now : UInt32) :
    (c.withBase (c.base.connect now)).Owned := by
  cases host : c.base.host with
  | some h =>
      exact owned.withBase (c.base.calm_connect host now)
  | none =>
      have created := c.base.connect_created host now
      refine ⟨owned.stamp, fun used => ?_⟩
      have current := owned.current used
      refine ⟨?_, ?_, ?_, current.taken, current.drained, current.paired, fun up => ?_⟩
      · intro h bound
        obtain rfl := Option.some.inj (created.symm.trans bound)
        exact owned.stamp
      · intro h bound x mem counts
        obtain rfl := Option.some.inj (created.symm.trans bound)
        rw [List.mem_singleton.mp mem]
        rfl
      · intro h bound x mem
        obtain rfl := Option.some.inj (created.symm.trans bound)
        cases mem
      · exact absurd up (c.base.not_up_connect now)

/-- The worker's accesses to the queues. -/
theorem Owned.of_host {h : BLEGattHost Origin} (owned : c.Owned) (h' : BLEGattHost Origin)
    (before : c.base.host = some h) (base : d.base = { c.base with host := some h' })
    (owner : h'.owner = h.owner) (drained : d.drained = c.drained)
    (pairedBy : d.pairedBy = c.pairedBy) (linkedBy : d.linkedBy = c.linkedBy)
    (commands : ∀ x ∈ h'.commands ++ d.taken, x ∈ h.commands ++ c.taken)
    (events : c.Current → ∀ x ∈ h'.events, x.val.counts = true → x ∈ h.events ∨
      x.stamp = c.base.stamp) : d.Owned := by
  refine ⟨by rw [base]; exact owned.stamp, fun used => ?_⟩
  rw [base] at used
  have current := owned.current used
  have queued : ∀ x ∈ h'.commands ++ d.taken, x.val.counts = true → x.stamp = c.base.stamp := by
    intro x mem
    exact (List.mem_append.mp (commands x mem)).elim (current.commands h before x)
      (current.taken x)
  refine
    { owner := ?owner
      commands := ?commands
      events := ?events
      taken := ?taken
      drained := ?drained
      paired := ?paired
      linked := ?linked }
  case owner =>
    rw [base]
    intro h'' bound
    obtain rfl := Option.some.inj bound
    rw [owner]
    exact current.owner h before
  case commands =>
    rw [base]
    intro h'' bound x mem
    obtain rfl := Option.some.inj bound
    exact queued x (List.mem_append_left _ mem)
  case events =>
    rw [base]
    intro h'' bound x mem counts
    obtain rfl := Option.some.inj bound
    exact (events current x mem counts).elim (fun old => current.events h before x old counts) id
  case taken =>
    rw [base]
    exact fun x mem => queued x (List.mem_append_right _ mem)
  case drained =>
    rw [base, drained]
    exact current.drained
  case paired =>
    rw [base, pairedBy]
    exact current.paired
  case linked =>
    rw [base, linkedBy]
    exact current.linked

theorem Owned.drain (owned : c.Owned) : c.drain.Owned := by
  unfold BluetoothConnection.drain BLEClientBase.drain
  cases host : c.base.host with
  | none =>
      refine ⟨owned.stamp, fun used => ?_⟩
      have current := owned.current used
      exact ⟨current.owner, current.commands, current.events, current.taken, nofun,
        current.paired, current.linked⟩
  | some h =>
      refine ⟨owned.stamp, fun used => ?_⟩
      have current := owned.current used
      refine ⟨?_, ?_, ?_, current.taken, current.events h host, current.paired, current.linked⟩
      · intro h' bound
        obtain rfl := Option.some.inj bound
        exact current.owner h host
      · intro h' bound
        obtain rfl := Option.some.inj bound
        exact current.commands h host
      · intro h' bound x mem
        obtain rfl := Option.some.inj bound
        cases mem

/-- An event that is not the end of an attempt leaves its outcome in the slot. -/
theorem dispatched_eq (c : BluetoothConnection) {now : UInt32} {x : Stamped Origin HostGattEvent}
    (goesOn : (c.base.dispatchEvent now x.val).2 = none) :
    c.dispatched now x = (c.note x).withBase (c.base.dispatchEvent now x.val).1 := by
  unfold dispatched BluetoothConnection.outcome
  rw [goesOn]
  exact if_neg fun ends => ends.1 rfl

theorem Owned.dispatched_of_goesOn (owned : c.Owned) {now : UInt32}
    {x : Stamped Origin HostGattEvent} (goesOn : (c.base.dispatchEvent now x.val).2 = none)
    (paired : c.base.address ≠ 0 → c.Current →
      (c.base.dispatchEvent now x.val).1.paired = true → (c.note x).pairedBy = some c.base.stamp)
    (linked : c.base.address ≠ 0 → c.Current →
      (c.base.dispatchEvent now x.val).1.Up → (c.note x).linkedBy = some c.base.stamp) :
    (c.dispatched now x).Owned := by
  have keeps := c.base.keeps_dispatchEvent now x.val
  rw [dispatched_eq c goesOn]
  refine ⟨keeps.stamp ▸ keeps.address ▸ owned.stamp, fun used => ?_⟩
  have used : c.base.address ≠ 0 := keeps.address ▸ used
  have current := owned.current used
  exact current.of_keeps keeps (c.note_drained x) (c.note_taken x) (paired used current)
    (linked used current)

/-- The dispatch of an event that, if it counts, stems from the slot's current tenancy. -/
theorem Owned.dispatched (owned : c.Owned) (now : UInt32) {x : Stamped Origin HostGattEvent}
    (mine : c.base.address ≠ 0 → x.val.counts = true → x.stamp = c.base.stamp) :
    (c.dispatched now x).Owned := by
  obtain ⟨stamp, ev⟩ := x
  cases ev with
  | connected =>
      by_cases want : c.base.wantDisconnect = true
      · refine owned.dispatched_of_goesOn ?_ ?_ fun used _ _ => congrArg some (mine used rfl) <;>
          simp only [BLEClientBase.dispatchEvent, want, if_true]
        exact fun _ current => current.paired
      · refine owned.dispatched_of_goesOn ?_ ?_ fun used _ _ => congrArg some (mine used rfl) <;>
          simp only [BLEClientBase.dispatchEvent, want]
        · rfl
        · exact fun _ current => current.paired
  | servicesDiscovered mtu services =>
      exact owned.dispatched_of_goesOn rfl (fun _ current => current.paired)
        fun used _ _ => congrArg some (mine used rfl)
  | pairingComplete success reason =>
      cases success with
      | true =>
          exact owned.dispatched_of_goesOn rfl (fun used _ _ => congrArg some (mine used rfl))
            fun _ current => current.linked
      | false =>
          refine owned.dispatched_of_goesOn rfl (fun _ _ up => ?_) fun _ current => current.linked
          cases up
  | disconnected reason =>
      exact owned.outcome (c.base.calm_disconnected now reason)
  | _ =>
      refine owned.dispatched_of_goesOn ?_ ?_ ?_
      · rfl
      · exact fun _ current => current.paired
      · exact fun _ current => current.linked

theorem Owned.pop (owned : c.Owned) {x : Stamped Origin HostGattEvent}
    {rest : List (Stamped Origin HostGattEvent)} (head : c.drained = x :: rest) :
    ({ c with drained := rest } : BluetoothConnection).Owned := by
  refine ⟨owned.stamp, fun used => ?_⟩
  have current := owned.current used
  refine ⟨current.owner, current.commands, current.events, current.taken, fun y mem => ?_,
    current.paired, current.linked⟩
  exact current.drained y (head ▸ List.mem_cons_of_mem x mem)

theorem Owned.finish (owned : c.Owned) {x : Stamped Origin HostGattCommand}
    {rest : List (Stamped Origin HostGattCommand)} (running : c.taken = x :: rest) :
    ({ c with taken := rest } : BluetoothConnection).Owned := by
  refine ⟨owned.stamp, fun used => ?_⟩
  have current := owned.current used
  refine ⟨current.owner, current.commands, current.events, fun y mem => ?_, current.drained,
    current.paired, current.linked⟩
  exact current.taken y (running ▸ List.mem_cons_of_mem x mem)

/-- The worker posts an event that, if it counts, stems from the slot's current tenancy. -/
theorem Owned.post {h : BLEGattHost Origin} (owned : c.Owned) (host : c.base.host = some h)
    {x : Stamped Origin HostGattEvent}
    (mine : c.Current → x.val.counts = true → x.stamp = c.base.stamp) : (c.post h x).Owned := by
  refine owned.of_host (h.postEvent x.stamp x.val) host rfl rfl rfl rfl rfl
    (fun _ => id) ?_
  intro current y mem counts
  rcases List.mem_append.mp mem with old | new
  · exact .inl old
  · obtain rfl := List.mem_singleton.mp new
    exact .inr (mine current counts)

end BluetoothConnection

namespace BluetoothProxy

open BluetoothConnection

variable {cfg : ProxyConfig} {p q : BluetoothProxy} {l : ProxyLabel} {i : Nat}
  {c d : BluetoothConnection}

/-! ## The condition on a step -/

/-- The slot that serves the address a request names. -/
def served (p : BluetoothProxy) : ProxyLabel → Option BluetoothConnection
  | .request r _ => (p.findConnection r.address r.reserves).bind fun i =>
      p.connections[i]?.filter (·.base.address = r.address)
  | _ => none

/-- The slot a step dispatches an event of, and the event. -/
def dispatching (p : BluetoothProxy) :
    ProxyLabel → Option (BluetoothConnection × Stamped Origin HostGattEvent)
  | .dispatch i _ => p.connections[i]?.bind fun c => c.drained.head?.map (c, ·)
  | _ => none

/-- The condition: a slot is reserved only when it is vacant, an event is passed on only from a slot
that serves a device, and a request for address 0 finds no slot that is paired or up. -/
def Fresh (p : BluetoothProxy) (l : ProxyLabel) : Prop :=
  (∀ x ∈ p.reservation l, ∀ c ∈ p.connections[x.1]?, c.Vacant x.2) ∧
    (∀ x ∈ p.dispatching l, x.2.val.isFannedOut = true → x.1.base.address ≠ 0) ∧
      ∀ c ∈ p.served l, c.base.address = 0 → c.base.paired = false ∧ ¬ c.base.Up

instance : Decidable (Fresh p l) :=
  inferInstanceAs (Decidable ((∀ _ ∈ _, ∀ _ ∈ _, _) ∧ (∀ _ ∈ _, _ → _) ∧ ∀ _ ∈ _, _ → _))

theorem owned_move (owned : c.Owned) (here : p.connections[i]? = some c) (guard : p.Fresh l)
    (move : SlotMove p l i c d) : d.Owned := by
  have reserved : ∀ address, p.reservation l = some (i, address) → (c.reserve address).Owned :=
    fun address taken => (guard.1 (i, address) taken c here).reserve
  cases move with
  | alike same =>
      obtain ⟨services, base⟩ := same.base
      refine owned.of_calm ?_ same.drained same.taken same.pairedBy same.linkedBy
      rw [base]
      exact ⟨.of_host rfl rfl rfl rfl rfl, id, rfl⟩
  | reserve taken => exact reserved _ taken
  | reserveDiscover taken type =>
      exact (reserved _ taken).withBase ⟨.of_host rfl rfl rfl rfl rfl,
        fun up => absurd up (BLEClientBase.not_up_of_state _ rfl ⟨nofun, nofun⟩), rfl⟩
  | discover _ type =>
      exact owned.withBase ⟨.of_host rfl rfl rfl rfl rfl,
        fun up => absurd up (BLEClientBase.not_up_of_state _ rfl ⟨nofun, nofun⟩), rfl⟩
  | cancel _ => exact owned.withBase c.base.calm_cancelPendingDisconnect
  | disconnect now => exact owned.withBase (c.base.calm_disconnect now)
  | free _ => exact owned_of_free rfl rfl
  | enqueue cmd => exact owned.withBase (c.base.calm_enqueue cmd)
  | parseDevice device => exact owned.withBase (c.base.calm_parseDevice device)
  | promote _ now => exact owned.connect now
  | drain _ => exact owned.drain
  | @dispatch now x rest _ head =>
      refine (owned.pop head).dispatched now fun used counts => ?_
      exact (owned.current used).drained x (head ▸ List.mem_cons_self) counts
  | connectTimeout now => exact owned.outcome (c.base.calm_checkConnectTimeout now)
  | disconnectTimeout now => exact owned.outcome (c.base.calm_checkDisconnectTimeout now)
  | @take h host waiting =>
      exact owned.of_host { h with commands := [] } host rfl rfl rfl rfl rfl
        (fun x mem => List.mem_append_left _ mem) fun _ x mem _ => .inl mem
  | @post h x rest ev host running kind =>
      refine owned.post host fun current counts => ?_
      exact current.taken x (running ▸ List.mem_cons_self)
        (HostGattCommand.counts_of_posts kind counts)
  | finish running => exact owned.finish running
  | @signal h ev host kind =>
      refine owned.post host fun current _ => ?_
      -- the worker is for the device the slot serves
      have same : h.owner.address = c.base.stamp.address :=
        (current.owner h host).trans owned.stamp.symm
      exact congrArg (Origin.mk · c.base.stamp.tenancy) same

theorem owned_step (owned : ∀ c ∈ p.connections, c.Owned) (guard : p.Fresh l)
    (step : p.proxyStep cfg l = some q) : ∀ d ∈ q.connections, d.Owned := by
  intro d mem
  obtain ⟨i, there⟩ := List.mem_iff_getElem?.mp mem
  obtain ⟨c, here, move⟩ := (proxyStep_effect cfg step).slots i d there
  exact owned_move (owned c (List.mem_of_getElem? here)) here guard move

/-! ## Reports -/

/-- A report of a step from `p` was caused by the request itself, or by an event that stems from the
tenancy of the address it names: the event dispatched now, the one that raised the link, or the one
that paired the device. -/
inductive Attributed (p : BluetoothProxy) : ProxyLabel → ApiMessage → Prop
  | refused {r now} (handle : UInt16) (error : Int) :
      Attributed p (.request r now) (.gattError r.address handle error)
  | unpaired {r now} (error : Int) :
      Attributed p (.request r now) (.devicePairing r.address false error)
  | up {r now c} (mem : c ∈ p.connections) (address : c.base.stamp.address = r.address)
      (known : r.address ≠ 0) (raised : c.linkedBy = some c.base.stamp) :
      Attributed p (.request r now) (.deviceConnection r.address true 0 ESP_OK)
  | paired {r now c} (mem : c ∈ p.connections) (address : c.base.stamp.address = r.address)
      (known : r.address ≠ 0) (completed : c.pairedBy = some c.base.stamp) :
      Attributed p (.request r now) (.devicePairing r.address true ESP_OK)
  | event {i now c x m} (here : p.connections[i]? = some c) (head : c.drained.head? = some x)
      (stamp : x.stamp = c.base.stamp) (address : m.address? = some x.stamp.address)
      (known : x.stamp.address ≠ 0) : Attributed p (.dispatch i now) m

theorem attributed_of_cause (owned : ∀ c ∈ p.connections, c.Owned) (guard : p.Fresh l)
    {m : ApiMessage} (cause : Cause p l m) : Attributed p l m := by
  cases cause with
  | refused handle error => exact .refused handle error
  | unpaired error => exact .unpaired error
  | @up r now i c found here serves up =>
      have own := owned c (List.mem_of_getElem? here)
      have used : c.base.address ≠ 0 := by
        intro free
        refine (guard.2.2 c ?_ free).2 up
        simp [served, found, here, serves]
      exact .up (List.mem_of_getElem? here) (own.stamp.trans serves) (serves ▸ used)
        ((own.current used).linked up)
  | @paired r now i c found here serves paired =>
      have own := owned c (List.mem_of_getElem? here)
      have used : c.base.address ≠ 0 := by
        intro free
        have unpaired := (guard.2.2 c (by simp [served, found, here, serves]) free).1
        rw [paired] at unpaired
        cases unpaired
      exact .paired (List.mem_of_getElem? here) (own.stamp.trans serves) (serves ▸ used)
        ((own.current used).paired paired)
  | @event i now c x rest m here head reports =>
      have own := owned c (List.mem_of_getElem? here)
      have used : c.base.address ≠ 0 :=
        guard.2.1 (c, x) (by simp [dispatching, here, head]) reports.fannedOut
      have stamp : x.stamp = c.base.stamp :=
        (own.current used).drained x (head ▸ List.mem_cons_self)
          (HostGattEvent.counts_of_fannedOut reports.fannedOut)
      have address : x.stamp.address = c.base.address := by rw [stamp, own.stamp]
      exact .event here (by rw [head]; rfl) stamp (by rw [address]; exact reports.address)
        (by rw [address]; exact used)

/-- **Every report is attributed**, in every run whose steps meet the condition. -/
theorem attributed_of_fresh (run : (proxyMachine cfg).ReachableUnder Fresh p) (guard : p.Fresh l)
    (step : (proxyMachine cfg).step p l = some q) :
    ∀ m ∈ newMessages p q, m.2.isReport = true → Attributed p l m.2 := by
  have owned : ∀ c ∈ p.connections, c.Owned := by
    refine run.invariant (I := fun p => ∀ c ∈ p.connections, c.Owned) ?_
      fun p l q owned guard step => owned_step owned guard step
    rintro p ⟨limit, adapters, scanActive, rfl⟩ c mem
    obtain ⟨adapter, -, rfl⟩ := List.mem_map.mp mem
    exact owned_freshConnection adapter
  intro m mem report
  have cause := (proxyStep_effect cfg step).speaks.newMessages m mem report
  exact attributed_of_cause owned guard cause

/-! ## Two runs -/

/-- A subscription, and a connection up to the dispatch of `CONNECTED`. -/
def raisedTo (address : UInt64) : List ProxyLabel :=
  .subscribe 7 .running true :: connectTo address ++
    [.take 0, .post 0 .connected, .post 0 (.servicesDiscovered 247 []), .finish 0, .drain 0,
      .dispatch 0 5]

theorem attributed_connected : ∃ p q, (proxyMachine plainConfig).run oneSlot (raisedTo deviceA) =
    some p ∧ (proxyMachine plainConfig).step p (.dispatch 0 6) = some q ∧
      (7, .deviceConnection deviceA true 247 ESP_OK) ∈ newMessages p q ∧
        Attributed p (.dispatch 0 6) (.deviceConnection deviceA true 247 ESP_OK) := by
  obtain ⟨p, ran, replay, guard, more⟩ : ∃ p,
      ((proxyMachine plainConfig).guarded Fresh).run oneSlot (raisedTo deviceA) = some p ∧
        (proxyMachine plainConfig).run oneSlot (raisedTo deviceA) = some p ∧
          p.Fresh (.dispatch 0 6) ∧ ((proxyMachine plainConfig).step p (.dispatch 0 6)).map
            (fun q => decide ((7, .deviceConnection deviceA true 247 ESP_OK) ∈ newMessages p q)) =
              some true := ⟨_, rfl, rfl, by decide, by decide⟩
  obtain ⟨q, step, sent⟩ := Option.map_eq_some_iff.mp more
  have mem := of_decide_eq_true sent
  exact ⟨p, q, replay, step, mem, attributed_of_fresh
    ⟨_, oneSlot_init, Machine.run_guarded_reach ran⟩ guard step _ mem rfl⟩

/-- The first device pairs and disconnects, and the slot is reserved for the second. -/
def pairedThenReused : List ProxyLabel :=
  raisedTo deviceA ++
    [.dispatch 0 6, .request (.device deviceA .pair false) 7, .take 0,
      .post 0 (.pairingComplete true 0), .finish 0, .drain 0, .dispatch 0 8,
      .request (.device deviceA .disconnect false) 10, .take 0, .signal 0 (.disconnected 0),
      .finish 0, .drain 0, .dispatch 0 20] ++ connectTo deviceB

/-- The second device is reported as paired although it never was. -/
theorem not_attributed_paired : ∃ p q, (proxyMachine plainConfig).Reachable p ∧
    (proxyMachine plainConfig).step p (.request (.device deviceB .pair false) 30) = some q ∧
      (7, .devicePairing deviceB true ESP_OK) ∈ newMessages p q ∧
        ¬ Attributed p (.request (.device deviceB .pair false) 30)
          (.devicePairing deviceB true ESP_OK) := by
  obtain ⟨p, ran, stale, more⟩ : ∃ p,
      (proxyMachine plainConfig).run oneSlot pairedThenReused = some p ∧
        (∀ c ∈ p.connections, c.pairedBy ≠ some c.base.stamp) ∧
          ((proxyMachine plainConfig).step p (.request (.device deviceB .pair false) 30)).map
            (fun q => decide ((7, .devicePairing deviceB true ESP_OK) ∈ newMessages p q)) =
              some true :=
    ⟨_, rfl, by decide, by decide⟩
  obtain ⟨q, step, sent⟩ := Option.map_eq_some_iff.mp more
  refine ⟨p, q, ⟨_, oneSlot_init, Machine.run_reach ran⟩, step, of_decide_eq_true sent, ?_⟩
  intro attributed
  cases attributed with
  | paired mem address known completed => exact stale _ mem completed

end BluetoothProxy

end EsphomeHost

import EsphomeHost.Proxy.Paths

/-!
# Which slot serves a device

`get_connection_` looks for the slot that serves an address and reserves a free one in the same
scan, so it stops at a free slot even if a later slot serves the address already.

* `address_move`: the address of a slot changes only to 0 or to the one reserved.
* `distinct_of_unshadowed`: **no two slots serve one device, and a request for a device that is
  served reaches the slot that serves it**, in every run whose steps meet `Unshadowed`.
* `not_distinct_reserved`: a slot that was freed in front of a connected one is reserved for the
  device of that one.
-/

namespace EsphomeHost

/-- The address a `CONNECT_V3` request looks for. -/
def ProxyLabel.seeks : ProxyLabel → Option UInt64
  | request r _ => if r.reserves then some r.address else none
  | _ => none

namespace BluetoothProxy

variable {cfg : ProxyConfig} {p q : BluetoothProxy} {l : ProxyLabel} {i j : Nat}
  {c d : BluetoothConnection}

/-- The condition on a step: in front of a slot that serves the device of a `CONNECT_V3` request no
slot is free. -/
def Unshadowed (p : BluetoothProxy) (l : ProxyLabel) : Prop :=
  ∀ address ∈ l.seeks, address ≠ 0 →
    p.connections.Pairwise fun (d c : BluetoothConnection) =>
      c.base.address = address → d.base.address ≠ 0

instance : Decidable (Unshadowed p l) :=
  @Option.decidableForallMem _ _ (fun _ => inferInstanceAs (Decidable (_ → _))) l.seeks

/-- No two slots serve one device. -/
def Distinct (p : BluetoothProxy) : Prop :=
  ∀ (i j : Nat) (c d : BluetoothConnection), p.connections[i]? = some c →
    p.connections[j]? = some d →
    c.base.address = d.base.address → c.base.address ≠ 0 → i = j

/-! ## How addresses change -/

theorem address_outcome (o : BLEClientBase Origin × Option Int) :
    (c.outcome o).base.address = o.1.address ∨ (c.outcome o).base.address = 0 := by
  unfold BluetoothConnection.outcome
  split
  · exact .inr rfl
  · exact .inl rfl

theorem address_outcome_of_keeps {o : BLEClientBase Origin × Option Int}
    {base : BLEClientBase Origin} (keeps : base.Keeps o.1) :
    (c.outcome o).base.address = base.address ∨ (c.outcome o).base.address = 0 :=
  keeps.address ▸ address_outcome o

/-- **How the address of a slot changes** in a step labelled `l`. -/
theorem address_move (move : SlotMove p l i c d) :
    d.base.address = c.base.address ∨ d.base.address = 0 ∨
      p.reservation l = some (i, d.base.address) := by
  cases move with
  | alike same =>
      obtain ⟨services, base⟩ := same.base
      exact .inl (by rw [base])
  | reserve taken | reserveDiscover taken => exact .inr (.inr taken)
  | free => exact .inr (.inl rfl)
  | dispatch label head =>
      rcases address_outcome_of_keeps (c.base.keeps_dispatchEvent _ _) with same | freed
      · exact .inl same
      · exact .inr (.inl freed)
  | connectTimeout now =>
      have keeps := (c.base.calm_checkConnectTimeout now).toKeeps
      rcases address_outcome_of_keeps keeps with same | freed
      · exact .inl same
      · exact .inr (.inl freed)
  | disconnectTimeout now =>
      rcases address_outcome_of_keeps (c.base.calm_checkDisconnectTimeout now).toKeeps with
        same | freed
      · exact .inl same
      · exact .inr (.inl freed)
  | disconnect now => exact .inl (c.base.calm_disconnect now).address
  | parseDevice device => exact .inl (c.base.calm_parseDevice device).address
  | drain => exact .inl (quiet_drain c.base).address
  | _ => exact .inl rfl

/-! ## Where the scan stops -/

/-- What a reservation says about the scan that made it. -/
theorem reservation_some {address : UInt64} (taken : p.reservation l = some (i, address)) :
    l.seeks = some address ∧ p.findConnection address true = some i ∧
      ∃ c, p.connections[i]? = some c ∧ c.base.address = 0 ∧ address ≠ 0 := by
  unfold reservation at taken
  split at taken
  · rename_i r now
    split at taken
    · rename_i reserves
      obtain ⟨j, found, taken⟩ := Option.bind_eq_some_iff.mp taken
      split at taken
      · rename_i other
        obtain ⟨rfl, rfl⟩ := Prod.mk.inj (Option.some.inj taken)
        obtain ⟨c, here, serves⟩ := findConnection_some found
        have different : c.base.address ≠ r.address := by simpa [here] using other
        have free := (serves.resolve_left different).2
        refine ⟨if_pos reserves, found, c, here, free, ?_⟩
        rw [← free]
        exact different.symm
      · cases taken
    · cases taken
  · cases taken

/-- The slots in front of the one where the scan stops serve other devices. -/
theorem findConnection_before {address : UInt64} {reserve : Bool}
    (found : p.findConnection address reserve = some i) (before : j < i)
    (there : p.connections[j]? = some d) : d.base.address ≠ address := by
  obtain ⟨bound, -, earlier⟩ := List.findIdx?_eq_some_iff_getElem.mp found
  obtain ⟨inside, rfl⟩ := List.getElem?_eq_some_iff.mp there
  intro serves
  exact earlier j before (decide_eq_true (.inl serves))

/-- **The scan finds the slot that serves the device**, if it is the only one and, for a request
that may reserve, no slot in front of it is free. -/
theorem findConnection_of_serves {address : UInt64} {reserve : Bool} (distinct : p.Distinct)
    (here : p.connections[i]? = some c) (serves : c.base.address = address)
    (unshadowed : reserve = true → ∀ j d, j < i → p.connections[j]? = some d → d.base.address ≠ 0)
    (known : address ≠ 0) : p.findConnection address reserve = some i := by
  obtain ⟨bound, rfl⟩ := List.getElem?_eq_some_iff.mp here
  refine List.findIdx?_eq_some_iff_getElem.mpr ⟨bound, decide_eq_true (.inl serves), ?_⟩
  intro j before stops
  have there := List.getElem?_eq_getElem (before.trans bound)
  rcases of_decide_eq_true stops with other | ⟨reserves, free⟩
  · exact before.ne (distinct j i _ _ there here (other.trans serves.symm) (other ▸ known))
  · exact unshadowed reserves j _ before there free

/-! ## Steps and runs -/

/-- A slot reserved for a device is the only one that serves it. -/
theorem reserved_alone (guard : p.Unshadowed l) {address : UInt64}
    (taken : p.reservation l = some (i, address)) (there : p.connections[j]? = some d) :
    d.base.address ≠ address := by
  obtain ⟨seeks, found, c, here, free, known⟩ := reservation_some taken
  intro serves
  rcases Nat.lt_trichotomy j i with before | rfl | after
  · exact findConnection_before found before there serves
  · obtain rfl := Option.some.inj (here.symm.trans there)
    exact known (serves.symm.trans free)
  · obtain ⟨bound, rfl⟩ := List.getElem?_eq_some_iff.mp here
    obtain ⟨inside, rfl⟩ := List.getElem?_eq_some_iff.mp there
    have first := List.pairwise_iff_getElem.mp (guard address seeks known) i j bound inside after
    exact first serves free

theorem distinct_step (distinct : p.Distinct) (guard : p.Unshadowed l)
    (step : p.proxyStep cfg l = some q) : q.Distinct := by
  intro i j d e atI atJ same known
  obtain ⟨c, wasI, moveI⟩ := (proxyStep_effect cfg step).slots i d atI
  obtain ⟨c', wasJ, moveJ⟩ := (proxyStep_effect cfg step).slots j e atJ
  rcases address_move moveI with keptI | freed | takenI
  · rcases address_move moveJ with keptJ | freed | takenJ
    · refine distinct i j c c' wasI wasJ ?_ (keptI ▸ known)
      rw [← keptI, ← keptJ, same]
    · exact absurd (same.trans freed) known
    · exact absurd (keptI.symm.trans same) (reserved_alone guard takenJ wasI)
  · exact absurd freed known
  · rcases address_move moveJ with keptJ | freed | takenJ
    · exact absurd (keptJ.symm.trans same.symm) (reserved_alone guard takenI wasJ)
    · exact absurd (same.trans freed) known
    · exact congrArg Prod.fst (Option.some.inj (takenI.symm.trans takenJ))

theorem distinct_setup (limit : UInt8) (adapters : List (List Char)) (scanActive : Bool) :
    (setup limit adapters scanActive).Distinct := by
  intro i j c d atI _ _ known
  obtain ⟨adapter, -, rfl⟩ := List.mem_map.mp (List.mem_of_getElem? atI)
  exact absurd rfl known

/-- **No two slots serve one device, and a request for a device that is served reaches the slot that
serves it**, in every run whose steps meet the condition. -/
theorem distinct_of_unshadowed (run : (proxyMachine cfg).ReachableUnder Unshadowed p) :
    p.Distinct ∧ ∀ (r : ApiRequest) (now : UInt32) (i : Nat) (c : BluetoothConnection),
      p.Unshadowed (.request r now) → p.connections[i]? = some c →
        c.base.address = r.address → r.address ≠ 0 →
          p.findConnection r.address r.reserves = some i := by
  have distinct : p.Distinct := by
    refine run.invariant (I := Distinct) ?_ fun p l q distinct guard step =>
      distinct_step distinct guard step
    rintro p ⟨limit, adapters, scanActive, rfl⟩
    exact distinct_setup limit adapters scanActive
  refine ⟨distinct, fun r now i c guard here serves known => ?_⟩
  refine findConnection_of_serves distinct here serves (fun reserves j d before there => ?_) known
  obtain ⟨bound, rfl⟩ := List.getElem?_eq_some_iff.mp here
  obtain ⟨inside, rfl⟩ := List.getElem?_eq_some_iff.mp there
  have pairwise := guard r.address (by simp [ProxyLabel.seeks, reserves]) known
  exact List.pairwise_iff_getElem.mp pairwise j i inside bound before serves

/-! ## Two runs -/

/-- A proxy with two slots, after `setup`. -/
def twoSlots : BluetoothProxy := setup 2 ["hci0".toList, "hci0".toList] true

/-- The first slot serves one device and the second slot connects to another. -/
def connectBoth : List ProxyLabel :=
  connectTo deviceB ++
    [.request (.device deviceA .connectV3WithCache true) 0, .promote 1 0, .take 1,
      .post 1 .connected, .post 1 (.servicesDiscovered 247 []), .finish 1, .drain 1, .dispatch 1 5,
      .dispatch 1 5]

/-- The second device is asked for again. -/
def connectAgain : ProxyLabel := .request (.device deviceA .connectV3WithCache true) 30

theorem distinct_both : ∃ p, (proxyMachine plainConfig).run twoSlots connectBoth = some p ∧
    p.connections.map (·.base.address) = [deviceB, deviceA] ∧
      p.findConnection deviceA true = some 1 := by
  obtain ⟨p, c, ran, replay, addresses, guard, here, serves⟩ : ∃ p c,
      ((proxyMachine plainConfig).guarded Unshadowed).run twoSlots connectBoth = some p ∧
        (proxyMachine plainConfig).run twoSlots connectBoth = some p ∧
          p.connections.map (·.base.address) = [deviceB, deviceA] ∧ p.Unshadowed connectAgain ∧
            p.connections[1]? = some c ∧ c.base.address = deviceA :=
    ⟨_, _, rfl, rfl, rfl, by decide, rfl, rfl⟩
  refine ⟨p, replay, addresses, ?_⟩
  exact (distinct_of_unshadowed ⟨twoSlots, ⟨_, _, _, rfl⟩, Machine.run_guarded_reach ran⟩).2
    (.device deviceA .connectV3WithCache true) 30 1 c guard here serves (by decide)

/-- The device of the first slot disconnects, and the slot is reserved for the device that the
second one is connected to. -/
theorem not_distinct_reserved : ∃ p q, (proxyMachine plainConfig).Reachable p ∧
    p.connections.map (fun c => (c.base.address, c.base.state)) =
      [(0, .idle), (deviceA, .established)] ∧
    p.findConnection deviceA true = some 0 ∧
      (proxyMachine plainConfig).step p connectAgain = some q ∧
        (proxyMachine plainConfig).Reachable q ∧ ¬ q.Distinct := by
  obtain ⟨p, ran, q, before, found, step, addresses⟩ : ∃ p,
      (proxyMachine plainConfig).run twoSlots (connectBoth ++ (sessionOf deviceB).drop 2) = some p ∧
        ∃ q, p.connections.map (fun c => (c.base.address, c.base.state)) =
            [(0, .idle), (deviceA, .established)] ∧
          p.findConnection deviceA true = some 0 ∧
            (proxyMachine plainConfig).step p connectAgain = some q ∧
              q.connections.map (·.base.address) = [deviceA, deviceA] :=
    ⟨_, rfl, _, by decide, by decide, rfl, by decide⟩
  have reach := Machine.run_reach ran
  refine ⟨p, q, ⟨twoSlots, ⟨_, _, _, rfl⟩, reach⟩, before, found, step,
    ⟨twoSlots, ⟨_, _, _, rfl⟩, .tail reach trivial step⟩, fun distinct => ?_⟩
  obtain ⟨c, rest, slots, first, tail⟩ := List.map_eq_cons_iff.mp addresses
  obtain ⟨d, _, rfl, second, -⟩ := List.map_eq_cons_iff.mp tail
  exact absurd (distinct 0 1 c d (by simp [slots]) (by simp [slots]) (first.trans second.symm)
    (first ▸ by decide)) (by decide)

end BluetoothProxy

end EsphomeHost

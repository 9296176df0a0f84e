import EsphomeHost.Proxy.Handlers
import EsphomeHost.Proxy.Subscription

/-!
# The batch of advertisements

`parse_device` stores what it accepts in a batch of fixed size.  The batch is sent when it is full,
and by `loop`; while nobody is subscribed it waits.

* `batchMachine`: the proxy with a record of what `parse_device` accepted.
* `sameBatch_rule`: no handler touches the batch, nor sends one.
* `batch_inOrder`: **the batch has room whenever an entry is stored, and what was sent and what is
  still in the batch is what was accepted, in order**.
-/

namespace EsphomeHost

namespace BluetoothProxy

variable {cfg : ProxyConfig} {p q r : BluetoothProxy} {l : ProxyLabel}

/-- The advertisements of all messages sent. -/
def flushed (p : BluetoothProxy) : List BluetoothLERawAdvertisement :=
  p.outbox.flatMap (·.2.advertisements)

/-- What a step accepts: `parse_device` returns early without the server or a subscriber. -/
def accepted (p : BluetoothProxy) : ProxyLabel → List BluetoothLERawAdvertisement
  | .advertisement serverConnected device =>
      if serverConnected = false ∨ p.apiConnection = none then [] else [rawAdvertisement device]
  | _ => []

/-- The proxy and what it accepted so far. -/
structure Accepting where
  proxy : BluetoothProxy
  accepted : List BluetoothLERawAdvertisement
deriving DecidableEq

def batchMachine (cfg : ProxyConfig) : Machine Accepting ProxyLabel where
  init t := (proxyMachine cfg).init t.proxy ∧ t.accepted = []
  step t l := (t.proxy.proxyStep cfg l).map fun q => ⟨q, t.accepted ++ t.proxy.accepted l⟩

/-! ## Handlers -/

/-- The batch is as it was, and none was sent. -/
structure SameBatch (p q : BluetoothProxy) : Prop where
  pending : q.advertisements = p.advertisements
  flushed : q.flushed = p.flushed

theorem SameBatch.refl : SameBatch p p := ⟨rfl, rfl⟩

theorem SameBatch.trans (left : SameBatch p q) (right : SameBatch q r) : SameBatch p r :=
  ⟨right.pending.trans left.pending, right.flushed.trans left.flushed⟩

theorem sendMessage_advertisements (m : ApiMessage) :
    (p.sendMessage m).advertisements = p.advertisements := by
  unfold sendMessage
  split <;> rfl

theorem flushed_append (p : BluetoothProxy) (client : Nat) (m : ApiMessage) :
    flushed { p with outbox := p.outbox ++ [(client, m)] } = p.flushed ++ m.advertisements := by
  unfold flushed
  rw [List.flatMap_append, List.flatMap_singleton]

theorem sameBatch_sendMessage {m : ApiMessage} (other : m.advertisements = []) :
    SameBatch p (p.sendMessage m) := by
  refine ⟨sendMessage_advertisements m, ?_⟩
  unfold sendMessage
  split
  · rw [flushed_append, other, List.append_nil]
  · rfl

theorem sameBatch_rule : HandlerRule SameBatch where
  refl _ := .refl
  trans := .trans
  update _ _ _ := ⟨rfl, rfl⟩
  ledger _ _ := ⟨rfl, rfl⟩
  send _ _ plain := sameBatch_sendMessage plain.advertisements

/-- The messages of the service streaming are no batches. -/
theorem advertisements_of_streaming {m : ApiMessage} (streaming : m.isStreaming = true) :
    m.advertisements = [] := by
  cases m <;> first | rfl | cases streaming

/-! ## Steps -/

/-- `ads` were accepted: they are behind what was accepted before, and the batch has room. -/
structure Accepts (size : Nat) (ads : List BluetoothLERawAdvertisement) (p q : BluetoothProxy) :
    Prop where
  inOrder : q.flushed ++ q.advertisements = p.flushed ++ p.advertisements ++ ads
  room : p.advertisements.length < size → q.advertisements.length < size

theorem SameBatch.accepts {size : Nat} (same : SameBatch p q) : Accepts size [] p q :=
  ⟨by rw [same.pending, same.flushed, List.append_nil], fun room => same.pending ▸ room⟩

/-- A flush moves the batch to what was sent. -/
theorem flush_batch (subscribed : p.apiConnection ≠ none) :
    p.flushPendingAdvertisements.advertisements = [] ∧
      p.flushPendingAdvertisements.flushed = p.flushed ++ p.advertisements := by
  unfold flushPendingAdvertisements
  split
  · rename_i empty
    exact ⟨empty, by rw [empty, List.append_nil]⟩
  · refine ⟨rfl, ?_⟩
    cases connected : p.apiConnection with
    | none => exact absurd connected subscribed
    | some client =>
        rw [sendMessage, connected]
        exact flushed_append p client (.rawAdvertisements p.advertisements)

theorem accepts_parseDevice {serverConnected : Bool} {device : ESPBTDevice}
    (positive : 0 < cfg.advertisementBatchSize) :
    Accepts cfg.advertisementBatchSize (p.accepted (.advertisement serverConnected device)) p
      (p.parseDevice cfg serverConnected device) := by
  by_cases idle : serverConnected = false ∨ p.apiConnection = none
  · rw [accepted, parseDevice, if_pos idle, if_pos idle]
    exact SameBatch.refl.accepts
  · obtain ⟨-, subscribed⟩ := not_or.mp idle
    rw [accepted, parseDevice, if_neg idle, if_neg idle]
    dsimp only
    split
    · obtain ⟨empty, sent⟩ := flush_batch
        (p := { p with advertisements := p.advertisements ++ [rawAdvertisement device] }) subscribed
      refine ⟨?_, fun _ => ?_⟩
      · rw [empty, sent, List.append_nil, List.append_assoc]
        rfl
      · rw [empty]
        exact positive
    · rename_i room
      exact ⟨(List.append_assoc _ _ _).symm, fun _ => Nat.lt_of_not_le room⟩

theorem accepts_loop {serverConnected : Bool} {now : UInt32}
    (positive : 0 < cfg.advertisementBatchSize) :
    Accepts cfg.advertisementBatchSize [] p (p.loop serverConnected now) := by
  unfold loop
  split
  · exact SameBatch.refl.accepts
  · dsimp only
    split
    · rename_i connected
      obtain ⟨empty, sent⟩ := flush_batch
        (p := { p with lastAdvertisementFlushTime := now }) connected.2
      refine ⟨?_, fun _ => ?_⟩
      · rw [empty, sent, List.append_nil, List.append_nil]
        rfl
      · rw [empty]
        exact positive
    · exact SameBatch.accepts ⟨rfl, rfl⟩

/-- **What a step does to the batch.** -/
theorem proxyStep_accepts (positive : 0 < cfg.advertisementBatchSize)
    (step : p.proxyStep cfg l = some q) :
    Accepts cfg.advertisementBatchSize (p.accepted l) p q := by
  cases l with
  | advertisement serverConnected device =>
      obtain rfl := Option.some.inj step
      have heard : Accepts cfg.advertisementBatchSize
          (p.accepted (.advertisement serverConnected device)) p
          (p.parseDevice cfg serverConnected device) := accepts_parseDevice positive
      exact ⟨heard.inOrder, heard.room⟩
  | loop serverConnected now =>
      obtain rfl := Option.some.inj step
      exact accepts_loop positive
  | connectionsFree client =>
      obtain rfl := Option.some.inj step
      exact SameBatch.accepts ⟨rfl, (flushed_append p client _).trans (List.append_nil _)⟩
  | subscribe client state scanActive =>
      obtain rfl := Option.some.inj step
      unfold subscribeApiConnection
      split
      · exact SameBatch.refl.accepts
      · have stored : SameBatch p { p with apiConnection := some client } := ⟨rfl, rfl⟩
        exact (stored.trans (sameBatch_sendMessage rfl)).accepts
  | unsubscribe client =>
      obtain rfl := Option.some.inj step
      unfold unsubscribeApiConnection
      split
      · exact SameBatch.refl.accepts
      · exact SameBatch.accepts ⟨rfl, rfl⟩
  | request | scannerSetMode | scannerState | promote | drain | dispatch | connectTimeout
  | disconnectTimeout | stream | take | post | finish | signal =>
      refine (sameBatch_rule.step rfl (.inr fun _ _ streaming => ?_) step).accepts
      exact sameBatch_sendMessage (advertisements_of_streaming streaming)

/-! ## Runs -/

/-- **The batch has room for one more entry in every state reached, and the advertisements sent
followed by those in the batch are the accepted ones, in order.** -/
theorem batch_inOrder (positive : 0 < cfg.advertisementBatchSize) {t : Accepting}
    (reachable : (batchMachine cfg).Reachable t) :
    t.proxy.advertisements.length < cfg.advertisementBatchSize ∧
      t.proxy.flushed ++ t.proxy.advertisements = t.accepted := by
  refine reachable.invariant
    (I := fun t => t.proxy.advertisements.length < cfg.advertisementBatchSize ∧
      t.proxy.flushed ++ t.proxy.advertisements = t.accepted) ?_ ?_
  · rintro ⟨p, log⟩ ⟨⟨limit, adapters, scanActive, rfl⟩, rfl⟩
    exact ⟨positive, rfl⟩
  · rintro t l u ⟨room, inOrder⟩ - step
    obtain ⟨q, moved, rfl⟩ := Option.map_eq_some_iff.mp step
    have accepts := proxyStep_accepts positive moved
    exact ⟨accepts.room room, by rw [accepts.inOrder, inOrder]⟩

/-- An advertisement that waits while nobody is subscribed goes to the next client. -/
theorem batch_inOrder_resubscribed : ∃ t,
    (batchMachine plainConfig).run ⟨oneSlot, []⟩
      [.subscribe 7 .running true, .advertisement true {}, .unsubscribe 7,
        .advertisement true {}, .loop true 200, .subscribe 8 .running true, .loop true 400] =
      some t ∧ t.accepted.length = 1 ∧ t.proxy.advertisements = [] ∧
    t.proxy.advertisements.length < 16 ∧
    t.proxy.flushed ++ t.proxy.advertisements = t.accepted := by
  obtain ⟨t, ran, once, empty⟩ : ∃ t,
      (batchMachine plainConfig).run ⟨oneSlot, []⟩
        [.subscribe 7 .running true, .advertisement true {}, .unsubscribe 7,
          .advertisement true {}, .loop true 200, .subscribe 8 .running true, .loop true 400] =
        some t ∧ t.accepted.length = 1 ∧ t.proxy.advertisements = [] := ⟨_, rfl, rfl, rfl⟩
  exact ⟨t, ran, once, empty, batch_inOrder (by decide)
    ⟨_, ⟨oneSlot_init, rfl⟩, Machine.run_reach ran⟩⟩

end BluetoothProxy

end EsphomeHost

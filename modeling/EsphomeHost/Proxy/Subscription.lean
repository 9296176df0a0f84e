import EsphomeHost.Proxy.Moves

/-!
# The subscription pointer

`api_connection_` is null before the first subscription and after an unsubscription, and requests
are accepted from clients that never subscribed.

* `not_nullDeref_of_clearsSubscribed`: every handler but one checks the pointer, so in every run in
  which `CLEAR_CACHE` only arrives while somebody is subscribed no null pointer is dereferenced.
* `nullDeref_clearCache`: a `CLEAR_CACHE` before the first subscription dereferences it.
-/

namespace EsphomeHost

namespace BluetoothProxy

variable {cfg : ProxyConfig} {p q : BluetoothProxy} {l : ProxyLabel}

/-- The condition on a step: `CLEAR_CACHE` arrives only while somebody is subscribed. -/
def ClearsSubscribed (p : BluetoothProxy) (l : ProxyLabel) : Prop :=
  l.isClearCache = true → p.apiConnection ≠ none

instance : Decidable (ClearsSubscribed p l) := inferInstanceAs (Decidable (_ → _))

/-- Exactly the step that breaks the condition dereferences a null pointer. -/
theorem nullDeref_step_iff (safe : p.nullDeref = false) (step : p.proxyStep cfg l = some q) :
    q.nullDeref = true ↔ ¬ p.ClearsSubscribed l := by
  unfold ClearsSubscribed
  constructor
  · intro null condition
    rcases (proxyStep_effect cfg step).speaks.deref null with before | ⟨clears, unsubscribed⟩
    · rw [safe] at before
      cases before
    · exact condition clears unsubscribed
  · intro broken
    obtain ⟨clears, unsubscribed⟩ := Classical.not_imp.mp broken
    unfold ProxyLabel.isClearCache at clears
    split at clears
    · obtain rfl := Option.some.inj step
      simp only [request, bluetoothDeviceRequest, sendMessage, not_not.mp unsubscribed]
    · cases clears

/-- **No null pointer is dereferenced**, in every run whose steps meet the condition. -/
theorem not_nullDeref_of_clearsSubscribed
    (run : (proxyMachine cfg).ReachableUnder ClearsSubscribed p) : p.nullDeref = false := by
  refine run.invariant (I := fun p => p.nullDeref = false) ?_ fun p l q safe guard step => ?_
  · rintro p ⟨limit, adapters, scanActive, rfl⟩
    rfl
  · exact Bool.eq_false_of_not_eq_true fun null =>
      (nullDeref_step_iff safe step).mp null guard

/-! ## Two runs -/

/-- Sizes of the generated messages, for the examples: every message counts one byte. -/
def plainConfig : ProxyConfig where
  advertisementBatchSize := 16
  responseSize _ := 1
  serviceSize _ := 1
  supportsEfficientUuids _ := true

/-- A proxy with one slot, after `setup`. -/
def oneSlot : BluetoothProxy := setup 1 ["hci0".toList] true

theorem oneSlot_init : (proxyMachine plainConfig).init oneSlot := ⟨_, _, _, rfl⟩

def clearCache : ProxyLabel := .request (.device 0xC0FFEE000001 .clearCache false) 0

theorem not_nullDeref_subscribed : ∃ p,
    (proxyMachine plainConfig).run oneSlot
        [.subscribe 7 .running true, clearCache, .unsubscribe 7] =
      some p ∧ p.apiConnection = none ∧ p.nullDeref = false := by
  obtain ⟨p, ran, replay, none⟩ : ∃ p,
      ((proxyMachine plainConfig).guarded ClearsSubscribed).run oneSlot
          [.subscribe 7 .running true, clearCache, .unsubscribe 7] = some p ∧
        (proxyMachine plainConfig).run oneSlot
          [.subscribe 7 .running true, clearCache, .unsubscribe 7] = some p ∧
          p.apiConnection = none := ⟨_, rfl, rfl, rfl⟩
  exact ⟨p, replay, none, not_nullDeref_of_clearsSubscribed
    ⟨_, oneSlot_init, Machine.run_guarded_reach ran⟩⟩

/-- `CLEAR_CACHE` from a client that never subscribed. -/
theorem nullDeref_clearCache :
    ∃ p, (proxyMachine plainConfig).Reachable p ∧ p.nullDeref = true := by
  have replay : ((proxyMachine plainConfig).run oneSlot [clearCache]).map (·.nullDeref) =
      some true := rfl
  obtain ⟨p, reach, null⟩ := Machine.reach_of_run replay
  exact ⟨p, ⟨_, oneSlot_init, reach⟩, null⟩

end BluetoothProxy

end EsphomeHost

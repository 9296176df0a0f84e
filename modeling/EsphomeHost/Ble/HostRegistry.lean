import EsphomeHost.Ble.HostThread

/-!
# `hosts_` over the life of its hosts

A `BLEGattHost` is entered into `hosts_` by every `connect()` and taken out by its destructor, which
removes one entry.  Hosts are addresses, so that a destroyed one may be built again.

* `Registered`: `hosts_` names no destroyed host, and a host that has connected once.
* `registered_iff_connectsOnce`: **it is so all along a run exactly if no host connects twice**.
* `not_registered_reconnected`: a host that reconnects leaves its address behind.
-/

namespace EsphomeHost

/-- `hosts_` and the objects it is about: those whose destructor has not run, whether they have
connected, and their device paths. -/
structure HostTable (κ : Type) where
  thread : BLEGattHostThread κ := {}
  live : κ → Bool := fun _ => false
  connected : κ → Bool := fun _ => false
  devicePath : κ → List Char := fun _ => []

namespace HostTable

variable {κ : Type} [DecidableEq κ]

/-- The hosts that a pass of `run_` begun now goes through. -/
def snapshot (s : HostTable κ) : List κ := s.thread.hosts

/-- `find_host_by_device_`. -/
def findHostByDevice (s : HostTable κ) : Option (List Char) → Option κ
  | none => none
  | some path => s.thread.hosts.find? fun h => s.devicePath h = path

inductive Label (κ : Type)
  | construct (host : κ) (devicePath : List Char)
  /-- `connect()`, of which `attach` is all that is about `hosts_`. -/
  | connect (host : κ)
  /-- The destructor, which detaches the host. -/
  | destroy (host : κ)
  | attachWorkerClient (client : κ)
  | detachWorkerClient (client : κ)
  /-- `run_` takes its snapshot, or an agent call looks for its host. -/
  | look

def changed (s : HostTable κ) (r : BLEGattHostThread.Request κ) : HostTable κ :=
  { s with thread := BLEGattHostThread.change r s.thread }

def step (s : HostTable κ) : Label κ → Option (HostTable κ)
  | .construct host path =>
      if s.live host then none
      else some { s with
        live := Function.update s.live host true
        devicePath := Function.update s.devicePath host path }
  | .connect host =>
      if s.live host then
        some { s.changed (.attach host) with connected := Function.update s.connected host true }
      else none
  | .destroy host =>
      if s.live host then
        some { s.changed (.detach host) with
          live := Function.update s.live host false
          connected := Function.update s.connected host false }
      else none
  | .attachWorkerClient client => some (s.changed (.attachWorkerClient client))
  | .detachWorkerClient client => some (s.changed (.detachWorkerClient client))
  | .look => some s

/-- The process before the first host is built. -/
def machine (κ : Type) [DecidableEq κ] : Machine (HostTable κ) (Label κ) where
  init s := s = {}
  step := step

/-- What the worker may rely on. -/
structure Registered (s : HostTable κ) : Prop where
  alive : ∀ h ∈ s.snapshot, s.live h = true
  found : ∀ path h, s.findHostByDevice path = some h → s.live h = true
  once : ∀ h, s.live h = true → s.connected h = true → s.snapshot.count h = 1

/-- The condition on a step: a host connects only once. -/
def ConnectsOnce (s : HostTable κ) : Label κ → Prop
  | .connect host => s.connected host = false
  | _ => True

/-- A host that has not connected is not registered. -/
structure Tidy (s : HostTable κ) : Prop where
  known : ∀ h, s.connected h = true → s.live h = true
  fresh : ∀ h, s.connected h = false → s.snapshot.count h = 0

/-! ## What a step does to `hosts_` -/

section Steps

variable {s t : HostTable κ} {host h : κ}

omit [DecidableEq κ] in
theorem mem_of_found {path : Option (List Char)} (found : s.findHostByDevice path = some h) :
    h ∈ s.snapshot := by
  cases path with
  | none => cases found
  | some path => exact List.mem_of_find?_eq_some found

/-- Whoever is found is in the list, so it is enough to look at the list. -/
theorem Registered.of_alive (alive : ∀ h ∈ s.snapshot, s.live h = true)
    (once : ∀ h, s.live h = true → s.connected h = true → s.snapshot.count h = 1) :
    Registered s :=
  ⟨alive, fun _ h found => alive h (mem_of_found found), once⟩

/-- A host is entered as often as it has connected. -/
theorem Registered.count_eq (registered : Registered s) (tidy : Tidy s) (h : κ) :
    s.snapshot.count h = if s.connected h then 1 else 0 := by
  split
  · rename_i connected
    exact registered.once h (tidy.known h connected) connected
  · rename_i unconnected
    exact tidy.fresh h (by simpa using unconnected)

theorem count_attach (s : HostTable κ) (host h : κ) :
    (s.changed (.attach host)).snapshot.count h =
      s.snapshot.count h + if host = h then 1 else 0 := by
  show (s.thread.hosts ++ [host]).count h = _
  rw [List.count_append, List.count_singleton]
  simp only [beq_iff_eq]
  rfl

theorem count_detach (s : HostTable κ) (host h : κ) :
    (s.changed (.detach host)).snapshot.count h =
      s.snapshot.count h - if host = h then 1 else 0 := by
  show (s.thread.hosts.erase host).count h = _
  rw [List.count_erase]
  simp only [beq_iff_eq]
  rfl

/-- The lists are told by how often a host is in them. -/
theorem registered_of_counts (tidy : Tidy t)
    (counts : ∀ h, t.snapshot.count h = if t.connected h then 1 else 0) : Registered t := by
  refine .of_alive (fun h mem => ?_) fun h _ connected => by rw [counts, if_pos connected]
  have entered := List.count_pos_iff.mpr mem
  rw [counts] at entered
  split at entered
  · exact tidy.known h ‹_›
  · omega

theorem tidy_of_counts (known : ∀ h, t.connected h = true → t.live h = true)
    (counts : ∀ h, t.snapshot.count h = if t.connected h then 1 else 0) : Tidy t :=
  ⟨known, fun h unconnected => by rw [counts, unconnected]; rfl⟩

/-- **A host that connects for the first time is registered once, and its destructor takes it out
again.** -/
theorem registered_step {l : Label κ} (tidy : Tidy s) (registered : Registered s)
    (guard : ConnectsOnce s l) (step : s.step l = some t) : Tidy t ∧ Registered t := by
  have counts := registered.count_eq tidy
  suffices told : (∀ h, t.connected h = true → t.live h = true) ∧
      ∀ h, t.snapshot.count h = if t.connected h then 1 else 0 by
    have tidy' := tidy_of_counts told.1 told.2
    exact ⟨tidy', registered_of_counts tidy' told.2⟩
  cases l with
  | construct host path =>
      obtain ⟨-, done⟩ := Option.ite_none_left_eq_some.mp step
      obtain rfl := Option.some.inj done
      refine ⟨fun h connected => ?_, counts⟩
      by_cases here : h = host
      · subst here
        exact Function.update_self ..
      · exact (Function.update_of_ne here ..).trans (tidy.known h connected)
  | connect host =>
      obtain ⟨live, done⟩ := Option.ite_none_right_eq_some.mp step
      obtain rfl := Option.some.inj done
      refine ⟨fun h connected => ?_, fun h => (count_attach s host h).trans ?_⟩
      · by_cases here : h = host
        · subst here
          exact live
        · exact tidy.known h ((Function.update_of_ne here ..).symm.trans connected)
      · show _ = if Function.update s.connected host true h then 1 else 0
        have first : s.connected host = false := guard
        by_cases here : host = h
        · subst here
          rw [counts, first, Function.update_self, if_pos rfl]
          rfl
        · rw [counts, if_neg here, Function.update_of_ne (Ne.symm here), Nat.add_zero]
  | destroy host =>
      obtain ⟨live, done⟩ := Option.ite_none_right_eq_some.mp step
      obtain rfl := Option.some.inj done
      refine ⟨fun h connected => ?_, fun h => (count_detach s host h).trans ?_⟩
      · have other : h ≠ host := by
          rintro rfl
          exact absurd ((Function.update_self ..).symm.trans connected) (by decide)
        have before := (Function.update_of_ne other ..).symm.trans connected
        exact (Function.update_of_ne other ..).trans (tidy.known h before)
      · show _ = if Function.update s.connected host false h then 1 else 0
        by_cases here : host = h
        · subst here
          rw [counts, if_pos rfl, Function.update_self]
          split <;> rfl
        · rw [counts, if_neg here, Function.update_of_ne (Ne.symm here), Nat.sub_zero]
  | attachWorkerClient | detachWorkerClient | look =>
      obtain rfl := Option.some.inj step
      exact ⟨tidy.known, counts⟩

/-- A host that connects again is entered a second time. -/
theorem not_registered_again {l : Label κ} (registered : Registered s)
    (again : ¬ ConnectsOnce s l) (step : s.step l = some t) : ¬ Registered t := by
  cases l with
  | connect host =>
      obtain ⟨live, done⟩ := Option.ite_none_right_eq_some.mp step
      obtain rfl := Option.some.inj done
      have connected : s.connected host = true := by simpa [ConnectsOnce] using again
      have once := registered.once host live connected
      have twice := count_attach s host host
      rw [once, if_pos rfl] at twice
      intro still
      have one := still.once host live (Function.update_self ..)
      exact absurd (twice.symm.trans one) (by decide)
  | _ => exact absurd trivial again

end Steps

/-! ## Runs -/

/-- **`hosts_` names live hosts only, and each that has connected once, all along a run in which no
host connects twice, and in no other run.** -/
theorem registered_iff_connectsOnce {s : HostTable κ} (init : (machine κ).init s)
    (ls : List (Label κ)) :
    (machine κ).Throughout Registered s ls ↔ (machine κ).Meets ConnectsOnce s ls := by
  obtain rfl : s = {} := init
  have tidy : Tidy ({} : HostTable κ) := ⟨fun _ connected => connected, fun _ _ => rfl⟩
  have start : Registered ({} : HostTable κ) := .of_alive nofun fun _ live => nomatch live
  exact Machine.throughout_iff_meets (I := Tidy)
    (fun _ _ _ tidy registered guard step => registered_step tidy registered guard step)
    (fun _ _ _ _ registered again step => not_registered_again registered again step)
    tidy start ls

/-- Two hosts connect, and one of them is destroyed. -/
def connectedOnce : List (Label Nat) :=
  [.construct 0 "/a".toList, .construct 1 "/b".toList, .connect 0, .connect 1, .look, .destroy 0,
    .look]

theorem registered_once :
    (machine Nat).Throughout Registered {} connectedOnce ∧
      (machine Nat).Meets ConnectsOnce {} connectedOnce := by
  have meets : (machine Nat).Meets ConnectsOnce {} connectedOnce := by
    simp [Machine.Meets, machine, step, connectedOnce, ConnectsOnce]
  exact ⟨(registered_iff_connectsOnce rfl _).mpr meets, meets⟩

/-- A host connects, connects again after its link was lost, and is destroyed: the next pass of the
worker and the next agent call reach it. -/
theorem not_registered_reconnected : ∃ s,
    (machine Nat).run {} [.construct 0 "/a".toList, .connect 0, .connect 0, .destroy 0] = some s ∧
      s.live 0 = false ∧ s.snapshot = [0] ∧ s.findHostByDevice (some "/a".toList) = some 0 ∧
        ¬ Registered s := by
  refine ⟨_, rfl, rfl, rfl, rfl, fun registered => ?_⟩
  exact absurd (registered.alive 0 List.mem_cons_self) (by decide)

end HostTable

end EsphomeHost

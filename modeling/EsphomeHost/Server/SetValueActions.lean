import EsphomeHost.Lib.Keyed
import EsphomeHost.Server.DescriptorValue

/-!
# Set-value actions of characteristics

A play of `BLECharacteristicSetValueAction` sets the value, and leaves what computes it behind in
two places: the `on_read` callback of the characteristic, for the reads to come, and a list of
listeners, one for a characteristic, for the notifications.  A play on a characteristic that has a
listener already does nothing.

* `set_perm`: the list of listeners takes a new one in the place of the old, but for the early exit.
* `serves_iff_same`: **reads and notifications give what the last play computes as long as every
  play on a characteristic computes the same as the one before; and after any other play some read
  gives something else**.
* `not_serves_second`: two plays on one characteristic.
-/

namespace EsphomeHost

variable {κ ω : Type} [DecidableEq κ]

/-! ## The functions of the source -/

/-- What a play captures: the characteristic of the action, and its buffer with the arguments of the
play. -/
structure Closure (κ ω : Type) where
  parent : κ
  buffer : ω → List UInt8

structure ListenerEntry (κ ω : Type) where
  characteristic : κ
  preNotifyListener : Closure κ ω

/-- A characteristic; `exported` is `gatt_server_ != nullptr`. -/
structure ServedChar (κ ω : Type) where
  value : List UInt8 := []
  onRead : Option (Closure κ ω) := none
  exported : Bool := true

structure SetValueAction (κ ω α : Type) where
  parent : κ
  buffer : TemplatableValue ω α

/-- `[this, x...]`. -/
def SetValueAction.capture {α : Type} (a : SetValueAction κ ω α) (x : α) : Closure κ ω :=
  ⟨a.parent, a.buffer.eval x⟩

namespace ListenerEntry

variable (listeners : List (ListenerEntry κ ω))

/-- `find_listener_`. -/
def find (c : κ) : Option (ListenerEntry κ ω) :=
  listeners.find? fun e => decide (e.characteristic = c)

/-- `remove_listener_`. -/
def remove (c : κ) : List (ListenerEntry κ ω) := Keyed.swapRemove characteristic c listeners

/-- `set_listener`. -/
def set (c : κ) (listener : Closure κ ω) : List (ListenerEntry κ ω) :=
  (if (find listeners c).isSome then remove listeners c else listeners) ++ [⟨c, listener⟩]

end ListenerEntry

/-- The characteristics, the manager's listeners, and what the lambdas read.  `last` is the play of
each characteristic that was the last, whatever came of it. -/
structure SetValueState (κ ω : Type) where
  chr : κ → ServedChar κ ω := fun _ => {}
  listeners : List (ListenerEntry κ ω) := []
  world : ω
  last : κ → Option (Closure κ ω) := fun _ => none

namespace SetValueState

variable (s : SetValueState κ ω)

def setValue (c : κ) (value : List UInt8) : SetValueState κ ω :=
  { s with chr := Function.update s.chr c { s.chr c with value := value } }

/-- A call of a closure. -/
def call (f : Closure κ ω) : SetValueState κ ω := s.setValue f.parent (f.buffer s.world)

/-- The body of `play`, for what it captures. -/
def play (f : Closure κ ω) : SetValueState κ ω :=
  if (ListenerEntry.find s.listeners f.parent).isSome then s
  else
    let s := s.call f
    { s with
      chr := Function.update s.chr f.parent { s.chr f.parent with onRead := some f }
      listeners := ListenerEntry.set s.listeners f.parent f }

/-- `host_on_read`, and `chr_read_value_` from there. -/
def readValue (c : κ) (offset : UInt16) : GattReply × SetValueState κ ω :=
  let s := match (s.chr c).onRead with
    | none => s
    | some f => s.call f
  (readSlice offset (s.chr c).value, s)

/-- `emit_pre_notify`. -/
def emitPreNotify (c : κ) : SetValueState κ ω :=
  match ListenerEntry.find s.listeners c with
  | none => s
  | some e => s.call e.preNotifyListener

/-- `play` of a notify action: what goes to `notify_characteristic`, if anything does. -/
def notify (c : κ) : Option (List UInt8) × SetValueState κ ω :=
  let s := s.emitPreNotify c
  (if (s.chr c).exported then some (s.chr c).value else none, s)

/-- What happens: a play of an action, a read, a play of a notify action; and the world goes on. -/
inductive Label (κ ω : Type) {ι : Type} (Args : ι → Type)
  | play (i : ι) (x : Args i)
  | readValue (c : κ) (offset : UInt16)
  | notify (c : κ)
  | world (w : ω)

variable {ι : Type} {Args : ι → Type} (actions : ∀ i, SetValueAction κ ω (Args i))

def after : Label κ ω Args → SetValueState κ ω
  | .play i x =>
      let f := (actions i).capture x
      { s.play f with last := Function.update s.last f.parent (some f) }
  | .readValue c offset => (s.readValue c offset).2
  | .notify c => (s.notify c).2
  | .world w => { s with world := w }

/-- Characteristics on which no action has been played. -/
def machine : Machine (SetValueState κ ω) (Label κ ω Args) where
  init s := s.listeners = [] ∧ (∀ c, (s.chr c).onRead = none) ∧ ∀ c, s.last c = none
  step s l := some (s.after actions l)

/-! ## The property and the condition -/

/-- A read or a notification of a characteristic gives what the last play on it computes. -/
def Serves : Prop :=
  ∀ c, ∀ f ∈ s.last c,
    (∀ offset, (s.readValue c offset).1 = readSlice offset (f.buffer s.world)) ∧
      (s.notify c).1 = if (s.chr c).exported then some (f.buffer s.world) else none

/-- A play computes the same as the one before it on the same characteristic, if there is one. -/
def Same : Label κ ω Args → Prop
  | .play i x => ∀ f ∈ s.last (actions i).parent, f.buffer = ((actions i).capture x).buffer
  | _ => True

theorem readSlice_zero (value : List UInt8) : readSlice 0 value = .value value := by
  rw [readSlice_eq, show UInt16.toNat 0 = 0 from rfl, if_neg (Nat.not_lt_zero _), List.drop_zero]

/-! ## The list of listeners -/

section Listeners

variable {listeners : List (ListenerEntry κ ω)} {c c' : κ} {f : Closure κ ω}

/-- Whether or not the characteristic has a listener, what is left is the others. -/
theorem remove_perm (distinct : (listeners.map (·.characteristic)).Nodup) (c : κ) :
    (if (ListenerEntry.find listeners c).isSome then ListenerEntry.remove listeners c
      else listeners).Perm (listeners.filter fun e => !decide (e.characteristic = c)) := by
  split
  · exact Keyed.swapRemove_perm distinct c
  · rename_i missing
    rw [Option.not_isSome_iff_eq_none, ListenerEntry.find, List.find?_eq_none] at missing
    rw [List.filter_eq_self.mpr fun e mem => by simpa using missing e mem]

/-- **`set_listener` replaces the listener of its characteristic.** -/
theorem set_perm (distinct : (listeners.map (·.characteristic)).Nodup) (c : κ)
    (f : Closure κ ω) : (ListenerEntry.set listeners c f).Perm
      (⟨c, f⟩ :: listeners.filter fun e => !decide (e.characteristic = c)) :=
  (List.perm_append_singleton _ _).trans ((remove_perm distinct c).cons _)

theorem nodup_setListener (distinct : (listeners.map (·.characteristic)).Nodup) (c : κ)
    (f : Closure κ ω) : ((ListenerEntry.set listeners c f).map (·.characteristic)).Nodup := by
  refine ((set_perm distinct c f).map _).nodup_iff.mpr (List.nodup_cons.mpr ⟨fun mem => ?_, ?_⟩)
  · obtain ⟨e, kept, same⟩ := List.mem_map.mp mem
    have differs := (List.mem_filter.mp kept).2
    rw [same] at differs
    simp at differs
  · exact distinct.sublist (List.filter_sublist.map _)

theorem find_setListener_self (distinct : (listeners.map (·.characteristic)).Nodup) (c : κ)
    (f : Closure κ ω) :
    ListenerEntry.find (ListenerEntry.set listeners c f) c = some ⟨c, f⟩ := by
  rw [ListenerEntry.find, Keyed.find?_eq_some_iff (nodup_setListener distinct c f),
    (set_perm distinct c f).mem_iff]
  exact ⟨List.mem_cons_self, rfl⟩

theorem find_setListener_of_ne (distinct : (listeners.map (·.characteristic)).Nodup)
    (other : c' ≠ c) (f : Closure κ ω) :
    ListenerEntry.find (ListenerEntry.set listeners c f) c' =
      ListenerEntry.find listeners c' := by
  apply Option.ext
  intro e
  rw [ListenerEntry.find, ListenerEntry.find,
    Keyed.find?_eq_some_iff (nodup_setListener distinct c f), Keyed.find?_eq_some_iff distinct,
    (set_perm distinct c f).mem_iff, List.mem_cons, List.mem_filter]
  constructor
  · rintro ⟨rfl | ⟨mem, -⟩, rfl⟩
    · exact absurd rfl other
    · exact ⟨mem, rfl⟩
  · rintro ⟨mem, rfl⟩
    exact ⟨.inr ⟨mem, by simpa using other⟩, rfl⟩

end Listeners

/-! ## What is kept -/

variable {s : SetValueState κ ω} {actions : ∀ i, SetValueAction κ ω (Args i)} {c : κ}
  {f g : Closure κ ω}

/-- Reads and notifications of `c` run the closure `g`, which is of `c`. -/
structure Installed (s : SetValueState κ ω) (c : κ) (g : Closure κ ω) : Prop where
  parent : g.parent = c
  onRead : (s.chr c).onRead = some g
  listener : ListenerEntry.find s.listeners c = some ⟨c, g⟩

/-- **The invariant.**  What is installed computes what the last play does. -/
structure Kept (s : SetValueState κ ω) : Prop where
  distinct : (s.listeners.map (·.characteristic)).Nodup
  fresh : ∀ c, s.last c = none → ListenerEntry.find s.listeners c = none
  played : ∀ c f, s.last c = some f → ∃ g, Installed s c g ∧ g.buffer = f.buffer

@[simp] theorem chr_setValue_self (s : SetValueState κ ω) (c : κ) (value : List UInt8) :
    (s.setValue c value).chr c = { s.chr c with value := value } := Function.update_self _ _ _

theorem chr_setValue_of_ne {c' : κ} (other : c' ≠ c) (value : List UInt8) :
    (s.setValue c value).chr c' = s.chr c' := Function.update_of_ne other _ _

theorem onRead_setValue (s : SetValueState κ ω) (c c' : κ) (value : List UInt8) :
    ((s.setValue c value).chr c').onRead = (s.chr c').onRead := by
  by_cases same : c' = c
  · rw [same, chr_setValue_self]
  · rw [chr_setValue_of_ne same]

theorem value_call (parent : g.parent = c) : ((s.call g).chr c).value = g.buffer s.world := by
  rw [call, parent, chr_setValue_self]

/-- What the record of the last plays says after one more. -/
theorem last_none {last : κ → Option (Closure κ ω)}
    (fresh : Function.update last f.parent (some f) c = none) : c ≠ f.parent ∧ last c = none := by
  by_cases here : c = f.parent
  · subst here
    rw [Function.update_self] at fresh
    cases fresh
  · rw [Function.update_of_ne here] at fresh
    exact ⟨here, fresh⟩

theorem last_some {last : κ → Option (Closure κ ω)}
    (played : Function.update last f.parent (some f) c = some g) :
    (c = f.parent ∧ g = f) ∨ (c ≠ f.parent ∧ last c = some g) := by
  by_cases here : c = f.parent
  · subst here
    rw [Function.update_self] at played
    exact .inl ⟨rfl, (Option.some.inj played).symm⟩
  · rw [Function.update_of_ne here] at played
    exact .inr ⟨here, played⟩

/-- A read runs what is installed. -/
theorem Installed.readValue (installed : Installed s c g) (offset : UInt16) :
    s.readValue c offset = (readSlice offset (g.buffer s.world), s.call g) := by
  rw [SetValueState.readValue, installed.onRead]
  dsimp only
  rw [value_call installed.parent]

theorem Installed.notify (installed : Installed s c g) :
    s.notify c = (if (s.chr c).exported then some (g.buffer s.world) else none, s.call g) := by
  have exported : ((s.call g).chr c).exported = (s.chr c).exported := by
    rw [call, installed.parent, chr_setValue_self]
  rw [SetValueState.notify, emitPreNotify, installed.listener]
  dsimp only
  rw [exported, value_call installed.parent]

theorem Kept.serves (kept : Kept s) : s.Serves := by
  intro c f last
  obtain ⟨g, installed, same⟩ := kept.played c f last
  rw [← same, installed.notify]
  exact ⟨fun offset => by rw [installed.readValue], rfl⟩

/-- Only the values and the world change. -/
theorem Kept.of_same {t : SetValueState κ ω} (kept : Kept s) (listeners : t.listeners = s.listeners)
    (last : t.last = s.last) (onRead : ∀ c, (t.chr c).onRead = (s.chr c).onRead) : Kept t := by
  refine ⟨listeners ▸ kept.distinct, fun c none => ?_, fun c f played => ?_⟩
  · rw [listeners]
    exact kept.fresh c (last ▸ none)
  · obtain ⟨g, installed, same⟩ := kept.played c f (last ▸ played)
    refine ⟨g, ⟨installed.parent, (onRead c).trans installed.onRead, ?_⟩, same⟩
    rw [listeners]
    exact installed.listener

theorem Kept.call (kept : Kept s) (g : Closure κ ω) : Kept (s.call g) :=
  kept.of_same rfl rfl fun c => onRead_setValue s g.parent c _

/-- The play of a closure that computes what is installed already. -/
theorem Kept.again (kept : Kept s) (installed : Installed s f.parent g)
    (same : g.buffer = f.buffer) :
    Kept { s.play f with last := Function.update s.last f.parent (some f) } := by
  have idle : s.play f = s := if_pos (by rw [installed.listener]; rfl)
  rw [idle]
  refine ⟨kept.distinct, fun c none => kept.fresh c (last_none none).2, fun c f' played => ?_⟩
  rcases last_some played with ⟨rfl, rfl⟩ | ⟨-, before⟩
  · exact ⟨g, ⟨installed.parent, installed.onRead, installed.listener⟩, same⟩
  · obtain ⟨g', there, same'⟩ := kept.played c f' before
    exact ⟨g', ⟨there.parent, there.onRead, there.listener⟩, same'⟩

/-- The first play on a characteristic. -/
theorem Kept.first (kept : Kept s) (fresh : s.last f.parent = none) :
    Kept { s.play f with last := Function.update s.last f.parent (some f) } := by
  have plays : s.play f = { s.call f with
      chr := Function.update (s.call f).chr f.parent
        { (s.call f).chr f.parent with onRead := some f }
      listeners := ListenerEntry.set s.listeners f.parent f } := by
    refine if_neg ?_
    rw [kept.fresh _ fresh]
    exact Bool.false_ne_true
  rw [plays]
  refine ⟨nodup_setListener kept.distinct _ _, fun c none => ?_, fun c f' played => ?_⟩
  · obtain ⟨other, before⟩ := last_none none
    exact (find_setListener_of_ne kept.distinct other f).trans (kept.fresh c before)
  · rcases last_some played with ⟨rfl, rfl⟩ | ⟨other, before⟩
    · refine ⟨f', ⟨rfl, ?_, find_setListener_self kept.distinct _ _⟩, rfl⟩
      show (Function.update (s.call f').chr f'.parent _ f'.parent).onRead = _
      rw [Function.update_self]
    · obtain ⟨g, there, same⟩ := kept.played c f' before
      refine ⟨g, ⟨there.parent, ?_, ?_⟩, same⟩
      · show (Function.update (s.call f).chr f.parent _ c).onRead = _
        rw [Function.update_of_ne other]
        exact (onRead_setValue s f.parent c _).trans there.onRead
      · exact (find_setListener_of_ne kept.distinct other f).trans there.listener

theorem kept_step {l : Label κ ω Args} (kept : Kept s) (same : s.Same actions l) :
    Kept (s.after actions l) := by
  cases l with
  | play i x =>
      cases last : s.last (actions i).parent with
      | none => exact kept.first last
      | some f =>
          obtain ⟨g, installed, buffer⟩ := kept.played _ f last
          exact kept.again installed (buffer.trans (same f last))
  | readValue c offset =>
      show Kept (s.readValue c offset).2
      rw [readValue]
      cases (s.chr c).onRead with
      | none => exact kept
      | some f => exact kept.call f
  | notify c =>
      show Kept (s.emitPreNotify c)
      rw [emitPreNotify]
      cases ListenerEntry.find s.listeners c with
      | none => exact kept
      | some e => exact kept.call _
  | world w => exact kept.of_same rfl rfl fun _ => rfl

theorem kept_init (init : (machine actions).init s) : Kept s := by
  obtain ⟨listeners, -, last⟩ := init
  refine ⟨listeners ▸ List.nodup_nil, fun c _ => listeners ▸ rfl, fun c f played => ?_⟩
  rw [last c] at played
  cases played

theorem kept_of_reachableUnder
    (reachable : (machine actions).ReachableUnder (Same · actions) s) : Kept s := by
  refine reachable.invariant (I := Kept) (fun _ => kept_init) ?_
  intro s l t kept same step
  obtain rfl := Option.some.inj step
  exact kept_step kept same

/-- Once a play computes something else, somewhere in the world a read tells the difference. -/
theorem told_apart {i : ι} {x : Args i} (kept : Kept s) (differs : ¬ s.Same actions (.play i x)) :
    ∃ w, ¬ ({ s.after actions (.play i x) with world := w } : SetValueState κ ω).Serves := by
  simp only [Same, not_forall] at differs
  obtain ⟨f, last, differs⟩ := differs
  obtain ⟨g, installed, same⟩ := kept.played _ f last
  rw [← same] at differs
  obtain ⟨w, differs⟩ := Function.ne_iff.mp differs
  refine ⟨w, fun serves => differs ?_⟩
  have idle : s.play ((actions i).capture x) = s := if_pos (by
    show (ListenerEntry.find s.listeners (actions i).parent).isSome = true
    rw [installed.listener]
    rfl)
  have now : Installed ({ s.after actions (.play i x) with world := w } : SetValueState κ ω)
      (actions i).parent g := by
    refine ⟨installed.parent, ?_, ?_⟩
    · show ((s.play _).chr _).onRead = _
      rw [idle]
      exact installed.onRead
    · show ListenerEntry.find (s.play _).listeners _ = _
      rw [idle]
      exact installed.listener
  have read := (serves (actions i).parent _ (Function.update_self _ _ _)).1 0
  rw [now.readValue, readSlice_zero, readSlice_zero] at read
  exact GattReply.value.inj read

/-- **The last play counts as long as none computes anything new.** -/
theorem serves_iff_same (reachable : (machine actions).ReachableUnder (Same · actions) s) :
    s.Serves ∧ ∀ l t, (machine actions).step s l = some t →
      (s.Same actions l ↔ ∀ u, (machine actions).Reach (Same · actions) t u → u.Serves) := by
  refine Machine.weakest_guard (fun s reached => (kept_of_reachableUnder reached).serves) ?_
    reachable
  intro s l t reached differs step
  obtain rfl := Option.some.inj step
  cases l with
  | play i x =>
      obtain ⟨w, fails⟩ := told_apart (kept_of_reachableUnder reached) differs
      exact ⟨_, .single (l := .world w) trivial rfl, fails⟩
  | readValue | notify | world => exact absurd trivial differs

/-- Two actions on one characteristic, whose buffers are the byte they are played with, once and
twice. -/
def counters : Bool → SetValueAction Unit Unit UInt8 := fun second =>
  ⟨(), .lambda fun x _ => if second then [x, x] else [x]⟩

/-- Before the first play. -/
def unplayed : SetValueState Unit Unit := { world := () }

/-- An action is played twice with the same argument. -/
theorem serves_again :
    ∃ s, (machine counters).run unplayed [.play false 1, .play false 1] = some s ∧
      (s.last ()).isSome = true ∧ s.Serves := by
  have start : (machine counters).init unplayed := ⟨rfl, fun _ => rfl, fun _ => rfl⟩
  have first : unplayed.Same counters (.play false (1 : UInt8)) := fun f played => by cases played
  have again : (unplayed.after counters (.play false (1 : UInt8))).Same counters
      (.play false (1 : UInt8)) := fun f played => by
    obtain rfl := Option.some.inj played
    rfl
  have reached : (machine counters).ReachableUnder (Same · counters)
      ((unplayed.after counters (.play false (1 : UInt8))).after counters (.play false 1)) :=
    ⟨unplayed, start, .tail (.single first rfl) again rfl⟩
  exact ⟨_, rfl, rfl, (serves_iff_same reached).1⟩

/-- The second of two plays is ignored: the read gives what the first computes. -/
theorem not_serves_second :
    ∃ s, (machine counters).run unplayed [.play false 1, .play true 2] = some s ∧
      (s.readValue () 0).1 = .value [1] ∧ (s.notify ()).1 = some [1] ∧ ¬ s.Serves := by
  refine ⟨_, rfl, rfl, rfl, fun serves => ?_⟩
  have read := (serves () _ rfl).1 0
  exact absurd read (by decide)

end SetValueState

end EsphomeHost

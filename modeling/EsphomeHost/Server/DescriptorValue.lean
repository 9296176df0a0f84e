import EsphomeHost.Lib.Machine
import EsphomeHost.Server.Values

/-!
# How long the value of a descriptor gets

A descriptor is made with a maximal length.  `set_value` looks at it, `host_on_write` does not.

* `DescriptorObject`: a descriptor, with the callback of the application and the server it is in.
* `bounded_iff_fits`: **the value stays within the maximal length, and whatever is longer is refused
  without a trace, exactly in the runs in which no central writes more than that**.
* `not_bounded_long_write`: 101 bytes written to a descriptor of 100.
-/

namespace EsphomeHost

/-! ## The functions of the source -/

/-- `TEMPLATABLE_VALUE` of a buffer: a value, or a function of the arguments of the play, which can
read what else there is. -/
inductive TemplatableValue (ω α : Type)
  | value (buffer : List UInt8)
  | lambda (f : α → ω → List UInt8)

/-- `TemplatableValue::value`. -/
def TemplatableValue.eval {ω α : Type} (x : α) (w : ω) : TemplatableValue ω α → List UInt8
  | .value buffer => buffer
  | .lambda f => f x w

/-- An `on_write` callback, of a descriptor with this value and an application in this state: the
buffers it passes to `set_value` one after another, and the application afterwards. -/
abbrev DescOnWrite (σ : Type) := List UInt8 → UInt16 → List UInt8 × σ → List (List UInt8) × σ

/-- `runs` counts the runs of the callback. -/
structure DescriptorObject (σ : Type) where
  maxLen : UInt16 := 100
  value : List UInt8 := []
  onWrite : Option (DescOnWrite σ) := none
  app : σ
  central : Central
  runs : Nat := 0

/-- `set_value_impl_`. -/
def setValueImpl (maxLen : UInt16) (value data : List UInt8) : List UInt8 :=
  if data.length > maxLen.toNat then value else data

namespace DescriptorObject

variable {σ ι : Type} {Args : ι → Type} (d : DescriptorObject σ)

def setValue (buffer : List UInt8) : DescriptorObject σ :=
  { d with value := setValueImpl d.maxLen d.value buffer }

/-- What `host_on_write` calls. -/
def callbacks : GattCallbacks σ where
  onWrite := d.onWrite.map fun onWrite data connId p =>
    let (buffers, app) := onWrite data connId p
    (buffers.foldl (setValueImpl d.maxLen) p.1, app)

/-- `desc_write_value_`. -/
def writeValue (data : List UInt8) (options : List GattOption) : DescriptorObject σ :=
  let s := (descWriteValue d.callbacks data options ⟨d.value, d.app, d.central⟩).2
  { d with
    value := s.value
    app := s.app
    central := s.central
    runs := if d.onWrite.isSome then d.runs + 1 else d.runs }

/-- What happens to a descriptor: a call of `set_value`, a play of one of its set-value actions, a
`WriteValue`; and the application goes on. -/
inductive Label (σ : Type) {ι : Type} (Args : ι → Type)
  | setValue (buffer : List UInt8)
  | play (i : ι) (x : Args i)
  | writeValue (data : List UInt8) (options : List GattOption)
  | app (app : σ)

variable (actions : ∀ i, TemplatableValue σ (Args i))

def after : Label σ Args → DescriptorObject σ
  | .setValue buffer => d.setValue buffer
  | .play i x => d.setValue ((actions i).eval x d.app)
  | .writeValue data options => d.writeValue data options
  | .app app => { d with app := app }

/-- A descriptor that has been made. -/
def machine : Machine (DescriptorObject σ) (Label σ Args) where
  init d := d.value = []
  step d l := some (d.after actions l)

/-! ## The property and the condition -/

def Bounded : Prop := d.value.length ≤ d.maxLen.toNat

/-- What a step would make the value. -/
def buffer? : Label σ Args → Option (List UInt8)
  | .setValue buffer => some buffer
  | .play i x => some ((actions i).eval x d.app)
  | .writeValue data _ => some data
  | .app _ => none

/-- What is too long leaves the value as it was, and no callback runs. -/
def Refuses (l : Label σ Args) : Prop :=
  ∀ buffer ∈ d.buffer? actions l, buffer.length > d.maxLen.toNat →
    (d.after actions l).value = d.value ∧ (d.after actions l).runs = d.runs

/-- A central does not write more than the maximal length. -/
def Fits : Label σ Args → Prop
  | .writeValue data _ => data.length ≤ d.maxLen.toNat
  | _ => True

variable {d} {actions}

theorem setValueImpl_le {maxLen : UInt16} {value data : List UInt8}
    (bounded : value.length ≤ maxLen.toNat) :
    (setValueImpl maxLen value data).length ≤ maxLen.toNat := by
  unfold setValueImpl
  split
  · exact bounded
  · rename_i fits
    exact Nat.not_lt.mp fits

theorem foldl_setValueImpl_le {maxLen : UInt16} (buffers : List (List UInt8)) {value : List UInt8}
    (bounded : value.length ≤ maxLen.toNat) :
    (buffers.foldl (setValueImpl maxLen) value).length ≤ maxLen.toNat := by
  induction buffers generalizing value with
  | nil => exact bounded
  | cons data buffers ih => exact ih (setValueImpl_le bounded)

/-- `host_on_write` stores the data; the callback can only shorten that. -/
theorem writeValue_bounded {data : List UInt8} (fits : data.length ≤ d.maxLen.toNat)
    (options : List GattOption) : (d.writeValue data options).Bounded := by
  unfold Bounded writeValue descWriteValue hostOnWrite callbacks
  cases d.onWrite with
  | none => exact fits
  | some onWrite => exact foldl_setValueImpl_le _ fits

/-- Nothing keeps a central from writing too much: the value is stored, or the callback has run. -/
theorem writeValue_stored {data : List UInt8} (long : data.length > d.maxLen.toNat)
    (options : List GattOption) (same : (d.writeValue data options).runs = d.runs) :
    ¬ (d.writeValue data options).Bounded := by
  unfold Bounded
  unfold writeValue descWriteValue hostOnWrite callbacks at *
  cases callback : d.onWrite with
  | none => exact Nat.not_le.mpr long
  | some onWrite =>
      rw [callback] at same
      exact absurd same (Nat.succ_ne_self _)

theorem setValue_refuses {buffer : List UInt8} (long : buffer.length > d.maxLen.toNat) :
    (d.setValue buffer).value = d.value := if_pos long

/-- **A descriptor keeps to its length exactly as long as every central does.** -/
theorem bounded_iff_fits (made : (machine actions).init d) (ls : List (Label σ Args)) :
    (machine actions).Throughout Bounded d ls ∧ (machine actions).Meets (Refuses · actions) d ls ↔
      (machine actions).Meets Fits d ls := by
  have start : d.Bounded := by
    show d.value.length ≤ _
    rw [show d.value = [] from made]
    exact Nat.zero_le _
  refine Machine.throughout_and_meets_iff (I := fun _ => True) ?_ ?_ trivial start ls
  · intro d l t _ bounded fits step
    obtain rfl := Option.some.inj step
    cases l with
    | setValue | play =>
        refine ⟨fun b mem long => ?_, trivial, setValueImpl_le bounded⟩
        obtain rfl := Option.some.inj mem
        exact ⟨setValue_refuses long, rfl⟩
    | writeValue data options =>
        refine ⟨fun b mem long => ?_, trivial, writeValue_bounded fits options⟩
        obtain rfl := Option.some.inj mem
        exact absurd fits (Nat.not_le.mpr long)
    | app app => exact ⟨fun b mem => absurd mem (Option.not_mem_none b), trivial, bounded⟩
  · intro d l t _ _ unfit step refuses
    obtain rfl := Option.some.inj step
    cases l with
    | writeValue data options =>
        have long : data.length > d.maxLen.toNat := Nat.not_le.mp unfit
        exact writeValue_stored long options (refuses data rfl long).2
    | setValue | play | app => exact absurd trivial unfit

/-- A descriptor without a callback. -/
def plain (maxLen : UInt16) : DescriptorObject Unit :=
  { maxLen := maxLen, app := (), central := { connected := [] } }

/-- An action that sets one byte. -/
def oneByte : Unit → TemplatableValue Unit Unit := fun _ => .value [1]

/-- A value of two bytes is set, and a central writes three. -/
theorem bounded_written :
    (machine oneByte).Throughout Bounded (plain 3) [.setValue [1, 2], .writeValue [1, 2, 3] []] ∧
      (machine oneByte).Meets Fits (plain 3) [.setValue [1, 2], .writeValue [1, 2, 3] []] := by
  have made : (machine oneByte).init (plain 3) := rfl
  have meets : (machine oneByte).Meets Fits (plain 3)
      [.setValue [1, 2], .writeValue [1, 2, 3] []] := by
    refine fun d step => ⟨trivial, fun _ _ => ⟨?_, trivial⟩⟩
    obtain rfl := Option.some.inj step
    exact Nat.le_refl 3
  exact ⟨((bounded_iff_fits made _).mpr meets).1, meets⟩

/-- A central writes 101 bytes to a descriptor of 100. -/
theorem not_bounded_long_write :
    ¬ (machine oneByte).Throughout Bounded (plain 100)
      [.writeValue (List.replicate 101 0) []] := by
  intro bounded
  have after : (List.replicate 101 (0 : UInt8)).length ≤ 100 := (bounded.2 _ rfl : Bounded _)
  rw [List.length_replicate] at after
  exact absurd after (by decide)

end DescriptorObject

end EsphomeHost

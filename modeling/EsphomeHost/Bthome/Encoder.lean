import EsphomeHost.Lib.Binary64
import EsphomeHost.Lib.LittleEndian
import EsphomeHost.Lib.StableSort

/-!
# The BTHome encoder

`build_bthome_payload` sorts the measurements by their ids and writes of each the id and a number in
as many bytes as the table says.  Values and factors are `double`s, and so is the quotient of the
two that is rounded to the number.

* `decodePayload`: the reader of such a payload, who has the same table.
* `decodePayload_build`: **what is read are the measurements with known ids in the order of a stable
  sort, each as its quotient rounded to an integer and clamped to the range of its field;
  measurements of distinct ids can be given in any order; and the numbers grow with the values**.
* `not_exact_halfway`: the exact quotient of the value and the factor may round to another integer.
-/

namespace EsphomeHost

open Binary64 LittleEndian StableSort

/-! ## The functions of the source -/

/-- `Spec`, a row of the table. -/
structure BTHomeSpec where
  id : UInt8
  size : UInt8
  isSigned : Bool
  factor : Binary64

/-- `TABLE`. -/
def bthomeTable : List BTHomeSpec :=
  let one := ofRat 1
  let hundredth := ofRat (mkRat 1 100)
  let thousandth := ofRat (mkRat 1 1000)
  [⟨0x00, 1, false, one⟩, ⟨0x01, 1, false, one⟩, ⟨0x02, 2, true, hundredth⟩,
    ⟨0x03, 2, false, hundredth⟩, ⟨0x04, 3, false, hundredth⟩, ⟨0x05, 3, false, hundredth⟩,
    ⟨0x0C, 2, false, thousandth⟩, ⟨0x12, 2, false, one⟩, ⟨0x13, 2, false, one⟩,
    ⟨0x14, 2, false, hundredth⟩, ⟨0x10, 1, false, one⟩, ⟨0x21, 1, false, one⟩,
    ⟨0x23, 1, false, one⟩]

structure BTHomeObject where
  objectId : UInt8
  value : Binary64

def BTHOME_V2_DEVICE_INFO : UInt8 := 0x40

def bthomeObjectSpec (objectId : UInt8) : Option BTHomeSpec :=
  bthomeTable.find? fun s => s.id = objectId

def IsLongLong (z : Int) : Prop := -2 ^ 63 ≤ z ∧ z < 2 ^ 63

instance (z : Int) : Decidable (IsLongLong z) := inferInstanceAs (Decidable (_ ∧ _))

/-- `std::llround`, which is whatever it is where the result is no `long long`. -/
structure LLRound where
  llround : Binary64 → Int
  exact : ∀ x, ∀ z ∈ x.toInt?, IsLongLong z → llround x = z

namespace BTHomeSpec

variable (s : BTHomeSpec)

/-- The clamping of `raw`. -/
def clamp (raw : Int) : Int :=
  if s.isSigned then
    let lo : Int := -((2 ^ (s.size.toNat * 8 - 1) : Nat) : Int)
    let hi : Int := ((2 ^ (s.size.toNat * 8 - 1) : Nat) : Int) - 1
    let raw := if raw < lo then lo else raw
    if raw > hi then hi else raw
  else
    let raw := if raw < 0 then 0 else raw
    let umax : Nat := if s.size ≥ 8 then 2 ^ 64 - 1 else 2 ^ (s.size.toNat * 8) - 1
    if raw.toNat > umax then (umax : Int) else raw

end BTHomeSpec

/-- The body of the loop, for one object. -/
def encodeObject (R : LLRound) (o : BTHomeObject) : List UInt8 :=
  match bthomeObjectSpec o.objectId with
  | none => []
  | some s =>
      let raw := s.clamp (R.llround (o.value.div s.factor))
      let u := (raw % (2 ^ 64 : Nat)).toNat
      o.objectId :: bytesLE s.size.toNat u

def buildBthomePayload (R : LLRound) (objects : List BTHomeObject) (encrypted : Bool) :
    List UInt8 :=
  let sorted := objects.mergeSort fun a b => decide (a.objectId ≤ b.objectId)
  (BTHOME_V2_DEVICE_INFO ||| if encrypted then 0x01 else 0x00) :: sorted.flatMap (encodeObject R)

/-! ## The reader -/

/-- A field of the table, read. -/
def BTHomeSpec.read (s : BTHomeSpec) (bytes : List UInt8) : Int :=
  if s.isSigned then (number bytes : Int).bmod (2 ^ (8 * s.size.toNat)) else number bytes

/-- The objects of a payload up to its very end, each with the number in its field. -/
def decodeObjects : List UInt8 → Option (List (UInt8 × Int))
  | [] => some []
  | id :: rest => (bthomeObjectSpec id).bind fun s =>
      if rest.length < s.size.toNat then none
      else (decodeObjects (rest.drop s.size.toNat)).map
        ((id, s.read (rest.take s.size.toNat)) :: ·)
termination_by bytes => bytes.length
decreasing_by simp only [List.length_drop, List.length_cons]; omega

/-- The device-info byte and the objects. -/
def decodePayload : List UInt8 → Option (UInt8 × List (UInt8 × Int))
  | [] => none
  | info :: body => (decodeObjects body).map (info, ·)

/-! ## What is to be read -/

/-- The least and the greatest number of a field. -/
def BTHomeSpec.low (s : BTHomeSpec) : Int :=
  if s.isSigned then -((2 ^ (8 * s.size.toNat - 1) : Nat) : Int) else 0

def BTHomeSpec.high (s : BTHomeSpec) : Int :=
  ((2 ^ (if s.isSigned then 8 * s.size.toNat - 1 else 8 * s.size.toNat) : Nat) : Int) - 1

/-- The nearest number of the field. -/
def BTHomeSpec.clamped (s : BTHomeSpec) (z : Int) : Int := max s.low (min s.high z)

/-- The id and the number of an object whose id is known. -/
def rawObject (o : BTHomeObject) : Option (UInt8 × Int) :=
  (bthomeObjectSpec o.objectId).bind fun s =>
    (o.value.div s.factor).toInt?.map fun z => (o.objectId, s.clamped z)

/-- The quotient of an object with a known id rounds to a 64-bit integer. -/
def Rounds (o : BTHomeObject) : Prop :=
  ∀ s ∈ bthomeObjectSpec o.objectId, ∃ z ∈ (o.value.div s.factor).toInt?, IsLongLong z

/-- Whether the id is in the table. -/
def known (o : BTHomeObject) : Bool := (bthomeObjectSpec o.objectId).isSome

/-! ## The table -/

theorem size_of_table : ∀ s ∈ bthomeTable, s.size = 1 ∨ s.size = 2 ∨ s.size = 3 := by decide

theorem factor_pos_of_table : ∀ s ∈ bthomeTable, ∃ v ∈ s.factor.toRat?, 0 < v := by decide +kernel

theorem mem_table {id : UInt8} {s : BTHomeSpec} (listed : bthomeObjectSpec id = some s) :
    s ∈ bthomeTable := List.mem_of_find?_eq_some listed

section Fields

variable {s : BTHomeSpec} (listed : s ∈ bthomeTable)
include listed

theorem clamp_eq (raw : Int) : s.clamp raw = s.clamped raw := by
  unfold BTHomeSpec.clamped
  obtain ⟨id, size, isSigned, factor⟩ := s
  rcases size_of_table _ listed with rfl | rfl | rfl <;> cases isSigned <;>
    simp [BTHomeSpec.clamp, BTHomeSpec.low, BTHomeSpec.high] <;> omega

theorem read_bytesLE {raw : Int} (low : s.low ≤ raw) (high : raw ≤ s.high) :
    s.read (bytesLE s.size.toNat (raw % (2 ^ 64 : Nat)).toNat) = raw := by
  have word : 8 * s.size.toNat ≤ 64 := by
    rcases size_of_table _ listed with same | same | same <;> rw [same] <;> decide
  rw [BTHomeSpec.read, cast_number_bytesLE word]
  unfold BTHomeSpec.low at low
  unfold BTHomeSpec.high at high
  split
  · rename_i isSigned
    rw [if_pos isSigned] at low high
    rw [Int.emod_bmod]
    have high := Int.lt_of_le_sub_one high
    rcases size_of_table _ listed with same | same | same <;> rw [same] at low high ⊢ <;>
      exact Int.bmod_eq_of_le (by simpa using low) (by simpa using high)
  · rename_i unsigned
    rw [if_neg unsigned] at low high
    exact Int.emod_eq_of_lt low (by omega)

end Fields

theorem low_le_high (s : BTHomeSpec) : s.low ≤ s.high := by
  unfold BTHomeSpec.low BTHomeSpec.high
  split
  · have positive := Nat.two_pow_pos (8 * s.size.toNat - 1)
    omega
  · have positive := Nat.two_pow_pos (8 * s.size.toNat)
    omega

/-! ## One object -/

variable {R : LLRound} {o : BTHomeObject}

/-- **One object is read back, and nothing behind it.** -/
theorem decodeObjects_encode (rounds : Rounds o) (rest : List UInt8) :
    decodeObjects (encodeObject R o ++ rest) =
      (decodeObjects rest).map ((rawObject o).toList ++ ·) := by
  unfold encodeObject rawObject
  cases spec : bthomeObjectSpec o.objectId with
  | none => exact Option.map_id.symm ▸ rfl
  | some s =>
      have listed := mem_table spec
      obtain ⟨z, quotient, fits⟩ := rounds s spec
      have raw : s.clamp (R.llround (o.value.div s.factor)) = s.clamped z := by
        rw [R.exact _ z quotient fits, clamp_eq listed]
      dsimp only
      rw [raw, List.cons_append, decodeObjects, spec, Option.bind_some, if_neg (by simp),
        List.take_left' (length_bytesLE _ _), List.drop_left' (length_bytesLE _ _),
        BTHomeSpec.clamped, read_bytesLE listed (Int.le_max_left _ _), Option.bind_some,
        Option.mem_def.mp quotient]
      · rfl
      · exact max_le (low_le_high s) (min_le_left _ _)

theorem decodeObjects_flatMap {objects : List BTHomeObject} (rounds : ∀ o ∈ objects, Rounds o) :
    decodeObjects (objects.flatMap (encodeObject R)) = some (objects.filterMap rawObject) := by
  induction objects with
  | nil => exact decodeObjects.eq_1
  | cons o objects ih =>
      rw [List.flatMap_cons, decodeObjects_encode (rounds o List.mem_cons_self),
        ih fun o mem => rounds o (List.mem_cons_of_mem _ mem), Option.map_some]
      cases raw : rawObject o with
      | none => rw [List.filterMap_cons_none raw]; rfl
      | some d => rw [List.filterMap_cons_some raw]; rfl

/-! ## Monotonicity -/

/-- The numbers grow with the values. -/
theorem rawObject_mono {o o' : BTHomeObject} (same : o.objectId = o'.objectId)
    (le : o.value ≤ o'.value) {d d' : UInt8 × Int} (raw : rawObject o = some d)
    (raw' : rawObject o' = some d') : d.2 ≤ d'.2 := by
  obtain ⟨s, spec, number⟩ := Option.bind_eq_some_iff.mp raw
  obtain ⟨s', spec', number'⟩ := Option.bind_eq_some_iff.mp raw'
  obtain rfl := Option.some.inj (spec.symm.trans (same ▸ spec'))
  obtain ⟨z, rounded, rfl⟩ := Option.map_eq_some_iff.mp number
  obtain ⟨z', rounded', rfl⟩ := Option.map_eq_some_iff.mp number'
  obtain ⟨q, quotient, rfl⟩ := Option.map_eq_some_iff.mp rounded
  obtain ⟨q', quotient', rfl⟩ := Option.map_eq_some_iff.mp rounded'
  obtain ⟨v, factor, positive⟩ := factor_pos_of_table s (mem_table spec)
  have grows : q ≤ q' := div_mono factor positive le quotient quotient'
  exact max_le_max le_rfl (min_le_min le_rfl (roundAway_mono grows))

/-! ## The payload -/

/-- The objects whose ids are known are those that are read. -/
theorem known_eq {o : BTHomeObject} (rounds : Rounds o) : known o = (rawObject o).isSome := by
  unfold known rawObject
  cases spec : bthomeObjectSpec o.objectId with
  | none => rfl
  | some s =>
      obtain ⟨z, quotient, -⟩ := rounds s spec
      rw [Option.bind_some, Option.mem_def.mp quotient]
      rfl

theorem mapM_rawObject {objects : List BTHomeObject} (rounds : ∀ o ∈ objects, Rounds o) :
    (objects.filter known).mapM rawObject = some (objects.filterMap rawObject) := by
  induction objects with
  | nil => rfl
  | cons o objects ih =>
      have ih := ih fun o' mem => rounds o' (List.mem_cons_of_mem _ mem)
      have readable := known_eq (rounds o List.mem_cons_self)
      cases raw : rawObject o with
      | none =>
          rw [List.filter_cons_of_neg (by rw [readable, raw]; exact Bool.false_ne_true), ih,
            List.filterMap_cons_none raw]
      | some d =>
          rw [List.filter_cons_of_pos (by rw [readable, raw]; rfl), List.mapM_cons, raw, ih,
            List.filterMap_cons_some raw]
          rfl

/-- **The payload is read back.** -/
theorem decodePayload_build (R : LLRound) (objects : List BTHomeObject) (encrypted : Bool)
    (rounds : ∀ o ∈ objects, Rounds o) :
    (∃ sorted decoded, StablySorted (·.objectId) (objects.filter known) sorted ∧
      sorted.mapM rawObject = some decoded ∧
      decodePayload (buildBthomePayload R objects encrypted) =
        some (if encrypted then 0x41 else 0x40, decoded)) ∧
    (∀ objects', objects.Perm objects' → (objects.map (·.objectId)).Nodup →
      buildBthomePayload R objects' encrypted = buildBthomePayload R objects encrypted) ∧
    ∀ o o' : BTHomeObject, o.objectId = o'.objectId → o.value ≤ o'.value →
      ∀ d ∈ rawObject o, ∀ d' ∈ rawObject o', d.2 ≤ d'.2 := by
  have sorted := stablySorted_mergeSort (·.objectId) objects
  have rounds' := fun o mem => rounds o (sorted.perm.mem_iff.mp mem)
  refine ⟨⟨_, _, sorted.filter known, mapM_rawObject rounds', ?_⟩, fun objects' perm distinct => ?_,
    fun o o' same le d raw d' raw' => rawObject_mono same le raw raw'⟩
  · rw [buildBthomePayload, decodePayload, decodeObjects_flatMap rounds']
    cases encrypted <;> rfl
  · have sorted' := stablySorted_mergeSort (·.objectId) objects'
    rw [buildBthomePayload, buildBthomePayload, eq_of_perm distinct perm sorted sorted']

/-- A rounding that knows no bounds. -/
def unbounded : LLRound where
  llround x := x.toInt?.getD 0
  exact x z nearest _ := by rw [Option.mem_def.mp nearest, Option.getD_some]

/-- 25.06 °C, a humidity beyond its field, and a battery level. -/
def readings : List BTHomeObject :=
  [⟨0x02, ofRat (mkRat 2506 100)⟩, ⟨0x03, ofRat 1000⟩, ⟨0x01, ofRat 93⟩]

theorem decodePayload_readings :
    (readings.map (·.objectId)).Nodup ∧
    (∃ sorted decoded, StablySorted (·.objectId) (readings.filter known) sorted ∧
      sorted.mapM rawObject = some decoded ∧
      decodePayload (buildBthomePayload unbounded readings false) = some (0x40, decoded)) ∧
    buildBthomePayload unbounded readings false =
      [0x40, 0x01, 0x5d, 0x02, 0xca, 0x09, 0x03, 0xff, 0xff] := by
  have rounds : ∀ o ∈ readings, Rounds o := by
    unfold Rounds
    decide +kernel
  have sorted : (readings.mergeSort fun a b => decide (a.objectId ≤ b.objectId)) =
      [⟨0x01, ofRat 93⟩, ⟨0x02, ofRat (mkRat 2506 100)⟩, ⟨0x03, ofRat 1000⟩] := by
    simp [readings, List.mergeSort, List.MergeSort.Internal.splitInTwo]
  refine ⟨by decide, (decodePayload_build unbounded readings false rounds).1, ?_⟩
  rw [buildBthomePayload, sorted]
  decide +kernel

/-- The number of an object by exact arithmetic. -/
def exactObject (o : BTHomeObject) : Option (UInt8 × Int) :=
  (bthomeObjectSpec o.objectId).bind fun s => o.value.toRat?.bind fun v =>
    s.factor.toRat?.map fun f => (o.objectId, s.clamped (roundAway (v / f)))

/-- 0.015 °C; the `double` is a little less than that, and the factor a little more than 0.01. -/
def halfway : BTHomeObject := ⟨0x02, ofRat (mkRat 15 1000)⟩

/-- The quotient is rounded to 1.5, and that to 2; the exact one is nearer to 1. -/
theorem not_exact_halfway : exactObject halfway = some (0x02, 1) ∧
    ∀ R encrypted, ¬ ∃ info, decodePayload (buildBthomePayload R [halfway] encrypted) =
      some (info, [halfway].filterMap exactObject) := by
  have exact : exactObject halfway = some (0x02, 1) := by decide +kernel
  refine ⟨exact, fun R encrypted ⟨info, read⟩ => ?_⟩
  have rounds : ∀ o ∈ [halfway], Rounds o := by
    unfold Rounds
    decide +kernel
  have raw : rawObject halfway = some (0x02, 2) := by decide +kernel
  rw [buildBthomePayload, List.mergeSort_singleton, decodePayload, decodeObjects_flatMap rounds,
    List.filterMap_cons_some raw, List.filterMap_cons_some exact] at read
  exact absurd (Prod.mk.inj (Option.some.inj read)).2 (by decide)

end EsphomeHost

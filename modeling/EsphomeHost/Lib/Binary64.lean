import Mathlib.Data.Int.Log
import Mathlib.Data.Rat.Floor
import Mathlib.Tactic.Linarith

/-!
# Binary floating point of double precision

The numbers of IEEE 754 binary64, exactly: a finite one is a sign and a magnitude `m * 2 ^ e` with a
significand of 53 bits.  A number in between is rounded to the nearest, halfway to the one with the
even significand; what is too large becomes infinite.

* `nearest`: the rounding of a magnitude; `nearest_mono` and `isMagnitude_nearest`.
* `Binary64.div`: the rounded quotient, for all operands.
* `roundAway`: to an integer, halves away from zero, as `round` and its kin do.
* `Binary64.div_mono`: **a quotient by a positive number grows with the dividend**.
-/

/-! ## Rounding to integers -/

namespace Binary64

/-- To the nearest integer, halfway to the even one. -/
def roundEven (q : ℚ) : ℤ :=
  let f := q.floor
  if q - f < mkRat 1 2 then f
  else if mkRat 1 2 < q - f then f + 1
  else if f % 2 = 0 then f
  else f + 1

/-- To the nearest integer, halves away from zero. -/
def roundAway (q : ℚ) : ℤ :=
  if 0 ≤ q then (q + mkRat 1 2).floor else -(-q + mkRat 1 2).floor

theorem floor_le_roundEven (q : ℚ) : q.floor ≤ roundEven q := by
  unfold roundEven
  dsimp only
  split_ifs <;> omega

theorem roundEven_le (q : ℚ) : roundEven q ≤ q.floor + 1 := by
  unfold roundEven
  dsimp only
  split_ifs <;> omega

theorem roundEven_mono {p q : ℚ} (le : p ≤ q) : roundEven p ≤ roundEven q := by
  rcases (Rat.floor_monotone le).lt_or_eq with below | same
  · exact (roundEven_le p).trans (Int.le_trans below (floor_le_roundEven q))
  · unfold roundEven
    dsimp only
    rw [same]
    -- the fractions compare as the numbers do
    have fractions : p - q.floor ≤ q - q.floor := sub_le_sub_right le _
    split_ifs <;> first | omega | (exfalso; linarith)

theorem roundEven_intCast (z : ℤ) : roundEven z = z := by
  have half : (0 : ℚ) < mkRat 1 2 := by decide +kernel
  unfold roundEven
  dsimp only
  rw [Rat.floor_intCast, sub_self, if_pos half]

theorem roundAway_nonneg {q : ℚ} (nonneg : 0 ≤ q) : 0 ≤ roundAway q := by
  rw [roundAway, if_pos nonneg, Rat.le_floor_iff]
  exact add_nonneg nonneg (by decide +kernel)

theorem roundAway_nonpos {q : ℚ} (negative : ¬ 0 ≤ q) : roundAway q ≤ 0 := by
  have mirrored : 0 ≤ (-q + mkRat 1 2).floor := by
    rw [Rat.le_floor_iff]
    exact add_nonneg (neg_nonneg.mpr (not_le.mp negative).le) (by decide +kernel)
  rw [roundAway, if_neg negative]
  exact Int.neg_nonpos_of_nonneg mirrored

theorem roundAway_mono {p q : ℚ} (le : p ≤ q) : roundAway p ≤ roundAway q := by
  by_cases low : 0 ≤ p
  · rw [roundAway, roundAway, if_pos low, if_pos (low.trans le)]
    exact Rat.floor_monotone (add_le_add_left le _)
  · by_cases high : 0 ≤ q
    · exact (roundAway_nonpos low).trans (roundAway_nonneg high)
    · rw [roundAway, roundAway, if_neg low, if_neg high]
      exact Int.neg_le_neg (Rat.floor_monotone (add_le_add_left (neg_le_neg le) _))

/-! ## Magnitudes -/

/-- `q` is the magnitude of a finite number. -/
def IsMagnitude (q : ℚ) : Prop :=
  ∃ (m : ℕ) (e : ℤ), m < 2 ^ 53 ∧ -1074 ≤ e ∧ e ≤ 971 ∧ q = m * 2 ^ e

/-- The exponent of the last place of a significand for `q`. -/
def lastPlace (q : ℚ) : ℤ := max (Int.log 2 q - 52) (-1074)

/-- The significand of a magnitude next to `q`, which may be `2 ^ 53`. -/
def significand (q : ℚ) : ℤ := roundEven (q / 2 ^ lastPlace q)

/-- The magnitude nearest to `q`, without a bound. -/
def nearest (q : ℚ) : ℚ := significand q * 2 ^ lastPlace q

variable {p q : ℚ}

theorem two_zpow_pos (e : ℤ) : (0 : ℚ) < 2 ^ e := zpow_pos two_pos e

theorem significand_nonneg (nonneg : 0 ≤ q) : 0 ≤ significand q := by
  have scaled : 0 ≤ q / 2 ^ lastPlace q := div_nonneg nonneg (two_zpow_pos _).le
  exact (Rat.le_floor_iff.mpr (by exact_mod_cast scaled)).trans (floor_le_roundEven _)

theorem nearest_nonneg (nonneg : 0 ≤ q) : 0 ≤ nearest q :=
  mul_nonneg (by exact_mod_cast significand_nonneg nonneg) (two_zpow_pos _).le

theorem nearest_zero : nearest 0 = 0 := by decide +kernel

/-- A significand has 53 bits, unless it is rounded up to one more. -/
theorem significand_le (q : ℚ) : significand q ≤ 2 ^ 53 := by
  have below : q < 2 ^ (Int.log 2 q + 1) := by exact_mod_cast Int.lt_zpow_succ_log_self one_lt_two q
  have place : Int.log 2 q + 1 ≤ 53 + lastPlace q := by
    have := le_max_left (Int.log 2 q - 52) (-1074)
    unfold lastPlace
    omega
  have scaled : q / 2 ^ lastPlace q ≤ ((2 ^ 53 : ℤ) : ℚ) := by
    rw [div_le_iff₀ (two_zpow_pos _)]
    rw [Int.cast_pow, Int.cast_ofNat, ← zpow_natCast, ← zpow_add₀ two_ne_zero]
    exact below.le.trans (zpow_le_zpow_right₀ one_le_two place)
  exact (roundEven_mono scaled).trans (roundEven_intCast _).le

/-- And not fewer, unless the magnitude is one of the least. -/
theorem le_significand (positive : 0 < q) (normal : -1074 < lastPlace q) :
    2 ^ 52 ≤ significand q := by
  have above : (2 : ℚ) ^ Int.log 2 q ≤ q := by
    exact_mod_cast Int.zpow_log_le_self one_lt_two positive
  have place : 52 + lastPlace q = Int.log 2 q := by
    unfold lastPlace at normal ⊢
    omega
  have scaled : ((2 ^ 52 : ℤ) : ℚ) ≤ q / 2 ^ lastPlace q := by
    rw [le_div_iff₀ (two_zpow_pos _)]
    rw [Int.cast_pow, Int.cast_ofNat, ← zpow_natCast, ← zpow_add₀ two_ne_zero]
    exact (zpow_le_zpow_right₀ one_le_two place.le).trans above
  exact (roundEven_intCast _).ge.trans (roundEven_mono scaled)

/-- **Rounding keeps the order.** -/
theorem nearest_mono (nonneg : 0 ≤ p) (le : p ≤ q) : nearest p ≤ nearest q := by
  rcases nonneg.lt_or_eq with positive | rfl
  · have places : lastPlace p ≤ lastPlace q :=
      max_le_max_right _ (sub_le_sub_right (Int.log_mono_right positive le) _)
    rcases places.lt_or_eq with below | same
    · -- the significands of the higher place begin where those of the lower end
      have low : (significand p : ℚ) ≤ 2 ^ 53 := by exact_mod_cast significand_le p
      have normal : -1074 < lastPlace q := (le_max_right _ _).trans_lt below
      have high : (2 : ℚ) ^ 52 ≤ significand q := by
        exact_mod_cast le_significand (positive.trans_le le) normal
      calc nearest p
        _ ≤ 2 ^ 53 * 2 ^ lastPlace p := mul_le_mul_of_nonneg_right low (two_zpow_pos _).le
        _ = 2 ^ 52 * 2 ^ (lastPlace p + 1) := by rw [zpow_add_one₀ two_ne_zero]; ring
        _ ≤ 2 ^ 52 * 2 ^ lastPlace q :=
          mul_le_mul_of_nonneg_left (zpow_le_zpow_right₀ one_le_two below) (by positivity)
        _ ≤ nearest q := mul_le_mul_of_nonneg_right high (two_zpow_pos _).le
    · unfold nearest significand
      rw [same]
      refine mul_le_mul_of_nonneg_right ?_ (two_zpow_pos _).le
      exact_mod_cast roundEven_mono (div_le_div_of_nonneg_right le (two_zpow_pos _).le)
  · rw [nearest_zero]
    exact nearest_nonneg le

/-- **What is rounded is a magnitude**, if it is not too large. -/
theorem isMagnitude_nearest (nonneg : 0 ≤ q) (bounded : nearest q < 2 ^ 1024) :
    IsMagnitude (nearest q) := by
  rcases nonneg.lt_or_eq with positive | rfl
  · obtain ⟨m, same⟩ := Int.eq_ofNat_of_zero_le (significand_nonneg nonneg)
    have value : nearest q = m * 2 ^ lastPlace q := by
      rw [nearest, same]
      rfl
    have upper := significand_le q
    rw [same] at upper
    have least : -1074 ≤ lastPlace q := le_max_right _ _
    have place {k : ℕ} (more : 2 ^ k ≤ m) : k + lastPlace q < 1024 := by
      have : (2 : ℚ) ^ (k + lastPlace q) < 2 ^ (1024 : ℤ) := by
        rw [zpow_add₀ two_ne_zero, zpow_natCast]
        refine lt_of_le_of_lt ?_ bounded
        rw [value]
        exact mul_le_mul_of_nonneg_right (by exact_mod_cast more) (two_zpow_pos _).le
      exact (zpow_lt_zpow_iff_right₀ one_lt_two).mp this
    by_cases carried : m = 2 ^ 53
    · have := place carried.ge
      refine ⟨2 ^ 52, lastPlace q + 1, by norm_num, by omega, by omega, ?_⟩
      rw [value, carried, zpow_add_one₀ two_ne_zero]
      push_cast
      ring
    · refine ⟨m, lastPlace q, by omega, least, ?_, value⟩
      by_cases normal : -1074 < lastPlace q
      · have lower := le_significand positive normal
        rw [same] at lower
        have := place (k := 52) (by omega)
        omega
      · omega
  · rw [nearest_zero]
    exact ⟨0, 0, by norm_num, by norm_num, by norm_num, by simp⟩

/-- The absolute value of a finite number. -/
structure Magnitude where
  value : ℚ
  isMagnitude : IsMagnitude value

theorem Magnitude.nonneg (a : Magnitude) : 0 ≤ a.value := by
  obtain ⟨m, e, -, -, -, same⟩ := a.isMagnitude
  rw [same]
  exact mul_nonneg (Nat.cast_nonneg m) (two_zpow_pos e).le

end Binary64

/-! ## Numbers -/

/-- A `double`; zero has a sign. -/
inductive Binary64
  | nan
  | infinite (negative : Bool)
  | finite (negative : Bool) (magnitude : Binary64.Magnitude)

namespace Binary64

/-- The number nearest to `q` with this sign; from `2 ^ 1024` on it is infinite. -/
def round (negative : Bool) (q : ℚ) (nonneg : 0 ≤ q) : Binary64 :=
  if bounded : nearest q < 2 ^ 1024 then
    .finite negative ⟨nearest q, isMagnitude_nearest nonneg bounded⟩
  else .infinite negative

/-- A literal. -/
def ofRat (q : ℚ) : Binary64 := round (q < 0) |q| (abs_nonneg q)

def div : Binary64 → Binary64 → Binary64
  | nan, _ | _, nan | infinite _, infinite _ => nan
  | infinite s, finite t _ => infinite (s ^^ t)
  | finite s _, infinite t => round (s ^^ t) 0 le_rfl
  | finite s a, finite t b =>
      if b.value = 0 then if a.value = 0 then nan else infinite (s ^^ t)
      else round (s ^^ t) (a.value / b.value) (div_nonneg a.nonneg b.nonneg)

def signed (negative : Bool) (q : ℚ) : ℚ := if negative then -q else q

/-- The value of a finite number. -/
def toRat? : Binary64 → Option ℚ
  | finite s a => some (signed s a.value)
  | _ => none

/-- What compares as `≤`; nothing compares with a NaN. -/
def le : Binary64 → Binary64 → Prop
  | nan, _ | _, nan => False
  | infinite true, _ | _, infinite false => True
  | infinite false, _ | _, infinite true => False
  | finite s a, finite t b => signed s a.value ≤ signed t b.value

instance : LE Binary64 := ⟨le⟩

/-- The integer nearest to a finite number, halves away from zero. -/
def toInt? (x : Binary64) : Option ℤ := x.toRat?.map roundAway

/-- What keeps the order of magnitudes keeps that of numbers. -/
theorem signed_mono {f : ℚ → ℚ} (zero : f 0 = 0) (nonneg : ∀ q, 0 ≤ q → 0 ≤ f q)
    (mono : ∀ p q, 0 ≤ p → p ≤ q → f p ≤ f q) {s t : Bool} {a b : ℚ} (a_nonneg : 0 ≤ a)
    (b_nonneg : 0 ≤ b) (le : signed s a ≤ signed t b) : signed s (f a) ≤ signed t (f b) := by
  cases s <;> cases t
  · exact mono a b a_nonneg le
  · have le : a ≤ -b := le
    obtain rfl : a = 0 := by linarith
    obtain rfl : b = 0 := by linarith
    exact (zero ▸ neg_zero).ge
  · have left := nonneg a a_nonneg
    have right := nonneg b b_nonneg
    exact (neg_nonpos.mpr left).trans right
  · exact neg_le_neg (mono b a b_nonneg (neg_le_neg_iff.mp le))

theorem toRat?_round {s : Bool} {p q : ℚ} {nonneg : 0 ≤ p} (value : q ∈ (round s p nonneg).toRat?) :
    q = signed s (nearest p) := by
  unfold round at value
  split at value
  · exact (Option.some.inj value).symm
  · cases value

/-- A quotient that is finite is that of finite numbers, rounded. -/
theorem toRat?_div {x d : Binary64} {v q : ℚ} (divisor : d.toRat? = some v) (positive : 0 < v)
    (value : q ∈ (x.div d).toRat?) :
    ∃ s a, x = finite s a ∧ q = signed s (nearest (a.value / v)) := by
  cases d with
  | nan => cases divisor
  | infinite t => cases divisor
  | finite t b =>
      have same : signed t b.value = v := Option.some.inj divisor
      have unsigned : t = false := by
        cases t with
        | false => rfl
        | true =>
            have same : -b.value = v := same
            have := b.nonneg
            linarith
      subst unsigned
      have same : b.value = v := same
      cases x with
      | nan => cases value
      | infinite s => cases value
      | finite s a =>
          have quotient : (finite s a).div (finite false b) =
              round (s ^^ false) (a.value / b.value) (div_nonneg a.nonneg b.nonneg) := by
            rw [div, if_neg (same ▸ positive.ne')]
          rw [quotient] at value
          refine ⟨s, a, rfl, ?_⟩
          rw [toRat?_round value, Bool.xor_false, same]

/-- **A quotient by a positive number grows with the dividend.** -/
theorem div_mono {x y d : Binary64} {v p q : ℚ} (divisor : d.toRat? = some v) (positive : 0 < v)
    (le : x ≤ y) (left : p ∈ (x.div d).toRat?) (right : q ∈ (y.div d).toRat?) : p ≤ q := by
  obtain ⟨s, a, rfl, rfl⟩ := toRat?_div divisor positive left
  obtain ⟨t, b, rfl, rfl⟩ := toRat?_div divisor positive right
  refine signed_mono (f := fun r => nearest (r / v)) ?_ (fun r nonneg => ?_)
    (fun r r' nonneg le => ?_) a.nonneg b.nonneg le
  · rw [zero_div, nearest_zero]
  · exact nearest_nonneg (div_nonneg nonneg positive.le)
  · exact nearest_mono (div_nonneg nonneg positive.le) (div_le_div_of_nonneg_right le positive.le)

end Binary64

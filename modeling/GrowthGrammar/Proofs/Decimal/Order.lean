import GrowthGrammar.Proofs.Decimal.Arithmetic

/-!
# The order of the doubles

Finite doubles compare as their values (`lt_iff_value`).  This rests on canonical parts: of two
values above zero the one with the larger exponent is larger, since its mantissa has all
digits, and at the same exponent the mantissas compare (`compare_value`).

A double that is not finite is at one end of the order or is no number.  `AtBottom` and `AtTop`
join what is no number to either end, so that a double is finite if it is neither
(`isFinite_iff_inside`).  A difference or a sum that is finite is one of finite doubles.
-/

namespace GrowthGrammar.Decimal.Binary64

open Float.Model (Format UnpackedFloat)
open Float.Model.UnpackedFloat

theorem lt_iff_compare (x y : Float) :
    x < y ↔ x.toModel.unpack.compare y.toModel.unpack = some .lt := by
  have compared : x < y ↔ UnpackedFloat.lt x.toModel.unpack y.toModel.unpack = true :=
    decide_eq_true_iff
  rw [compared, UnpackedFloat.lt]
  exact beq_iff_eq

/-! ## Finite doubles -/

section

variable {a b : Dyadic} (canonicalA : a.Canonical) (canonicalB : b.Canonical)

include canonicalA canonicalB in
theorem value_lt_of_exponent_lt (less : a.exponent < b.exponent) : a.value < b.value := by
  have lowest := canonicalA.minExponent_le
  have full : (2 : ℚ) ^ 52 ≤ b.mantissa := by
    have : 2 ^ 52 ≤ b.mantissa := not_lt.mp fun few => by
      have := canonicalB.exponent_eq few
      omega
    exact_mod_cast this
  have short : (a.mantissa : ℚ) < 2 ^ 53 := by exact_mod_cast canonicalA.mantissa_lt
  have step : (0 : ℚ) < 2 ^ a.exponent := by positivity
  have twice : (2 : ℚ) * 2 ^ a.exponent ≤ 2 ^ b.exponent := by
    rw [mul_comm, ← zpow_add_one₀ two_ne_zero]
    exact zpow_le_zpow_right₀ one_le_two less
  calc a.value = a.mantissa * 2 ^ a.exponent := rfl
    _ < 2 ^ 53 * 2 ^ a.exponent := by gcongr
    _ = 2 ^ 52 * (2 * 2 ^ a.exponent) := by ring
    _ ≤ 2 ^ 52 * 2 ^ b.exponent := by gcongr
    _ ≤ b.mantissa * 2 ^ b.exponent := by gcongr
    _ = b.value := rfl

include canonicalA canonicalB in
/-- Absolute values compare first by their exponents and then by their mantissas. -/
theorem compare_value :
    (compare a.exponent b.exponent).then (compare a.mantissa b.mantissa) =
      compare a.value b.value := by
  rcases lt_trichotomy a.exponent b.exponent with less | same | more
  · rw [compare_lt_iff_lt.mpr less, compare_lt_iff_lt.mpr
      (value_lt_of_exponent_lt canonicalA canonicalB less)]
    rfl
  · have step : (0 : ℚ) < 2 ^ b.exponent := by positivity
    rw [compare_eq_iff_eq.mpr same, Dyadic.value, Dyadic.value, same]
    show compare a.mantissa b.mantissa = _
    rcases lt_trichotomy a.mantissa b.mantissa with less | equal | more
    · rw [compare_lt_iff_lt.mpr less, compare_lt_iff_lt.mpr]
      gcongr
    · rw [equal, compare_eq_iff_eq.mpr rfl, compare_eq_iff_eq.mpr rfl]
    · rw [compare_gt_iff_gt.mpr more, compare_gt_iff_gt.mpr]
      gcongr
  · rw [compare_gt_iff_gt.mpr more, compare_gt_iff_gt.mpr
      (value_lt_of_exponent_lt canonicalB canonicalA more)]
    rfl

theorem value_pos {d : Dyadic} (positive : 0 < d.mantissa) : 0 < d.value := by
  have : (0 : ℚ) < d.mantissa := by exact_mod_cast positive
  exact mul_pos this (by positivity)

theorem compare_neg (p q : ℚ) : compare (-p) (-q) = (compare p q).swap := by
  rcases lt_trichotomy p q with less | rfl | more
  · rw [compare_lt_iff_lt.mpr less, compare_gt_iff_gt.mpr (neg_lt_neg less)]
    rfl
  · rw [compare_eq_iff_eq.mpr rfl, compare_eq_iff_eq.mpr rfl]
    rfl
  · rw [compare_gt_iff_gt.mpr more, compare_lt_iff_lt.mpr (neg_lt_neg more)]
    rfl

theorem compare_zero_unpacked (s : Sign) {d : Dyadic} (positive : 0 < d.mantissa) :
    UnpackedFloat.compare (.zero s) d.unpacked = some (compare 0 d.signed) := by
  have above := value_pos positive
  rw [Dyadic.unpacked_of_pos positive, Dyadic.sign, Dyadic.signed, withSign]
  cases d.negative with
  | true =>
    have below : compare 0 (-d.value) = .gt := compare_gt_iff_gt.mpr (neg_neg_of_pos above)
    simp only [if_true, below]
    rfl
  | false =>
    simp only [Bool.false_eq_true, if_false, compare_lt_iff_lt.mpr above]
    rfl

theorem compare_unpacked_zero (s : Sign) {d : Dyadic} (positive : 0 < d.mantissa) :
    d.unpacked.compare (.zero s) = some (compare d.signed 0) := by
  have above := value_pos positive
  rw [Dyadic.unpacked_of_pos positive, Dyadic.sign, Dyadic.signed, withSign]
  cases d.negative with
  | true =>
    have below : compare (-d.value) 0 = .lt := compare_lt_iff_lt.mpr (neg_neg_of_pos above)
    simp only [if_true, below]
    rfl
  | false =>
    simp only [Bool.false_eq_true, if_false, compare_gt_iff_gt.mpr above]
    rfl

include canonicalA canonicalB in
/-- Canonical values compare as the numbers that they are. -/
theorem compare_unpacked : a.unpacked.compare b.unpacked = some (compare a.signed b.signed) := by
  rcases Nat.eq_zero_or_pos a.mantissa with zeroA | positiveA
  · rw [Dyadic.unpacked_of_zero zeroA, signed_of_zero zeroA]
    rcases Nat.eq_zero_or_pos b.mantissa with zeroB | positiveB
    · rw [Dyadic.unpacked_of_zero zeroB, signed_of_zero zeroB, compare_eq_iff_eq.mpr rfl]
      rfl
    · exact compare_zero_unpacked _ positiveB
  · rcases Nat.eq_zero_or_pos b.mantissa with zeroB | positiveB
    · rw [Dyadic.unpacked_of_zero zeroB, signed_of_zero zeroB]
      exact compare_unpacked_zero _ positiveA
    · have aboveA := value_pos positiveA
      have aboveB := value_pos positiveB
      have values := compare_value canonicalA canonicalB
      rw [Dyadic.unpacked_of_pos positiveA, Dyadic.unpacked_of_pos positiveB, Dyadic.sign,
        Dyadic.sign, Dyadic.signed, Dyadic.signed, withSign, withSign]
      cases a.negative <;> cases b.negative <;>
        simp only [if_true, if_false, Bool.false_eq_true, UnpackedFloat.compare, compare_neg,
          values]
      · rw [compare_gt_iff_gt.mpr (by linarith)]
      · rw [compare_lt_iff_lt.mpr (by linarith)]

end

/-- Finite doubles compare as their values. -/
theorem lt_iff_value {x y : Float} (finiteX : x.isFinite = true) (finiteY : y.isFinite = true) :
    x < y ↔ value x < value y := by
  obtain ⟨a, decodedX⟩ := exists_decode finiteX
  obtain ⟨b, decodedY⟩ := exists_decode finiteY
  rw [lt_iff_compare, unpack_of_decode decodedX, unpack_of_decode decodedY,
    compare_unpacked (decode_canonical decodedX) (decode_canonical decodedY), Option.some_inj,
    compare_lt_iff_lt, value_of_decode decodedX, value_of_decode decodedY]

/-- The values of the finite doubles have a bound. -/
theorem abs_value_lt (x : Float) : |value x| < 2 ^ (1024 : Int) := by
  cases decoded : decode x with
  | none =>
    rw [value, decoded]
    simp only [Option.map_none, Option.getD_none, abs_zero]
    positivity
  | some d =>
    have canonical := decode_canonical decoded
    have short : (d.mantissa : ℚ) < 2 ^ (53 : Int) := by exact_mod_cast canonical.mantissa_lt
    have nonneg : 0 ≤ d.value := mul_nonneg (Nat.cast_nonneg _) (by positivity)
    rw [value_of_decode decoded, Dyadic.signed, abs_withSign, abs_of_nonneg nonneg]
    calc d.value < 2 ^ (53 : Int) * 2 ^ d.exponent := by
          rw [Dyadic.value]
          gcongr
      _ ≤ 2 ^ (53 : Int) * 2 ^ (971 : Int) := by
          gcongr
          · exact one_le_two
          · exact canonical.exponent_le
      _ = 2 ^ (1024 : Int) := by rw [← zpow_add₀ two_ne_zero]; rfl

theorem zero_lt_iff_value {x : Float} (finite : x.isFinite = true) : 0 < x ↔ 0 < value x := by
  rw [lt_iff_value (by decide) finite, value_zero]

/-! ## The ends of the order -/

/-- The double is no number or below every number. -/
def AtBottom (x : Float) : Prop :=
  x.toModel.unpack = .infinity .negative ∨ x.toModel.unpack = .notANumber

/-- The double is no number or above every number. -/
def AtTop (x : Float) : Prop :=
  x.toModel.unpack = .infinity .positive ∨ x.toModel.unpack = .notANumber

theorem isFinite_iff_inside (x : Float) : x.isFinite = true ↔ ¬ AtBottom x ∧ ¬ AtTop x := by
  have finite : x.isFinite = x.toModel.unpack.isFinite := rfl
  rw [finite, AtBottom, AtTop]
  cases x.toModel.unpack with
  | infinity s => cases s <;> simp [UnpackedFloat.isFinite]
  | _ => simp [UnpackedFloat.isFinite]

theorem beq_self_iff (x : Float) : (x == x) = true ↔ x.toModel.unpack ≠ .notANumber := by
  have compared : (x == x) = (x.toModel.unpack.compare x.toModel.unpack == some .eq) := rfl
  rw [compared, beq_iff_eq]
  cases x.toModel.unpack with
  | notANumber => simp [UnpackedFloat.compare]
  | infinity s => cases s <;> simp [UnpackedFloat.compare] <;> rfl
  | zero s => simp [UnpackedFloat.compare]
  | finite s m e h => cases s <;> simp [UnpackedFloat.compare]

theorem atBottom_of_not_beq {x : Float} (none : ¬ (x == x) = true) : AtBottom x :=
  .inr (not_not.mp (mt (beq_self_iff x).mpr none))

theorem atTop_of_not_beq {x : Float} (none : ¬ (x == x) = true) : AtTop x :=
  .inr (not_not.mp (mt (beq_self_iff x).mpr none))

/-- Nothing is below the bottom. -/
theorem not_atBottom_of_lt {x y : Float} (less : x < y) : ¬ AtBottom y := by
  rw [lt_iff_compare] at less
  rintro (bottom | none)
  · rw [bottom] at less
    revert less
    cases x.toModel.unpack with
    | infinity s => cases s <;> exact fun less => nomatch less
    | _ => exact fun less => nomatch less
  · rw [none] at less
    revert less
    cases x.toModel.unpack <;> exact fun less => nomatch less

/-- Nothing is above the top. -/
theorem not_atTop_of_lt {x y : Float} (less : x < y) : ¬ AtTop x := by
  rw [lt_iff_compare] at less
  rintro (top | none)
  · rw [top] at less
    revert less
    cases y.toModel.unpack with
    | infinity s => cases s <;> exact fun less => nomatch less
    | _ => exact fun less => nomatch less
  · rw [none] at less
    exact nomatch less

/-- What is not above the bottom is at the bottom itself. -/
theorem atBottom_of_not_lt {x y : Float} (bottom : AtBottom x) (number : (x == x) = true)
    (notLess : ¬ x < y) : AtBottom y := by
  rw [beq_self_iff] at number
  rw [lt_iff_compare, bottom.resolve_right number] at notLess
  rw [AtBottom]
  revert notLess
  cases y.toModel.unpack with
  | notANumber => exact fun _ => .inr rfl
  | infinity s =>
    cases s with
    | negative => exact fun _ => .inl rfl
    | positive => exact fun notLess => absurd rfl notLess
  | zero s => exact fun notLess => absurd rfl notLess
  | finite s m e h => exact fun notLess => absurd rfl notLess

/-- What is not below the top is at the top itself. -/
theorem atTop_of_not_lt {x y : Float} (top : AtTop x) (number : (x == x) = true)
    (notLess : ¬ y < x) : AtTop y := by
  rw [beq_self_iff] at number
  rw [lt_iff_compare, top.resolve_right number] at notLess
  rw [AtTop]
  revert notLess
  cases y.toModel.unpack with
  | notANumber => exact fun _ => .inr rfl
  | infinity s =>
    cases s with
    | negative => exact fun notLess => absurd rfl notLess
    | positive => exact fun _ => .inl rfl
  | zero s => exact fun notLess => absurd rfl notLess
  | finite s m e h => cases s <;> exact fun notLess => absurd rfl notLess

/-- A number above zero that is too large is rounded to infinity. -/
theorem Nearest.eq_infinity {x : Float} {y : ℚ} (nearest : Nearest x y) (positive : 0 < y)
    (infinite : ¬ x.isFinite = true) : x = infinity := by
  obtain ⟨negative, num, den, hd, rfl, rfl⟩ := nearest
  have ratio : (0 : ℚ) ≤ num / den := div_nonneg (Nat.cast_nonneg _) (Nat.cast_nonneg _)
  obtain rfl : negative = false := by
    cases negative with
    | false => rfl
    | true =>
      rw [withSign, if_pos rfl] at positive
      linarith
  have bits : quotientBits num den = infinityBits := by
    by_contra other
    exact infinite (isFinite_ofMagnitude (lt_of_le_of_ne (quotientBits_le _ _) other) false)
  rw [ofQuotient, bits]
  rfl

theorem unpack_infinity : infinity.toModel.unpack = .infinity .positive := rfl

theorem lt_infinity {x : Float} (finite : x.isFinite = true) : x < infinity := by
  have unpacked : x.toModel.unpack.isFinite = true := finite
  rw [lt_iff_compare, unpack_infinity]
  revert unpacked
  cases x.toModel.unpack with
  | notANumber => exact fun unpacked => nomatch unpacked
  | infinity s => exact fun unpacked => nomatch unpacked
  | zero s => exact fun _ => rfl
  | finite s m e h => exact fun _ => rfl

theorem not_infinity_lt (x : Float) : ¬ infinity < x :=
  fun less => not_atTop_of_lt less (.inl unpack_infinity)

theorem isFinite_of_pack {u : UnpackedFloat}
    (finite : (UnpackedFloat.unpack .binary64 (UnpackedFloat.pack .binary64 u)).isFinite = true) :
    u.isFinite = true := by
  cases u with
  | infinity s => cases s <;> exact absurd finite (by decide)
  | notANumber => exact absurd finite (by decide)
  | zero s => rfl
  | finite s m e h => rfl

theorem isFinite_of_sub_unpacked {u v : UnpackedFloat}
    (finite : (UnpackedFloat.sub .binary64 u v).isFinite = true) :
    u.isFinite = true ∧ v.isFinite = true := by
  cases u with
  | notANumber => cases finite
  | infinity s =>
    cases v with
    | infinity s' => cases s <;> cases s' <;> cases finite
    | _ => cases finite
  | zero s => cases v <;> first | exact ⟨rfl, rfl⟩ | cases finite
  | finite s m e h => cases v <;> first | exact ⟨rfl, rfl⟩ | cases finite

/-- A finite difference is one of finite doubles. -/
theorem isFinite_of_sub {x y : Float} (finite : (x - y).isFinite = true) :
    x.isFinite = true ∧ y.isFinite = true :=
  isFinite_of_sub_unpacked (isFinite_of_pack finite)

/-! ## A few roundings -/

/-- What a few roundings can move a number by. -/
def slack (y : ℚ) : ℚ := |y| / 2 ^ 50 + 2 ^ minExponent

/-- A number is in the range of the doubles, with room for a few roundings. -/
def InRange (y : ℚ) : Prop := |y| ≤ 2 ^ (1000 : Int)

theorem InRange.lt {y z : ℚ} (inRange : InRange y) (le : |z| ≤ 4 * |y|) :
    |z| < 2 ^ (1023 : Int) := by
  calc |z| ≤ 4 * |y| := le
    _ ≤ 2 ^ (2 : Int) * 2 ^ (1000 : Int) := by
      norm_num only
      exact mul_le_mul_of_nonneg_left inRange (by norm_num)
    _ = 2 ^ (1002 : Int) := by rw [← zpow_add₀ two_ne_zero]; rfl
    _ < 2 ^ (1023 : Int) := zpow_lt_zpow_right₀ one_lt_two (by decide)

/-- A finite double is within a few roundings of a number. -/
structure Approximates (x : Float) (y : ℚ) : Prop where
  /-- The double is finite. -/
  finite : x.isFinite = true
  /-- It is not further away than a few roundings. -/
  abs_sub_le : |value x - y| ≤ slack y

/-- One rounding is within a few roundings. -/
theorem Nearest.approximates {x : Float} {y : ℚ} (nearest : Nearest x y)
    (finite : x.isFinite = true) : Approximates x y := by
  have step : (0 : ℚ) < 2 ^ minExponent := by positivity
  have part : 0 ≤ |y| := abs_nonneg y
  refine ⟨finite, (nearest.abs_sub_le finite).trans ?_⟩
  rw [slack]
  linarith

/-- The sum of two multiples of the smallest double has a sign that rounding keeps. -/
theorem Nearest.value_pos_iff {x : Float} {y : ℚ} {n : Int} (nearest : Nearest x y)
    (finite : x.isFinite = true) (multiple : y = n * 2 ^ minExponent) : 0 < value x ↔ 0 < y := by
  have near := abs_le.mp (nearest.abs_sub_le_of_multiple finite multiple)
  constructor
  · intro positive
    by_contra notPositive
    rw [abs_of_nonpos (not_lt.mp notPositive)] at near
    linarith [near.2]
  · intro positive
    rw [abs_of_pos positive] at near
    linarith [near.1]

theorem exists_multiple_int (n : Int) : ∃ m : Int, (n : ℚ) = m * 2 ^ minExponent := by
  obtain ⟨k, smallest⟩ : ∃ k : Nat, minExponent = -(k : Int) := ⟨1074, rfl⟩
  refine ⟨n * 2 ^ k, ?_⟩
  rw [smallest, zpow_neg, zpow_natCast]
  push_cast
  field_simp

section

variable {x y : Float} (finiteX : x.isFinite = true) (finiteY : y.isFinite = true)

include finiteX finiteY

theorem exists_multiple_sub : ∃ n : Int, value x - value y = n * 2 ^ minExponent := by
  obtain ⟨m, multipleX⟩ := exists_multiple finiteX
  obtain ⟨n, multipleY⟩ := exists_multiple finiteY
  exact ⟨m - n, by rw [multipleX, multipleY]; push_cast; ring⟩

theorem exists_multiple_add : ∃ n : Int, value x + value y = n * 2 ^ minExponent := by
  obtain ⟨m, multipleX⟩ := exists_multiple finiteX
  obtain ⟨n, multipleY⟩ := exists_multiple finiteY
  exact ⟨m + n, by rw [multipleX, multipleY]; push_cast; ring⟩

/-- The mean of two doubles is within a few roundings of the exact one. -/
theorem approximates_mean {mean : ℚ} (mean_eq : (value x + value y) / 2 = mean)
    (inRange : InRange mean) : Approximates ((x + y) / 2) mean := by
  have step : (0 : ℚ) < 2 ^ minExponent := by positivity
  have part : 0 ≤ |mean| := abs_nonneg mean
  have total : value x + value y = 2 * mean := by linarith
  have twice : |2 * mean| = 2 * |mean| := by rw [abs_mul, abs_two]
  obtain ⟨n, multiple⟩ := exists_multiple_add finiteX finiteY
  have sum := nearest_add finiteX finiteY
  rw [total] at sum multiple
  have finiteSum := sum.isFinite (inRange.lt (by linarith))
  have sumNear := abs_le.mp (sum.abs_sub_le_of_multiple finiteSum multiple)
  rw [twice] at sumNear
  have half := nearest_div finiteSum (by decide : (2 : Float).isFinite = true) (by
    rw [value_two]
    exact two_ne_zero)
  rw [value_two] at half
  have near : |value (x + y) / 2 - mean| ≤ |mean| / 2 ^ 53 := by
    rw [abs_le]
    constructor <;> linarith [sumNear.1, sumNear.2]
  have size : |value (x + y) / 2| ≤ 2 * |mean| := by
    have := abs_add_le (value (x + y) / 2 - mean) mean
    rw [sub_add_cancel] at this
    linarith
  have finite := half.isFinite (inRange.lt (by linarith))
  have rounded := half.abs_sub_le finite
  refine ⟨finite, ?_⟩
  calc |value ((x + y) / 2) - mean|
      ≤ |value ((x + y) / 2) - value (x + y) / 2| + |value (x + y) / 2 - mean| :=
        abs_sub_le _ _ _
    _ ≤ slack mean := by
      rw [slack]
      linarith

end

end GrowthGrammar.Decimal.Binary64

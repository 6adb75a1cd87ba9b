import GrowthGrammar.Proofs.Decimal.Monotone

/-!
# Products and fractions of doubles

The product of finite doubles is the double nearest to the product of their values
(`nearest_mul`).  The product of the mantissas has 53 digits already, unless both factors are at
the smallest exponent, so no digit is missing when it is cut.

A double times a double from zero up to one is a fraction of it.  The fraction is usually below
the double itself, but not always: half a step of the smallest double is rounded to a whole one,
so a double that is not above 2 ^ -1022 has a fraction that is rounded up to the double
(`belowOne_mul_eq`).  Every other finite double is above all of its fractions (`fraction_lt`), and
infinity is above none (`not_mul_lt_of_infinite`).
-/

namespace GrowthGrammar.Decimal.Binary64

open Float.Model (Format UnpackedFloat)
open Float.Model.UnpackedFloat

/-! ## Products -/

theorem Dyadic.value_mul_value (a b : Dyadic) :
    ((a.num * b.num : Nat) : ℚ) / (a.den * b.den : Nat) = a.value * b.value := by
  rw [Nat.cast_mul, Nat.cast_mul, mul_div_mul_comm, a.num_div_den, b.num_div_den]

theorem sign_mul (a b : Dyadic) :
    a.sign * b.sign = if a.negative != b.negative then .negative else .positive := by
  rw [Dyadic.sign, Dyadic.sign]
  cases a.negative <;> cases b.negative <;> rfl

theorem signed_mul (a b : Dyadic) :
    a.signed * b.signed = withSign (a.negative != b.negative) (a.value * b.value) := by
  rw [Dyadic.signed, Dyadic.signed]
  cases a.negative <;> cases b.negative <;> simp [withSign]

/-- The product of two mantissas has all digits, or it is at the smallest exponent. -/
theorem digits_of_product {a b : Dyadic} (canonicalA : a.Canonical) (canonicalB : b.Canonical)
    (positiveA : 0 < a.mantissa) (positiveB : 0 < b.mantissa) :
    52 ≤ (a.mantissa * b.mantissa).log2 ∨ a.exponent + b.exponent ≤ minExponent := by
  have smallest : minExponent = -1074 := rfl
  have digits {m n : Nat} (full : 2 ^ 52 ≤ m) (positive : 0 < n) : 52 ≤ (m * n).log2 :=
    (Nat.le_log2 (Nat.mul_pos (by omega) positive).ne').mpr
      (full.trans (Nat.le_mul_of_pos_right m positive))
  by_cases fullA : 2 ^ 52 ≤ a.mantissa
  · exact .inl (digits fullA positiveB)
  · by_cases fullB : 2 ^ 52 ≤ b.mantissa
    · exact .inl (by rw [Nat.mul_comm]; exact digits fullB positiveA)
    · have lowA := canonicalA.exponent_eq (not_le.mp fullA)
      have lowB := canonicalB.exponent_eq (not_le.mp fullB)
      exact .inr (by omega)

/-- The product of two values above zero is rounded to the word of their quotient. -/
theorem toNat_pack_mul {a b : Dyadic} (canonicalA : a.Canonical) (canonicalB : b.Canonical)
    (positiveA : 0 < a.mantissa) (positiveB : 0 < b.mantissa) (negative : Bool) :
    (UnpackedFloat.pack .binary64 (roundWithAccuracy .binary64
      (if negative then .negative else .positive) (a.mantissa * b.mantissa)
      (a.exponent + b.exponent) .exact)).toNat =
        if negative then 2 ^ 63 + quotientBits (a.num * b.num) (a.den * b.den)
        else quotientBits (a.num * b.num) (a.den * b.den) := by
  have numA : 0 < a.num := Nat.mul_pos positiveA (Nat.pow_pos two_pos)
  have numB : 0 < b.num := Nat.mul_pos positiveB (Nat.pow_pos two_pos)
  have cut := Cut.exact (a.mantissa * b.mantissa)
  have whole : ((a.mantissa * b.mantissa : Nat) : ℚ) =
      ((a.num * b.num : Nat) : ℚ) / (a.den * b.den : Nat) / 2 ^ (a.exponent + b.exponent) := by
    rw [Dyadic.value_mul_value, Dyadic.value, Dyadic.value, zpow_add₀ two_ne_zero]
    push_cast
    field_simp
  rw [whole] at cut
  exact toNat_pack_roundWithAccuracy (Nat.mul_pos numA numB) (Nat.mul_pos a.den_pos b.den_pos) cut
    (digits_of_product canonicalA canonicalB positiveA positiveB) negative

/-- The product of two finite doubles is the double nearest to the product of their values. -/
theorem nearest_mul {x y : Float} (finiteX : x.isFinite = true) (finiteY : y.isFinite = true) :
    Nearest (x * y) (value x * value y) := by
  obtain ⟨a, decodedX⟩ := exists_decode finiteX
  obtain ⟨b, decodedY⟩ := exists_decode finiteY
  rw [value_of_decode decodedX, value_of_decode decodedY]
  have packed : (x * y).toBits.toBitVec = UnpackedFloat.pack .binary64
      (UnpackedFloat.mul .binary64 a.unpacked b.unpacked) := by
    rw [← unpack_of_decode decodedX, ← unpack_of_decode decodedY]
    rfl
  rcases Nat.eq_zero_or_pos a.mantissa with zeroA | positiveA
  · rw [signed_of_zero zeroA, zero_mul]
    rw [Dyadic.unpacked_of_zero zeroA] at packed
    rcases Nat.eq_zero_or_pos b.mantissa with zeroB | positiveB
    · rw [Dyadic.unpacked_of_zero zeroB] at packed
      exact nearest_of_pack_zero packed
    · rw [Dyadic.unpacked_of_pos positiveB] at packed
      exact nearest_of_pack_zero packed
  · rw [Dyadic.unpacked_of_pos positiveA] at packed
    rcases Nat.eq_zero_or_pos b.mantissa with zeroB | positiveB
    · rw [signed_of_zero zeroB, mul_zero]
      rw [Dyadic.unpacked_of_zero zeroB] at packed
      exact nearest_of_pack_zero packed
    · rw [Dyadic.unpacked_of_pos positiveB] at packed
      rw [signed_mul, ← Dyadic.value_mul_value]
      refine nearest_of_word (Nat.mul_pos a.den_pos b.den_pos) ?_
      rw [← toNat_pack_mul (decode_canonical decodedX) (decode_canonical decodedY) positiveA
        positiveB, ← sign_mul]
      exact congrArg BitVec.toNat packed

/-! ## Doubles that are not negative -/

theorem not_atBottom_of_nonneg {x : Float} (nonneg : 0 ≤ x) : ¬ AtBottom x := by
  rw [nonneg_iff, sign] at nonneg
  rintro (bottom | none)
  · simp [bottom, signOf] at nonneg
  · simp [none, signOf] at nonneg

/-- A double that is not negative and below another one is finite. -/
theorem isFinite_of_nonneg_of_lt {x y : Float} (nonneg : 0 ≤ x) (less : x < y) :
    x.isFinite = true :=
  (isFinite_iff_inside x).mpr ⟨not_atBottom_of_nonneg nonneg, not_atTop_of_lt less⟩

theorem value_nonneg {x : Float} (finite : x.isFinite = true) (nonneg : 0 ≤ x) : 0 ≤ value x := by
  rw [nonneg_iff_not_neg finite, lt_iff_value finite (by decide), value_zero] at nonneg
  exact not_lt.mp nonneg

/-- A double that is not negative and not finite is infinite. -/
theorem eq_infinity_of_nonneg {x : Float} (nonneg : 0 ≤ x) (infinite : ¬ x.isFinite = true) :
    x = infinity := by
  rw [nonneg_iff] at nonneg
  rcases nonneg with zero | positive
  · obtain ⟨s, unpacked⟩ := eq_zero_of_signOf zero
    refine absurd ?_ infinite
    show x.toModel.unpack.isFinite = true
    rw [unpacked]
    rfl
  · rcases positive_of_signOf positive with top | ⟨m, e, h, unpacked⟩
    · exact eq_of_unpack_eq top
    · refine absurd ?_ infinite
      show x.toModel.unpack.isFinite = true
      rw [unpacked]
      rfl

/-! ## Fractions -/

/-- The largest double below one. -/
def belowOne : Float := .ofBits 0x3FEFFFFFFFFFFFFF

theorem value_one : value 1 = 1 :=
  (value_of_parts (m := 2 ^ 52) (e := -52) (by decide)).trans (by norm_num)

theorem value_belowOne : value belowOne = 1 - 1 / 2 ^ 53 :=
  (value_of_parts (m := 2 ^ 53 - 1) (e := -53) (by decide)).trans (by norm_num)

section

variable {u t : Float} (atLeast : 0 ≤ u) (less : u < 1)

include atLeast less

/-- A double from zero up to one is at most the largest one below one. -/
theorem value_le_belowOne : u.isFinite = true ∧ 0 ≤ value u ∧ value u ≤ 1 - 1 / 2 ^ 53 := by
  have finite := isFinite_of_nonneg_of_lt atLeast less
  have nonneg := value_nonneg finite atLeast
  refine ⟨finite, nonneg, ?_⟩
  rw [lt_iff_value finite (by decide), value_one] at less
  obtain ⟨d, decoded⟩ := exists_decode finite
  have canonical := decode_canonical decoded
  rw [value_of_decode_of_nonneg decoded nonneg, Dyadic.value] at less ⊢
  have small : d.exponent ≤ -53 := by
    by_contra large
    have smallest : minExponent = -1074 := rfl
    have full : 2 ^ 52 ≤ d.mantissa := not_lt.mp fun few => by
      have := canonical.exponent_eq few
      omega
    have digits : ((2 ^ 52 : Nat) : ℚ) ≤ d.mantissa := by exact_mod_cast full
    have step : (2 : ℚ) ^ (-52 : Int) ≤ 2 ^ d.exponent :=
      zpow_le_zpow_right₀ one_le_two (by omega)
    have product : ((2 ^ 52 : Nat) : ℚ) * 2 ^ (-52 : Int) ≤ d.mantissa * 2 ^ d.exponent := by
      gcongr
    norm_num at product
    linarith
  have digits : (d.mantissa : ℚ) ≤ ((2 ^ 53 - 1 : Nat) : ℚ) := by
    exact_mod_cast Nat.le_sub_one_of_lt canonical.mantissa_lt
  have step : (2 : ℚ) ^ d.exponent ≤ 2 ^ (-53 : Int) := zpow_le_zpow_right₀ one_le_two small
  have product :
      (d.mantissa : ℚ) * 2 ^ d.exponent ≤ ((2 ^ 53 - 1 : Nat) : ℚ) * 2 ^ (-53 : Int) := by
    gcongr
  norm_num at product ⊢
  linarith

variable (finite : t.isFinite = true) (nonneg : 0 ≤ t)

include finite nonneg

/-- A part of a finite double is rounded to a finite double that is not negative. -/
theorem fraction_cases : (u * t).isFinite = true ∧ 0 ≤ value (u * t) ∧
    0 ≤ value u * value t ∧ value u * value t ≤ value t - value t / 2 ^ 53 := by
  obtain ⟨finiteU, nonnegU, atMost⟩ := value_le_belowOne atLeast less
  have nonnegT := value_nonneg finite nonneg
  have part : value u * value t ≤ value t - value t / 2 ^ 53 := by
    calc value u * value t ≤ (1 - 1 / 2 ^ 53) * value t := by gcongr
      _ = value t - value t / 2 ^ 53 := by ring
  have product : 0 ≤ value u * value t := mul_nonneg nonnegU nonnegT
  have rest : 0 ≤ value t / 2 ^ 53 := by positivity
  obtain ⟨finiteP, nonnegP, -⟩ :=
    (nearest_mul finiteU finite).between finite product (by linarith)
  exact ⟨finiteP, nonnegP, product, part⟩

/-- A double that is large enough is above all of its fractions. -/
theorem fraction_lt (large : (2 : ℚ) ^ (-1022 : Int) < value t) : u * t < t := by
  obtain ⟨finiteP, -, product, part⟩ := fraction_cases atLeast less finite nonneg
  obtain ⟨finiteU, -⟩ := value_le_belowOne atLeast less
  have positive : 0 < value t := lt_trans (by positivity) large
  rw [lt_iff_value finiteP finite]
  have near := (abs_le.mp ((nearest_mul finiteU finite).abs_sub_le_max finiteP)).2
  rw [abs_of_nonneg product] at near
  rcases le_max_iff.mp near with relative | absolute
  · have smaller : value u * value t / 2 ^ 53 < value t / 2 ^ 53 := by
      have : value u * value t < value t := by
        have : 0 < value t / 2 ^ 53 := by positivity
        linarith
      gcongr
    linarith
  · have half : (2 : ℚ) ^ minExponent / 2 < value t / 2 ^ 53 := by
      have exact : (2 : ℚ) ^ minExponent / 2 = 2 ^ (-1022 : Int) / 2 ^ 53 := by
        have split : (2 : ℚ) ^ (-1022 : Int) = 2 ^ minExponent * 2 ^ (52 : Int) := by
          rw [← zpow_add₀ two_ne_zero]
          rfl
        rw [split]
        norm_num
        ring
      rw [exact]
      gcongr
    linarith

end

/-- A double that is not above 2 ^ -1022 is at the smallest exponent. -/
theorem mantissa_le_of_small {d : Dyadic} (canonical : d.Canonical)
    (small : d.value ≤ (2 : ℚ) ^ (-1022 : Int)) :
    d.exponent = minExponent ∧ d.mantissa ≤ 2 ^ 52 := by
  have smallest : minExponent = -1074 := rfl
  have lowest := canonical.minExponent_le
  have split : (2 : ℚ) ^ (-1022 : Int) = 2 ^ 52 * 2 ^ minExponent := by
    rw [← zpow_natCast, ← zpow_add₀ two_ne_zero]
    rfl
  have exponent : d.exponent = minExponent := by
    by_contra larger
    have digits : (2 : ℚ) ^ 52 ≤ d.mantissa := by
      exact_mod_cast not_lt.mp fun few => larger (canonical.exponent_eq few)
    have step : (2 : ℚ) ^ minExponent < 2 ^ d.exponent :=
      zpow_lt_zpow_right₀ one_lt_two (by omega)
    have above : (2 : ℚ) ^ 52 * 2 ^ minExponent < d.mantissa * 2 ^ d.exponent := by
      calc (2 : ℚ) ^ 52 * 2 ^ minExponent < (2 : ℚ) ^ 52 * 2 ^ d.exponent := by gcongr
        _ ≤ (d.mantissa : ℚ) * 2 ^ d.exponent := by gcongr
    rw [split, Dyadic.value] at small
    linarith
  refine ⟨exponent, ?_⟩
  have step : (0 : ℚ) < 2 ^ minExponent := by positivity
  rw [split, Dyadic.value, exponent, mul_le_mul_iff_left₀ step] at small
  exact_mod_cast small

/-- Around a double at the smallest exponent, what is at most half a step below is rounded up to
it, and the middle only if the double is even. -/
theorem contains_of_below {d : Dyadic} (positive : 0 < d.mantissa)
    (exponent : d.exponent = minExponent) {y : ℚ} (le : y ≤ d.value)
    (near : d.value - y ≤ 2 ^ d.exponent / 2)
    (odd : d.mantissa % 2 = 1 → d.value - y < 2 ^ d.exponent / 2) : (ReadBack.of d).Contains y := by
  have step : (0 : ℚ) < 2 ^ d.exponent := by positivity
  have quarter : (2 : ℚ) ^ (ReadBack.of d).exponent = 2 ^ d.exponent / 4 := by
    rw [ReadBack.of, zpow_sub₀ two_ne_zero]
    norm_num
  have low : ((ReadBack.of d).low : ℚ) = 4 * (d.mantissa : ℚ) - 2 := by
    rw [ReadBack.low_of positive, if_neg (fun both => both.2 exponent)]
  have high : ((ReadBack.of d).high : ℚ) = 4 * d.mantissa + 2 := by
    simp [ReadBack.of]
  have closed : (ReadBack.of d).closed = decide (d.mantissa % 2 = 0) := rfl
  rw [Dyadic.value] at le near odd
  constructor
  case low_le =>
    rw [low, quarter]
    linarith
  case le_high =>
    rw [high, quarter]
    linarith
  case inner =>
    intro isOpen
    rw [closed, decide_eq_false_iff_not] at isOpen
    have less := odd (by omega)
    rw [low, high, quarter]
    constructor <;> linarith

/-- The largest fraction of a double that is small is rounded up to the double. -/
theorem belowOne_mul_eq {t : Float} (finite : t.isFinite = true) (positive : 0 < value t)
    (small : value t ≤ (2 : ℚ) ^ (-1022 : Int)) : belowOne * t = t := by
  obtain ⟨d, decoded⟩ := exists_decode finite
  have value_eq := value_of_decode_of_nonneg decoded positive.le
  have canonical := decode_canonical decoded
  rw [value_eq] at positive small
  obtain ⟨exponent, few⟩ := mantissa_le_of_small canonical small
  have step : (0 : ℚ) < 2 ^ d.exponent := by positivity
  have some : 0 < d.mantissa := Nat.pos_of_ne_zero fun none => by
    rw [Dyadic.value, none, Nat.cast_zero, zero_mul] at positive
    exact lt_irrefl 0 positive
  have notNegative : d.negative = false := by
    have signed := (value_of_decode decoded).symm.trans value_eq
    cases sign : d.negative with
    | false => rfl
    | true =>
      rw [Dyadic.signed, sign, withSign, if_pos rfl] at signed
      linarith
  have nearest := nearest_mul (by decide : belowOne.isFinite = true) finite
  rw [value_belowOne, value_eq] at nearest
  have product : 0 < (1 - 1 / 2 ^ 53) * d.value := mul_pos (by norm_num) positive
  rcases nearest.cases_of_nonneg product.le with ⟨zero, -⟩ | ⟨num, den, hn, hd, made, quotient⟩
  · exact absurd zero product.ne'
  · have inside : (ReadBack.of d).Contains ((num : ℚ) / den) := by
      have missing :
          d.value - (1 - 1 / 2 ^ 53) * d.value = d.mantissa / 2 ^ 53 * 2 ^ d.exponent := by
        rw [Dyadic.value]
        ring
      rw [← quotient]
      refine contains_of_below some exponent ?_ ?_ fun odd => ?_
      · have nonneg : 0 ≤ (d.mantissa : ℚ) / 2 ^ 53 * 2 ^ d.exponent := by positivity
        linarith
      · rw [missing]
        have part : (d.mantissa : ℚ) / 2 ^ 53 ≤ 1 / 2 := by
          have : (d.mantissa : ℚ) ≤ 2 ^ 52 := by exact_mod_cast few
          linarith
        nlinarith
      · rw [missing]
        have part : (d.mantissa : ℚ) / 2 ^ 53 < 1 / 2 := by
          have : (d.mantissa : ℚ) < 2 ^ 52 := by exact_mod_cast (by omega : d.mantissa < 2 ^ 52)
          linarith
        nlinarith
    rw [made, ofQuotient, quotientBits_of_contains canonical some hd inside, ← notNegative,
      ofMagnitude_magnitude decoded]

/-! ## Fractions of infinity -/

theorem unpack_mul (x y : Float) :
    (x * y).toModel.unpack = UnpackedFloat.unpack .binary64
      (UnpackedFloat.pack .binary64
        (UnpackedFloat.mul .binary64 x.toModel.unpack y.toModel.unpack)) := rfl

/-- Infinity times something that is not negative is infinite, or no number for zero. -/
theorem atTop_mul_infinity {u : Float} (nonneg : 0 ≤ u) : AtTop (u * infinity) := by
  rw [AtTop, unpack_mul, unpack_infinity]
  rw [nonneg_iff] at nonneg
  rcases nonneg with zero | positive
  · obtain ⟨s, unpacked⟩ := eq_zero_of_signOf zero
    rw [unpacked]
    cases s with
    | positive => exact .inr rfl
    | negative => exact .inr rfl
  · have infinite :
        UnpackedFloat.mul .binary64 u.toModel.unpack (.infinity .positive) = .infinity .positive := by
      rcases positive_of_signOf positive with unpacked | ⟨m, e, h, unpacked⟩
      · rw [unpacked]
        rfl
      · rw [unpacked]
        rfl
    rw [infinite]
    exact .inl rfl

theorem not_mul_lt_of_infinite {u t : Float} (nonnegU : 0 ≤ u) (nonneg : 0 ≤ t)
    (infinite : ¬ t.isFinite = true) (x : Float) : ¬ u * t < x := by
  rw [eq_infinity_of_nonneg nonneg infinite]
  exact fun less => not_atTop_of_lt less (atTop_mul_infinity nonnegU)

/-! ## Which doubles are above their fractions -/

/-- A fraction of a double that is not negative is not negative. -/
theorem not_fraction_neg {u t : Float} (atLeast : 0 ≤ u) (less : u < 1) (nonneg : 0 ≤ t) :
    ¬ u * t < 0 := by
  by_cases finite : t.isFinite = true
  · obtain ⟨finiteP, nonnegP, -⟩ := fraction_cases atLeast less finite nonneg
    rw [lt_iff_value finiteP (by decide), value_zero]
    exact not_lt.mpr nonnegP
  · exact not_mul_lt_of_infinite atLeast nonneg finite 0

theorem pos_iff_sign {x : Float} : 0 < x ↔ sign x = some .gt := by
  rw [lt_iff_compare, unpack_zero, zero_compare, sign]
  rcases signOf x.toModel.unpack with _ | _ | _ | _ <;> decide

theorem nonneg_of_pos {x : Float} (positive : 0 < x) : 0 ≤ x :=
  (nonneg_iff x).mpr (.inr (pos_iff_sign.mp positive))

/-- A double above zero is above its largest fraction exactly if it is finite and large enough. -/
theorem belowOne_mul_lt_iff {t : Float} (positive : 0 < t) :
    belowOne * t < t ↔ t.isFinite = true ∧ (2 : ℚ) ^ (-1022 : Int) < value t := by
  have nonneg := nonneg_of_pos positive
  constructor
  · intro below
    have finite : t.isFinite = true := by
      by_contra infinite
      exact not_mul_lt_of_infinite (by decide) nonneg infinite t below
    refine ⟨finite, ?_⟩
    by_contra small
    rw [belowOne_mul_eq finite ((zero_lt_iff_value finite).mp positive) (not_lt.mp small),
      lt_iff_value finite finite] at below
    exact lt_irrefl _ below
  · rintro ⟨finite, large⟩
    exact fraction_lt (by decide) (by decide) finite nonneg large

end GrowthGrammar.Decimal.Binary64

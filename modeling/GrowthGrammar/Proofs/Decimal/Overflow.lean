import GrowthGrammar.Decimal.Reader
import GrowthGrammar.Proofs.Decimal.Monotone
import GrowthGrammar.Proofs.Decimal.Words

/-!
# Numbers beyond every double

A quotient has no finite double if it is not below the middle between the largest double and the
next power of two (`quotientBits_eq_infinityBits_iff`), so the numbers that are rounded to a finite
double are those whose absolute value is below it (`Nearest.isFinite_iff`).

Rounding a double to some places behind the point does not lead there (`exists_roundTo`).  A double
beyond 2 ^ 53 is whole, so it is a multiple of every such place and stays as it is.  What is below
stays far below the largest double.
-/

namespace GrowthGrammar.Decimal

/-- A quotient is rounded to an even number or beyond it if it is not more than one half below. -/
theorem le_roundDiv_iff_of_even {num den m : Nat} (hd : 0 < den) (even : m % 2 = 0) :
    m ≤ roundDiv num den ↔ (m : ℚ) - 1 / 2 ≤ num / den := by
  have near := abs_le.mp (abs_roundDiv_sub_le num hd)
  constructor
  · intro le
    have le : (m : ℚ) ≤ roundDiv num den := by exact_mod_cast le
    linarith
  · intro close
    rcases le_or_gt (m : ℚ) (num / den) with below | above
    · exact le_roundDiv hd below
    · exact (roundDiv_eq hd (abs_le.mpr ⟨by linarith, by linarith⟩) (by omega)).ge

namespace Binary64

/-- The least number that is rounded to infinity: half a step above the largest double. -/
def overflowBound : Nat := (2 ^ 54 - 1) * 2 ^ 970

theorem zpow_step (n : Nat) : (2 : ℚ) ^ ((970 + n : Nat) : Int) = 2 ^ n * 2 ^ 970 := by
  rw [zpow_natCast, pow_add, mul_comm]

theorem cast_overflowBound : (overflowBound : ℚ) = (2 ^ 54 - 1) * 2 ^ 970 := by
  rw [overflowBound, Nat.cast_mul, Nat.cast_pow, Nat.cast_ofNat]
  norm_num

/-- A quotient has no finite double from half a step above the largest one. -/
theorem quotientBits_eq_infinityBits_iff {num den : Nat} (hd : 0 < den) :
    quotientBits num den = infinityBits ↔ (overflowBound : ℚ) ≤ num / den := by
  have smallest : minExponent = -1074 := rfl
  have infinite : infinityBits = 2047 * 2 ^ 52 := rfl
  have unit : (0 : ℚ) < 2 ^ 970 := by positivity
  have low : (2 : ℚ) ^ (1023 : Int) = 2 ^ 53 * 2 ^ 970 := zpow_step 53
  have high : (2 : ℚ) ^ (1024 : Int) = 2 ^ 54 * 2 ^ 970 := zpow_step 54
  have step : (2 : ℚ) ^ (971 : Int) = 2 ^ 1 * 2 ^ 970 := zpow_step 1
  rw [cast_overflowBound]
  generalize (2 : ℚ) ^ 970 = p at *
  have above : (2 : ℚ) ^ (1023 : Int) ≤ (2 ^ 54 - 1) * p := by
    rw [low]
    gcongr
    norm_num
  have under : (2 ^ 54 - 1) * p ≤ (2 : ℚ) ^ (1024 : Int) := by
    rw [high]
    gcongr
    norm_num
  rcases Nat.eq_zero_or_pos num with rfl | hn
  · have positive : (0 : ℚ) < 2 ^ (1023 : Int) := by positivity
    rw [quotientBits_zero, Nat.cast_zero, zero_div]
    exact iff_of_false (by omega) (not_le_of_gt (positive.trans_le above))
  obtain ⟨atLeast, below⟩ := binaryExponent_between hn hd
  obtain ⟨q, last⟩ : ∃ q, max (binaryExponent num den - 52) minExponent = q := ⟨_, rfl⟩
  have rounded := rounded_significand hn hd last
  have full := rounded.exponent_eq
  have few := rounded.le
  rw [quotientBits_eq hn last rfl, min_eq_right_iff]
  generalize significand :
    roundDiv (num * Nat.pow 2 (-q).toNat) (den * Nat.pow 2 q.toNat) = m at *
  -- the significand matters only if the quotient is as large as the largest double
  rcases lt_trichotomy (binaryExponent num den) 1023 with less | top | more
  · have small : (num : ℚ) / den < 2 ^ (1023 : Int) :=
      below.trans_le (zpow_le_zpow_right₀ one_le_two (by omega))
    exact iff_of_false (by omega) (not_le_of_gt (small.trans_le above))
  · have greatest : q = 971 := by omega
    have half : 2 ^ 53 ≤ m ↔ ((2 ^ 53 : Nat) : ℚ) - 1 / 2 ≤ num / den / 2 ^ q := by
      rw [← significand, le_roundDiv_iff_of_even (scaled_den_pos two_pos hd q.toNat) (by decide),
        steps_eq]
    have same : (((2 ^ 53 : Nat) : ℚ) - 1 / 2) * (2 ^ 1 * p) = (2 ^ 54 - 1) * p := by
      push_cast
      ring
    rw [le_div_iff₀ (by positivity), greatest, step, same] at half
    rw [← half]
    omega
  · have large : (2 : ℚ) ^ (1024 : Int) ≤ num / den :=
      (zpow_le_zpow_right₀ one_le_two (by omega)).trans atLeast
    exact iff_of_true (by omega) (under.trans large)

theorem quotientBits_natAbs_eq_infinityBits_iff (n : Int) {den : Nat} (pos : 0 < den) :
    quotientBits n.natAbs den = infinityBits ↔ den * overflowBound ≤ n.natAbs := by
  have denPos : (0 : ℚ) < den := by exact_mod_cast pos
  rw [quotientBits_eq_infinityBits_iff pos, le_div_iff₀ denPos, mul_comm]
  exact_mod_cast Iff.rfl

/-- Whole numbers with too many digits are beyond every double, halves of them included. -/
theorem two_mul_overflowBound_le : 2 * overflowBound ≤ 10 ^ maxDigits := by decide +kernel

theorem isWritable_iff (n : Int) : isWritable n = true ↔ n.natAbs < 10 ^ maxDigits := by
  rw [isWritable, decide_eq_true_iff, Nat.pow_eq]

theorem isWritable_of_lt {n : Int} (inside : n.natAbs < 2 * overflowBound) : isWritable n = true :=
  (isWritable_iff n).mpr (inside.trans_le two_mul_overflowBound_le)

theorem ne_infinityBits_of_isFinite {negative : Bool} {num den : Nat}
    (finite : (ofQuotient negative num den).isFinite = true) :
    quotientBits num den ≠ infinityBits := by
  intro same
  rw [ofQuotient, same] at finite
  exact not_isFinite_infinity negative finite

theorem isFinite_ofQuotient_iff {negative : Bool} {num den : Nat} :
    (ofQuotient negative num den).isFinite = true ↔ quotientBits num den ≠ infinityBits :=
  ⟨ne_infinityBits_of_isFinite, fun below =>
    isFinite_ofMagnitude (lt_of_le_of_ne (quotientBits_le num den) below) negative⟩

namespace Nearest

variable {x z : Float} {y : ℚ} (nearest : Nearest x y)

include nearest

/-- The numbers with a finite nearest double are those below the bound. -/
theorem isFinite_iff : x.isFinite = true ↔ |y| < overflowBound := by
  obtain ⟨negative, num, den, hd, rfl, rfl⟩ := nearest
  rw [isFinite_ofQuotient_iff, ne_eq, quotientBits_eq_infinityBits_iff hd, not_le, abs_withSign,
    abs_ratio]

/-- A number is rounded as its absolute value is. -/
theorem exists_abs : ∃ z, Nearest z |y| ∧ (z.isFinite = true ↔ x.isFinite = true) ∧
    (x.isFinite = true → value z = |value x|) := by
  obtain ⟨negative, num, den, hd, rfl, rfl⟩ := nearest
  refine ⟨ofQuotient false num den, ⟨false, num, den, hd, rfl, ?_⟩, ?_, fun finite => ?_⟩
  · rw [abs_withSign, abs_ratio]
    rfl
  · rw [isFinite_ofQuotient_iff, isFinite_ofQuotient_iff]
  · rcases Nat.eq_zero_or_pos num with rfl | hn
    · rw [value_ofQuotient_zero, value_ofQuotient_zero, abs_zero]
    · have positive : (ofQuotient false num den).isFinite = true :=
        isFinite_ofQuotient_iff.mpr (isFinite_ofQuotient_iff.mp finite)
      rw [value_ofQuotient hn hd rfl negative finite, value_ofQuotient hn hd rfl false positive,
        abs_withSign, withSign, if_neg Bool.false_ne_true, abs_of_nonneg (by positivity)]

variable (finite : z.isFinite = true)

include finite

/-- What is not further from zero than a double is not rounded further. -/
theorem abs_value_le (le : |y| ≤ value z) : x.isFinite = true ∧ |value x| ≤ value z := by
  obtain ⟨w, rounded, finite_iff, same⟩ := nearest.exists_abs
  obtain ⟨finiteW, notAbove⟩ := rounded.le_value finite (abs_nonneg y) le
  have finiteX := finite_iff.mp finiteW
  exact ⟨finiteX, same finiteX ▸ notAbove⟩

/-- What is not nearer to zero than a double is not rounded nearer. -/
theorem le_abs_value (nonneg : 0 ≤ value z) (le : value z ≤ |y|) (finiteX : x.isFinite = true) :
    value z ≤ |value x| := by
  obtain ⟨w, rounded, finite_iff, same⟩ := nearest.exists_abs
  exact same finiteX ▸ rounded.value_le finite nonneg le (finite_iff.mpr finiteX)

end Nearest

theorem roundDiv_one (n : Nat) : roundDiv n 1 = n :=
  roundDiv_eq Nat.one_pos (by simp) (by simp)

/-- A whole double is found again from its multiple. -/
theorem isFinite_of_whole {d : Dyadic} (canonical : d.Canonical) (whole : 0 ≤ d.exponent)
    (negative : Bool) {scale : Nat} (pos : 0 < scale) :
    (ofQuotient negative (roundDiv (d.num * scale) d.den) scale).isFinite = true := by
  have den : d.den = 1 := by
    rw [Dyadic.den, show (-d.exponent).toNat = 0 by omega, Nat.pow_eq, Nat.pow_zero]
  rw [den, roundDiv_one]
  rcases Nat.eq_zero_or_pos d.num with zero | positive
  · rw [zero, Nat.zero_mul, ofQuotient, quotientBits_zero]
    exact isFinite_ofMagnitude (by decide) negative
  · have scaleNe : (scale : ℚ) ≠ 0 := by positivity
    refine isFinite_ofQuotient_of_le (Nat.mul_pos positive pos) pos rfl canonical ?_ negative
    rw [← d.num_div_den, den, Nat.cast_mul, mul_div_cancel_right₀ _ scaleNe, Nat.cast_one, div_one]

/-- A double with digits behind the point is far below the largest one. -/
theorem isFinite_of_fraction {d : Dyadic} (canonical : d.Canonical) (fraction : d.exponent < 0)
    (negative : Bool) {scale : Nat} (pos : 0 < scale) :
    (ofQuotient negative (roundDiv (d.num * scale) d.den) scale).isFinite = true := by
  have near := abs_roundDiv_sub_le (d.num * scale) d.den_pos
  have scalePos : (1 : ℚ) ≤ scale := by exact_mod_cast pos
  have nearest : Nearest (ofQuotient negative (roundDiv (d.num * scale) d.den) scale)
      (withSign negative ((roundDiv (d.num * scale) d.den : Nat) / scale)) :=
    ⟨negative, _, scale, pos, rfl, rfl⟩
  have small : d.value < 2 ^ 53 := by
    have digits : (d.mantissa : ℚ) < 2 ^ 53 := by exact_mod_cast canonical.mantissa_lt
    have unit : (2 : ℚ) ^ d.exponent ≤ 1 := zpow_le_one_of_nonpos₀ one_le_two fraction.le
    calc d.value = d.mantissa * 2 ^ d.exponent := rfl
      _ ≤ d.mantissa * 1 := by gcongr
      _ < 2 ^ 53 := by rwa [mul_one]
  have large : (2 : ℚ) ^ 53 + 1 < 2 ^ (1023 : Int) :=
    calc (2 : ℚ) ^ 53 + 1 < 2 ^ (54 : Int) := by norm_num
      _ < 2 ^ (1023 : Int) := zpow_lt_zpow_right₀ one_lt_two (by decide)
  refine nearest.isFinite ?_
  rw [abs_withSign, abs_ratio, div_lt_iff₀ (by positivity)]
  rw [Nat.cast_mul, mul_div_right_comm, d.num_div_den] at near
  calc ((roundDiv (d.num * scale) d.den : Nat) : ℚ) ≤ d.value * scale + 1 / 2 := by
        linarith [(abs_le.mp near).2]
    _ ≤ (2 ^ 53 + 1) * scale := by nlinarith
    _ < 2 ^ (1023 : Int) * scale := by gcongr

end Binary64

open Binary64

/-- Rounding to places behind the point does not overflow. -/
theorem exists_roundTo {places : Int} (behind : 0 ≤ places) (x : Float) :
    ∃ y, roundTo places x = some y := by
  rw [roundTo]
  cases decoded : decode x with
  | none => exact ⟨x, rfl⟩
  | some d =>
    obtain ⟨n, scaled⟩ : ∃ n : Nat, max (-400) (min places 1100) = n :=
      ⟨(max (-400) (min places 1100)).toNat, by omega⟩
    have canonical := decode_canonical decoded
    have pos : 0 < Nat.pow 10 n := Nat.pow_pos (by decide)
    have nothing : (-(n : Int)).toNat = 0 := by omega
    have finite : (ofQuotient d.negative
        (roundDiv (d.num * Nat.pow 10 n) d.den) (Nat.pow 10 n)).isFinite = true := by
      rcases le_or_gt 0 d.exponent with whole | fraction
      · exact isFinite_of_whole canonical whole _ pos
      · exact isFinite_of_fraction canonical fraction _ pos
    have one : Nat.pow 10 0 = 1 := rfl
    simp only [scaled, nothing, Int.toNat_natCast, one, Nat.mul_one]
    rw [if_neg (ne_infinityBits_of_isFinite finite)]
    exact ⟨_, rfl⟩

end GrowthGrammar.Decimal

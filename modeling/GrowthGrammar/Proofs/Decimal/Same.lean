import GrowthGrammar.Proofs.Decimal.Absolute
import GrowthGrammar.Proofs.Decimal.Overflow
import GrowthGrammar.Proofs.Decimal.Product
import GrowthGrammar.Proofs.Decimal.Words

/-!
# Doubles that rounding keeps

A finite double other than zero is given by its value (`eq_of_value_eq`), so a number that is the
value of a double is rounded to that double (`Nearest.eq_of_value`), and a double divided by one is
the same double (`div_one_eq`).

A number that is not among the smallest is moved by less than a part in `2 ^ 53`: one that is half a
step away from its double is above the least number with that step (`Nearest.abs_sub_lt`).  No
double other than one is as near to one (`eq_one_of_near`).
-/

namespace GrowthGrammar.Decimal.Binary64

/-- Finite doubles of one value are the same, if it is not zero. -/
theorem eq_of_value_eq {x y : Float} (finiteX : x.isFinite = true) (finiteY : y.isFinite = true)
    (same : value x = value y) (nonzero : value y ≠ 0) : x = y := by
  obtain ⟨a, decodedX⟩ := exists_decode finiteX
  obtain ⟨b, decodedY⟩ := exists_decode finiteY
  rw [value_of_decode decodedX, value_of_decode decodedY] at same
  rw [value_of_decode decodedY] at nonzero
  have positive : 0 < b.mantissa := Nat.pos_of_ne_zero fun zero => nonzero (signed_of_zero zero)
  have equal := compare_unpacked (decode_canonical decodedX) (decode_canonical decodedY)
  rw [same, compare_eq_iff_eq.mpr rfl] at equal
  apply eq_of_unpack_eq
  rw [unpack_of_decode decodedX, unpack_of_decode decodedY]
  rw [Dyadic.unpacked_of_pos positive] at equal ⊢
  exact eq_of_compare_finite equal

namespace Nearest

/-- A number that is the value of a double is rounded to it. -/
theorem eq_of_value {x z : Float} (nearest : Nearest x (value z)) (finite : z.isFinite = true)
    (nonzero : value z ≠ 0) : x = z := by
  have absolute := value_abs finite
  obtain ⟨finiteX, atMost⟩ := nearest.abs_value_le (isFinite_abs finite) absolute.ge
  obtain ⟨n, multiple⟩ := exists_multiple finite
  have near := nearest.abs_sub_le_of_multiple finiteX multiple
  have atLeast := nearest.le_abs_value (isFinite_abs finite) (absolute ▸ abs_nonneg _) absolute.le
    finiteX
  rw [absolute] at atMost atLeast
  refine eq_of_value_eq finiteX finite ?_ nonzero
  rcases abs_eq_abs.mp (atMost.antisymm atLeast) with same | opposite
  · exact same
  · -- The opposite number is too far away.
    have positive : 0 < |value z| := abs_pos.mpr nonzero
    rw [opposite, ← neg_add', abs_neg, ← two_mul, abs_mul, abs_two] at near
    linarith

end Nearest

theorem sign_of_value_eq_zero {x : Float} (finite : x.isFinite = true) (zero : value x = 0) :
    sign x = some .eq := by
  obtain ⟨o, found⟩ := Option.isSome_iff_exists.mp (sign_isSome finite)
  cases o with
  | eq => exact found
  | gt =>
    have positive := (zero_lt_iff_value finite).mp (pos_iff_sign.mpr found)
    exact absurd positive zero.not_gt
  | lt =>
    have negative := (neg_iff x).mpr found
    rw [lt_iff_value finite (by decide), value_zero] at negative
    exact absurd negative zero.not_lt

/-- A finite double divided by one is the same double. -/
theorem div_one_eq {x : Float} (finite : x.isFinite = true) : x / 1 = x := by
  by_cases zero : value x = 0
  · rcases eq_zero_or_eq_negZero (sign_of_value_eq_zero finite zero) with rfl | rfl <;>
      decide +kernel
  · have nearest := nearest_div finite (y := 1) (by decide) (by rw [value_one]; exact one_ne_zero)
    rw [value_one, div_one] at nearest
    exact nearest.eq_of_value finite zero

/-! ## Rounding near a double -/

namespace Nearest

variable {x : Float} {y : ℚ} (nearest : Nearest x y) (finite : x.isFinite = true)

include nearest finite

/-- A number that is not among the smallest is moved by less than a part of it. -/
theorem abs_sub_lt (large : 2 ^ (minExponent + 52) ≤ |y|) : |value x - y| < |y| / 2 ^ 53 := by
  obtain ⟨negative, num, den, hd, rfl, rfl⟩ := nearest
  rw [abs_withSign, abs_ratio] at large
  have hn : 0 < num := by
    rw [Nat.pos_iff_ne_zero]
    rintro rfl
    rw [Nat.cast_zero, zero_div] at large
    exact absurd large (not_le.mpr (by positivity))
  obtain ⟨low, high⟩ := binaryExponent_between hn hd
  have exponent : minExponent + 52 < binaryExponent num den + 1 :=
    (zpow_lt_zpow_iff_right₀ one_lt_two).mp (large.trans_lt high)
  obtain ⟨q, step⟩ : ∃ q, binaryExponent num den - 52 = q := ⟨_, rfl⟩
  have last : max (binaryExponent num den - 52) minExponent = q := by omega
  rw [value_ofQuotient hn hd last negative finite, withSign_sub, abs_withSign, abs_withSign,
    abs_ratio]
  have positive : (0 : ℚ) < 2 ^ q := by positivity
  have least : 2 ^ 52 * (2 : ℚ) ^ q ≤ num / den := by
    rwa [← zpow_natCast, ← zpow_add₀ two_ne_zero, Nat.cast_ofNat, ← step, add_sub_cancel]
  rcases least.eq_or_lt with power | above
  · -- The least number with this step is a double, so it is not moved at all.
    have significand : roundDiv (num * Nat.pow 2 (-q).toNat) (den * Nat.pow 2 q.toNat) =
        2 ^ 52 := by
      have scaled : ((num * Nat.pow 2 (-q).toNat : Nat) : ℚ) / (den * Nat.pow 2 q.toNat : Nat) =
          (2 ^ 52 : Nat) := by
        rw [steps_eq, ← power, mul_div_cancel_right₀ _ positive.ne', Nat.cast_pow, Nat.cast_ofNat]
      refine roundDiv_eq (scaled_den_pos two_pos hd _) ?_ fun _ => ?_ <;>
        rw [scaled, sub_self, abs_zero] <;> norm_num
    rw [significand, ← power, Nat.cast_pow, Nat.cast_ofNat, sub_self, abs_zero]
    positivity
  · have near : |(roundDiv (num * Nat.pow 2 (-q).toNat) (den * Nat.pow 2 q.toNat) : ℚ) * 2 ^ q -
        num / den| ≤ 2 ^ q / 2 := abs_significand_sub_le hd
    rw [lt_div_iff₀ (by norm_num)]
    nlinarith

end Nearest

/-- A double less than a step below one away from one is one. -/
theorem eq_one_of_near {x : Float} (finite : x.isFinite = true)
    (near : |value x - 1| < 1 / 2 ^ 53) : x = 1 := by
  obtain ⟨d, decoded⟩ := exists_decode finite
  have canonical := decode_canonical decoded
  obtain ⟨above, below⟩ := abs_lt.mp near
  have nonneg : 0 ≤ value x := by linarith
  have parts := value_of_decode_of_nonneg decoded nonneg
  have exponent : -53 ≤ d.exponent := by
    have short : (d.mantissa : ℚ) < 2 ^ (53 : Int) := by exact_mod_cast canonical.mantissa_lt
    have large : (2 : ℚ) ^ (-1 : Int) < 2 ^ (53 + d.exponent) := by
      calc (2 : ℚ) ^ (-1 : Int) < value x := by norm_num; linarith
        _ = d.mantissa * 2 ^ d.exponent := parts
        _ ≤ 2 ^ (53 : Int) * 2 ^ d.exponent := by gcongr
        _ = 2 ^ (53 + d.exponent) := (zpow_add₀ two_ne_zero _ _).symm
    have := (zpow_lt_zpow_iff_right₀ one_lt_two).mp large
    omega
  -- Both are multiples of the step below one.
  obtain ⟨k, steps, -⟩ := exists_steps d exponent
  have whole : (k : ℚ) - 2 ^ 53 < 1 ∧ -1 < (k : ℚ) - 2 ^ 53 := by
    rw [parts, steps] at above below
    norm_num at above below
    constructor <;> linarith
  have upper : k < 2 ^ 53 + 1 := by
    have : (k : ℚ) < (2 ^ 53 + 1 : Nat) := by push_cast; linarith
    exact_mod_cast this
  have lower : 2 ^ 53 < k + 1 := by
    have : ((2 ^ 53 : Nat) : ℚ) < (k + 1 : Nat) := by push_cast; linarith
    exact_mod_cast this
  obtain rfl : k = 2 ^ 53 := by omega
  refine eq_of_value_eq finite (by decide) ?_ (by rw [value_one]; exact one_ne_zero)
  rw [parts, steps, value_one]
  norm_num

end GrowthGrammar.Decimal.Binary64

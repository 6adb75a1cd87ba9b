import GrowthGrammar.Proofs.Decimal.Monotone
import GrowthGrammar.Proofs.Decimal.Order

/-!
# Units in the last place

The unit in the last place of a double is what its last binary digit counts (`ulp`).  It is a part
of the double, unless it is the smallest double itself (`ulp_le`), and the next double is one unit
away at least (`value_add_ulp_le`).  A number is off its nearest double by half a unit at most
(`Nearest.abs_sub_le_ulp`).
-/

namespace GrowthGrammar.Decimal.Binary64

/-- What the last digit of a double counts. -/
def ulp (x : Float) : ℚ := 2 ^ ((decode x).map Dyadic.exponent).getD minExponent

theorem ulp_of_decode {x : Float} {d : Dyadic} (decoded : decode x = some d) :
    ulp x = 2 ^ d.exponent := by
  rw [ulp, decoded]
  rfl

/-- The largest double. -/
def largest : ℚ := (2 ^ 53 - 1) * 2 ^ 971

theorem ulp_pos (x : Float) : 0 < ulp x := by
  rw [ulp]
  positivity

section

variable {x : Float} (finite : x.isFinite = true)

include finite

theorem minExponent_le_ulp : 2 ^ minExponent ≤ ulp x := by
  obtain ⟨d, decoded⟩ := exists_decode finite
  rw [ulp_of_decode decoded]
  exact zpow_le_zpow_right₀ one_le_two (decode_canonical decoded).minExponent_le

/-- A double has at most 53 digits. -/
theorem exists_value_eq_mul_ulp :
    ∃ m : Nat, m < 2 ^ 53 ∧ |value x| = m * ulp x ∧
      (m < 2 ^ 52 → ulp x = 2 ^ minExponent) := by
  obtain ⟨d, decoded⟩ := exists_decode finite
  have canonical := decode_canonical decoded
  have nonneg : 0 ≤ d.value := mul_nonneg (Nat.cast_nonneg _) (by positivity)
  refine ⟨d.mantissa, canonical.mantissa_lt, ?_, fun few => ?_⟩
  · rw [value_of_decode decoded, Dyadic.signed, abs_withSign, abs_of_nonneg nonneg,
      ulp_of_decode decoded, Dyadic.value]
  · rw [ulp_of_decode decoded, canonical.exponent_eq few]

theorem abs_value_add_ulp_le : |value x| + ulp x ≤ 2 ^ 53 * ulp x := by
  obtain ⟨m, short, size, -⟩ := exists_value_eq_mul_ulp finite
  have digits : (m : ℚ) + 1 ≤ 2 ^ 53 := by exact_mod_cast short
  calc |value x| + ulp x = (m + 1) * ulp x := by rw [size]; ring
    _ ≤ 2 ^ 53 * ulp x := mul_le_mul_of_nonneg_right digits (ulp_pos x).le

/-- A finite double that is not zero is at least as large as the smallest double. -/
theorem le_abs_value_of_ne_zero (nonzero : value x ≠ 0) : 2 ^ minExponent ≤ |value x| := by
  obtain ⟨m, -, size, -⟩ := exists_value_eq_mul_ulp finite
  have some : m ≠ 0 := by
    rintro rfl
    rw [Nat.cast_zero, zero_mul, abs_eq_zero] at size
    exact nonzero size
  have one : (1 : ℚ) ≤ m := by exact_mod_cast Nat.one_le_iff_ne_zero.mpr some
  calc 2 ^ minExponent ≤ ulp x := minExponent_le_ulp finite
    _ ≤ m * ulp x := le_mul_of_one_le_left (ulp_pos x).le one
    _ = |value x| := size.symm

/-- The last digit counts little against the others, unless there are few of them. -/
theorem ulp_le : ulp x ≤ max (|value x| / 2 ^ 52) (2 ^ minExponent) := by
  obtain ⟨m, -, size, smallest⟩ := exists_value_eq_mul_ulp finite
  rcases lt_or_ge m (2 ^ 52) with few | full
  · exact (smallest few).trans_le (le_max_right _ _)
  · have digits : (2 : ℚ) ^ 52 ≤ m := by exact_mod_cast full
    refine le_max_of_le_left ?_
    rw [size, le_div_iff₀ (by norm_num), mul_comm]
    exact mul_le_mul_of_nonneg_right digits (ulp_pos x).le

/-- The number one unit further from zero is not beyond the power of two that comes after the
largest double. -/
theorem abs_value_add_ulp_le_pow : |value x| + ulp x ≤ 2 ^ 1024 := by
  obtain ⟨d, decoded⟩ := exists_decode finite
  have greatest : ulp x ≤ 2 ^ 971 := by
    rw [ulp_of_decode decoded, ← zpow_natCast]
    exact zpow_le_zpow_right₀ one_le_two (decode_canonical decoded).exponent_le
  calc |value x| + ulp x ≤ 2 ^ 53 * ulp x := abs_value_add_ulp_le finite
    _ ≤ 2 ^ 53 * 2 ^ 971 := by gcongr
    _ = 2 ^ 1024 := by rw [← pow_add]

/-- A double that needs 53 digits from a place on counts that place. -/
theorem zpow_le_ulp {q : Int} (large : 2 ^ 52 * 2 ^ q ≤ |value x|) : 2 ^ q ≤ ulp x := by
  obtain ⟨d, decoded⟩ := exists_decode finite
  have short : |value x| < 2 ^ 53 * ulp x :=
    (lt_add_of_pos_right _ (ulp_pos x)).trans_le (abs_value_add_ulp_le finite)
  rw [ulp_of_decode decoded] at short ⊢
  have less : (2 : ℚ) ^ q < 2 ^ (d.exponent + 1) := by
    rw [zpow_add_one₀ two_ne_zero]
    linarith [large.trans_lt short]
  have exponents := (zpow_lt_zpow_iff_right₀ one_lt_two).mp less
  exact zpow_le_zpow_right₀ one_le_two (by omega)

/-- The next double is one unit away at least. -/
theorem value_add_ulp_le {y : Float} (finiteY : y.isFinite = true) (nonneg : 0 ≤ value x)
    (less : value x < value y) : value x + ulp x ≤ value y := by
  obtain ⟨a, decodedX⟩ := exists_decode finite
  obtain ⟨b, decodedY⟩ := exists_decode finiteY
  have valueX := value_of_decode_of_nonneg decodedX nonneg
  have valueY := value_of_decode_of_nonneg decodedY (nonneg.trans less.le)
  rw [valueX, valueY] at less ⊢
  have exponents : a.exponent ≤ b.exponent := not_lt.mp fun smaller => less.not_gt
    (value_lt_of_exponent_lt (decode_canonical decodedY) (decode_canonical decodedX) smaller)
  obtain ⟨k, steps, -⟩ := exists_steps b exponents
  have step : (0 : ℚ) < 2 ^ a.exponent := by positivity
  rw [steps, Dyadic.value] at less ⊢
  rw [ulp_of_decode decodedX]
  have more : a.mantissa + 1 ≤ k := by
    exact_mod_cast lt_of_mul_lt_mul_right less step.le
  calc a.mantissa * (2 : ℚ) ^ a.exponent + 2 ^ a.exponent
      = (a.mantissa + 1 : Nat) * 2 ^ a.exponent := by push_cast; ring
    _ ≤ k * 2 ^ a.exponent := by gcongr

end

/-- The nearest double is off by half a unit at most. -/
theorem Nearest.abs_sub_le_ulp {x : Float} {y : ℚ} (nearest : Nearest x y)
    (finite : x.isFinite = true) : |value x - y| ≤ ulp x / 2 := by
  obtain ⟨negative, num, den, hd, rfl, rfl⟩ := nearest
  rcases Nat.eq_zero_or_pos num with rfl | hn
  · rw [value_ofQuotient_zero, Nat.cast_zero, zero_div, withSign_zero, sub_zero, abs_zero]
    exact (half_pos (ulp_pos _)).le
  · obtain ⟨q, last⟩ : ∃ q, max (binaryExponent num den - 52) minExponent = q := ⟨_, rfl⟩
    have rounded := value_ofQuotient hn hd last negative finite
    have step : (2 : ℚ) ^ q ≤ ulp (ofQuotient negative num den) := by
      by_cases smallest : q = minExponent
      · exact smallest ▸ minExponent_le_ulp finite
      · -- The quotient has 53 digits from the place where it is cut off, so what it is rounded to
        -- has no fewer.
        refine zpow_le_ulp finite ?_
        obtain ⟨atLeast, -⟩ := binaryExponent_between hn hd
        have digits : ((2 ^ 52 : Nat) : ℚ) ≤ (num * Nat.pow 2 (-q).toNat : Nat) /
            (den * Nat.pow 2 q.toNat : Nat) := by
          rw [steps_eq, le_div_iff₀ (by positivity), Nat.cast_pow, Nat.cast_ofNat, ← zpow_natCast,
            ← zpow_add₀ two_ne_zero]
          refine le_trans (zpow_le_zpow_right₀ one_le_two ?_) atLeast
          omega
        have kept : (2 : ℚ) ^ 52 ≤
            roundDiv (num * Nat.pow 2 (-q).toNat) (den * Nat.pow 2 q.toNat) := by
          exact_mod_cast le_roundDiv (scaled_den_pos two_pos hd _) digits
        rw [rounded, abs_withSign, abs_of_nonneg (by positivity)]
        gcongr
    rw [rounded, withSign_sub, abs_withSign]
    exact (abs_significand_sub_le hd).trans (by linarith)

end GrowthGrammar.Decimal.Binary64

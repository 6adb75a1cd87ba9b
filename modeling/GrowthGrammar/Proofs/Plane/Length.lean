import GrowthGrammar.Proofs.Decimal.Product
import GrowthGrammar.Proofs.Decimal.Same
import GrowthGrammar.Proofs.Plane.Ruler

/-!
# Vectors of length one

A vector that is divided by its length has components up to one, of which one is not near zero
(`Vec.divide_norm`): no ruler measures less than a component, and none measures much more.  A vector
whose length is not finite loses its direction instead: divided by infinity, both of its components
are zero (`Vec.divide_norm_of_not_isFinite`).
-/

namespace GrowthGrammar

open Decimal Decimal.Binary64

namespace Decimal.Binary64

open Float.Model (UnpackedFloat)

theorem unpack_div (x y : Float) :
    (x / y).toModel.unpack = UnpackedFloat.unpack .binary64
      (UnpackedFloat.pack .binary64
        (UnpackedFloat.div .binary64 x.toModel.unpack y.toModel.unpack)) := rfl

/-- A finite double divided by infinity is zero. -/
theorem div_infinity {x : Float} (finite : x.isFinite = true) :
    (x / infinity).isFinite = true ∧ value (x / infinity) = 0 := by
  have unpacked : x.toModel.unpack.isFinite = true := finite
  have quotient : ∃ s, UnpackedFloat.div .binary64 x.toModel.unpack (.infinity .positive) =
      .zero s := by
    cases shape : x.toModel.unpack with
    | zero s | finite s => exact ⟨_, rfl⟩
    | infinity | notANumber =>
      rw [shape] at unpacked
      cases unpacked
  obtain ⟨s, quotient⟩ := quotient
  have zero : sign (x / infinity) = some .eq := by
    rw [sign, unpack_div, unpack_infinity, quotient]
    cases s <;> rfl
  rcases eq_zero_or_eq_negZero zero with same | same
  · rw [same]
    exact ⟨by decide, value_zero⟩
  · rw [same, value_neg (by decide), show (0.0 : Float) = 0 from rfl, value_zero, neg_zero]
    exact ⟨by decide, rfl⟩

theorem value_quarter : value 0.25 = 1 / 4 :=
  (value_of_parts (m := 2 ^ 52) (e := -54) (by decide +kernel)).trans (by norm_num)

end Decimal.Binary64

namespace Vec

variable [Ruler] [LawfulRuler] {v : Vec Float} (finite : v.isFinite = true)

include finite

/-- A length that is one exactly is measured as one. -/
theorem norm_eq_one (one : v.squares = 1) : v.norm = 1 := by
  have inside : v.reach ≤ 1 := by
    rw [reach, max_le_iff, ← sq_le_one_iff_abs_le_one, ← sq_le_one_iff_abs_le_one, ← one]
    exact ⟨le_add_of_nonneg_right (sq_nonneg _), le_add_of_nonneg_left (sq_nonneg _)⟩
  have measured := isFinite_norm_of_reach_le finite inside
  have nonneg := LawfulRuler.nonneg finite measured
  have unitPos := ulp_pos v.norm
  obtain ⟨m, -, size, -⟩ := exists_value_eq_mul_ulp measured
  rw [abs_of_nonneg nonneg] at size
  -- One is a multiple of the unit of the measured length, so the two cannot be less than it apart.
  obtain ⟨k, steps⟩ : ∃ k : Nat, (k : ℚ) * ulp v.norm = 1 := by
    obtain ⟨d, decoded⟩ := exists_decode measured
    have small : ulp v.norm ≤ 2 ^ (0 : Int) := by
      have part := ulp_le measured
      have least : (2 : ℚ) ^ minExponent ≤ 1 := zpow_le_one_of_nonpos₀ one_le_two (by decide)
      have atMost := norm_le finite measured
      rw [abs_of_nonneg nonneg] at part
      rw [zpow_zero]
      refine part.trans (max_le ?_ least)
      rw [div_le_one₀ (by norm_num)]
      linarith
    rw [ulp_of_decode decoded] at small ⊢
    have exponent := (zpow_le_zpow_iff_right₀ one_lt_two).mp small
    refine ⟨2 ^ (-d.exponent).toNat, ?_⟩
    rw [Nat.cast_pow, Nat.cast_ofNat, ← zpow_natCast, ← zpow_add₀ two_ne_zero,
      Int.toNat_of_nonneg (by omega), neg_add_cancel, zpow_zero]
  have above : k < m + 1 := by
    have less := squares_lt finite measured
    rw [one, one_lt_sq_iff₀ (add_nonneg nonneg unitPos.le), size, ← steps] at less
    have whole : (k : ℚ) < (m + 1 : Nat) := by
      push_cast
      refine lt_of_mul_lt_mul_right ?_ unitPos.le
      linarith
    exact_mod_cast whole
  have below : m < k + 1 := by
    rcases Nat.eq_zero_or_pos m with rfl | some
    · omega
    have first : (1 : ℚ) ≤ m := by exact_mod_cast some
    have large : ulp v.norm ≤ value v.norm := size ▸ le_mul_of_one_le_left unitPos.le first
    have less := lt_squares finite measured large
    rw [one, sq_lt_one_iff₀ (sub_nonneg.mpr large), size, ← steps] at less
    have whole : (m : ℚ) < (k + 1 : Nat) := by
      push_cast
      refine lt_of_mul_lt_mul_right ?_ unitPos.le
      linarith
    exact_mod_cast whole
  obtain rfl : m = k := by omega
  refine eq_of_value_eq measured (by decide) ?_ (by rw [value_one]; exact one_ne_zero)
  rw [size, steps, value_one]

/-! ## Vectors divided by their lengths -/

/-- A vector that is divided by an infinite length has lost its direction. -/
theorem divide_norm_of_not_isFinite (beyond : ¬ v.norm.isFinite = true) :
    (v.divide v.norm).isFinite = true ∧ (v.divide v.norm).reach = 0 := by
  obtain ⟨finiteX, finiteY⟩ := v.isFinite_iff.mp finite
  obtain ⟨quotientX, zeroX⟩ := div_infinity finiteX
  obtain ⟨quotientY, zeroY⟩ := div_infinity finiteY
  rw [norm_eq_infinity finite beyond, isFinite_iff, reach, divide]
  simp [quotientX, quotientY, zeroX, zeroY]

/-- The other vectors have components up to one afterwards, of which one is a quarter at least. -/
theorem divide_norm (measured : v.norm.isFinite = true) (nonzero : v.reach ≠ 0) :
    (v.divide v.norm).isFinite = true ∧ (v.divide v.norm).reach ≤ 1 ∧
      1 / 4 ≤ (v.divide v.norm).reach := by
  obtain ⟨finiteX, finiteY⟩ := v.isFinite_iff.mp finite
  have reachPos : 0 < v.reach := lt_of_le_of_ne v.reach_nonneg nonzero.symm
  have above := reach_le_norm finite measured
  have below := norm_le finite measured
  have normPos : 0 < value v.norm := reachPos.trans_le above
  have quotient {x : Float} (finite : x.isFinite = true) (le : |value x| ≤ v.reach) :
      (x / v.norm).isFinite = true ∧ |value (x / v.norm)| ≤ 1 ∧
        (v.reach ≤ |value x| → 1 / 4 ≤ |value (x / v.norm)|) := by
    have nearest := nearest_div finite measured normPos.ne'
    have size : |value x / value v.norm| = |value x| / value v.norm := by
      rw [abs_div, abs_of_pos normPos]
    obtain ⟨finiteQ, atMost⟩ := nearest.abs_value_le (z := 1) (by decide) (by
      rw [size, value_one, div_le_one₀ normPos]
      exact le.trans above)
    rw [value_one] at atMost
    refine ⟨finiteQ, atMost, fun largest => ?_⟩
    rw [← value_quarter]
    refine nearest.le_abs_value (by decide +kernel) (by rw [value_quarter]; norm_num) ?_ finiteQ
    rw [size, value_quarter, div_le_div_iff₀ four_pos normPos]
    linarith
  obtain ⟨quotientX, atMostX, atLeastX⟩ := quotient finiteX (le_max_left _ _)
  obtain ⟨quotientY, atMostY, atLeastY⟩ := quotient finiteY (le_max_right _ _)
  refine ⟨(isFinite_iff _).mpr ⟨quotientX, quotientY⟩, max_le atMostX atMostY, ?_⟩
  rcases max_choice |value v.dx| |value v.dy| with largest | largest
  · exact (atLeastX largest.le).trans (le_max_left _ _)
  · exact (atLeastY largest.le).trans (le_max_right _ _)

end Vec

end GrowthGrammar

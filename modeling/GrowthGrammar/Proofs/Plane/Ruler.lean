import GrowthGrammar.Plane.Length
import GrowthGrammar.Proofs.Decimal.LastDigit
import GrowthGrammar.Proofs.Decimal.Root
import Mathlib.Analysis.Real.Sqrt

/-!
# Rulers

What is known of a measured length is that it is off by less than a unit in the last place, so it is
infinite only if the exact length is beyond the largest double (`LawfulRuler`).  The ruler that
rounds the exact length once is lawful, but a lawful ruler may round to the other neighbour.

The exact length is a square root, so all that follows is told by the sum of the squares
(`Vec.squares_lt`, `Vec.lt_squares`).  A unit is less than the distance to the next double, so a
length is never below a component (`Vec.reach_le_norm`), and it is at most four times the larger one
(`Vec.norm_le`).  Where the length becomes infinite depends on the ruler, but only within a unit of
the largest double (`Vec.isFinite_norm_of_squares_le`, `Vec.not_isFinite_norm_of_le_squares`).
-/

namespace GrowthGrammar

open Decimal Decimal.Binary64

namespace Vec

theorem isFinite_iff (v : Vec Float) :
    v.isFinite = true ↔ v.dx.isFinite = true ∧ v.dy.isFinite = true := by
  rw [isFinite, Bool.and_eq_true]

/-- The sum of the squares of the components. -/
def squares (v : Vec Float) : ℚ := value v.dx ^ 2 + value v.dy ^ 2

/-- The absolute value of the larger component. -/
def reach (v : Vec Float) : ℚ := max |value v.dx| |value v.dy|

theorem squares_nonneg (v : Vec Float) : 0 ≤ v.squares := add_nonneg (sq_nonneg _) (sq_nonneg _)

theorem reach_nonneg (v : Vec Float) : 0 ≤ v.reach := (abs_nonneg _).trans (le_max_left _ _)

theorem reach_eq_zero_iff (v : Vec Float) :
    v.reach = 0 ↔ value v.dx = 0 ∧ value v.dy = 0 := by
  constructor
  · intro zero
    have first : |value v.dx| ≤ 0 := (le_max_left _ _).trans_eq zero
    have second : |value v.dy| ≤ 0 := (le_max_right _ _).trans_eq zero
    exact ⟨abs_nonpos_iff.mp first, abs_nonpos_iff.mp second⟩
  · rintro ⟨zeroX, zeroY⟩
    rw [reach, zeroX, zeroY, abs_zero, max_self]

theorem le_reach_of_ne_zero {v : Vec Float} (finite : v.isFinite = true) (nonzero : v.reach ≠ 0) :
    2 ^ minExponent ≤ v.reach := by
  obtain ⟨finiteX, finiteY⟩ := v.isFinite_iff.mp finite
  rw [ne_eq, reach_eq_zero_iff, not_and_or] at nonzero
  rcases nonzero with first | second
  · exact (le_abs_value_of_ne_zero finiteX first).trans (le_max_left _ _)
  · exact (le_abs_value_of_ne_zero finiteY second).trans (le_max_right _ _)

theorem squares_le (v : Vec Float) : v.squares ≤ 2 * v.reach ^ 2 := by
  have first : value v.dx ^ 2 ≤ v.reach ^ 2 := sq_le_sq' (neg_le_of_abs_le (le_max_left _ _))
    (le_of_abs_le (le_max_left _ _))
  have second : value v.dy ^ 2 ≤ v.reach ^ 2 := sq_le_sq' (neg_le_of_abs_le (le_max_right _ _))
    (le_of_abs_le (le_max_right _ _))
  rw [squares]
  linarith

end Vec

/-! ## The law -/

/-- The law of rulers, on vectors of finite doubles. -/
class LawfulRuler [Ruler] : Prop where
  /-- A length is not negative. -/
  nonneg {v : Vec Float} (finite : v.isFinite = true) (measured : v.norm.isFinite = true) :
    0 ≤ value v.norm
  /-- A finite length is off by less than a unit in the last place. -/
  abs_sub_lt {v : Vec Float} (finite : v.isFinite = true) (measured : v.norm.isFinite = true) :
    |(value v.norm : ℝ) - √(v.squares : ℝ)| < ulp v.norm
  /-- Another length is infinite, and the exact length is beyond the largest double then. -/
  overflow {v : Vec Float} (finite : v.isFinite = true) (beyond : ¬ v.norm.isFinite = true) :
    v.norm = infinity ∧ (largest : ℝ) < √(v.squares : ℝ)

theorem largest_lt_overflowBound : largest < (overflowBound : ℚ) := by
  have step : (2 : ℚ) ^ 971 = 2 * 2 ^ 970 := by rw [← pow_succ']
  rw [largest, cast_overflowBound, step, ← mul_assoc]
  exact mul_lt_mul_of_pos_right (by norm_num) (by positivity)

theorem largest_nonneg : 0 ≤ largest := by
  rw [largest]
  exact mul_nonneg (by norm_num) (by positivity)

/-- A number whose square is near to that of another one is near to it. -/
theorem abs_sub_le_of_abs_sq_sub_le {r l : ℝ} (nonneg : 0 ≤ r) (rootNonneg : 0 ≤ l)
    (square : |r ^ 2 - l ^ 2| ≤ l ^ 2 / 2 ^ 55) : |r - l| ≤ l / 2 ^ 55 := by
  rcases rootNonneg.eq_or_lt with zero | positive
  · rw [← zero] at square ⊢
    norm_num at square
    simp [square]
  · have factors : |r ^ 2 - l ^ 2| = (r + l) * |r - l| := by
      rw [sq_sub_sq, abs_mul, abs_of_nonneg (by linarith)]
    rw [factors] at square
    refine le_of_mul_le_mul_left ?_ positive
    calc l * |r - l| ≤ (r + l) * |r - l| :=
          mul_le_mul_of_nonneg_right (by linarith) (abs_nonneg _)
      _ ≤ l ^ 2 / 2 ^ 55 := square
      _ = l * (l / 2 ^ 55) := by ring

/-- The ruler that rounds the exact length once is lawful. -/
instance LawfulRuler.rounded : LawfulRuler where
  nonneg {v} finite measured := by
    obtain ⟨finiteX, finiteY⟩ := v.isFinite_iff.mp finite
    obtain ⟨r, nearest, nonneg, -, -⟩ := nearest_hypot finiteX finiteY
    have above := nearest.value_le (z := 0) (by decide) value_zero.ge (value_zero.trans_le nonneg)
      measured
    rwa [value_zero] at above
  abs_sub_lt {v} finite measured := by
    obtain ⟨finiteX, finiteY⟩ := v.isFinite_iff.mp finite
    obtain ⟨r, nearest, nonneg, square, -⟩ := nearest_hypot finiteX finiteY
    have rounded := nearest.abs_sub_le_ulp measured
    have digits := (le_abs_self _).trans
      ((le_add_of_nonneg_right (ulp_pos _).le).trans (abs_value_add_ulp_le measured))
    change |r ^ 2 - v.squares| ≤ v.squares / 2 ^ 55 at square
    change |value v.norm - r| ≤ ulp v.norm / 2 at rounded
    change value v.norm ≤ 2 ^ 53 * ulp v.norm at digits
    have unit := ulp_pos v.norm
    generalize value v.norm = n at *
    generalize ulp v.norm = u at *
    have root := Real.sq_sqrt (show (0 : ℝ) ≤ v.squares by exact_mod_cast v.squares_nonneg)
    have rootNonneg := Real.sqrt_nonneg (v.squares : ℝ)
    generalize √(v.squares : ℝ) = l at *
    have square : |(r : ℝ) ^ 2 - l ^ 2| ≤ l ^ 2 / 2 ^ 55 := by
      rw [root]
      exact_mod_cast square
    have rounded : |(n : ℝ) - r| ≤ u / 2 := by exact_mod_cast rounded
    have digits : (n : ℝ) ≤ 2 ^ 53 * u := by exact_mod_cast digits
    have unit : (0 : ℝ) < u := by exact_mod_cast unit
    have nonneg : (0 : ℝ) ≤ r := by exact_mod_cast nonneg
    generalize (n : ℝ) = n at *
    generalize (r : ℝ) = r at *
    generalize (u : ℝ) = u at *
    -- What is rounded is nearer to the root than half a unit.
    have cut := abs_sub_le_of_abs_sq_sub_le nonneg rootNonneg square
    obtain ⟨low, high⟩ := abs_le.mp rounded
    obtain ⟨lowR, highR⟩ := abs_le.mp cut
    rw [abs_lt]
    constructor <;> linarith
  overflow {v} finite beyond := by
    obtain ⟨finiteX, finiteY⟩ := v.isFinite_iff.mp finite
    obtain ⟨r, nearest, nonneg, -, bound⟩ := nearest_hypot finiteX finiteY
    have large : overflowBound ≤ r := not_lt.mp fun below =>
      beyond (nearest.isFinite_iff.mpr (by rwa [abs_of_nonneg nonneg]))
    have positive : 0 < r := (largest_nonneg.trans_lt largest_lt_overflowBound).trans_le large
    refine ⟨nearest.eq_infinity positive beyond, ?_⟩
    have squares : (overflowBound : ℚ) ^ 2 ≤ v.squares := bound.mp large
    have root : (overflowBound : ℝ) ≤ √(v.squares : ℝ) :=
      Real.le_sqrt_of_sq_le (by exact_mod_cast squares)
    exact lt_of_lt_of_le (by exact_mod_cast largest_lt_overflowBound) root

/-! ## Lengths -/

namespace Vec

variable [Ruler] [LawfulRuler] {v : Vec Float} (finite : v.isFinite = true)

include finite

/-- An exact length up to the largest double is measured. -/
theorem isFinite_norm_of_squares_le (le : v.squares ≤ largest ^ 2) : v.norm.isFinite = true := by
  by_contra beyond
  obtain ⟨-, above⟩ := LawfulRuler.overflow finite beyond
  rw [Real.lt_sqrt (by exact_mod_cast largest_nonneg)] at above
  exact absurd le (not_le.mpr (by exact_mod_cast above))

theorem isFinite_norm_of_reach_le (le : v.reach ≤ 1) : v.norm.isFinite = true := by
  refine isFinite_norm_of_squares_le finite (v.squares_le.trans ?_)
  have two : (2 : ℚ) ≤ largest := by
    rw [largest]
    calc (2 : ℚ) ≤ (2 ^ 53 - 1) * 1 := by norm_num
      _ ≤ (2 ^ 53 - 1) * 2 ^ 971 :=
        mul_le_mul_of_nonneg_left (one_le_pow₀ one_le_two) (by norm_num)
  have one : v.reach ^ 2 ≤ 1 := pow_le_one₀ v.reach_nonneg le
  nlinarith

/-- A length that is not finite is infinite. -/
theorem norm_eq_infinity (beyond : ¬ v.norm.isFinite = true) : v.norm = infinity :=
  (LawfulRuler.overflow finite beyond).1

variable (measured : v.norm.isFinite = true)

include measured

theorem squares_lt : v.squares < (value v.norm + ulp v.norm) ^ 2 := by
  have nonneg := LawfulRuler.nonneg finite measured
  have above := (abs_lt.mp (LawfulRuler.abs_sub_lt finite measured)).1
  have root : √(v.squares : ℝ) < ((value v.norm + ulp v.norm : ℚ) : ℝ) := by
    push_cast
    linarith
  rw [Real.sqrt_lt' (by exact_mod_cast add_pos_of_nonneg_of_pos nonneg (ulp_pos _))] at root
  exact_mod_cast root

theorem lt_squares (large : ulp v.norm ≤ value v.norm) :
    (value v.norm - ulp v.norm) ^ 2 < v.squares := by
  have below := (abs_lt.mp (LawfulRuler.abs_sub_lt finite measured)).2
  have root : ((value v.norm - ulp v.norm : ℚ) : ℝ) < √(v.squares : ℝ) := by
    push_cast
    linarith
  rw [Real.lt_sqrt (by exact_mod_cast sub_nonneg.mpr large)] at root
  exact_mod_cast root

omit measured in
/-- An exact length beyond all doubles is not measured. -/
theorem not_isFinite_norm_of_le_squares (beyond : (2 ^ 1024) ^ 2 ≤ v.squares) :
    ¬ v.norm.isFinite = true := by
  intro measured
  have nonneg := LawfulRuler.nonneg finite measured
  have top := abs_value_add_ulp_le_pow measured
  rw [abs_of_nonneg nonneg] at top
  have less := squares_lt finite measured
  have square : (value v.norm + ulp v.norm) ^ 2 ≤ (2 ^ 1024) ^ 2 :=
    pow_le_pow_left₀ (add_nonneg nonneg (ulp_pos _).le) top 2
  exact absurd (less.trans_le square) (not_lt.mpr beyond)

/-- The length is not below the larger component. -/
theorem reach_le_norm : v.reach ≤ value v.norm := by
  obtain ⟨finiteX, finiteY⟩ := v.isFinite_iff.mp finite
  have nonneg := LawfulRuler.nonneg finite measured
  have less := squares_lt finite measured
  -- The next double is a unit away, but the exact length is nearer than that.
  have kept {x : Float} (finite : x.isFinite = true) (le : value x ^ 2 ≤ v.squares) :
      |value x| ≤ value v.norm := by
    by_contra above
    rw [not_le, ← value_abs finite] at above
    have next := value_add_ulp_le measured (isFinite_abs finite) nonneg above
    rw [value_abs finite] at next
    have square := pow_le_pow_left₀ (add_nonneg nonneg (ulp_pos _).le) next 2
    rw [sq_abs] at square
    exact absurd (less.trans_le square) (not_lt.mpr le)
  exact max_le (kept finiteX (le_add_of_nonneg_right (sq_nonneg _)))
    (kept finiteY (le_add_of_nonneg_left (sq_nonneg _)))

/-- A vector of zeros has length zero. -/
theorem value_norm_eq_zero (zero : v.reach = 0) : value v.norm = 0 := by
  have none : v.squares = 0 := by
    obtain ⟨zeroX, zeroY⟩ := v.reach_eq_zero_iff.mp zero
    rw [squares, zeroX, zeroY]
    norm_num
  have nonneg := LawfulRuler.nonneg finite measured
  have near := LawfulRuler.abs_sub_lt finite measured
  rw [none, Rat.cast_zero, Real.sqrt_zero, sub_zero] at near
  have less : |value v.norm| < ulp v.norm := by exact_mod_cast near
  obtain ⟨m, -, size, -⟩ := exists_value_eq_mul_ulp measured
  rw [size] at less
  have digits : (m : ℚ) < 1 := lt_of_mul_lt_mul_right (by rwa [one_mul]) (ulp_pos v.norm).le
  have few : m = 0 := by exact_mod_cast Nat.lt_one_iff.mp (by exact_mod_cast digits)
  rw [few, Nat.cast_zero, zero_mul, abs_eq_zero] at size
  exact size

/-- The length is not above four times the larger component. -/
theorem norm_le : value v.norm ≤ 4 * v.reach := by
  by_cases zero : v.reach = 0
  · rw [value_norm_eq_zero finite measured zero, zero, mul_zero]
  · have smallest := le_reach_of_ne_zero finite zero
    have nonneg := LawfulRuler.nonneg finite measured
    have unit := ulp_le measured
    rw [abs_of_nonneg nonneg] at unit
    have less : value v.norm - ulp v.norm ≤ 2 * v.reach := by
      rcases le_total (ulp v.norm) (value v.norm) with large | small
      · refine le_of_sq_le_sq ?_ (by linarith [v.reach_nonneg])
        have below := lt_squares finite measured large
        have atMost := v.squares_le
        nlinarith [sq_nonneg v.reach]
      · linarith [v.reach_nonneg]
    rcases le_max_iff.mp unit with part | least <;> linarith

end Vec

end GrowthGrammar

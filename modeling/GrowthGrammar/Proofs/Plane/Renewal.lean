import GrowthGrammar.Proofs.Decimal.Same
import GrowthGrammar.Proofs.Plane.Length

/-!
# Vectors divided by their lengths again

A vector that was divided by its length has length one only up to rounding, so dividing it once more
may change it.  It stays the same exactly if its length is one as a double
(`Vec.renewed_eq_self_iff`): the length is close to one, and the larger component has all of its
digits, so no other length is lost by the rounding of the quotient.

What a change amounts to is told by the squares.  The square of a length is near the sum of the
squares of the components (`Vec.abs_sq_norm_sub_le`), so the components of the first quotient have
squares whose sum is near one (`Vec.abs_squares_renewed_sub_le`), and the second division moves
neither of them far (`Vec.abs_renewed_sub_le`).
-/

namespace GrowthGrammar

open Decimal Decimal.Binary64

/-- What has a small exponent is small against all that is told apart here. -/
theorem two_zpow_le {n : Int} (low : n ≤ -100) : (2 : ℚ) ^ n ≤ 1 / 2 ^ 100 := by
  rw [one_div, ← zpow_natCast, ← zpow_neg]
  exact zpow_le_zpow_right₀ one_le_two low

namespace Vec

variable [Ruler]

/-- The vector divided by its length. -/
def renewed (v : Vec Float) : Vec Float := v.divide v.norm

/-! ## Components divided by a length -/

section

variable {v : Vec Float} (measured : v.norm.isFinite = true)

include measured

/-- A component that is not among the smallest doubles stays the same only if the length is one. -/
theorem norm_eq_one_of_div_eq {x : Float} (finiteX : x.isFinite = true)
    (positive : 0 < value v.norm) (least : value v.norm ≤ 4 * |value x|)
    (same : x / v.norm = x) : v.norm = 1 := by
  have nearest := nearest_div finiteX measured positive.ne'
  have size : |value x / value v.norm| = |value x| / value v.norm := by
    rw [abs_div, abs_of_pos positive]
  have quarter : 1 / 4 ≤ |value x / value v.norm| := by
    rw [size, div_le_div_iff₀ four_pos positive]
    linarith
  rw [same] at nearest
  have normal : (2 : ℚ) ^ (minExponent + 52) ≤ 1 / 4 :=
    (two_zpow_le (by decide)).trans (by norm_num)
  have near := nearest.abs_sub_lt finiteX (normal.trans quarter)
  -- What the division moves is the quotient times the distance of the length from one.
  have moved : value x - value x / value v.norm =
      value x / value v.norm * (value v.norm - 1) := by
    field_simp
  rw [moved, abs_mul, div_eq_mul_one_div _ ((2 : ℚ) ^ 53)] at near
  exact eq_one_of_near measured (lt_of_mul_lt_mul_left near (abs_nonneg _))

/-- The quotient of a component is rounded by little. -/
theorem abs_div_norm_sub_le {x : Float} (finiteX : x.isFinite = true)
    (positive : 0 < value v.norm) {c : ℚ} (le : |value x / value v.norm| ≤ c) (small : c ≤ 2) :
    |value (x / v.norm) - value x / value v.norm| ≤ c / 2 ^ 53 + 1 / 2 ^ 101 := by
  have nearest := nearest_div finiteX measured positive.ne'
  have top : (2 : ℚ) < 2 ^ (1023 : Int) := by
    calc (2 : ℚ) = 2 ^ (1 : Int) := (zpow_one 2).symm
      _ < 2 ^ (1023 : Int) := zpow_lt_zpow_right₀ one_lt_two (by decide)
  have finiteQ := nearest.isFinite (le.trans_lt (small.trans_lt top))
  have smallest : (2 : ℚ) ^ minExponent ≤ 1 / 2 ^ 100 := two_zpow_le (by decide)
  have near := nearest.abs_sub_le finiteQ
  norm_num at *
  linarith

/-- Dividing a vector of nearly length one by its length moves no component far. -/
theorem abs_div_sub_self_le {x : Float} (finiteX : x.isFinite = true)
    (atMost : |value x| ≤ 1)
    (near : |value v.norm - 1| ≤ 1 / 2 ^ 47) : |value (x / v.norm) - value x| ≤ 1 / 2 ^ 45 := by
  obtain ⟨low, high⟩ := abs_le.mp near
  have half : 1 / 2 ≤ value v.norm := by linarith
  have positive : 0 < value v.norm := by linarith
  have twice : |value x / value v.norm| ≤ 2 := by
    rw [abs_div, abs_of_pos positive, div_le_iff₀ positive]
    linarith
  have rounded := abs_div_norm_sub_le measured finiteX positive twice le_rfl
  have moved : |value x / value v.norm - value x| ≤ 2 * (1 / 2 ^ 47) := by
    have factors : value x / value v.norm - value x =
        value x / value v.norm * -(value v.norm - 1) := by
      field_simp
      ring
    rw [factors, abs_mul, abs_neg]
    gcongr
  calc |value (x / v.norm) - value x|
      ≤ |value (x / v.norm) - value x / value v.norm| + |value x / value v.norm - value x| :=
        abs_sub_le _ _ _
    _ ≤ 2 / 2 ^ 53 + 1 / 2 ^ 101 + 2 * (1 / 2 ^ 47) := add_le_add rounded moved
    _ ≤ 1 / 2 ^ 45 := by norm_num

end

section

variable [LawfulRuler] {v : Vec Float} (finite : v.isFinite = true)
  (measured : v.norm.isFinite = true)

include finite measured

/-! ## Vectors that stay the same -/

/-- Dividing a vector by its length leaves it as it is exactly if the length is one. -/
theorem renewed_eq_self_iff (large : 1 / 4 ≤ v.reach) : v.renewed = v ↔ v.norm = 1 := by
  obtain ⟨finiteX, finiteY⟩ := v.isFinite_iff.mp finite
  have above := reach_le_norm finite measured
  have below := norm_le finite measured
  have positive : 0 < value v.norm := by linarith
  constructor
  · intro same
    have first : v.dx / v.norm = v.dx := congrArg Vec.dx same
    have second : v.dy / v.norm = v.dy := congrArg Vec.dy same
    rcases max_choice |value v.dx| |value v.dy| with largest | largest <;>
      rw [← reach] at largest <;> rw [largest] at large below
    · exact norm_eq_one_of_div_eq measured finiteX positive below first
    · exact norm_eq_one_of_div_eq measured finiteY positive below second
  · intro one
    rw [renewed, one, divide, div_one_eq finiteX, div_one_eq finiteY]

/-! ## How far vectors are moved -/

/-- The square of a length that is not tiny is near the sum of the squares. -/
theorem abs_sq_norm_sub_le (long : 1 / 2 ^ 40 ≤ value v.norm) :
    |value v.norm ^ 2 - v.squares| ≤ v.squares / 2 ^ 50 := by
  have positive : 0 < value v.norm := lt_of_lt_of_le (by norm_num) long
  have unit : ulp v.norm ≤ value v.norm / 2 ^ 52 := by
    rcases le_max_iff.mp (ulp_le measured) with part | smallest
    · rwa [abs_of_pos positive] at part
    · have least : (2 : ℚ) ^ minExponent ≤ 1 / 2 ^ 100 := two_zpow_le (by decide)
      refine smallest.trans (least.trans ?_)
      rw [le_div_iff₀ (by norm_num)]
      exact le_trans (by norm_num) long
  have below := lt_squares finite measured (unit.trans (div_le_self positive.le (by norm_num)))
  have above := squares_lt finite measured
  have unitPos := ulp_pos v.norm
  generalize value v.norm = n at *
  generalize ulp v.norm = u at *
  -- The error of the length counts twice in its square.
  have twice : n * u ≤ n ^ 2 / 2 ^ 52 := by
    calc n * u ≤ n * (n / 2 ^ 52) := by gcongr
      _ = n ^ 2 / 2 ^ 52 := by ring
  have once : u ^ 2 ≤ n ^ 2 / 2 ^ 104 := by
    calc u ^ 2 ≤ (n / 2 ^ 52) ^ 2 := by gcongr
      _ = n ^ 2 / 2 ^ 104 := by ring
  have square : 0 < n ^ 2 := pow_pos positive 2
  rw [abs_le]
  constructor <;> nlinarith

/-- Divided by its length, a vector has components with squares of nearly one in sum. -/
theorem abs_squares_renewed_sub_le (long : 1 / 2 ^ 40 ≤ value v.norm) :
    |v.renewed.squares - 1| ≤ 1 / 2 ^ 48 := by
  obtain ⟨finiteX, finiteY⟩ := v.isFinite_iff.mp finite
  have positive : 0 < value v.norm := lt_of_lt_of_le (by norm_num) long
  have atMost := reach_le_norm finite measured
  have quotients : |v.squares / value v.norm ^ 2 - 1| ≤ 1 / 2 ^ 49 := by
    obtain ⟨low, high⟩ := abs_le.mp (abs_sq_norm_sub_le finite measured long)
    have square : 0 < value v.norm ^ 2 := pow_pos positive 2
    rw [div_sub_one square.ne', abs_div, abs_of_pos square, div_le_iff₀ square, abs_le]
    constructor <;> linarith
  have component {x : Float} (finiteX : x.isFinite = true) (le : |value x| ≤ v.reach) :
      |value (x / v.norm) ^ 2 - value x ^ 2 / value v.norm ^ 2| ≤ 3 / 2 ^ 52 := by
    have one : |value x / value v.norm| ≤ 1 := by
      rw [abs_div, abs_of_pos positive, div_le_one₀ positive]
      exact le.trans atMost
    have near := abs_div_norm_sub_le measured finiteX positive one one_le_two
    rw [← div_pow]
    generalize value x / value v.norm = a at *
    generalize value (x / v.norm) = q at *
    have difference : |q - a| ≤ 1 / 2 ^ 52 := near.trans (by norm_num)
    have sum : |q + a| ≤ 3 := by
      obtain ⟨low, high⟩ := abs_le.mp difference
      obtain ⟨lowA, highA⟩ := abs_le.mp one
      rw [abs_le]
      constructor <;> linarith
    calc |q ^ 2 - a ^ 2| = |q + a| * |q - a| := by rw [← abs_mul, sq_sub_sq]
      _ ≤ 3 * (1 / 2 ^ 52) := by gcongr
      _ = 3 / 2 ^ 52 := by norm_num
  obtain ⟨lowX, highX⟩ := abs_le.mp (component finiteX (le_max_left _ _))
  obtain ⟨lowY, highY⟩ := abs_le.mp (component finiteY (le_max_right _ _))
  rw [squares, add_div] at quotients
  obtain ⟨low, high⟩ := abs_le.mp quotients
  rw [squares, renewed, divide, abs_le]
  constructor <;> linarith

/-- A vector with such squares has nearly length one. -/
theorem abs_norm_sub_one_le (long : 1 / 2 ^ 40 ≤ value v.norm)
    (near : |v.squares - 1| ≤ 1 / 2 ^ 48) : |value v.norm - 1| ≤ 1 / 2 ^ 47 := by
  obtain ⟨low, high⟩ := abs_le.mp (abs_sq_norm_sub_le finite measured long)
  obtain ⟨lowS, highS⟩ := abs_le.mp near
  have square : |value v.norm ^ 2 - 1| ≤ 1 / 2 ^ 47 := by
    rw [abs_le]
    constructor <;> linarith
  have positive : 0 < value v.norm := lt_of_lt_of_le (by norm_num) long
  have factors : value v.norm ^ 2 - 1 = (value v.norm + 1) * (value v.norm - 1) := by ring
  rw [factors, abs_mul, abs_of_pos (by linarith)] at square
  nlinarith [abs_nonneg (value v.norm - 1)]

end

/-- A vector that was divided by its length is moved little by dividing it again. -/
theorem abs_renewed_sub_le [LawfulRuler] {v : Vec Float} (finite : v.isFinite = true)
    (measured : v.norm.isFinite = true) (long : 1 / 2 ^ 40 ≤ value v.norm) :
    |value v.renewed.renewed.dx - value v.renewed.dx| ≤ 1 / 2 ^ 45 ∧
      |value v.renewed.renewed.dy - value v.renewed.dy| ≤ 1 / 2 ^ 45 := by
  have nonzero : v.reach ≠ 0 := by
    intro zero
    have least := norm_le finite measured
    rw [zero, mul_zero] at least
    exact absurd (long.trans least) (by norm_num)
  obtain ⟨quotient, atMost, atLeast⟩ := divide_norm finite measured nonzero
  have near := abs_squares_renewed_sub_le finite measured long
  rw [← renewed] at quotient atMost atLeast
  generalize v.renewed = h at *
  obtain ⟨finiteX, finiteY⟩ := h.isFinite_iff.mp quotient
  have again := isFinite_norm_of_reach_le quotient atMost
  have longer : 1 / 2 ^ 40 ≤ value h.norm :=
    le_trans (by norm_num) (atLeast.trans (reach_le_norm quotient again))
  have one := abs_norm_sub_one_le quotient again longer near
  exact ⟨abs_div_sub_self_le again finiteX ((le_max_left _ _).trans atMost) one,
    abs_div_sub_self_le again finiteY ((le_max_right _ _).trans atMost) one⟩

end Vec

end GrowthGrammar

import GrowthGrammar.Proofs.Decimal.Absolute
import GrowthGrammar.Proofs.Decimal.Overflow
import Mathlib.Data.Nat.Sqrt

/-!
# Lengths of vectors

`isqrt` is the whole part of a square root (`isqrt_eq_sqrt`): a guess above the root comes at least
half the way to it with every step, so the steps that are allowed are enough.

A length is rounded from a root that is cut off, with one more digit for what is cut off.  This
number is not the root, but it compares with the numbers of a grid as the root does
(`le_root_iff`).  The bound of the doubles is on the grid, so the length is infinite exactly if the
root is not below the bound, and its square is near the sum of the squares of the components
(`nearest_hypot`).
-/

namespace GrowthGrammar.Decimal

/-! ## Whole roots -/

/-- A step from a guess that is not below the root leads to no number below it. -/
theorem le_newton {n s guess : Nat} (below : s * s ≤ n) (le : s ≤ guess) (pos : 0 < guess) :
    s ≤ (guess + n / guess) / 2 := by
  obtain ⟨d, rfl⟩ := Nat.exists_eq_add_of_le le
  have part : s - d ≤ n / (s + d) := by
    rw [Nat.le_div_iff_mul_le pos, Nat.mul_comm, ← Nat.mul_self_sub_mul_self_eq]
    omega
  omega

/-- A step from a guess above the root goes at least half the way. -/
theorem newton_le {n s guess : Nat} (above : n < (s + 1) * (s + 1)) (less : s < guess) :
    (guess + n / guess) / 2 ≤ (guess + s) / 2 := by
  have quotient : n / guess < s + 1 := by
    rw [Nat.div_lt_iff_lt_mul (by omega)]
    exact above.trans_le (Nat.mul_le_mul_left _ less)
  omega

-- The induction is on the steps that are left: each of them halves the distance to the root, which
-- is less than `2 ^ fuel`.
theorem isqrtFrom_eq {n s : Nat} (pos : 0 < s) (below : s * s ≤ n) (above : n < (s + 1) * (s + 1))
    {fuel guess : Nat} (le : s ≤ guess) (near : guess < s + 2 ^ fuel) :
    isqrtFrom n fuel guess = s := by
  induction fuel generalizing guess with
  | zero =>
    rw [isqrtFrom]
    omega
  | succ fuel ih =>
    have next := le_newton below le (by omega)
    rw [isqrtFrom]
    split
    case isTrue down =>
      have half := newton_le above (by omega : s < guess)
      exact ih next (by omega)
    case isFalse stays =>
      by_contra other
      have half := newton_le above (by omega : s < guess)
      omega

/-- `isqrt` is the whole part of the square root. -/
theorem isqrt_eq_sqrt (n : Nat) : isqrt n = Nat.sqrt n := by
  rw [isqrt]
  split
  case isTrue zero => rw [zero, Nat.sqrt_zero]
  case isFalse nonzero =>
    have start : n < 2 ^ (n.log2 / 2 + 1) * 2 ^ (n.log2 / 2 + 1) := by
      rw [← Nat.pow_add]
      exact Nat.lt_log2_self.trans_le (Nat.pow_le_pow_right two_pos (by omega))
    have enough : 2 ^ (n.log2 / 2 + 1) < 2 ^ (n.log2 + 2) :=
      Nat.pow_lt_pow_right one_lt_two (by omega)
    exact isqrtFrom_eq (Nat.sqrt_pos.mpr (Nat.pos_of_ne_zero nonzero)) (Nat.sqrt_le n)
      (Nat.lt_succ_sqrt n) (Nat.sqrt_lt.mpr start).le (enough.trans_le (Nat.le_add_left _ _))

/-- Twice the whole part of a root, and one more if the root is cut off. -/
def stickyRoot (n : Nat) : Nat :=
  if isqrt n * isqrt n = n then 2 * isqrt n else 2 * isqrt n + 1

/-- Half of it compares with whole numbers as the root does. -/
theorem two_mul_le_stickyRoot_iff (k n : Nat) : 2 * k ≤ stickyRoot n ↔ k * k ≤ n := by
  rw [stickyRoot, isqrt_eq_sqrt, ← Nat.le_sqrt]
  split <;> omega

/-- The square of the root with the digit for what is cut off is near the square itself. -/
theorem abs_sq_stickyRoot_sub_le {k n : Nat} (root : k * k ≤ n) :
    (k : ℚ) * |(stickyRoot n : ℚ) ^ 2 - 4 * (n : ℚ)| ≤ 4 * (n : ℚ) := by
  have below := Nat.sqrt_le n
  have above := Nat.lt_succ_sqrt n
  have atLeast : k ≤ Nat.sqrt n := Nat.le_sqrt.mpr root
  rw [stickyRoot, isqrt_eq_sqrt]
  generalize Nat.sqrt n = s at *
  split
  case isTrue exact =>
    have square : ((2 * s : Nat) : ℚ) ^ 2 - 4 * (n : ℚ) = 0 := by
      rw [← exact]
      push_cast
      ring
    rw [square, abs_zero, mul_zero]
    positivity
  case isFalse cut =>
    have strictly : s * s + 1 ≤ n := by omega
    have atMost : n ≤ s * s + 2 * s := by
      have expanded : (s + 1) * (s + 1) = s * s + 2 * s + 1 := by ring
      rw [Nat.succ_eq_add_one] at above
      omega
    have strictly' : (s : ℚ) * s + 1 ≤ n := by exact_mod_cast strictly
    have atMost' : (n : ℚ) ≤ s * s + 2 * s := by exact_mod_cast atMost
    have near : |((2 * s + 1 : Nat) : ℚ) ^ 2 - 4 * (n : ℚ)| ≤ 4 * (s : ℚ) := by
      rw [abs_le]
      push_cast
      constructor <;> nlinarith
    have le : (k : ℚ) ≤ s := by exact_mod_cast atLeast
    calc (k : ℚ) * |((2 * s + 1 : Nat) : ℚ) ^ 2 - 4 * (n : ℚ)| ≤ s * (4 * s) := by gcongr
      _ ≤ 4 * n := by linarith

namespace Binary64

/-! ## Rounded roots -/

section

variable (a b : Nat) (e : Int)

/-- The digits in base two by which the sum of the squares is widened. -/
def rootShift : Nat := (110 - (a * a + b * b).log2 + 1) / 2

/-- The number that the root of the sum of the squares is rounded from. -/
def root : ℚ :=
  stickyRoot ((a * a + b * b) * 4 ^ rootShift a b) * 2 ^ (e - rootShift a b - 1)

theorem root_nonneg : 0 ≤ root a b e := by
  rw [root]
  positivity

/-- It compares with the numbers of its grid as the root does. -/
theorem le_root_iff (k : Nat) :
    k * 2 ^ (e - rootShift a b) ≤ root a b e ↔
      (k * (2 : ℚ) ^ (e - rootShift a b)) ^ 2 ≤ (a * 2 ^ e) ^ 2 + (b * 2 ^ e) ^ 2 := by
  generalize shifted : rootShift a b = shift
  have step : (0 : ℚ) < 2 ^ (e - shift - 1) := by positivity
  have twice : (2 : ℚ) ^ (e - shift) = 2 * 2 ^ (e - shift - 1) := by
    rw [mul_comm, ← zpow_add_one₀ two_ne_zero, sub_add_cancel]
  have square : ((2 : ℚ) ^ e) ^ 2 = 4 ^ shift * ((2 : ℚ) ^ (e - shift)) ^ 2 := by
    have four : (4 : ℚ) ^ shift = (2 ^ (shift : Int)) ^ 2 := by
      rw [zpow_natCast, ← pow_mul, mul_comm, pow_mul]
      norm_num
    rw [four, ← mul_pow, ← zpow_add₀ two_ne_zero, add_sub_cancel]
  have left : k * (2 : ℚ) ^ (e - shift) ≤ root a b e ↔
      2 * k ≤ stickyRoot ((a * a + b * b) * 4 ^ shift) := by
    rw [root, shifted, twice, ← mul_assoc, mul_le_mul_iff_left₀ step, mul_comm (k : ℚ)]
    exact_mod_cast Iff.rfl
  have right : (k * (2 : ℚ) ^ (e - shift)) ^ 2 ≤ (a * 2 ^ e) ^ 2 + (b * 2 ^ e) ^ 2 ↔
      k * k ≤ (a * a + b * b) * 4 ^ shift := by
    have grid : (0 : ℚ) < ((2 : ℚ) ^ (e - shift)) ^ 2 := by positivity
    rw [mul_pow, mul_pow, mul_pow, ← add_mul, square, ← mul_assoc, mul_le_mul_iff_left₀ grid, sq,
      sq, sq]
    exact_mod_cast Iff.rfl
  rw [left, right, two_mul_le_stickyRoot_iff]

/-- The sum of the squares is widened to 110 digits at least. -/
theorem pow_le_widened (some : a * a + b * b ≠ 0) :
    2 ^ 55 * 2 ^ 55 ≤ (a * a + b * b) * 4 ^ rootShift a b := by
  have digits : 110 ≤ (a * a + b * b).log2 + 2 * rootShift a b := by
    rw [rootShift]
    omega
  calc 2 ^ 55 * 2 ^ 55 = 2 ^ 110 := by norm_num
    _ ≤ 2 ^ ((a * a + b * b).log2 + 2 * rootShift a b) := Nat.pow_le_pow_right two_pos digits
    _ = 2 ^ (a * a + b * b).log2 * 4 ^ rootShift a b := by
      rw [Nat.pow_add, Nat.pow_mul, show 2 ^ 2 = 4 from rfl]
    _ ≤ (a * a + b * b) * 4 ^ rootShift a b := by
      gcongr
      exact Nat.log2_self_le some

/-- Its square is near the sum of the squares. -/
theorem abs_sq_root_sub_le :
    |root a b e ^ 2 - (((a : ℚ) * 2 ^ e) ^ 2 + ((b : ℚ) * 2 ^ e) ^ 2)| ≤
      (((a : ℚ) * 2 ^ e) ^ 2 + ((b : ℚ) * 2 ^ e) ^ 2) / 2 ^ 55 := by
  by_cases zero : a * a + b * b = 0
  · have noA : a = 0 := by nlinarith
    have noB : b = 0 := by nlinarith
    have nothing : stickyRoot 0 = 0 := by decide
    simp [root, noA, noB, nothing]
  · have near := abs_sq_stickyRoot_sub_le (pow_le_widened a b zero)
    generalize shifted : rootShift a b = shift at *
    have step : (0 : ℚ) < (2 ^ (e - shift - 1)) ^ 2 := by positivity
    have total : ((a : ℚ) * 2 ^ e) ^ 2 + ((b : ℚ) * 2 ^ e) ^ 2 =
        4 * ((a * a + b * b) * 4 ^ shift : Nat) * (2 ^ (e - shift - 1)) ^ 2 := by
      have wide : ((2 : ℚ) ^ e) = 2 ^ shift * 2 * 2 ^ (e - shift - 1) := by
        rw [← zpow_natCast, ← zpow_add_one₀ two_ne_zero, ← zpow_add₀ two_ne_zero]
        congr 1
        ring
      have four : (4 : ℚ) ^ shift = (2 ^ shift) ^ 2 := by
        rw [← pow_mul, mul_comm, pow_mul]
        norm_num
      rw [wide]
      push_cast
      rw [four]
      ring
    rw [total, root, shifted, mul_pow, ← sub_mul, abs_mul, abs_of_pos step, mul_div_right_comm]
    gcongr
    rw [le_div_iff₀ (by positivity), mul_comm]
    exact_mod_cast near

theorem nearest_rootBits : Nearest (ofMagnitude false (rootBits a b e)) (root a b e) := by
  by_cases zero : a * a + b * b = 0
  · have nothing : stickyRoot 0 = 0 := by decide
    refine ⟨false, 0, 1, Nat.one_pos, ?_, ?_⟩
    · rw [rootBits, if_pos zero, ofQuotient, quotientBits_zero]
    · simp [root, zero, nothing, withSign]
  · obtain ⟨q, last⟩ : ∃ q : Int, q = e - rootShift a b - 1 := ⟨_, rfl⟩
    have bits : rootBits a b e = quotientBits
        (stickyRoot ((a * a + b * b) * 4 ^ rootShift a b) * Nat.pow 2 q.toNat)
        (Nat.pow 2 (-q).toNat) := by
      rw [last, rootBits, if_neg zero]
      rfl
    refine ⟨false, _, Nat.pow 2 (-q).toNat, Nat.pow_pos two_pos,
      congrArg (ofMagnitude false) bits, ?_⟩
    rw [withSign, if_neg Bool.false_ne_true, Nat.cast_mul, mul_div_assoc, pow_div_pow 2 two_pos,
      root, ← last, Nat.cast_ofNat]

end

/-! ## Lengths -/

theorem isInf_of_isFinite {x : Float} (finite : x.isFinite = true) : x.isInf = false := by
  have unpacked : x.toModel.unpack.isFinite = true := finite
  change x.toModel.unpack.isInf = false
  cases shape : x.toModel.unpack with
  | zero | finite | notANumber => rfl
  | infinity =>
    rw [shape] at unpacked
    cases unpacked

/-- A mantissa at a smaller exponent. -/
theorem abs_value_eq {x : Float} {d : Dyadic} (decoded : decode x = some d) {e : Int}
    (le : e ≤ d.exponent) :
    |value x| = (d.mantissa * Nat.pow 2 (d.exponent - e).toNat : Nat) * 2 ^ e := by
  obtain ⟨k, steps, mantissa⟩ := exists_steps d le
  have nonneg : 0 ≤ d.value := mul_nonneg (Nat.cast_nonneg _) (by positivity)
  rw [value_of_decode decoded, Dyadic.signed, abs_withSign, abs_of_nonneg nonneg, steps, mantissa]
  rfl

/-- The bound of the doubles is on the grid if the components are those of doubles. -/
theorem overflowBound_le_root_iff {a b : Nat} {e : Int} (inside : e - rootShift a b ≤ 970) :
    overflowBound ≤ root a b e ↔
      (overflowBound : ℚ) ^ 2 ≤ (a * 2 ^ e) ^ 2 + (b * 2 ^ e) ^ 2 := by
  obtain ⟨n, exponent⟩ := Int.le.dest inside
  have grid : (overflowBound : ℚ) =
      (((2 ^ 54 - 1) * 2 ^ n : Nat) : ℚ) * 2 ^ (e - rootShift a b) := by
    have split : (2 : ℚ) ^ 970 = 2 ^ (e - rootShift a b) * 2 ^ n := by
      rw [← zpow_natCast, ← zpow_natCast, ← zpow_add₀ two_ne_zero, exponent, Nat.cast_ofNat]
    rw [cast_overflowBound, split, Nat.cast_mul, Nat.cast_pow, Nat.cast_ofNat]
    norm_num
    ring
  rw [grid, le_root_iff]

/-- Two mantissas at the largest exponent are widened by two digits at least. -/
theorem shifted_exponent_le {a b : Dyadic} (canonicalA : a.Canonical) (canonicalB : b.Canonical)
    {e : Int} (least : min a.exponent b.exponent = e) :
    e - rootShift (a.mantissa * Nat.pow 2 (a.exponent - e).toNat)
      (b.mantissa * Nat.pow 2 (b.exponent - e).toNat) ≤ 970 := by
  have highestA := canonicalA.exponent_le
  have highestB := canonicalB.exponent_le
  rcases le_or_gt e 970 with low | high
  · omega
  · have shortA := canonicalA.mantissa_lt
    have shortB := canonicalB.mantissa_lt
    have sameA : (a.exponent - e).toNat = 0 := by omega
    have sameB : (b.exponent - e).toNat = 0 := by omega
    rw [sameA, sameB, Nat.pow_eq, Nat.pow_zero, Nat.mul_one, Nat.mul_one, rootShift]
    have squareA := Nat.mul_self_le_mul_self shortA.le
    have squareB := Nat.mul_self_le_mul_self shortB.le
    have digits : (a.mantissa * a.mantissa + b.mantissa * b.mantissa).log2 < 108 := by
      rcases Nat.eq_zero_or_pos (a.mantissa * a.mantissa + b.mantissa * b.mantissa) with zero | pos
      · rw [zero]
        decide
      · exact (Nat.log2_lt pos.ne').mpr (by omega)
    omega

/-- The length of a vector is rounded from the root of two mantissas at one exponent. -/
theorem exists_hypot_eq {x y : Float} (finiteX : x.isFinite = true)
    (finiteY : y.isFinite = true) :
    ∃ m n e, hypot x y = ofMagnitude false (rootBits m n e) ∧ |value x| = m * 2 ^ e ∧
      |value y| = n * 2 ^ e ∧ e - rootShift m n ≤ 970 := by
  obtain ⟨a, decodedX⟩ := exists_decode finiteX
  obtain ⟨b, decodedY⟩ := exists_decode finiteY
  obtain ⟨e, least⟩ : ∃ e, min a.exponent b.exponent = e := ⟨_, rfl⟩
  refine ⟨_, _, e, ?_, abs_value_eq decodedX (e := e) (by omega),
    abs_value_eq decodedY (e := e) (by omega),
    shifted_exponent_le (decode_canonical decodedX) (decode_canonical decodedY) least⟩
  simp only [hypot, isInf_of_isFinite finiteX, isInf_of_isFinite finiteY, decodedX, decodedY,
    least, Bool.or_self, Bool.false_eq_true, if_false]

/-- A length is rounded from a number with a square near the sum of the squares, which is beyond the
doubles exactly if the root of the sum is. -/
theorem nearest_hypot {x y : Float} (finiteX : x.isFinite = true) (finiteY : y.isFinite = true) :
    ∃ r, Nearest (hypot x y) r ∧ 0 ≤ r ∧
      |r ^ 2 - (value x ^ 2 + value y ^ 2)| ≤ (value x ^ 2 + value y ^ 2) / 2 ^ 55 ∧
      (overflowBound ≤ r ↔ (overflowBound : ℚ) ^ 2 ≤ value x ^ 2 + value y ^ 2) := by
  obtain ⟨m, n, e, rounded, valueX, valueY, inside⟩ := exists_hypot_eq finiteX finiteY
  rw [rounded, ← sq_abs (value x), ← sq_abs (value y), valueX, valueY]
  exact ⟨root m n e, nearest_rootBits m n e, root_nonneg m n e, abs_sq_root_sub_le m n e,
    overflowBound_le_root_iff inside⟩

end Binary64

end GrowthGrammar.Decimal

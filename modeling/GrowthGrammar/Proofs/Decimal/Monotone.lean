import GrowthGrammar.Proofs.Decimal.Order

/-!
# Rounding keeps the order

No double lies strictly between a number and the double nearest to it, so rounding never carries
a number past a double: what is not below a double is not rounded below it
(`Nearest.value_le`), and what is not above a finite double is rounded to a finite double that is
not above it (`Nearest.le_value`).

Both are read off the significand of the number.  A double whose exponent is not smaller than the
step of the number is a whole number of steps, and rounding to whole numbers keeps the order
(`le_roundDiv`, `roundDiv_le`).  A double with a smaller exponent is below the number and below
all significands that have 53 digits.
-/

namespace GrowthGrammar.Decimal

/-! ## Whole numbers -/

theorem le_roundDiv {num den m : Nat} (hd : 0 < den) (le : (m : ℚ) ≤ num / den) :
    m ≤ roundDiv num den := by
  have near := abs_le.mp (abs_roundDiv_sub_le num hd)
  have less : (m : ℚ) < (roundDiv num den + 1 : Nat) := by
    push_cast
    linarith
  exact Nat.le_of_lt_succ (by exact_mod_cast less)

theorem roundDiv_le {num den m : Nat} (hd : 0 < den) (le : (num : ℚ) / den ≤ m) :
    roundDiv num den ≤ m := by
  have near := abs_le.mp (abs_roundDiv_sub_le num hd)
  have less : (roundDiv num den : ℚ) < (m + 1 : Nat) := by
    push_cast
    linarith
  exact Nat.le_of_lt_succ (by exact_mod_cast less)

namespace Binary64

/-! ## Significands -/

/-- A double is a whole number of steps of a number if its exponent is not smaller. -/
theorem exists_steps (d : Dyadic) {q : Int} (le : q ≤ d.exponent) :
    ∃ k : Nat, d.value = k * 2 ^ q ∧ k = d.mantissa * 2 ^ (d.exponent - q).toNat := by
  refine ⟨_, ?_, rfl⟩
  have exponent : d.exponent = ((d.exponent - q).toNat : Int) + q := by omega
  rw [Dyadic.value]
  conv_lhs => rw [exponent, zpow_add₀ two_ne_zero, zpow_natCast]
  push_cast
  ring

/-- A number in steps. -/
theorem steps_eq (num den : Nat) (q : Int) :
    ((num * Nat.pow 2 (-q).toNat : Nat) : ℚ) / (den * Nat.pow 2 q.toNat : Nat) =
      num / den / 2 ^ q := by
  rw [scaled_div 2 two_pos, Nat.cast_ofNat, zpow_neg, ← div_eq_mul_inv]

section

variable {num den : Nat} (hn : 0 < num) (hd : 0 < den) {q : Int}
  (last : max (binaryExponent num den - 52) minExponent = q) {d : Dyadic}
  (canonical : d.Canonical)

include hn hd last canonical

/-- A double with a smaller exponent is below the digits of the number. -/
theorem value_lt_of_exponent_lt_step (less : d.exponent < q) :
    d.value < 2 ^ 52 * 2 ^ q ∧ (2 : ℚ) ^ 52 * 2 ^ q ≤ num / den := by
  have lowest := canonical.minExponent_le
  obtain ⟨atLeast, -⟩ := binaryExponent_between hn hd
  obtain rfl : q = binaryExponent num den - 52 := by omega
  have short : (d.mantissa : ℚ) < 2 ^ 53 := by exact_mod_cast canonical.mantissa_lt
  have twice : (2 : ℚ) ^ (d.exponent + 1) ≤ 2 ^ (binaryExponent num den - 52) :=
    zpow_le_zpow_right₀ one_le_two less
  constructor
  · calc d.value < 2 ^ 53 * 2 ^ d.exponent := by
          rw [Dyadic.value]
          gcongr
      _ = 2 ^ 52 * 2 ^ (d.exponent + 1) := by
          rw [zpow_add_one₀ two_ne_zero]
          ring
      _ ≤ 2 ^ 52 * 2 ^ (binaryExponent num den - 52) := by gcongr
  · refine le_of_eq_of_le ?_ atLeast
    rw [← zpow_natCast, ← zpow_add₀ two_ne_zero]
    congr 1
    push_cast
    omega

/-- What is not below a double does not have a significand below it. -/
theorem value_le_significand (le : d.value ≤ num / den) :
    d.value ≤ roundDiv (num * Nat.pow 2 (-q).toNat) (den * Nat.pow 2 q.toNat) * 2 ^ q := by
  have step : (0 : ℚ) < 2 ^ q := by positivity
  have scaledPos := scaled_den_pos two_pos hd q.toNat
  by_cases same : q ≤ d.exponent
  · obtain ⟨k, steps, -⟩ := exists_steps d same
    rw [steps] at le ⊢
    have rounded := le_roundDiv (m := k) scaledPos (by rwa [steps_eq, le_div_iff₀ step])
    gcongr
  · obtain ⟨below, digits⟩ := value_lt_of_exponent_lt_step hn hd last canonical (not_le.mp same)
    have rounded := le_roundDiv (m := 2 ^ 52) scaledPos (by
      rw [steps_eq, le_div_iff₀ step]
      exact_mod_cast digits)
    refine below.le.trans ?_
    gcongr
    exact_mod_cast rounded

/-- What is not above a double has a step that is not larger, and a significand that is not above
it either. -/
theorem significand_le_value (le : num / den ≤ d.value) :
    ∃ k : Nat, roundDiv (num * Nat.pow 2 (-q).toNat) (den * Nat.pow 2 q.toNat) ≤ k ∧
      q ≤ d.exponent ∧ d.value = k * 2 ^ q ∧ k = d.mantissa * 2 ^ (d.exponent - q).toNat := by
  have step : (0 : ℚ) < 2 ^ q := by positivity
  have same : q ≤ d.exponent := by
    by_contra smaller
    obtain ⟨below, digits⟩ :=
      value_lt_of_exponent_lt_step hn hd last canonical (not_le.mp smaller)
    linarith
  obtain ⟨k, steps, exact⟩ := exists_steps d same
  refine ⟨k, roundDiv_le (scaled_den_pos two_pos hd q.toNat) ?_, same, steps, exact⟩
  rwa [steps_eq, div_le_iff₀ step, ← steps]

/-- What is not above a finite double is rounded to a finite double. -/
theorem isFinite_ofQuotient_of_le (le : num / den ≤ d.value) (negative : Bool) :
    (ofQuotient negative num den).isFinite = true := by
  obtain ⟨k, atMost, same, -, exact⟩ := significand_le_value hn hd last canonical le
  have rounded := rounded_significand hn hd last
  have infinite : infinityBits = 2047 * 2 ^ 52 := rfl
  have smallest : minExponent = -1074 := rfl
  refine isFinite_ofMagnitude ?_ negative
  rw [quotientBits_eq hn last rfl]
  refine (min_le_left _ _).trans_lt ?_
  have highest := canonical.exponent_le
  have short := canonical.mantissa_lt
  have few := rounded.le
  -- only at the largest step does it matter that the significand has no further digit
  by_cases top : q = 971
  · obtain rfl : k = d.mantissa := by
      rw [exact, show (d.exponent - q).toNat = 0 by omega, Nat.pow_zero, Nat.mul_one]
    omega
  · omega

end

/-! ## The nearest double -/

theorem value_of_decode_of_nonneg {z : Float} {d : Dyadic} (decoded : decode z = some d)
    (nonneg : 0 ≤ value z) : value z = d.value := by
  have absolute : 0 ≤ d.value := mul_nonneg (Nat.cast_nonneg _) (by positivity)
  rw [value_of_decode decoded, Dyadic.signed, withSign] at nonneg ⊢
  split
  case isTrue negative =>
    rw [if_pos negative] at nonneg
    linarith
  case isFalse => rfl

namespace Nearest

variable {x z : Float} {y : ℚ} (nearest : Nearest x y)

include nearest

/-- A number that is not negative is zero or a quotient above zero. -/
theorem cases_of_nonneg (nonneg : 0 ≤ y) :
    (y = 0 ∧ x.isFinite = true ∧ value x = 0) ∨
      ∃ num den, 0 < num ∧ 0 < den ∧ x = ofQuotient false num den ∧ y = num / den := by
  obtain ⟨negative, num, den, hd, rfl, rfl⟩ := nearest
  rcases Nat.eq_zero_or_pos num with rfl | hn
  · refine .inl ⟨by simp, ?_, value_ofQuotient_zero negative den⟩
    rw [ofQuotient, quotientBits_zero]
    exact isFinite_ofMagnitude (by decide) negative
  · have positive : (0 : ℚ) < num / den := by positivity
    cases negative with
    | false => exact .inr ⟨num, den, hn, hd, rfl, rfl⟩
    | true =>
      rw [withSign, if_pos rfl] at nonneg
      linarith

variable (finite : z.isFinite = true)

include finite

/-- What is not below a double is not rounded below it. -/
theorem value_le (nonneg : 0 ≤ value z) (le : value z ≤ y) (finiteX : x.isFinite = true) :
    value z ≤ value x := by
  obtain ⟨d, decoded⟩ := exists_decode finite
  have canonical := decode_canonical decoded
  rcases nearest.cases_of_nonneg (nonneg.trans le) with ⟨zero, -, rounded⟩ |
    ⟨num, den, hn, hd, rfl, rfl⟩
  · rwa [rounded, ← zero]
  · obtain ⟨q, last⟩ : ∃ q, max (binaryExponent num den - 52) minExponent = q := ⟨_, rfl⟩
    rw [value_of_decode_of_nonneg decoded nonneg] at le ⊢
    rw [value_ofQuotient hn hd last false finiteX]
    exact value_le_significand hn hd last canonical le

/-- What is not above a finite double is rounded to a finite double that is not above it. -/
theorem le_value (nonneg : 0 ≤ y) (le : y ≤ value z) :
    x.isFinite = true ∧ value x ≤ value z := by
  obtain ⟨d, decoded⟩ := exists_decode finite
  have canonical := decode_canonical decoded
  rcases nearest.cases_of_nonneg nonneg with ⟨-, finiteX, rounded⟩ | ⟨num, den, hn, hd, rfl, rfl⟩
  · exact ⟨finiteX, rounded.trans_le (nonneg.trans le)⟩
  · obtain ⟨q, last⟩ : ∃ q, max (binaryExponent num den - 52) minExponent = q := ⟨_, rfl⟩
    have value_eq := value_of_decode_of_nonneg decoded (nonneg.trans le)
    rw [value_eq] at le ⊢
    have finiteX := isFinite_ofQuotient_of_le hn hd last canonical le false
    refine ⟨finiteX, ?_⟩
    obtain ⟨k, atMost, -, steps, -⟩ := significand_le_value hn hd last canonical le
    rw [value_ofQuotient hn hd last false finiteX, withSign, if_neg Bool.false_ne_true, steps]
    gcongr

/-- A number from zero up to a finite double is rounded to a double between the two. -/
theorem between (nonneg : 0 ≤ y) (le : y ≤ value z) :
    x.isFinite = true ∧ 0 ≤ value x ∧ value x ≤ value z := by
  obtain ⟨finiteX, notAbove⟩ := nearest.le_value finite nonneg le
  have notBelow := nearest.value_le (z := 0) (by decide) value_zero.ge (value_zero.trans_le nonneg)
    finiteX
  rw [value_zero] at notBelow
  exact ⟨finiteX, notBelow, notAbove⟩

end Nearest

end Binary64

end GrowthGrammar.Decimal

import Mathlib
import GrowthGrammar.Decimal.Binary64

/-!
# Quotients of natural numbers

All rounding starts from a quotient of natural numbers, and a power with an integer
exponent is split between the numerator and the denominator.  Here such quotients are
rational numbers (`scaled_div`), the nearest whole number is within one half of the
quotient (`abs_roundDiv_sub_le`), and there is only one such number apart from ties
(`roundDiv_eq`).

The leading exponents of a quotient in base two and in base ten place it between two
powers.
-/

namespace GrowthGrammar.Decimal

/-! ## Split powers -/

theorem pow_div_pow (b : Nat) (hb : 0 < b) (n : Int) :
    ((Nat.pow b n.toNat : Nat) : ℚ) / ((Nat.pow b (-n).toNat : Nat) : ℚ) = (b : ℚ) ^ n := by
  have hb' : (b : ℚ) ≠ 0 := by positivity
  rcases le_total 0 n with up | down
  · obtain ⟨k, rfl⟩ := Int.eq_ofNat_of_zero_le up
    simp
  · obtain ⟨k, hk⟩ := Int.eq_ofNat_of_zero_le (Int.neg_nonneg_of_nonpos down)
    obtain rfl : n = -(k : Int) := by omega
    simp

theorem scaled_div (b : Nat) (hb : 0 < b) (num den : Nat) (n : Int) :
    ((num * Nat.pow b (-n).toNat : Nat) : ℚ) / ((den * Nat.pow b n.toNat : Nat) : ℚ) =
      num / den * (b : ℚ) ^ (-n) := by
  have split := pow_div_pow b hb (-n)
  rw [Int.neg_neg] at split
  rw [← split, div_mul_div_comm]
  push_cast
  rfl

theorem scaled_den_pos {b : Nat} (hb : 0 < b) {den : Nat} (hd : 0 < den) (n : Nat) :
    0 < den * Nat.pow b n :=
  Nat.mul_pos hd (Nat.pow_pos hb)

/-! ## The nearest whole number -/

/-- A quotient is its whole part and a fraction below one. -/
theorem div_eq_whole_add (num : Nat) {den : Nat} (hd : 0 < den) :
    (num : ℚ) / den = (num / den : Nat) + ((num % den : Nat) : ℚ) / den := by
  have hd' : (0 : ℚ) < den := by exact_mod_cast hd
  have whole : (den : ℚ) * (num / den : Nat) + (num % den : Nat) = num := by
    exact_mod_cast Nat.div_add_mod num den
  field_simp
  linarith

theorem fraction_lt_half_iff (num : Nat) {den : Nat} (hd : 0 < den) :
    ((num % den : Nat) : ℚ) / den < 1 / 2 ↔ 2 * (num % den) < den := by
  have hd' : (0 : ℚ) < den := by exact_mod_cast hd
  rw [div_lt_div_iff₀ hd' two_pos, one_mul, mul_comm]
  exact_mod_cast Iff.rfl

theorem half_lt_fraction_iff (num : Nat) {den : Nat} (hd : 0 < den) :
    1 / 2 < ((num % den : Nat) : ℚ) / den ↔ den < 2 * (num % den) := by
  have hd' : (0 : ℚ) < den := by exact_mod_cast hd
  rw [div_lt_div_iff₀ two_pos hd', one_mul, mul_comm]
  exact_mod_cast Iff.rfl

/-- Rounding, by the fraction of the quotient. -/
theorem roundDiv_cases (num : Nat) {den : Nat} (hd : 0 < den) :
    roundDiv num den =
      if ((num % den : Nat) : ℚ) / den < 1 / 2 then num / den
      else if 1 / 2 < ((num % den : Nat) : ℚ) / den then num / den + 1
      else num / den + num / den % 2 := by
  simp only [roundDiv, fraction_lt_half_iff num hd, half_lt_fraction_iff num hd]

theorem fraction_mem (num : Nat) {den : Nat} (hd : 0 < den) :
    0 ≤ ((num % den : Nat) : ℚ) / den ∧ ((num % den : Nat) : ℚ) / den < 1 := by
  have hd' : (0 : ℚ) < den := by exact_mod_cast hd
  refine ⟨by positivity, ?_⟩
  rw [div_lt_one hd']
  exact_mod_cast Nat.mod_lt num hd

/-- Rounding moves a quotient by at most one half. -/
theorem abs_roundDiv_sub_le (num : Nat) {den : Nat} (hd : 0 < den) :
    |(roundDiv num den : ℚ) - num / den| ≤ 1 / 2 := by
  obtain ⟨nonneg, below⟩ := fraction_mem num hd
  rw [roundDiv_cases num hd, div_eq_whole_add num hd, abs_le]
  generalize ((num % den : Nat) : ℚ) / den = fraction at *
  split
  case isTrue small => constructor <;> linarith
  case isFalse notSmall =>
    split
    case isTrue large =>
      push_cast
      constructor <;> linarith
    case isFalse notLarge =>
      have atMost : ((num / den % 2 : Nat) : ℚ) ≤ 1 := by
        exact_mod_cast Nat.le_of_lt_succ (Nat.mod_lt _ two_pos)
      have atLeast : (0 : ℚ) ≤ (num / den % 2 : Nat) := by positivity
      push_cast at *
      constructor <;> linarith

/-- A whole number within one half of a quotient is the one it is rounded to, if it is
even or nearer than one half. -/
theorem roundDiv_eq {num den m : Nat} (hd : 0 < den) (near : |(m : ℚ) - num / den| ≤ 1 / 2)
    (tie : m % 2 = 1 → |(m : ℚ) - num / den| < 1 / 2) : roundDiv num den = m := by
  obtain ⟨nonneg, below⟩ := fraction_mem num hd
  rw [div_eq_whole_add num hd] at near tie
  rw [roundDiv_cases num hd]
  generalize ((num % den : Nat) : ℚ) / den = fraction at *
  generalize num / den = whole at *
  rw [abs_le] at near
  rw [abs_lt] at tie
  have atLeast : whole ≤ m := by
    have : (whole : ℚ) < m + 1 := by linarith
    exact Nat.le_of_lt_succ (by exact_mod_cast this)
  have atMost : m ≤ whole + 1 := by
    have : (m : ℚ) < whole + 1 + 1 := by linarith
    exact Nat.le_of_lt_succ (by exact_mod_cast this)
  obtain rfl | rfl : m = whole ∨ m = whole + 1 := by omega
  · split
    case isTrue => rfl
    case isFalse notSmall =>
      have even : ¬ m % 2 = 1 := fun odd => notSmall (by linarith [(tie odd).1])
      rw [if_neg (by linarith)]
      omega
  · push_cast at near tie
    rw [if_neg (by linarith)]
    split
    case isTrue => rfl
    case isFalse notLarge =>
      have even : ¬ (whole + 1) % 2 = 1 := fun odd => notLarge (by linarith [(tie odd).2])
      omega

/-- Of two whole numbers that are equally near, a quotient is rounded to the even one. -/
theorem even_roundDiv_of_tie {num den : Nat} (hd : 0 < den)
    (tie : |(roundDiv num den : ℚ) - num / den| = 1 / 2) : Even (roundDiv num den) := by
  rw [← Nat.not_odd_iff_even]
  intro odd
  have remainder := Nat.odd_iff.mp odd
  have other {m : Nat} (near : |(m : ℚ) - num / den| = 1 / 2) (even : m % 2 = 0) :
      roundDiv num den = m :=
    roundDiv_eq hd near.le fun isOdd => by omega
  rcases (abs_eq (by norm_num)).mp tie with above | below
  · have near : |((roundDiv num den - 1 : Nat) : ℚ) - num / den| = 1 / 2 := by
      rw [Nat.cast_sub (by omega), Nat.cast_one, abs_eq (by norm_num)]
      exact .inr (by linarith)
    have same := other near (by omega)
    omega
  · have near : |((roundDiv num den + 1 : Nat) : ℚ) - num / den| = 1 / 2 := by
      rw [Nat.cast_add, Nat.cast_one, abs_eq (by norm_num)]
      exact .inl (by linarith)
    have same := other near (by omega)
    omega

/-! ## Leading exponents -/

theorem digitCount_pos (n : Nat) : 0 < digitCount n := Nat.length_toDigits_pos

/-- A number lies between the powers of ten that its digits count. -/
theorem pow_digitCount {n : Nat} (hn : 0 < n) :
    10 ^ (digitCount n - 1) ≤ n ∧ n < 10 ^ digitCount n := by
  constructor
  · by_cases one : digitCount n = 1
    · rw [one]
      exact hn
    · have counted := digitCount_pos n
      have longer : ¬ (Nat.toDigits 10 n).length ≤ digitCount n - 1 := by
        rw [← digitCount]
        omega
      rw [Nat.length_toDigits_le_iff (by decide) (by omega)] at longer
      exact Nat.le_of_not_lt longer
  · exact (Nat.length_toDigits_le_iff (by decide) (digitCount_pos n)).mp le_rfl

/-- The difference of two leading exponents, one less where it is too large, is the
leading exponent of the quotient. -/
theorem quotient_between {b : Nat} (hb : 2 ≤ b) {num den i j : Nat} {guess e : Int}
    (lowNum : b ^ i ≤ num) (highNum : num < b ^ (i + 1)) (lowDen : b ^ j ≤ den)
    (highDen : den < b ^ (j + 1)) (guessed : guess = (i : Int) - j)
    (mended : e = if num * Nat.pow b (-guess).toNat < den * Nat.pow b guess.toNat then guess - 1
      else guess) :
    (b : ℚ) ^ e ≤ num / den ∧ (num : ℚ) / den < (b : ℚ) ^ (e + 1) := by
  have positive : 0 < b := by omega
  have base : (0 : ℚ) < b := by exact_mod_cast positive
  have denPos : 0 < den := lt_of_lt_of_le (Nat.pow_pos positive) lowDen
  have denPos' : (0 : ℚ) < den := by exact_mod_cast denPos
  have test : num * Nat.pow b (-guess).toNat < den * Nat.pow b guess.toNat ↔
      (num : ℚ) / den < (b : ℚ) ^ guess := by
    have scaledPos := scaled_den_pos positive denPos guess.toNat
    have scaledPos' : (0 : ℚ) < (den * Nat.pow b guess.toNat : Nat) := by exact_mod_cast scaledPos
    rw [← Nat.cast_lt (α := ℚ), ← div_lt_one scaledPos', scaled_div b positive, zpow_neg,
      ← div_eq_mul_inv, div_lt_one (zpow_pos base _)]
  have numPos : (0 : ℚ) < num := by exact_mod_cast lt_of_lt_of_le (Nat.pow_pos positive) lowNum
  have low : (b : ℚ) ^ (guess - 1) < num / den := by
    have power : (b : ℚ) ^ (guess - 1) = (b : ℚ) ^ i / (b : ℚ) ^ (j + 1) := by
      rw [guessed, show (i : Int) - j - 1 = (i : Int) - (j + 1 : Nat) by push_cast; ring,
        zpow_sub₀ base.ne', zpow_natCast, zpow_natCast]
    calc (b : ℚ) ^ (guess - 1) = (b : ℚ) ^ i / (b : ℚ) ^ (j + 1) := power
      _ ≤ num / (b : ℚ) ^ (j + 1) := by gcongr; exact_mod_cast lowNum
      _ < num / den := by gcongr; exact_mod_cast highDen
  have high : (num : ℚ) / den < (b : ℚ) ^ (guess + 1) := by
    have power : (b : ℚ) ^ (guess + 1) = (b : ℚ) ^ (i + 1) / (b : ℚ) ^ j := by
      rw [guessed, show (i : Int) - j + 1 = (i + 1 : Nat) - (j : Int) by push_cast; ring,
        zpow_sub₀ base.ne', zpow_natCast, zpow_natCast]
    calc (num : ℚ) / den ≤ num / (b : ℚ) ^ j := by gcongr; exact_mod_cast lowDen
      _ < (b : ℚ) ^ (i + 1) / (b : ℚ) ^ j := by gcongr; exact_mod_cast highNum
      _ = (b : ℚ) ^ (guess + 1) := power.symm
  rw [mended]
  split
  case isTrue below => exact ⟨low.le, by rwa [Int.sub_add_cancel, ← test]⟩
  case isFalse notBelow => exact ⟨not_lt.mp (mt test.mpr notBelow), high⟩

/-- A positive quotient lies between the powers of ten of its leading exponent. -/
theorem leadingExponent_between {num den : Nat} (hn : 0 < num) (hd : 0 < den) :
    (10 : ℚ) ^ leadingExponent num den ≤ num / den ∧
      (num : ℚ) / den < (10 : ℚ) ^ (leadingExponent num den + 1) := by
  have countNum := digitCount_pos num
  have countDen := digitCount_pos den
  obtain ⟨lowNum, highNum⟩ := pow_digitCount hn
  obtain ⟨lowDen, highDen⟩ := pow_digitCount hd
  have guessed : (digitCount num : Int) - digitCount den =
      (digitCount num - 1 : Nat) - (digitCount den - 1 : Nat) := by omega
  have between := quotient_between (by decide) lowNum (by rwa [Nat.sub_add_cancel countNum]) lowDen
    (by rwa [Nat.sub_add_cancel countDen]) guessed (show leadingExponent num den = _ from rfl)
  exact_mod_cast between

/-- A positive quotient lies between the powers of two of its leading exponent. -/
theorem binaryExponent_between {num den : Nat} (hn : 0 < num) (hd : 0 < den) :
    (2 : ℚ) ^ Binary64.binaryExponent num den ≤ num / den ∧
      (num : ℚ) / den < (2 : ℚ) ^ (Binary64.binaryExponent num den + 1) := by
  have between := quotient_between le_rfl (Nat.log2_self_le hn.ne') Nat.lt_log2_self
    (Nat.log2_self_le hd.ne') Nat.lt_log2_self rfl
    (show Binary64.binaryExponent num den = _ from rfl)
  exact_mod_cast between

/-- A quotient lies between two successive powers in one way only. -/
theorem exponent_unique {b : ℚ} (hb : 1 < b) {x : ℚ} {m n : Int} (lowM : b ^ m ≤ x)
    (highM : x < b ^ (m + 1)) (lowN : b ^ n ≤ x) (highN : x < b ^ (n + 1)) : m = n := by
  have first : m < n + 1 := (zpow_lt_zpow_iff_right₀ hb).mp (lowM.trans_lt highN)
  have second : n < m + 1 := (zpow_lt_zpow_iff_right₀ hb).mp (lowN.trans_lt highM)
  omega

end GrowthGrammar.Decimal

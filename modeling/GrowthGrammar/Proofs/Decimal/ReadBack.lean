import Mathlib
import GrowthGrammar.Decimal.Shortest
import GrowthGrammar.Proofs.Decimal.Bits
import GrowthGrammar.Proofs.Decimal.Rounding

/-!
# The numbers that read back as a double

Around every double there is an interval of rational numbers that are rounded to it
(`ReadBack.Contains`).  Main statement: a quotient in the interval has the word of the
double (`quotientBits_of_contains`).

The proof measures the quotient in steps of the double.  Usually the rounded significand
is the mantissa.  The one exception lies just below a power of two, where the step is
half as long and the significand rounds up to the power.
-/

namespace GrowthGrammar.Decimal

/-! ## Values -/

/-- The absolute value. -/
def Dyadic.value (d : Dyadic) : ℚ := d.mantissa * 2 ^ d.exponent

/-- The value. -/
def Scientific.value (s : Scientific) : ℚ := s.digits * 10 ^ s.exponent

theorem Dyadic.num_div_den (d : Dyadic) : (d.num : ℚ) / d.den = d.value := by
  have split := pow_div_pow 2 two_pos d.exponent
  rw [Dyadic.value, ← Nat.cast_ofNat, ← split, Dyadic.num, Dyadic.den, Nat.cast_mul, mul_div_assoc]

theorem Dyadic.den_pos (d : Dyadic) : 0 < d.den := Nat.pow_pos two_pos

/-- The number lies in the interval, and not at its ends unless they belong to it. -/
structure ReadBack.Contains (r : ReadBack) (x : ℚ) : Prop where
  /-- The lower end is not above the number. -/
  low_le : r.low * 2 ^ r.exponent ≤ x
  /-- The upper end is not below the number. -/
  le_high : x ≤ r.high * 2 ^ r.exponent
  /-- An open interval does not have its ends. -/
  inner : r.closed = false → r.low * 2 ^ r.exponent < x ∧ x < r.high * 2 ^ r.exponent

/-- The interval in steps of the double. -/
structure Dyadic.Near (d : Dyadic) (y : ℚ) : Prop where
  /-- The number is at most half a step away. -/
  near : |(d.mantissa : ℚ) - y| ≤ 1 / 2
  /-- It is nearer than that to an odd mantissa. -/
  odd : d.mantissa % 2 = 1 → |(d.mantissa : ℚ) - y| < 1 / 2
  /-- Below a power of two it is at most a quarter of a step away. -/
  power : d.mantissa = 2 ^ 52 → d.exponent ≠ Binary64.minExponent → 2 ^ 52 - 1 / 4 ≤ y

/-- The lower end, in quarters of a step. -/
theorem ReadBack.low_of {d : Dyadic} (positive : 0 < d.mantissa) :
    ((ReadBack.of d).low : ℚ) =
      if d.mantissa = 2 ^ 52 ∧ d.exponent ≠ Binary64.minExponent then 4 * (d.mantissa : ℚ) - 1
      else 4 * (d.mantissa : ℚ) - 2 := by
  simp only [ReadBack.of, Nat.pow_eq]
  split
  · rw [Nat.cast_sub (by omega)]
    push_cast
    rfl
  · rw [Nat.cast_sub (by omega)]
    push_cast
    rfl

theorem ReadBack.Contains.near {d : Dyadic} (positive : 0 < d.mantissa) {x : ℚ}
    (inside : (ReadBack.of d).Contains x) : d.Near (x / 2 ^ d.exponent) := by
  have step : (0 : ℚ) < 2 ^ d.exponent := by positivity
  have quarter : (2 : ℚ) ^ (ReadBack.of d).exponent = 2 ^ d.exponent / 4 := by
    rw [ReadBack.of, zpow_sub₀ two_ne_zero]
    norm_num
  obtain ⟨y, rfl⟩ : ∃ y, x = y * 2 ^ d.exponent := ⟨x / 2 ^ d.exponent, by field_simp⟩
  rw [mul_div_cancel_right₀ y step.ne']
  have inQuarters (a : ℚ) : a * 2 ^ (ReadBack.of d).exponent = a / 4 * 2 ^ d.exponent := by
    rw [quarter]
    ring
  have high_eq : ((ReadBack.of d).high : ℚ) = 4 * d.mantissa + 2 := by
    simp [ReadBack.of]
  have closed_eq : (ReadBack.of d).closed = decide (d.mantissa % 2 = 0) := rfl
  obtain ⟨low, high, inner⟩ := inside
  rw [inQuarters, mul_le_mul_iff_left₀ step] at low high
  rw [inQuarters, mul_lt_mul_iff_left₀ step, inQuarters, mul_lt_mul_iff_left₀ step] at inner
  rw [high_eq] at high inner
  have low_ge : 4 * (d.mantissa : ℚ) - 2 ≤ (ReadBack.of d).low := by
    rw [low_of positive]
    split <;> linarith
  constructor
  case near =>
    rw [abs_le]
    constructor <;> linarith
  case odd =>
    intro odd
    have ends := inner (by rw [closed_eq, odd]; rfl)
    rw [abs_lt]
    constructor <;> linarith
  case power =>
    intro mantissa exponent
    rw [low_of positive, if_pos ⟨mantissa, exponent⟩, mantissa] at low
    push_cast at low
    linarith

/-! ## Rounding within the interval -/

/-- What the word of a quotient is, once the exponent of its last digit is known. -/
theorem quotientBits_eq {num den m : Nat} (hn : 0 < num) {q : Int}
    (last : max (Binary64.binaryExponent num den - 52) Binary64.minExponent = q)
    (rounded : roundDiv (num * Nat.pow 2 (-q).toNat) (den * Nat.pow 2 q.toNat) = m) :
    Binary64.quotientBits num den =
      min ((q - Binary64.minExponent).toNat * 2 ^ 52 + m) Binary64.infinityBits := by
  rw [Binary64.quotientBits, if_neg hn.ne']
  simp only [last, rounded]
  rw [Nat.pow_eq]

theorem Dyadic.Canonical.magnitude_lt {d : Dyadic} (canonical : d.Canonical) :
    d.magnitude < Binary64.infinityBits := by
  obtain ⟨mantissa, lowest, highest, -⟩ := canonical
  have smallest : Binary64.minExponent = -1074 := rfl
  have infinite : Binary64.infinityBits = 2047 * 2 ^ 52 := rfl
  rw [Dyadic.magnitude, infinite]
  omega

section

variable {d : Dyadic} {num den : Nat} {y : ℚ} (hd : 0 < den)
  (value : (num : ℚ) / den = y * 2 ^ d.exponent)

include value

/-- The quotient against a power of two is the number of steps against one. -/
theorem pow_le_quotient_iff (n : Nat) :
    (2 : ℚ) ^ (d.exponent + n) ≤ num / den ↔ 2 ^ n ≤ y := by
  have step : (0 : ℚ) < 2 ^ d.exponent := by positivity
  rw [value, zpow_add₀ two_ne_zero, zpow_natCast, mul_comm, mul_le_mul_iff_left₀ step]

theorem quotient_lt_pow_iff (n : Nat) :
    (num : ℚ) / den < 2 ^ (d.exponent + n) ↔ y < 2 ^ n := by
  rw [← not_le, pow_le_quotient_iff value, not_le]

include hd

/-- Rounding the quotient to a multiple of a power of two. -/
theorem roundDiv_scaled_eq {m : Nat} {q : Int}
    (near : |(m : ℚ) - y * 2 ^ (d.exponent - q)| ≤ 1 / 2)
    (tie : m % 2 = 1 → |(m : ℚ) - y * 2 ^ (d.exponent - q)| < 1 / 2) :
    roundDiv (num * Nat.pow 2 (-q).toNat) (den * Nat.pow 2 q.toNat) = m := by
  have scaled : ((num * Nat.pow 2 (-q).toNat : Nat) : ℚ) / (den * Nat.pow 2 q.toNat : Nat) =
      y * 2 ^ (d.exponent - q) := by
    rw [scaled_div 2 two_pos, value, Nat.cast_ofNat, mul_assoc, ← zpow_add₀ two_ne_zero,
      sub_eq_add_neg]
  exact roundDiv_eq (scaled_den_pos two_pos hd _) (by rwa [scaled]) (by rwa [scaled])

/-- If the last digit of the quotient is a step, its significand is the mantissa. -/
theorem quotientBits_of_near (hn : 0 < num) (canonical : d.Canonical) (near : d.Near y)
    (last : max (Binary64.binaryExponent num den - 52) Binary64.minExponent = d.exponent) :
    Binary64.quotientBits num den = d.magnitude := by
  have rounded : roundDiv (num * Nat.pow 2 (-d.exponent).toNat)
      (den * Nat.pow 2 d.exponent.toNat) = d.mantissa := by
    refine roundDiv_scaled_eq hd value ?_ ?_ <;> rw [sub_self, zpow_zero, mul_one]
    · exact near.near
    · exact near.odd
  rw [quotientBits_eq hn last rounded, ← Dyadic.magnitude]
  exact min_eq_left canonical.magnitude_lt.le

/-- If the last digit of the quotient is half a step, its significand is rounded up to
the next power of two. -/
theorem quotientBits_of_near_below (hn : 0 < num) (canonical : d.Canonical) (near : d.Near y)
    (below : y < 2 ^ 52) (notSmallest : d.exponent ≠ Binary64.minExponent)
    (last : Binary64.binaryExponent num den = d.exponent + 51) :
    Binary64.quotientBits num den = d.magnitude := by
  have finite := canonical.magnitude_lt
  obtain ⟨mantissaLt, lowest, -, short⟩ := canonical
  obtain ⟨-, above⟩ := abs_le.mp near.near
  have mantissa : d.mantissa = 2 ^ 52 := by
    have atLeast : 2 ^ 52 ≤ d.mantissa := not_lt.mp fun small => notSmallest (short small)
    have atMost : (d.mantissa : ℚ) < (2 ^ 52 + 1 : Nat) := by
      push_cast
      linarith
    have : d.mantissa < 2 ^ 52 + 1 := by exact_mod_cast atMost
    omega
  have quarter := near.power mantissa notSmallest
  have rounded : roundDiv (num * Nat.pow 2 (-(d.exponent - 1)).toNat)
      (den * Nat.pow 2 (d.exponent - 1).toNat) = 2 ^ 53 := by
    refine roundDiv_scaled_eq hd value ?_ (fun odd => by norm_num at odd)
    rw [sub_sub_cancel, zpow_one, abs_le]
    push_cast
    constructor <;> linarith
  have word : (d.exponent - 1 - Binary64.minExponent).toNat * 2 ^ 52 + 2 ^ 53 = d.magnitude := by
    rw [Dyadic.magnitude, mantissa]
    omega
  rw [quotientBits_eq (q := d.exponent - 1) hn (by omega) rounded, word]
  exact min_eq_left finite.le

end

/-- A quotient in the interval of a double has the word of the double. -/
theorem quotientBits_of_contains {d : Dyadic} (canonical : d.Canonical) (positive : 0 < d.mantissa)
    {num den : Nat} (hd : 0 < den) (inside : (ReadBack.of d).Contains ((num : ℚ) / den)) :
    Binary64.quotientBits num den = d.magnitude := by
  have near := inside.near positive
  obtain ⟨y, value⟩ : ∃ y, (num : ℚ) / den = y * 2 ^ d.exponent :=
    ⟨num / den / 2 ^ d.exponent, by field_simp⟩
  rw [value, mul_div_cancel_right₀ y (by positivity)] at near
  obtain ⟨below, above⟩ := abs_le.mp near.near
  have mantissaGe : (1 : ℚ) ≤ d.mantissa := by exact_mod_cast positive
  have mantissaLe : (d.mantissa : ℚ) + 1 ≤ 2 ^ 53 := by exact_mod_cast canonical.mantissa_lt
  have numPos : 0 < num := by
    rw [Nat.pos_iff_ne_zero]
    rintro rfl
    have nothing : y = 0 := by
      have step : (2 : ℚ) ^ d.exponent ≠ 0 := by positivity
      simpa [step] using value
    linarith
  obtain ⟨low, high⟩ := binaryExponent_between numPos hd
  -- from here on up, the last digit of the quotient is one step of the double
  by_cases large : (2 : ℚ) ^ 52 ≤ y
  · have lower := (pow_le_quotient_iff value 52).mpr large
    have upper : (num : ℚ) / den < 2 ^ (d.exponent + 52 + 1) := by
      rw [add_assoc]
      exact (quotient_lt_pow_iff value 53).mpr (by linarith)
    have leading := exponent_unique one_lt_two low high lower upper
    have lowest := canonical.minExponent_le
    exact quotientBits_of_near hd value numPos canonical near (by omega)
  · rw [not_le] at large
    have upper := (quotient_lt_pow_iff value 52).mpr large
    have short : Binary64.binaryExponent num den < d.exponent + 52 :=
      (zpow_lt_zpow_iff_right₀ one_lt_two).mp (low.trans_lt upper)
    -- below, it is half a step, unless there is no smaller exponent
    by_cases smallest : d.exponent = Binary64.minExponent
    · exact quotientBits_of_near hd value numPos canonical near (by omega)
    · have full : (2 ^ 52 : ℚ) ≤ d.mantissa := by
        exact_mod_cast not_lt.mp fun few => smallest (canonical.exponent_eq few)
      have lower := (pow_le_quotient_iff value 51).mpr (by linarith)
      have leading := exponent_unique one_lt_two low high lower (by rwa [add_assoc])
      exact quotientBits_of_near_below hd value numPos canonical near large smallest leading

end GrowthGrammar.Decimal

import GrowthGrammar.Proofs.Decimal.ReadBack
import GrowthGrammar.Proofs.Decimal.Words

/-!
# How arithmetic rounds

Arithmetic on doubles computes a mantissa with too many digits, cuts digits off it and rounds
by two bits that tell what was cut off.  `Cut` says which numbers a mantissa with two such bits
stands for.  Cutting one more digit halves the number (`Cut.shiftRightOne`), and the rounded
mantissa is the whole number nearest to it (`Cut.roundedMantissa_eq`).

Main statement: what arithmetic packs has the word of the quotient that it stands for
(`toNat_pack_roundWithAccuracy`), so it is the double that `ofQuotient` makes.  The mantissa has to
have 53 digits or to be at the smallest exponent, so that digits are only cut off.
-/

namespace GrowthGrammar.Decimal

open Float.Model (Format UnpackedFloat)
open Float.Model.UnpackedFloat

/-! ## Digits that are cut off -/

/-- The number that a mantissa and the first digit behind it say. -/
def withHalf (em : ExtendedMantissa) : ℚ := em.mantissa + if em.roundBit then 1 / 2 else 0

/-- A mantissa stands for a number: what is left of it behind the first digit is less than one
half, and the last bit tells whether anything is left. -/
structure Cut (em : ExtendedMantissa) (y : ℚ) : Prop where
  /-- The number is not below its digits. -/
  le : withHalf em ≤ y
  /-- It is less than one half above them. -/
  lt : y < withHalf em + 1 / 2
  /-- The last bit tells whether the digits are the number. -/
  sticky : em.stickyBit = true ↔ withHalf em < y

namespace Cut

theorem exact (m : Nat) : Cut (ExtendedMantissa.ofMantissaAndAccuracy m .exact) m := by
  constructor <;> simp [withHalf, ExtendedMantissa.ofMantissaAndAccuracy]

/-- The whole part of a quotient stands for it, with the rest compared with one half. -/
theorem quotient (num : Nat) {den : Nat} (hd : 0 < den) :
    Cut (ExtendedMantissa.ofMantissaAndAccuracy (num / den)
      (accuracyOfFraction (num % den) den)) (num / den) := by
  obtain ⟨nonneg, below⟩ := fraction_mem num hd
  have less := fraction_lt_half_iff num hd
  have more := half_lt_fraction_iff num hd
  have none : ((num % den : Nat) : ℚ) / den = 0 ↔ num % den = 0 := by
    rw [div_eq_zero_iff, Nat.cast_eq_zero, Nat.cast_eq_zero]
    exact or_iff_left hd.ne'
  rw [div_eq_whole_add num hd]
  generalize ((num % den : Nat) : ℚ) / den = fraction at *
  rw [accuracyOfFraction]
  split
  case isTrue zero =>
    rw [none.mpr zero, add_zero]
    exact exact _
  case isFalse nonzero =>
    have positive : 0 < fraction := lt_of_le_of_ne nonneg fun same => nonzero (none.mp same.symm)
    rcases lt_trichotomy (2 * (num % den)) den with lt | eq | gt
    · have small := less.mpr lt
      rw [compare_lt_iff_lt.mpr lt]
      constructor <;>
        simp only [withHalf, ExtendedMantissa.ofMantissaAndAccuracy, Bool.false_eq_true, if_false,
          true_iff] <;> linarith
    · have half : fraction = 1 / 2 :=
        le_antisymm (not_lt.mp fun large => (more.mp large).ne' eq)
          (not_lt.mp fun small => (less.mp small).ne eq)
      rw [compare_eq_iff_eq.mpr eq, half]
      constructor <;> norm_num [withHalf, ExtendedMantissa.ofMantissaAndAccuracy]
    · have large := more.mpr gt
      rw [compare_gt_iff_gt.mpr gt]
      constructor <;>
        simp only [withHalf, ExtendedMantissa.ofMantissaAndAccuracy, if_true, true_iff] <;> linarith

variable {em : ExtendedMantissa} {y : ℚ}

theorem mantissa_le (cut : Cut em y) : (em.mantissa : ℚ) ≤ y := by
  have low := cut.le
  rw [withHalf] at low
  split at low <;> linarith

theorem lt_mantissa_succ (cut : Cut em y) : y < em.mantissa + 1 := by
  have high := cut.lt
  rw [withHalf] at high
  split at high <;> linarith

/-- The digits that are left when one more is cut off. -/
theorem withHalf_shiftRightOne (em : ExtendedMantissa) :
    withHalf em.shiftRightOne = em.mantissa / 2 := by
  have split : ((em.mantissa / 2 : Nat) : ℚ) * 2 + (em.mantissa % 2 : Nat) = em.mantissa := by
    exact_mod_cast Nat.div_add_mod' em.mantissa 2
  rw [withHalf, ExtendedMantissa.shiftRightOne]
  rcases Nat.mod_two_eq_zero_or_one em.mantissa with even | odd
  · simp only [even, bne_self_eq_false, Bool.false_eq_true, if_false]
    rw [even] at split
    push_cast at split
    linarith
  · have set : (1 != 0) = true := rfl
    simp only [odd, set, if_true]
    rw [odd] at split
    push_cast at split
    linarith

/-- Without its last digit, a mantissa stands for half the number. -/
theorem shiftRightOne (cut : Cut em y) : Cut em.shiftRightOne (y / 2) := by
  have low := cut.mantissa_le
  have high := cut.lt_mantissa_succ
  constructor <;> rw [withHalf_shiftRightOne]
  case le => linarith
  case lt => linarith
  case sticky =>
    have halves : (em.mantissa : ℚ) / 2 < y / 2 ↔ (em.mantissa : ℚ) < y :=
      div_lt_div_iff_of_pos_right two_pos
    have sticky := cut.sticky
    have le := cut.le
    rw [halves, ExtendedMantissa.shiftRightOne]
    rw [withHalf] at sticky le
    cases bit : em.roundBit with
    | false => simpa [bit] using sticky
    | true =>
      simp only [bit, if_true] at le
      exact iff_of_true rfl (by linarith)

theorem shiftRight (cut : Cut em y) (n : Nat) : Cut (em >>> n) (y / 2 ^ n) := by
  induction n with
  | zero =>
    rw [pow_zero, div_one]
    exact cut
  | succ n ih =>
    rw [pow_succ, ← div_div]
    exact ih.shiftRightOne

/-- The rounded mantissa is the whole number nearest to the number. -/
theorem roundedMantissa_eq {num den : Nat} (hd : 0 < den) (cut : Cut em (num / den)) :
    em.roundedMantissa = roundDiv num den := by
  obtain ⟨low, high, sticky⟩ := cut
  obtain ⟨m, roundBit, stickyBit⟩ := em
  refine (roundDiv_eq hd ?_ fun odd => ?_).symm
  all_goals
    generalize (num : ℚ) / den = y at *
    cases roundBit <;> cases stickyBit <;>
      simp only [withHalf, ExtendedMantissa.roundedMantissa, ExtendedMantissa.accuracy,
        Accuracy.roundToNearestEven, Bool.false_eq_true, if_true, if_false, false_iff, true_iff,
        not_lt, add_zero] at *
  case refine_1.false.false =>
    rw [le_antisymm sticky low, sub_self, abs_zero]
    norm_num
  case refine_1.false.true =>
    rw [abs_le]
    constructor <;> linarith
  case refine_1.true.false =>
    -- a tie goes to the even neighbour, which is one half away on either side
    rw [le_antisymm sticky low, abs_le]
    rcases Nat.mod_two_eq_zero_or_one m with even | odd
    · rw [even]
      constructor <;> push_cast <;> linarith
    · rw [odd]
      constructor <;> push_cast <;> linarith
  case refine_1.true.true =>
    rw [abs_le]
    constructor <;> push_cast <;> linarith
  case refine_2.false.false =>
    rw [le_antisymm sticky low, sub_self, abs_zero]
    norm_num
  case refine_2.false.true =>
    rw [abs_lt]
    constructor <;> linarith
  case refine_2.true.false => omega
  case refine_2.true.true =>
    rw [abs_lt]
    constructor <;> push_cast <;> linarith

end Cut

/-! ## Words -/

/-- Parts that are canonical apart from an exponent that can be too large. -/
structure Dyadic.Normal (d : Dyadic) : Prop where
  /-- The mantissa has at most 53 binary digits. -/
  mantissa_lt : d.mantissa < 2 ^ 53
  /-- The exponent is at least the smallest one. -/
  minExponent_le : Binary64.minExponent ≤ d.exponent
  /-- Only a mantissa at the smallest exponent has fewer digits. -/
  exponent_eq : d.mantissa < 2 ^ 52 → d.exponent = Binary64.minExponent

namespace Dyadic.Normal

variable {d : Dyadic} (normal : d.Normal)

include normal

theorem canonical (finite : d.magnitude < Binary64.infinityBits) : d.Canonical := by
  have smallest : Binary64.minExponent = -1074 := rfl
  have infinite : Binary64.infinityBits = 2047 * 2 ^ 52 := rfl
  obtain ⟨short, lowest, full⟩ := normal
  rw [Dyadic.magnitude] at finite
  exact ⟨short, lowest, by omega, full⟩

theorem toNat_pack_of_finite (finite : d.magnitude < Binary64.infinityBits) :
    (UnpackedFloat.pack .binary64 d.unpacked).toNat =
      if d.negative then 2 ^ 63 + d.magnitude else d.magnitude := by
  have decoded := Binary64.decode_ofMagnitude (normal.canonical finite) finite
  rw [← Binary64.unpack_of_decode decoded, Float.Model.unpack,
    Binary64.pack_unpack (Float.Model.valid _)]
  exact Binary64.toNat_toBits_ofMagnitude finite d.negative

theorem toNat_pack_of_infinite (infinite : Binary64.infinityBits ≤ d.magnitude) :
    (UnpackedFloat.pack .binary64 d.unpacked).toNat =
      if d.negative then 2 ^ 63 + Binary64.infinityBits else Binary64.infinityBits := by
  have smallest : Binary64.minExponent = -1074 := rfl
  have top : Binary64.infinityBits = 2047 * 2 ^ 52 := rfl
  have bias : (Format.binary64.exponentBias : Int) = 1023 := rfl
  obtain ⟨short, lowest, full⟩ := normal
  rw [Dyadic.magnitude, top] at infinite
  have tooLarge : 2 ^ Format.binary64.exponentBits ≤ (d.exponent + Format.binary64.exponentBias +
      Format.binary64.mantissaBitsWithoutImplicit).toNat + 1 := by
    rw [bias]
    simp only
    omega
  rw [Dyadic.unpacked_of_pos (by omega), UnpackedFloat.pack]
  simp only [if_pos tooLarge]
  rw [packedInfinity, Binary64.toNat_packComponents, Dyadic.sign]
  cases d.negative <;> rfl

end Dyadic.Normal

/-- The parts of a rounded mantissa, which can have one digit more than a double has. -/
def Dyadic.carried (negative : Bool) (m : Nat) (q : Int) : Dyadic :=
  if m < 2 ^ 53 then ⟨negative, m, q⟩ else ⟨negative, 2 ^ 52, q + 1⟩

/-- A mantissa that digits were cut off to the step `2 ^ q`, and rounded. -/
structure Rounded (m : Nat) (q : Int) : Prop where
  /-- Rounding adds at most one digit. -/
  le : m ≤ 2 ^ 53
  /-- The step is not smaller than the smallest double. -/
  minExponent_le : Binary64.minExponent ≤ q
  /-- Only a mantissa at the smallest exponent has fewer digits. -/
  exponent_eq : m < 2 ^ 52 → q = Binary64.minExponent

namespace Rounded

variable {m : Nat} {q : Int} (rounded : Rounded m q) (negative : Bool)

theorem negative_carried (m : Nat) (q : Int) :
    (Dyadic.carried negative m q).negative = negative := by
  rw [Dyadic.carried]
  split <;> rfl

include rounded

theorem magnitude_carried : (Dyadic.carried negative m q).magnitude =
    (q - Binary64.minExponent).toNat * 2 ^ 52 + m := by
  obtain ⟨le, lowest, -⟩ := rounded
  rw [Dyadic.carried]
  split
  case isTrue => rfl
  case isFalse => simp only [Dyadic.magnitude]; omega

theorem value_carried : (Dyadic.carried negative m q).value = m * 2 ^ q := by
  have le := rounded.le
  rw [Dyadic.carried]
  split
  case isTrue => rfl
  case isFalse long =>
    obtain rfl : m = 2 ^ 53 := by omega
    rw [Dyadic.value, zpow_add_one₀ two_ne_zero]
    push_cast
    ring

theorem normal_carried : (Dyadic.carried negative m q).Normal := by
  obtain ⟨le, lowest, short⟩ := rounded
  rw [Dyadic.carried]
  split
  case isTrue few => exact ⟨few, lowest, short⟩
  case isFalse long => constructor <;> simp only <;> omega

/-- A rounded mantissa is packed as its place among the words, or as infinity. -/
theorem toNat_pack_carried :
    (UnpackedFloat.pack .binary64 (Dyadic.carried negative m q).unpacked).toNat =
      if negative then
        2 ^ 63 + min ((q - Binary64.minExponent).toNat * 2 ^ 52 + m) Binary64.infinityBits
      else min ((q - Binary64.minExponent).toNat * 2 ^ 52 + m) Binary64.infinityBits := by
  have normal := rounded.normal_carried negative
  have magnitude := rounded.magnitude_carried negative
  rcases lt_or_ge (Dyadic.carried negative m q).magnitude Binary64.infinityBits with
    finite | infinite
  · rw [normal.toNat_pack_of_finite finite, negative_carried, ← magnitude, min_eq_left finite.le]
  · rw [normal.toNat_pack_of_infinite infinite, negative_carried, ← magnitude,
      min_eq_right infinite]

end Rounded

/-! ## Rounding what arithmetic computes -/

/-- The step of a value in the form of a mantissa and an exponent. -/
theorem targetExponent_eq (m : Nat) (e : Int) :
    Format.binary64.targetExponent (Float.Model.totalExponent m e) =
      max ((m.log2 : Int) + e - 52) Binary64.minExponent := by
  have smallest : Binary64.minExponent = -1074 := rfl
  have target : Format.binary64.targetExponent (Float.Model.totalExponent m e) =
      max ((m.log2 : Int) + 1 + e - 53) (-1074) := rfl
  rw [target, smallest]
  omega

/-- A mantissa with the digits of a double is kept, and a longer one loses its last digit. -/
theorem shiftToTargetExponent_rounded {m : Nat} {q : Int} (rounded : Rounded m q)
    (negative : Bool) :
    (shiftToTargetExponent .binary64 m q .exact).1.mantissa =
        (Dyadic.carried negative m q).mantissa ∧
      (shiftToTargetExponent .binary64 m q .exact).2 = (Dyadic.carried negative m q).exponent := by
  obtain ⟨le, lowest, -⟩ := rounded
  simp only [shiftToTargetExponent, shiftToExponent, targetExponent_eq,
    Binary64.shiftRight_mantissa, ExtendedMantissa.ofMantissaAndAccuracy]
  rw [Dyadic.carried]
  split
  case isTrue few =>
    have digits : m.log2 ≤ 52 := by
      rcases Nat.eq_zero_or_pos m with rfl | positive
      · decide
      · exact Nat.le_of_lt_succ ((Nat.log2_lt positive.ne').mpr few)
    have none : (max ((m.log2 : Int) + q - 52) Binary64.minExponent - q).toNat = 0 := by omega
    simp [none]
  case isFalse long =>
    obtain rfl : m = 2 ^ 53 := by omega
    have one : (max (((2 ^ 53 : Nat).log2 : Int) + q - 52) Binary64.minExponent - q).toNat = 1 := by
      rw [Nat.log2_two_pow]
      omega
    rw [one]
    exact ⟨rfl, rfl⟩

section

variable {num den : Nat} {m : Nat} {e : Int} {accuracy : Accuracy}
  (hn : 0 < num) (hd : 0 < den)
  (cut : Cut (ExtendedMantissa.ofMantissaAndAccuracy m accuracy) (num / den / 2 ^ e))
  (enough : 52 ≤ m.log2 ∨ e ≤ Binary64.minExponent)

include hn hd cut enough

/-- The step of the mantissa is the step of the quotient that it stands for. -/
theorem targetExponent_eq_last :
    Format.binary64.targetExponent (Float.Model.totalExponent m e) =
      max (Binary64.binaryExponent num den - 52) Binary64.minExponent := by
  have step : (0 : ℚ) < 2 ^ e := by positivity
  have mantissa : (ExtendedMantissa.ofMantissaAndAccuracy m accuracy).mantissa = m := by
    rcases accuracy with _ | _ | _ | _ <;> rfl
  have low := cut.mantissa_le
  have high := cut.lt_mantissa_succ
  rw [mantissa] at low high
  rw [le_div_iff₀ step] at low
  rw [div_lt_iff₀ step] at high
  obtain ⟨atLeast, below⟩ := binaryExponent_between hn hd
  rw [targetExponent_eq]
  rcases Nat.eq_zero_or_pos m with rfl | positive
  · have tiny : Binary64.binaryExponent num den < e := by
      rw [Nat.cast_zero, zero_add, one_mul] at high
      exact (zpow_lt_zpow_iff_right₀ one_lt_two).mp (atLeast.trans_lt high)
    have notLong : ¬ 52 ≤ (0 : Nat).log2 := by decide
    have zero : ((0 : Nat).log2 : Int) = 0 := rfl
    have smallest := enough.resolve_left notLong
    omega
  · have lower : (2 : ℚ) ^ ((m.log2 : Int) + e) ≤ num / den := by
      refine le_trans ?_ low
      rw [zpow_add₀ two_ne_zero, zpow_natCast]
      gcongr
      exact_mod_cast Nat.log2_self_le positive.ne'
    have upper : (num : ℚ) / den < 2 ^ ((m.log2 : Int) + e + 1) := by
      refine high.trans_le ?_
      rw [show (m.log2 : Int) + e + 1 = ((m.log2 + 1 : Nat) : Int) + e by push_cast; ring,
        zpow_add₀ two_ne_zero, zpow_natCast]
      gcongr
      exact_mod_cast Nat.lt_log2_self
    rw [exponent_unique one_lt_two atLeast below lower upper]

/-- Once its digits are cut off, the mantissa is rounded to the significand of the quotient. -/
theorem roundedMantissa_shift_eq {q : Int}
    (last : max (Binary64.binaryExponent num den - 52) Binary64.minExponent = q) :
    shiftToTargetExponent .binary64 m e accuracy =
        (ExtendedMantissa.ofMantissaAndAccuracy m accuracy >>> (q - e).toNat, q) ∧
      (ExtendedMantissa.ofMantissaAndAccuracy m accuracy >>> (q - e).toNat).roundedMantissa =
        roundDiv (num * Nat.pow 2 (-q).toNat) (den * Nat.pow 2 q.toNat) := by
  have target := targetExponent_eq_last hn hd cut enough
  rw [last] at target
  have notPast : e ≤ q := by
    rw [← target, targetExponent_eq]
    omega
  constructor
  · simp only [shiftToTargetExponent, shiftToExponent, target]
    rw [show e + ((q - e).toNat : Int) = q by omega]
  · refine Cut.roundedMantissa_eq (scaled_den_pos two_pos hd _) ?_
    have shifted := cut.shiftRight (q - e).toNat
    rw [scaled_div 2 two_pos, Nat.cast_ofNat, zpow_neg, ← div_eq_mul_inv]
    rwa [div_div, ← zpow_natCast, ← zpow_add₀ two_ne_zero,
      show e + ((q - e).toNat : Int) = q by omega] at shifted

omit cut enough in
/-- The significand of a quotient is a rounded mantissa. -/
theorem rounded_significand {q : Int}
    (last : max (Binary64.binaryExponent num den - 52) Binary64.minExponent = q) :
    Rounded (roundDiv (num * Nat.pow 2 (-q).toNat) (den * Nat.pow 2 q.toNat)) q := by
  have near := abs_roundDiv_sub_le (num * Nat.pow 2 (-q).toNat) (scaled_den_pos two_pos hd q.toNat)
  obtain ⟨atLeast, below⟩ := binaryExponent_between hn hd
  rw [scaled_div 2 two_pos, Nat.cast_ofNat, zpow_neg, ← div_eq_mul_inv, abs_le] at near
  have step : (0 : ℚ) < 2 ^ q := by positivity
  constructor
  case le =>
    have high : (num : ℚ) / den / 2 ^ q < 2 ^ 53 := by
      rw [div_lt_iff₀ step, ← zpow_natCast, ← zpow_add₀ two_ne_zero]
      refine below.trans_le (zpow_le_zpow_right₀ one_le_two ?_)
      push_cast
      omega
    have : (roundDiv (num * Nat.pow 2 (-q).toNat) (den * Nat.pow 2 q.toNat) : ℚ) <
        (2 ^ 53 + 1 : Nat) := by
      push_cast
      linarith
    exact Nat.le_of_lt_succ (by exact_mod_cast this)
  case minExponent_le => omega
  case exponent_eq =>
    intro few
    by_contra notSmallest
    have low : (2 : ℚ) ^ 52 ≤ num / den / 2 ^ q := by
      rw [le_div_iff₀ step, ← zpow_natCast, ← zpow_add₀ two_ne_zero]
      refine le_trans (zpow_le_zpow_right₀ one_le_two ?_) atLeast
      push_cast
      omega
    have : ((roundDiv (num * Nat.pow 2 (-q).toNat) (den * Nat.pow 2 q.toNat) + 1 : Nat) : ℚ) ≤
        2 ^ 52 := by exact_mod_cast few
    push_cast at this
    linarith

/-- A value in the form of a mantissa and an exponent is rounded to the word of the quotient
that it stands for. -/
theorem toNat_pack_roundWithAccuracy (negative : Bool) :
    (UnpackedFloat.pack .binary64 (roundWithAccuracy .binary64
      (if negative then .negative else .positive) m e accuracy)).toNat =
        if negative then 2 ^ 63 + Binary64.quotientBits num den
        else Binary64.quotientBits num den := by
  obtain ⟨q, last⟩ : ∃ q, max (Binary64.binaryExponent num den - 52) Binary64.minExponent = q :=
    ⟨_, rfl⟩
  obtain ⟨first, significand⟩ := roundedMantissa_shift_eq hn hd cut enough last
  have rounded := rounded_significand hn hd last
  have word := rounded.toNat_pack_carried negative
  rw [quotientBits_eq hn last rfl, ← word]
  congr 2
  obtain ⟨mantissa, exponent⟩ := shiftToTargetExponent_rounded rounded negative
  simp only [roundWithAccuracy, first, significand, mantissa, exponent]
  have sign : (Dyadic.carried negative (roundDiv (num * Nat.pow 2 (-q).toNat)
      (den * Nat.pow 2 q.toNat)) q).sign = if negative then .negative else .positive := by
    rw [Dyadic.sign, Rounded.negative_carried]
  rw [Dyadic.unpacked, sign]
  by_cases zero : (Dyadic.carried negative (roundDiv (num * Nat.pow 2 (-q).toNat)
      (den * Nat.pow 2 q.toNat)) q).mantissa = 0
  · rw [dif_pos zero, dif_neg (by omega)]
  · rw [dif_neg zero, dif_pos (by omega)]

end

end GrowthGrammar.Decimal

import GrowthGrammar.Choice
import GrowthGrammar.Proofs.Decimal.Bits

/-!
# Sums of doubles that are not negative

A double is zero with either sign, or above zero, or below zero, or no number.  Adding
rounds, but it never rounds something above zero down to zero: what is added is a multiple
of the smallest double, and so is the sum before it is rounded.  So a total of doubles that
are not negative is zero only if each of them is (`total_le_zero_iff`).  A total that is too
large is infinite, which is above zero.

The signs are read off the unpacked values.  One step of rounding drops digits of a
mantissa; `shift_positive` says that it never drops all of them.
-/

namespace GrowthGrammar.Decimal.Binary64

open Float.Model (Format UnpackedFloat)
open Float.Model.UnpackedFloat

/-! ## Signs -/

/-- How an unpacked value compares with zero, nothing for no number. -/
def signOf : UnpackedFloat → Option Ordering
  | .notANumber => none
  | .zero _ => some .eq
  | .finite .positive _ _ _ | .infinity .positive => some .gt
  | .finite .negative _ _ _ | .infinity .negative => some .lt

theorem compare_zero (u : UnpackedFloat) : u.compare (.zero .positive) = signOf u := by
  cases u with
  | zero s => rfl
  | notANumber => rfl
  | infinity s => cases s <;> rfl
  | finite s m e h => cases s <;> rfl

theorem zero_compare (u : UnpackedFloat) :
    UnpackedFloat.compare (.zero .positive) u = (signOf u).map .swap := by
  cases u with
  | zero s => rfl
  | notANumber => rfl
  | infinity s => cases s <;> rfl
  | finite s m e h => cases s <;> rfl

/-- How a double compares with zero. -/
def sign (x : Float) : Option Ordering := signOf x.toModel.unpack

theorem unpack_zero : (0 : Float).toModel.unpack = .zero .positive := rfl

theorem beq_zero_iff (x : Float) : (x == 0) = true ↔ sign x = some .eq := by
  have compared : (x == 0) = UnpackedFloat.beq x.toModel.unpack (0 : Float).toModel.unpack := rfl
  rw [compared, unpack_zero, UnpackedFloat.beq, compare_zero]
  exact beq_iff_eq

theorem neg_iff (x : Float) : x < 0 ↔ sign x = some .lt := by
  have compared : x < 0 ↔ UnpackedFloat.lt x.toModel.unpack (0 : Float).toModel.unpack = true :=
    decide_eq_true_iff
  rw [compared, unpack_zero, UnpackedFloat.lt, compare_zero]
  exact beq_iff_eq

theorem nonpos_iff (x : Float) : x ≤ 0 ↔ sign x = some .lt ∨ sign x = some .eq := by
  have compared : x ≤ 0 ↔ UnpackedFloat.le x.toModel.unpack (0 : Float).toModel.unpack = true :=
    decide_eq_true_iff
  rw [compared, unpack_zero, UnpackedFloat.le, compare_zero, sign]
  rcases signOf x.toModel.unpack with _ | _ | _ | _ <;> decide

theorem nonneg_iff (x : Float) : 0 ≤ x ↔ sign x = some .eq ∨ sign x = some .gt := by
  have compared : 0 ≤ x ↔ UnpackedFloat.le (0 : Float).toModel.unpack x.toModel.unpack = true :=
    decide_eq_true_iff
  rw [compared, unpack_zero, UnpackedFloat.le, zero_compare, sign]
  rcases signOf x.toModel.unpack with _ | _ | _ | _ <;> decide

theorem nonpos_iff_beq_zero {x : Float} (nonneg : 0 ≤ x) : x ≤ 0 ↔ (x == 0) = true := by
  rw [nonneg_iff] at nonneg
  rw [nonpos_iff, beq_zero_iff]
  rcases nonneg with zero | positive
  · simp [zero]
  · simp [positive]

theorem sign_isSome {x : Float} (finite : x.isFinite = true) : (sign x).isSome := by
  have unpackedFinite : x.toModel.unpack.isFinite = true := finite
  rw [sign]
  cases unpacked : x.toModel.unpack with
  | zero s => rfl
  | notANumber => simp [unpacked, UnpackedFloat.isFinite] at unpackedFinite
  | infinity s => simp [unpacked, UnpackedFloat.isFinite] at unpackedFinite
  | finite s m e h => cases s <;> rfl

/-- A finite double is zero or above exactly if it is not below zero. -/
theorem nonneg_iff_not_neg {x : Float} (finite : x.isFinite = true) : 0 ≤ x ↔ ¬ x < 0 := by
  obtain ⟨order, found⟩ := Option.isSome_iff_exists.mp (sign_isSome finite)
  rw [nonneg_iff, neg_iff, found]
  cases order <;> decide

/-! ## Rounding keeps what is above zero -/

theorem shiftRight_mantissa (em : ExtendedMantissa) (n : Nat) :
    (em >>> n).mantissa = em.mantissa / 2 ^ n := by
  induction n with
  | zero => exact (Nat.div_one _).symm
  | succ n ih =>
    have step : (em >>> (n + 1)).mantissa = (em >>> n).mantissa / 2 := rfl
    rw [step, ih, Nat.div_div_eq_div_mul, ← Nat.pow_succ]

theorem le_roundedMantissa (em : ExtendedMantissa) : em.mantissa ≤ em.roundedMantissa := by
  obtain ⟨m, roundBit, stickyBit⟩ := em
  cases roundBit <;> cases stickyBit <;>
    simp [ExtendedMantissa.roundedMantissa, ExtendedMantissa.accuracy, Accuracy.roundToNearestEven]

/-- A mantissa of a multiple of the smallest double keeps a digit when it is cut to the
digits of a double, and then it has at most 53 of them. -/
theorem shift_positive {m : Nat} {e : Int} (positive : 0 < m) (smallest : minExponent ≤ e) :
    let shifted := shiftToTargetExponent .binary64 m e .exact
    0 < shifted.1.mantissa ∧ shifted.1.mantissa < 2 ^ 53 ∧ minExponent ≤ shifted.2 := by
  have least : minExponent = -1074 := rfl
  have target : Format.binary64.targetExponent (Float.Model.totalExponent m e) =
      max ((m.log2 : Int) + 1 + e - 53) (-1074) := rfl
  intro shifted
  -- the digits that are cut off: those beyond 53, as the exponent is large enough already
  let n := (max ((m.log2 : Int) + 1 + e - 53) (-1074) - e).toNat
  have mantissa : shifted.1.mantissa = m / 2 ^ n := by
    simp only [shifted, shiftToTargetExponent, shiftToExponent, target]
    exact shiftRight_mantissa _ n
  have exponent : shifted.2 = e + n := by
    simp only [shifted, shiftToTargetExponent, shiftToExponent, target]
    rfl
  rw [mantissa, exponent]
  have enough : m.log2 + 1 ≤ 53 + n := by omega
  have notAll : n ≤ m.log2 := by omega
  refine ⟨?_, ?_, by omega⟩
  · have below : 2 ^ n ≤ m :=
      (Nat.pow_le_pow_right (by omega) notAll).trans (Nat.log2_self_le (by omega))
    exact Nat.div_pos below (by positivity)
  · refine (Nat.div_lt_iff_lt_mul (by positivity)).mpr ?_
    rw [← Nat.pow_add]
    exact Nat.lt_log2_self.trans_le (Nat.pow_le_pow_right (by omega) enough)

/-- Rounding a multiple of the smallest double that is above zero gives one above zero. -/
theorem round_positive {m : Nat} {e : Int} (positive : 0 < m) (smallest : minExponent ≤ e) :
    ∃ m' e' h, UnpackedFloat.round .binary64 .positive m e = .finite .positive m' e' h ∧
      m' < 2 ^ 53 ∧ minExponent ≤ e' := by
  let target := Format.binary64.targetExponent (Float.Model.totalExponent m e)
  have atLeast : minExponent ≤ target := le_max_right _ _
  -- the mantissa is widened, cut and rounded, and cut again if rounding has added a digit
  let widened := decreaseExponent m e target
  have widenedPositive : 0 < widened.1 := by
    simp only [widened, decreaseExponent, Nat.shiftLeft_eq]
    positivity
  have widenedSmallest : minExponent ≤ widened.2 := by
    simp only [widened, decreaseExponent]
    omega
  obtain ⟨firstPositive, -, firstSmallest⟩ := shift_positive widenedPositive widenedSmallest
  have roundedPositive := firstPositive.trans_le (le_roundedMantissa _)
  obtain ⟨lastPositive, lastShort, lastSmallest⟩ := shift_positive roundedPositive firstSmallest
  refine ⟨_, _, lastPositive, ?_, lastShort, lastSmallest⟩
  exact dif_neg (Nat.ne_of_gt lastPositive)

/-! ## Packing keeps the sign -/

theorem ofBitVec_unpackSign_packComponents (s : Sign) (e : BitVec 11) (m : BitVec 52) :
    Sign.ofBitVec (unpackSign (packComponents .binary64 s e m)) = s := by
  have field := toNat_unpackSign (packComponents .binary64 s e m)
  have high : e.toNat < 2 ^ 11 := e.isLt
  have low : m.toNat < 2 ^ 52 := m.isLt
  rw [toNat_packComponents] at field
  have same : (Sign.ofBitVec (unpackSign (packComponents .binary64 s e m))).toBitVec.toNat =
      s.toBitVec.toNat := by omega
  revert same
  generalize Sign.ofBitVec (unpackSign (packComponents .binary64 s e m)) = t
  intro same
  cases s <;> cases t <;> first | rfl | cases same

/-- A word with a positive sign is above zero if its exponent is neither at the top nor, with
an empty mantissa, at the bottom. -/
theorem signOf_unpack_packComponents {e : BitVec 11} {m : BitVec 52} (notTop : e ≠ -1#_)
    (notNull : e = 0#_ → m ≠ 0#_) :
    signOf (UnpackedFloat.unpack .binary64 (packComponents .binary64 .positive e m)) =
      some .gt := by
  rw [UnpackedFloat.unpack]
  simp only [unpackExponent_packComponents, unpackMantissa_packComponents,
    ofBitVec_unpackSign_packComponents, if_neg notTop]
  split
  case isTrue null =>
    rw [dif_neg (notNull null)]
    rfl
  case isFalse => rfl

/-- A value above zero with the digits of a double stays above zero when it is packed. -/
theorem signOf_unpack_pack {m : Nat} {e : Int} (positive : 0 < m) (short : m < 2 ^ 53)
    (smallest : minExponent ≤ e) :
    signOf (UnpackedFloat.unpack .binary64
      (UnpackedFloat.pack .binary64 (.finite .positive m e positive))) = some .gt := by
  have least : minExponent = -1074 := rfl
  have bias : (Format.binary64.exponentBias : Int) = 1023 := rfl
  have mantissaBits : Format.binary64.mantissaBits = 53 := rfl
  rw [UnpackedFloat.pack]
  simp only [bias, mantissaBits, Nat.cast_ofNat]
  split
  case isTrue infinite => rfl
  case isFalse notInfinite =>
    split
    case isTrue normal =>
      have exponent : (BitVec.ofNat 11 (e + 1023 + 52).toNat).toNat = (e + 1023 + 52).toNat := by
        rw [BitVec.toNat_ofNat]
        exact Nat.mod_eq_of_lt (by omega)
      refine signOf_unpack_packComponents (fun top => ?_) (fun null => ?_)
      · have all : (e + 1023 + 52).toNat = 2047 := exponent.symm.trans (congrArg BitVec.toNat top)
        omega
      · have none : (e + 1023 + 52).toNat = 0 := exponent.symm.trans (congrArg BitVec.toNat null)
        omega
    case isFalse subnormal =>
      have shorter : m.log2 < 52 := by
        have := (Nat.log2_lt (by omega)).mpr short
        omega
      have small : m < 2 ^ 52 := (Nat.log2_lt (by omega)).mp shorter
      have fraction : (BitVec.ofNat 52 m).toNat = m := by
        rw [BitVec.toNat_ofNat]
        exact Nat.mod_eq_of_lt small
      refine signOf_unpack_packComponents (by decide) (fun _ null => ?_)
      have none : m = 0 := fraction.symm.trans (congrArg BitVec.toNat null)
      omega

/-! ## Adding -/

theorem minExponent_le_of_unpack {x : Float} {s : Sign} {m : Nat} {e : Int} {h : 0 < m}
    (unpacked : x.toModel.unpack = .finite s m e h) : minExponent ≤ e := by
  have least : minExponent = -1074 := rfl
  have bias : (Format.binary64.exponentBias : Int) = 1023 := rfl
  rw [Float.Model.unpack, UnpackedFloat.unpack] at unpacked
  simp only [bias, Nat.cast_ofNat] at unpacked
  split at unpacked
  case isTrue => split at unpacked <;> cases unpacked
  case isFalse =>
    split at unpacked
    case isTrue =>
      split at unpacked
      case isTrue => cases unpacked
      case isFalse =>
        injection unpacked
        omega
    case isFalse notNull =>
      have positive : 0 < (@unpackExponent .binary64 x.toModel.toBits.toBitVec).toNat :=
        Nat.pos_of_ne_zero fun none => notNull (BitVec.eq_of_toNat_eq none)
      injection unpacked
      omega

theorem unpack_add (x y : Float) :
    (x + y).toModel.unpack = UnpackedFloat.unpack .binary64
      (UnpackedFloat.pack .binary64
        (UnpackedFloat.add .binary64 x.toModel.unpack y.toModel.unpack)) := rfl

theorem unpack_pack_unpack (x : Float) :
    UnpackedFloat.unpack .binary64 (UnpackedFloat.pack .binary64 x.toModel.unpack) =
      x.toModel.unpack := by
  rw [Float.Model.unpack, pack_unpack x.toModel.valid]

/-- Two finite values above zero have a sum above zero. -/
theorem add_finite {m₁ m₂ : Nat} {e₁ e₂ : Int} (h₁ : 0 < m₁) (h₂ : 0 < m₂)
    (smallest₁ : minExponent ≤ e₁) (smallest₂ : minExponent ≤ e₂) :
    ∃ m e h, UnpackedFloat.add .binary64 (.finite .positive m₁ e₁ h₁) (.finite .positive m₂ e₂ h₂) =
      .finite .positive m e h ∧ m < 2 ^ 53 ∧ minExponent ≤ e := by
  let total := (decreaseExponent m₁ e₁ (min e₁ e₂)).1 + (decreaseExponent m₂ e₂ (min e₁ e₂)).1
  have positive : 0 < total := by
    simp only [total, decreaseExponent, Nat.shiftLeft_eq]
    positivity
  obtain ⟨m, e, h, rounded, short, smallest⟩ :=
    round_positive positive (le_min smallest₁ smallest₂)
  refine ⟨m, e, h, ?_, short, smallest⟩
  have added : UnpackedFloat.add .binary64 (.finite .positive m₁ e₁ h₁)
      (.finite .positive m₂ e₂ h₂) =
        UnpackedFloat.normalize .binary64 (total : Nat) (min e₁ e₂) .positive := rfl
  have above : compare ((total : Nat) : Int) 0 = .gt := compare_gt_iff_gt.mpr (by omega)
  rw [added, UnpackedFloat.normalize, above]
  exact rounded

theorem eq_zero_of_signOf {u : UnpackedFloat} (sign : signOf u = some .eq) : ∃ s, u = .zero s := by
  cases u with
  | zero s => exact ⟨s, rfl⟩
  | notANumber => cases sign
  | infinity s => cases s <;> cases sign
  | finite s m e h => cases s <;> cases sign

theorem positive_of_signOf {u : UnpackedFloat} (sign : signOf u = some .gt) :
    u = .infinity .positive ∨ ∃ m e h, u = .finite .positive m e h := by
  cases u with
  | zero s => cases sign
  | notANumber => cases sign
  | infinity s =>
    cases s with
    | negative => cases sign
    | positive => exact .inl rfl
  | finite s m e h =>
    cases s with
    | negative => cases sign
    | positive => exact .inr ⟨m, e, h, rfl⟩

theorem zero_add {u : UnpackedFloat} (s : Sign) (positive : signOf u = some .gt) :
    UnpackedFloat.add .binary64 (.zero s) u = u ∧ UnpackedFloat.add .binary64 u (.zero s) = u := by
  rcases positive_of_signOf positive with rfl | ⟨m, e, h, rfl⟩
  · exact ⟨rfl, rfl⟩
  · exact ⟨rfl, rfl⟩

theorem infinity_add {u : UnpackedFloat} (positive : signOf u = some .gt) :
    UnpackedFloat.add .binary64 (.infinity .positive) u = .infinity .positive ∧
      UnpackedFloat.add .binary64 u (.infinity .positive) = .infinity .positive := by
  rcases positive_of_signOf positive with rfl | ⟨m, e, h, rfl⟩
  · exact ⟨rfl, rfl⟩
  · exact ⟨rfl, rfl⟩

/-- Doubles above zero have a sum above zero. -/
theorem sign_add_of_positive {x y : Float} (xPositive : sign x = some .gt)
    (yPositive : sign y = some .gt) : sign (x + y) = some .gt := by
  have infinite : signOf (UnpackedFloat.unpack .binary64
      (UnpackedFloat.pack .binary64 (.infinity .positive))) = some .gt := by decide
  rw [sign, unpack_add]
  rcases positive_of_signOf xPositive with x_eq | ⟨m₁, e₁, h₁, x_eq⟩
  · rw [x_eq, (infinity_add yPositive).1, infinite]
  · rcases positive_of_signOf yPositive with y_eq | ⟨m₂, e₂, h₂, y_eq⟩
    · rw [y_eq, (infinity_add xPositive).2, infinite]
    · obtain ⟨m, e, h, added, short, smallest⟩ := add_finite h₁ h₂
        (minExponent_le_of_unpack x_eq) (minExponent_le_of_unpack y_eq)
      rw [x_eq, y_eq, added]
      exact signOf_unpack_pack h short smallest

/-- The sum of two doubles that are not negative is zero only if both are zero. -/
theorem sign_add {x y : Float} (xNonneg : 0 ≤ x) (yNonneg : 0 ≤ y) :
    sign (x + y) = if sign x = some .eq then sign y else some .gt := by
  rw [nonneg_iff] at xNonneg yNonneg
  rcases xNonneg with xZero | xPositive
  · obtain ⟨s, x_eq⟩ := eq_zero_of_signOf xZero
    rw [if_pos xZero]
    rcases yNonneg with yZero | yPositive
    · obtain ⟨t, y_eq⟩ := eq_zero_of_signOf yZero
      rw [yZero, sign, unpack_add, x_eq, y_eq]
      cases s <;> cases t <;> decide
    · rw [sign, unpack_add, x_eq, (zero_add s yPositive).1, unpack_pack_unpack, sign]
  · rw [if_neg (by simp [xPositive])]
    rcases yNonneg with yZero | yPositive
    · obtain ⟨t, y_eq⟩ := eq_zero_of_signOf yZero
      rw [sign, unpack_add, y_eq, (zero_add t xPositive).2, unpack_pack_unpack]
      exact xPositive
    · exact sign_add_of_positive xPositive yPositive

theorem add_nonneg {x y : Float} (xNonneg : 0 ≤ x) (yNonneg : 0 ≤ y) : 0 ≤ x + y := by
  rw [nonneg_iff, sign_add xNonneg yNonneg]
  split
  · exact (nonneg_iff y).mp yNonneg
  · exact .inr rfl

theorem add_beq_zero_iff {x y : Float} (xNonneg : 0 ≤ x) (yNonneg : 0 ≤ y) :
    (x + y == 0) = true ↔ (x == 0) = true ∧ (y == 0) = true := by
  simp only [beq_zero_iff, sign_add xNonneg yNonneg]
  split
  case isTrue xZero => simp [xZero]
  case isFalse notZero => simp [notZero]

/-! ## Totals -/

/-- From a total that is not negative, the sums of doubles that are not negative end in a
total that is not negative either, and is zero only if all of them and the start are. -/
theorem sumsFrom_getLast {total last : Float} {weights : List Float} (start : 0 ≤ total)
    (nonneg : ∀ w ∈ weights, 0 ≤ w)
    (found : (total :: Choice.sumsFrom total weights).getLast? = some last) :
    0 ≤ last ∧ ((last == 0) = true ↔ (total == 0) = true ∧ ∀ w ∈ weights, (w == 0) = true) := by
  induction weights generalizing total with
  | nil =>
    obtain rfl : total = last := Option.some.inj found
    exact ⟨start, by simp⟩
  | cons w rest ih =>
    obtain ⟨here, later⟩ := List.forall_mem_cons.mp nonneg
    rw [Choice.sumsFrom, List.getLast?_cons_cons] at found
    obtain ⟨lastNonneg, lastZero⟩ := ih (add_nonneg start here) later found
    refine ⟨lastNonneg, lastZero.trans ?_⟩
    rw [add_beq_zero_iff start here, List.forall_mem_cons, and_assoc]

/-- Doubles that are not negative have no total above zero exactly if each of them is zero. -/
theorem total_le_zero_iff {w : Float} {rest : List Float} (nonneg : ∀ x ∈ w :: rest, 0 ≤ x) :
    ((Choice.total? (w :: rest)).all fun total => decide (total ≤ 0)) = true ↔
      ∀ x ∈ w :: rest, (x == 0) = true := by
  obtain ⟨here, later⟩ := List.forall_mem_cons.mp nonneg
  rw [Choice.total?, Choice.runningSums]
  cases found : (w :: Choice.sumsFrom w rest).getLast? with
  | none => simp at found
  | some total =>
    obtain ⟨totalNonneg, totalZero⟩ := sumsFrom_getLast here later found
    rw [Option.all_some, decide_eq_true_eq, nonpos_iff_beq_zero totalNonneg, totalZero,
      List.forall_mem_cons]

end GrowthGrammar.Decimal.Binary64

import GrowthGrammar.Decimal.Numeral
import GrowthGrammar.Proofs.Decimal.Sum

/-!
# Words and values

The words below that of infinity are the absolute values of the finite doubles, so a double
that is made from its parts has these parts (`decode_ofMagnitude`).  Arithmetic works on
unpacked values, and `unpack_of_decode` gives the unpacked value of a double by its parts.

Finite doubles that compare as equal are the same, or zero with either sign
(`eq_or_zero_of_beq`).  A double is plain if it is finite and not the negative zero; adding
zero makes a double plain (`isPlain_add_zero`), and plain doubles that compare as equal are
the same (`IsPlain.beq_iff`).
-/

namespace GrowthGrammar.Decimal

open Float.Model (Format UnpackedFloat)
open Float.Model.UnpackedFloat

namespace Binary64

/-! ## From a word to a double and back -/

/-- A word whose exponent is not at the top is kept. -/
theorem toBits_ofBits {w : UInt64} (notTop : w.toNat / 2 ^ 52 % 2 ^ 11 ≠ 2047) :
    (Float.ofBits w).toBits = w := by
  have valid : Format.binary64.Valid w.toBitVec := by
    constructor
    intro top
    have exponent := congrArg BitVec.toNat top
    rw [toNat_unpackExponent] at exponent
    exact absurd exponent notTop
  apply UInt64.toBitVec_inj.mp
  exact pack_unpack valid

/-- The word of a double of a given sign, below that of infinity. -/
theorem toNat_toBits_ofMagnitude {bits : Nat} (finite : bits < infinityBits) (negative : Bool) :
    (ofMagnitude negative bits).toBits.toNat = if negative then 2 ^ 63 + bits else bits := by
  have infinite : infinityBits = 2047 * 2 ^ 52 := rfl
  have word : (UInt64.ofNat (if negative then Nat.pow 2 63 + bits else bits)).toNat =
      if negative then 2 ^ 63 + bits else bits := by
    simp only [Nat.pow_eq, UInt64.toNat_ofNat']
    cases negative <;> simp only [if_true, if_false, Bool.false_eq_true] <;> omega
  rw [ofMagnitude, toBits_ofBits, word]
  rw [word]
  cases negative <;> simp only [if_true, if_false, Bool.false_eq_true] <;> omega

theorem isFinite_ofMagnitude {bits : Nat} (finite : bits < infinityBits) (negative : Bool) :
    (ofMagnitude negative bits).isFinite = true := by
  have infinite : infinityBits = 2047 * 2 ^ 52 := rfl
  rw [isFinite_iff, toNat_toBits_ofMagnitude finite]
  cases negative <;> simp only [if_true, if_false, Bool.false_eq_true] <;> omega

/-- A double that is made from the parts of a finite double has these parts. -/
theorem decode_ofMagnitude {d : Dyadic} (canonical : d.Canonical)
    (finite : d.magnitude < infinityBits) :
    decode (ofMagnitude d.negative d.magnitude) = some d := by
  obtain ⟨⟨negative, mantissa, exponent⟩, read⟩ := Option.isSome_iff_exists.mp
    ((isSome_decode_iff _).mpr (isFinite_ofMagnitude finite d.negative))
  obtain ⟨-, sign, parts⟩ := decode_eq_some read
  obtain ⟨mantissaLt, lowest, highest, short⟩ := canonical
  have smallest : minExponent = -1074 := rfl
  have infinite : infinityBits = 2047 * 2 ^ 52 := rfl
  rw [toNat_toBits_ofMagnitude finite] at sign parts
  rw [Dyadic.magnitude] at finite sign parts
  rw [read]
  obtain ⟨negative', mantissa', exponent'⟩ := d
  unfold HasParts at parts
  simp only at *
  congr 2
  · rw [sign]
    cases negative' <;> simp only [if_true, if_false, Bool.false_eq_true, decide_eq_true_eq,
      decide_eq_false_iff_not] <;> omega
  · cases negative' <;> simp only [if_true, if_false, Bool.false_eq_true] at parts <;>
      split at parts <;> omega
  · cases negative' <;> simp only [if_true, if_false, Bool.false_eq_true] at parts <;>
      split at parts <;> omega

end Binary64

/-! ## Unpacked values -/

/-- The sign of a value. -/
def Dyadic.sign (d : Dyadic) : Sign := if d.negative then .negative else .positive

/-- The unpacked form of a value. -/
def Dyadic.unpacked (d : Dyadic) : UnpackedFloat :=
  if positive : 0 < d.mantissa then .finite d.sign d.mantissa d.exponent positive
  else .zero d.sign

theorem Dyadic.unpacked_of_pos {d : Dyadic} (positive : 0 < d.mantissa) :
    d.unpacked = .finite d.sign d.mantissa d.exponent positive := dif_pos positive

theorem Dyadic.unpacked_of_zero {d : Dyadic} (zero : d.mantissa = 0) :
    d.unpacked = .zero d.sign := dif_neg (by omega)

namespace Binary64

theorem ofBitVec_unpackSign_of_decode {x : Float} {d : Dyadic} (h : decode x = some d) :
    Sign.ofBitVec (@unpackSign .binary64 x.toBits.toBitVec) = d.sign := by
  obtain ⟨-, sign, -⟩ := decode_eq_some h
  have field := toNat_unpackSign x.toBits.toBitVec
  have word : x.toBits.toBitVec.toNat = x.toBits.toNat := rfl
  have bound : x.toBits.toNat < 2 ^ 64 := x.toBits.toNat_lt
  rw [word] at field
  rw [Dyadic.sign, sign]
  revert field
  cases Sign.ofBitVec (@unpackSign .binary64 x.toBits.toBitVec) with
  | negative =>
    intro field
    have one : (1 : Nat) = x.toBits.toNat / 2 ^ 63 := field
    rw [if_pos (by simpa using (by omega : 2 ^ 63 ≤ x.toBits.toNat))]
  | positive =>
    intro field
    have zero : (0 : Nat) = x.toBits.toNat / 2 ^ 63 := field
    rw [if_neg (by simpa using (by omega : x.toBits.toNat < 2 ^ 63))]

/-- A finite double is unpacked as its parts. -/
theorem unpack_of_decode {x : Float} {d : Dyadic} (h : decode x = some d) :
    x.toModel.unpack = d.unpacked := by
  obtain ⟨notTop, -, parts⟩ := decode_eq_some h
  have sign := ofBitVec_unpackSign_of_decode h
  have word : x.toBits.toBitVec.toNat = x.toBits.toNat := rfl
  have bias : (Format.binary64.exponentBias : Int) = 1023 := rfl
  have smallest : minExponent = -1074 := rfl
  have fraction := toNat_unpackMantissa x.toBits.toBitVec
  have biased := toNat_unpackExponent x.toBits.toBitVec
  rw [word] at fraction biased
  have notOnes : @unpackExponent .binary64 x.toBits.toBitVec ≠ -1#_ := fun top =>
    notTop (biased.symm.trans (congrArg BitVec.toNat top))
  have model : x.toModel.unpack = UnpackedFloat.unpack .binary64 x.toBits.toBitVec := rfl
  rw [model, UnpackedFloat.unpack]
  simp only [sign, if_neg notOnes, bias, Nat.cast_ofNat]
  unfold HasParts at parts
  split
  case isTrue null =>
    have zero : x.toBits.toNat / 2 ^ 52 % 2 ^ 11 = 0 :=
      biased.symm.trans (congrArg BitVec.toNat null)
    rw [if_pos zero] at parts
    obtain ⟨mantissa, exponent⟩ := parts
    split
    case isTrue none =>
      have nothing : x.toBits.toNat % 2 ^ 52 = 0 := fraction.symm.trans (congrArg BitVec.toNat none)
      exact (Dyadic.unpacked_of_zero (mantissa.trans nothing)).symm
    case isFalse some =>
      have positive : 0 < d.mantissa := by
        rw [mantissa, ← fraction, Nat.pos_iff_ne_zero]
        exact fun none => some (BitVec.eq_of_toNat_eq none)
      rw [Dyadic.unpacked_of_pos positive]
      congr 1
      · rw [fraction, mantissa]
      · rw [biased, zero, exponent, smallest]
        rfl
  case isFalse notNull =>
    have notZero : x.toBits.toNat / 2 ^ 52 % 2 ^ 11 ≠ 0 := fun zero =>
      notNull (BitVec.eq_of_toNat_eq (biased.trans zero))
    rw [if_neg notZero] at parts
    obtain ⟨mantissa, exponent⟩ := parts
    rw [Dyadic.unpacked_of_pos (by omega)]
    congr 1
    · rw [toNat_append, fraction, mantissa]
      rfl
    · rw [biased, exponent]
      omega

/-! ## Equal doubles -/

/-- A zero is one of two doubles. -/
theorem eq_zero_or_eq_negZero {x : Float} (zero : sign x = some .eq) : x = 0 ∨ x = -0.0 := by
  obtain ⟨s, unpacked⟩ := eq_zero_of_signOf zero
  cases s with
  | positive => exact .inl (eq_of_unpack_eq unpacked)
  | negative => exact .inr (eq_of_unpack_eq unpacked)

/-- Finite doubles that compare as equal are the same, or both are zero. -/
theorem eq_or_zero_of_beq {x y : Float} (finite : y.isFinite = true) (equal : (x == y) = true) :
    x = y ∨ (sign x = some .eq ∧ sign y = some .eq) := by
  have compared : x.toModel.unpack.compare y.toModel.unpack = some .eq := beq_iff_eq.mp equal
  have unpackedFinite : y.toModel.unpack.isFinite = true := finite
  cases unpacked : y.toModel.unpack with
  | notANumber => simp [unpacked, UnpackedFloat.isFinite] at unpackedFinite
  | infinity s => simp [unpacked, UnpackedFloat.isFinite] at unpackedFinite
  | finite s m e h =>
    rw [unpacked] at compared
    exact .inl (eq_of_unpack_eq ((eq_of_compare_finite compared).trans unpacked.symm))
  | zero s =>
    rw [unpacked] at compared
    refine .inr ⟨?_, by rw [sign, unpacked]; rfl⟩
    rw [sign, ← compare_zero]
    cases unpackedX : x.toModel.unpack with
    | zero s' => rfl
    | notANumber => simp [unpackedX, UnpackedFloat.compare] at compared
    | infinity s' => cases s' <;> simp [unpackedX, UnpackedFloat.compare] at compared
    | finite s' m e h => cases s' <;> simp [unpackedX, UnpackedFloat.compare] at compared

theorem beq_self {x : Float} (finite : x.isFinite = true) : (x == x) = true := by
  have compared : (x == x) = (x.toModel.unpack.compare x.toModel.unpack == some .eq) := rfl
  have unpackedFinite : x.toModel.unpack.isFinite = true := finite
  rw [compared, beq_iff_eq]
  cases unpacked : x.toModel.unpack with
  | notANumber => simp [unpacked, UnpackedFloat.isFinite] at unpackedFinite
  | infinity s => simp [unpacked, UnpackedFloat.isFinite] at unpackedFinite
  | zero s => rfl
  | finite s m e h => cases s <;> simp [UnpackedFloat.compare]

/-! ## Plain doubles -/

/-- The double is finite and not the negative zero. -/
structure IsPlain (x : Float) : Prop where
  /-- It is finite. -/
  finite : x.isFinite = true
  /-- If it is zero, it is not the negative one. -/
  eq_zero : sign x = some .eq → x = 0

/-- Plain doubles that compare as equal are the same. -/
theorem IsPlain.beq_iff {x y : Float} (plainX : IsPlain x) (plainY : IsPlain y) :
    (x == y) = true ↔ x = y := by
  constructor
  · intro equal
    rcases eq_or_zero_of_beq plainY.finite equal with same | ⟨zeroX, zeroY⟩
    · exact same
    · rw [plainX.eq_zero zeroX, plainY.eq_zero zeroY]
  · rintro rfl
    exact beq_self plainX.finite

theorem add_zero_of_zero {x : Float} (zero : sign x = some .eq) : x + 0 = 0 := by
  rcases eq_zero_or_eq_negZero zero with rfl | rfl <;> decide

theorem add_zero_of_ne {x : Float} (nonzero : sign x ≠ some .eq) : x + 0 = x := by
  apply eq_of_unpack_eq
  rw [unpack_add, unpack_zero]
  have kept :
      UnpackedFloat.add .binary64 x.toModel.unpack (.zero .positive) = x.toModel.unpack := by
    rw [sign] at nonzero
    revert nonzero
    cases x.toModel.unpack with
    | zero s => exact fun nonzero => absurd rfl nonzero
    | _ => exact fun _ => rfl
  rw [kept, unpack_pack_unpack]

/-- Adding zero makes a finite double plain. -/
theorem isPlain_add_zero {x : Float} (finite : x.isFinite = true) : IsPlain (x + 0) := by
  by_cases zero : sign x = some .eq
  · rw [add_zero_of_zero zero]
    exact ⟨by decide, fun _ => rfl⟩
  · rw [add_zero_of_ne zero]
    exact ⟨finite, fun isZero => absurd isZero zero⟩

/-! ## Rounded doubles -/

theorem quotientBits_le (num den : Nat) : quotientBits num den ≤ infinityBits := by
  rw [quotientBits]
  split
  · exact Nat.zero_le _
  · exact min_le_right _ _

/-- A finite double is rounded to a finite double. -/
theorem isFinite_roundTo {x y : Float} {places : Int} (finite : x.isFinite = true)
    (rounded : roundTo places x = some y) : y.isFinite = true := by
  obtain ⟨d, decoded⟩ := Option.isSome_iff_exists.mp ((isSome_decode_iff x).mpr finite)
  simp only [roundTo, decoded] at rounded
  split at rounded
  case isTrue => cases rounded
  case isFalse notInfinite =>
    cases rounded
    exact isFinite_ofMagnitude (lt_of_le_of_ne (quotientBits_le _ _) notInfinite) _

/-- A zero is rounded to a zero. -/
theorem roundTo_of_zero {x : Float} (zero : sign x = some .eq) (places : Int) :
    ∃ y, roundTo places x = some y ∧ sign y = some .eq := by
  have round (negative : Bool) (mantissa : x = ofMagnitude negative 0)
      (decoded : decode x = some ⟨negative, 0, minExponent⟩) :
      roundTo places x = some x := by
    have nothing (den : Nat) : roundDiv 0 den = 0 := by
      simp [roundDiv]
    simp only [roundTo, decoded, Dyadic.num, Nat.zero_mul, nothing, quotientBits, if_true]
    rw [if_neg (by decide), ← mantissa]
  refine ⟨x, ?_, zero⟩
  rcases eq_zero_or_eq_negZero zero with rfl | rfl
  · exact round false (by decide) (by decide)
  · exact round true (by decide) (by decide)

/-- Finite doubles that compare as equal are rounded to the same plain double. -/
theorem roundTo_add_zero_congr {x y : Float} (finite : y.isFinite = true)
    (equal : (x == y) = true) (places : Int) :
    (roundTo places x).map (· + 0) = (roundTo places y).map (· + 0) := by
  rcases eq_or_zero_of_beq finite equal with rfl | ⟨zeroX, zeroY⟩
  · rfl
  · obtain ⟨x', roundedX, zeroX'⟩ := roundTo_of_zero zeroX places
    obtain ⟨y', roundedY, zeroY'⟩ := roundTo_of_zero zeroY places
    rw [roundedX, roundedY, Option.map_some, Option.map_some, add_zero_of_zero zeroX',
      add_zero_of_zero zeroY']

end Binary64

end GrowthGrammar.Decimal

import Mathlib
import GrowthGrammar.Decimal.Binary64

/-!
# Doubles and their parts

A double is given by its word of 64 bits: a sign bit, 11 bits of exponent and 52 bits of
fraction.  Every double comes back from its word (`ofBits_toBits`), and a finite one
from the parts that `decode` reads off the word (`ofMagnitude_magnitude`).  No other
double equals one (`eq_one_of_beq`).

The parts of a finite double are canonical (`Dyadic.Canonical`): the mantissa has at
most 53 digits, and fewer only at the smallest exponent.  The words of the absolute
values then count up without a gap, and `Dyadic.magnitude` is the place of a double
among them.
-/

namespace GrowthGrammar.Decimal

namespace Binary64

open Float.Model (Format UnpackedFloat)
open Float.Model.UnpackedFloat

/-! ## The fields of a word -/

theorem toNat_append {m n : Nat} (high : BitVec m) (low : BitVec n) :
    (high ++ low).toNat = high.toNat * 2 ^ n + low.toNat := by
  rw [BitVec.toNat_append, ← Nat.shiftLeft_add_eq_or_of_lt low.isLt, Nat.shiftLeft_eq]

theorem toNat_packComponents (sign : Sign) (e : BitVec 11) (m : BitVec 52) :
    (packComponents .binary64 sign e m).toNat =
      sign.toBitVec.toNat * 2 ^ 63 + e.toNat * 2 ^ 52 + m.toNat := by
  rw [packComponents, toNat_append, toNat_append]
  omega

section

variable (b : BitVec Format.binary64.numBits)

theorem toNat_unpackExponent : (unpackExponent b).toNat = b.toNat / 2 ^ 52 % 2 ^ 11 := by
  simp [unpackExponent, Nat.shiftRight_eq_div_pow]

theorem toNat_unpackMantissa : (unpackMantissa b).toNat = b.toNat % 2 ^ 52 := by
  simp [unpackMantissa]

theorem toNat_unpackSign :
    (Sign.ofBitVec (unpackSign b)).toBitVec.toNat = b.toNat / 2 ^ 63 := by
  have bound : b.toNat < 2 ^ 64 := b.isLt
  have same : ∀ s : BitVec 1, (Sign.ofBitVec s).toBitVec = s := by decide
  rw [same]
  simp only [unpackSign, BitVec.toNat_cast, BitVec.extractLsb_toNat, Nat.shiftRight_eq_div_pow]
  omega

/-- A word is made of its three fields. -/
theorem packComponents_fields :
    packComponents .binary64 (Sign.ofBitVec (unpackSign b)) (unpackExponent b)
      (unpackMantissa b) = b := by
  apply BitVec.eq_of_toNat_eq
  rw [toNat_packComponents, toNat_unpackSign, toNat_unpackExponent, toNat_unpackMantissa]
  have bound : b.toNat < 2 ^ 64 := b.isLt
  omega

theorem packComponents_of_fields {e : BitVec 11} {m : BitVec 52} (exponent : unpackExponent b = e)
    (mantissa : unpackMantissa b = m) :
    packComponents .binary64 (Sign.ofBitVec (unpackSign b)) e m = b := by
  rw [← exponent, ← mantissa, packComponents_fields]

end

/-! ## Packing -/

/-- The mantissa and the exponent that a word gives a finite double. -/
def HasParts (word m : Nat) (e : Int) : Prop :=
  if word / 2 ^ 52 % 2 ^ 11 = 0 then m = word % 2 ^ 52 ∧ e = minExponent
  else m = 2 ^ 52 + word % 2 ^ 52 ∧ e = (word / 2 ^ 52 % 2 ^ 11 : Nat) - 1075

/-- A finite value with the mantissa and the exponent of a word is packed as that word. -/
theorem pack_finite {b : BitVec Format.binary64.numBits} {m : Nat} {e : Int} (positive : 0 < m)
    (notTop : b.toNat / 2 ^ 52 % 2 ^ 11 < 2047) (parts : HasParts b.toNat m e) :
    UnpackedFloat.pack .binary64 (.finite (Sign.ofBitVec (unpackSign b)) m e positive) = b := by
  have mantissaBits : Format.binary64.mantissaBits = 53 := rfl
  have bias : (Format.binary64.exponentBias : Int) = 1023 := rfl
  have notInfinite : ¬ 2 ^ Format.binary64.exponentBits ≤ (e + Format.binary64.exponentBias +
      Format.binary64.mantissaBitsWithoutImplicit).toNat + 1 := by
    have smallest : minExponent = -1074 := rfl
    rw [bias]
    simp only [HasParts] at parts ⊢
    split at parts <;> omega
  rw [UnpackedFloat.pack]
  simp only [if_neg notInfinite, mantissaBits]
  unfold HasParts at parts
  split at parts
  case isTrue subnormal =>
    obtain ⟨rfl, rfl⟩ := parts
    have short : ¬ (b.toNat % 2 ^ 52).log2 + 1 = 53 := by
      have : (b.toNat % 2 ^ 52).log2 < 52 := (Nat.log2_lt (by omega)).mpr (by omega)
      omega
    rw [if_neg short]
    refine packComponents_of_fields b (BitVec.eq_of_toNat_eq ?_) (BitVec.eq_of_toNat_eq ?_)
    · rw [toNat_unpackExponent, subnormal]
      rfl
    · rw [toNat_unpackMantissa, BitVec.toNat_ofNat]
      exact (Nat.mod_mod _ _).symm
  case isFalse normal =>
    obtain ⟨rfl, rfl⟩ := parts
    have long : (2 ^ 52 + b.toNat % 2 ^ 52).log2 + 1 = 53 := by
      have atLeast : 52 ≤ (2 ^ 52 + b.toNat % 2 ^ 52).log2 :=
        (Nat.le_log2 (by omega)).mpr (by omega)
      have below : (2 ^ 52 + b.toNat % 2 ^ 52).log2 < 53 := (Nat.log2_lt (by omega)).mpr (by omega)
      omega
    rw [if_pos long]
    refine packComponents_of_fields b (BitVec.eq_of_toNat_eq ?_) (BitVec.eq_of_toNat_eq ?_)
    · rw [toNat_unpackExponent, BitVec.toNat_ofNat, bias]
      simp only
      omega
    · rw [toNat_unpackMantissa, BitVec.toNat_ofNat]
      show _ = (2 ^ 52 + b.toNat % 2 ^ 52) % 2 ^ 52
      omega

/-- Packing what was unpacked gives the same word again. -/
theorem pack_unpack {b : BitVec Format.binary64.numBits} (valid : Format.binary64.Valid b) :
    UnpackedFloat.pack .binary64 (UnpackedFloat.unpack .binary64 b) = b := by
  have bound : b.toNat < 2 ^ 64 := b.isLt
  rw [UnpackedFloat.unpack]
  split
  case isTrue top =>
    split
    case isTrue none => exact packComponents_of_fields b top none
    case isFalse some => exact (valid.eq_packedNaN top some).symm
  case isFalse notTop =>
    have exponentNotTop : b.toNat / 2 ^ 52 % 2 ^ 11 ≠ 2047 := by
      rw [← toNat_unpackExponent]
      exact fun same => notTop (BitVec.eq_of_toNat_eq same)
    have bias : (Format.binary64.exponentBias : Int) = 1023 := rfl
    split
    case isTrue zero =>
      have exponentZero : b.toNat / 2 ^ 52 % 2 ^ 11 = 0 := by
        rw [← toNat_unpackExponent, zero]
        rfl
      split
      case isTrue none => exact packComponents_of_fields b zero none
      case isFalse some =>
        refine pack_finite _ (by omega) ?_
        rw [HasParts, if_pos exponentZero, toNat_unpackMantissa, toNat_unpackExponent, bias]
        exact ⟨rfl, by simp only [minExponent]; omega⟩
    case isFalse notZero =>
      have exponentNotZero : b.toNat / 2 ^ 52 % 2 ^ 11 ≠ 0 := by
        rw [← toNat_unpackExponent]
        exact fun same => notZero (BitVec.eq_of_toNat_eq same)
      refine pack_finite _ (by omega) ?_
      rw [HasParts, if_neg exponentNotZero, toNat_append, toNat_unpackMantissa,
        toNat_unpackExponent, bias]
      exact ⟨rfl, by simp only; omega⟩

/-- A double comes back from its word. -/
theorem ofBits_toBits (x : Float) : Float.ofBits x.toBits = x := by
  obtain ⟨⟨bits, valid⟩⟩ := x
  simp only [Float.ofBits, Float.toBits, Float.Model.ofBits, Float.Model.pack, pack_unpack valid]

/-! ## The parts of a double -/

/-- A double is finite exactly if the bits of its exponent are not all set. -/
theorem isFinite_iff (x : Float) :
    x.isFinite = true ↔ x.toBits.toNat / 2 ^ 52 % 2 ^ 11 ≠ 2047 := by
  let b : BitVec Format.binary64.numBits := x.toBits.toBitVec
  have top : x.toBits.toNat / 2 ^ 52 % 2 ^ 11 = 2047 ↔ unpackExponent b = -1#_ := by
    rw [← BitVec.toNat_inj, toNat_unpackExponent]
    rfl
  have finite : x.isFinite = (UnpackedFloat.unpack .binary64 b).isFinite := rfl
  rw [finite, UnpackedFloat.unpack, ne_eq, top]
  by_cases infinite : unpackExponent b = -1#_
  · simp only [infinite, if_true]
    split <;> simp [UnpackedFloat.isFinite]
  · simp only [infinite, if_false]
    split
    · split <;> simp [UnpackedFloat.isFinite]
    · simp [UnpackedFloat.isFinite]

/-! ## Comparing with one -/

/-- A double is given by what is unpacked from its word. -/
theorem eq_of_unpack_eq {x y : Float} (same : x.toModel.unpack = y.toModel.unpack) : x = y := by
  rw [← ofBits_toBits x, ← ofBits_toBits y]
  congr 1
  apply UInt64.toBitVec_inj.mp
  have words := congrArg (UnpackedFloat.pack .binary64) same
  rwa [Float.Model.unpack, Float.Model.unpack, pack_unpack x.toModel.valid,
    pack_unpack y.toModel.valid] at words

/-- Only one value compares as equal to a finite value other than zero. -/
theorem eq_of_compare_finite {u : UnpackedFloat} {sign : Sign} {m : Nat} {e : Int}
    {positive : 0 < m}
    (equal : u.compare (.finite sign m e positive) = some .eq) : u = .finite sign m e positive := by
  cases u with
  | infinity other => cases other <;> cases sign <;> cases equal
  | notANumber => cases equal
  | zero other => cases sign <;> cases equal
  | finite other m' e' positive' =>
    cases other <;> cases sign
    case negative.positive => cases equal
    case positive.negative => cases equal
    all_goals
      simp [UnpackedFloat.compare, Ordering.then_eq_eq] at equal
      obtain ⟨rfl, rfl⟩ := equal
      rfl

/-- What equals one is one. -/
theorem eq_one_of_beq {x : Float} (equal : (x == 1.0) = true) : x = 1.0 := by
  have one : (1.0 : Float).toModel.unpack =
      .finite .positive (Nat.pow 2 52) (-52) (by decide) := rfl
  apply eq_of_unpack_eq
  rw [one]
  apply eq_of_compare_finite
  rw [← one]
  exact beq_iff_eq.mp equal

end Binary64

/-- What the parts of every finite double satisfy. -/
structure Dyadic.Canonical (d : Dyadic) : Prop where
  /-- The mantissa has at most 53 binary digits. -/
  mantissa_lt : d.mantissa < 2 ^ 53
  /-- The exponent is at least the smallest one. -/
  minExponent_le : Binary64.minExponent ≤ d.exponent
  /-- The exponent is at most the largest one. -/
  exponent_le : d.exponent ≤ 971
  /-- Only a mantissa at the smallest exponent has fewer digits. -/
  exponent_eq : d.mantissa < 2 ^ 52 → d.exponent = Binary64.minExponent

/-- The word of the absolute value. -/
def Dyadic.magnitude (d : Dyadic) : Nat :=
  (d.exponent - Binary64.minExponent).toNat * 2 ^ 52 + d.mantissa

namespace Binary64

/-- What `decode` reads off the word of a double. -/
theorem decode_eq_some {x : Float} {d : Dyadic} (h : decode x = some d) :
    x.toBits.toNat / 2 ^ 52 % 2 ^ 11 ≠ 2047 ∧ d.negative = decide (2 ^ 63 ≤ x.toBits.toNat) ∧
      HasParts x.toBits.toNat d.mantissa d.exponent := by
  unfold decode at h
  simp only [Nat.pow_eq] at h
  rw [HasParts]
  split at h
  case isTrue => cases h
  case isFalse notTop =>
    split at h
    case isTrue zero =>
      cases h
      exact ⟨notTop, rfl, by rw [if_pos zero]; exact ⟨rfl, rfl⟩⟩
    case isFalse notZero =>
      cases h
      exact ⟨notTop, rfl, by rw [if_neg notZero]; exact ⟨rfl, rfl⟩⟩

/-- The finite doubles are those that can be read off. -/
theorem isSome_decode_iff (x : Float) : (decode x).isSome ↔ x.isFinite = true := by
  rw [isFinite_iff]
  constructor
  · intro some
    obtain ⟨d, h⟩ := Option.isSome_iff_exists.mp some
    exact (decode_eq_some h).1
  · intro notTop
    unfold decode
    simp only [Nat.pow_eq, if_neg notTop]
    split <;> rfl

variable {x : Float} {d : Dyadic}

theorem decode_canonical (h : decode x = some d) : d.Canonical := by
  obtain ⟨notTop, -, parts⟩ := decode_eq_some h
  have smallest : minExponent = -1074 := rfl
  unfold HasParts at parts
  split at parts <;> obtain ⟨mantissa, exponent⟩ := parts <;> constructor <;> omega

/-- A finite double is the one with its sign and the word of its absolute value. -/
theorem ofMagnitude_magnitude (h : decode x = some d) :
    ofMagnitude d.negative d.magnitude = x := by
  obtain ⟨notTop, sign, parts⟩ := decode_eq_some h
  have bound : x.toBits.toNat < 2 ^ 64 := x.toBits.toNat_lt
  have magnitude : d.magnitude = x.toBits.toNat % 2 ^ 63 := by
    have smallest : minExponent = -1074 := rfl
    unfold HasParts at parts
    rw [Dyadic.magnitude]
    split at parts <;> obtain ⟨mantissa, exponent⟩ := parts <;> omega
  have word : (if d.negative then Nat.pow 2 63 + d.magnitude else d.magnitude) =
      x.toBits.toNat := by
    rw [sign, magnitude]
    simp only [Nat.pow_eq, decide_eq_true_eq]
    split <;> omega
  rw [ofMagnitude, word, UInt64.ofNat_toNat, ofBits_toBits]

end Binary64

end GrowthGrammar.Decimal

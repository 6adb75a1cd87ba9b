import GrowthGrammar.Proofs.Decimal.Cutting
import GrowthGrammar.Proofs.Decimal.Shortest

/-!
# Arithmetic on doubles

The value of a finite double is a rational number (`Binary64.value`), and a double can be the
one nearest to a number (`Binary64.Nearest`).  The sum, the difference and the quotient of
finite doubles are the doubles nearest to the sum, the difference and the quotient of their
values (`nearest_add`, `nearest_sub`, `nearest_div`).

How far the nearest double can be away is said twice: relative to the number, but at least half
the smallest double (`Nearest.abs_sub_le_max`), and only relative to the number for a multiple of
the smallest double, such as a sum (`Nearest.abs_sub_le_of_multiple`).  It is finite unless the
number is too large (`Nearest.isFinite`).
-/

namespace GrowthGrammar.Decimal

open Float.Model (Format UnpackedFloat)
open Float.Model.UnpackedFloat

/-! ## Values -/

/-- A number of a given sign and absolute value. -/
def withSign (negative : Bool) (q : ℚ) : ℚ := if negative then -q else q

@[simp]
theorem withSign_zero (negative : Bool) : withSign negative 0 = 0 := by
  cases negative
  · rfl
  · exact neg_zero

@[simp]
theorem abs_withSign (negative : Bool) (q : ℚ) : |withSign negative q| = |q| := by
  cases negative
  · rfl
  · exact abs_neg q

theorem withSign_sub (negative : Bool) (p q : ℚ) :
    withSign negative p - withSign negative q = withSign negative (p - q) := by
  cases negative
  · rfl
  · exact neg_sub_neg p q |>.trans (neg_sub p q).symm

theorem withSign_not (negative : Bool) (q : ℚ) : withSign (!negative) q = -withSign negative q := by
  cases negative
  · rfl
  · exact (neg_neg q).symm

/-- The value with its sign. -/
def Dyadic.signed (d : Dyadic) : ℚ := withSign d.negative d.value

namespace Binary64

/-- The value of a finite double, and zero for the others. -/
def value (x : Float) : ℚ := ((decode x).map Dyadic.signed).getD 0

theorem value_of_decode {x : Float} {d : Dyadic} (decoded : decode x = some d) :
    value x = d.signed := by
  rw [value, decoded]
  rfl

theorem value_of_parts {x : Float} {m : Nat} {e : Int} (decoded : decode x = some ⟨false, m, e⟩) :
    value x = m * 2 ^ e := value_of_decode decoded

theorem value_zero : value 0 = 0 :=
  (value_of_parts (m := 0) (e := minExponent) (by decide)).trans (by simp)

theorem value_two : value 2 = 2 :=
  (value_of_parts (m := 2 ^ 52) (e := -51) (by decide)).trans (by norm_num)

theorem exists_decode {x : Float} (finite : x.isFinite = true) : ∃ d, decode x = some d :=
  Option.isSome_iff_exists.mp ((isSome_decode_iff x).mpr finite)

/-- A double is the one that a number is rounded to. -/
def Nearest (x : Float) (y : ℚ) : Prop :=
  ∃ negative num den, 0 < den ∧ x = ofQuotient negative num den ∧
    y = withSign negative (num / den)

/-- A double is given by its word. -/
theorem eq_ofMagnitude {x : Float} {negative : Bool} {bits : Nat}
    (word : x.toBits.toNat = if negative then 2 ^ 63 + bits else bits) :
    x = ofMagnitude negative bits := by
  rw [ofMagnitude, Nat.pow_eq, ← word, UInt64.ofNat_toNat, ofBits_toBits]

theorem nearest_of_word {x : Float} {negative : Bool} {num den : Nat} (hd : 0 < den)
    (word : x.toBits.toNat =
      if negative then 2 ^ 63 + quotientBits num den else quotientBits num den) :
    Nearest x (withSign negative (num / den)) :=
  ⟨negative, num, den, hd, eq_ofMagnitude word, rfl⟩

/-! ## A double is nearest to its own value -/

theorem quotientBits_zero (den : Nat) : quotientBits 0 den = 0 := if_pos rfl

theorem quotientBits_num_den {d : Dyadic} (canonical : d.Canonical) :
    quotientBits d.num d.den = d.magnitude := by
  rcases Nat.eq_zero_or_pos d.mantissa with zero | positive
  · have smallest := canonical.exponent_eq (by rw [zero]; decide)
    rw [Dyadic.num, zero, Nat.zero_mul, quotientBits_zero, Dyadic.magnitude, zero, smallest]
    rfl
  · refine quotientBits_of_contains canonical positive d.den_pos
      (ReadBack.contains_of_abs_sub_lt positive ?_)
    have middle : ((ReadBack.of d).middle : ℚ) * 2 ^ (ReadBack.of d).exponent = d.value := by
      have four : (ReadBack.of d).middle = 4 * d.mantissa := rfl
      have step : (2 : ℚ) ^ (ReadBack.of d).exponent = 2 ^ d.exponent / 4 := by
        rw [ReadBack.of, zpow_sub₀ two_ne_zero]
        norm_num
      rw [four, step, Dyadic.value]
      push_cast
      ring
    rw [middle, d.num_div_den, sub_self, abs_zero]
    positivity

/-- What is packed from the parts of a finite double is nearest to their value. -/
theorem nearest_of_pack_unpacked {x : Float} {d : Dyadic} (canonical : d.Canonical)
    (packed : x.toBits.toBitVec = UnpackedFloat.pack .binary64 d.unpacked) :
    Nearest x d.signed := by
  have normal : d.Normal :=
    ⟨canonical.mantissa_lt, canonical.minExponent_le, canonical.exponent_eq⟩
  have word := normal.toNat_pack_of_finite canonical.magnitude_lt
  rw [← packed, ← quotientBits_num_den canonical] at word
  rw [Dyadic.signed, ← d.num_div_den]
  exact nearest_of_word d.den_pos word

/-- A zero of either sign is nearest to zero. -/
theorem nearest_of_pack_zero {x : Float} {s : Sign}
    (packed : x.toBits.toBitVec = UnpackedFloat.pack .binary64 (.zero s)) : Nearest x 0 := by
  have word := congrArg BitVec.toNat packed
  have zero (negative : Bool) : (0 : ℚ) = withSign negative ((0 : Nat) / (1 : Nat)) := by simp
  cases s with
  | positive => exact ⟨false, 0, 1, one_pos, eq_ofMagnitude word, zero false⟩
  | negative => exact ⟨true, 0, 1, one_pos, eq_ofMagnitude word, zero true⟩

/-! ## Sums -/

theorem log2_mul_two_pow {m : Nat} (positive : 0 < m) (k : Nat) :
    (m * 2 ^ k).log2 = m.log2 + k := by
  have scaled : m * 2 ^ k ≠ 0 := (Nat.mul_pos positive (Nat.two_pow_pos k)).ne'
  rw [Nat.log2_eq_iff scaled, Nat.pow_add, Nat.add_right_comm, Nat.pow_add]
  exact ⟨Nat.mul_le_mul_right _ (Nat.log2_self_le positive.ne'),
    Nat.mul_lt_mul_of_pos_right Nat.lt_log2_self (Nat.two_pow_pos k)⟩

/-- A mantissa at any exponent is rounded to the double nearest to its value. -/
theorem nearest_of_pack_round {x : Float} {m : Nat} {e : Int} (positive : 0 < m) (negative : Bool)
    (packed : x.toBits.toBitVec = UnpackedFloat.pack .binary64
      (UnpackedFloat.round .binary64 (if negative then .negative else .positive) m e)) :
    Nearest x (withSign negative (m * 2 ^ e)) := by
  have quotient : ((m * Nat.pow 2 e.toNat : Nat) : ℚ) / (Nat.pow 2 (-e).toNat : Nat) =
      m * 2 ^ e := by
    rw [Nat.cast_mul, mul_div_assoc, pow_div_pow 2 two_pos, Nat.cast_ofNat]
  have hd : 0 < Nat.pow 2 (-e).toNat := Nat.pow_pos two_pos
  have hn : 0 < m * Nat.pow 2 e.toNat := Nat.mul_pos positive (Nat.pow_pos two_pos)
  -- the mantissa is widened by `k` digits before digits are cut off
  obtain ⟨k, widening⟩ : ∃ k : Nat, k = (e - max ((m.log2 : Int) + e - 52) minExponent).toNat :=
    ⟨_, rfl⟩
  have log : (m * 2 ^ k).log2 = m.log2 + k := log2_mul_two_pow positive k
  have cut : Cut (ExtendedMantissa.ofMantissaAndAccuracy (m * 2 ^ k) .exact)
      (((m * Nat.pow 2 e.toNat : Nat) : ℚ) / (Nat.pow 2 (-e).toNat : Nat) / 2 ^ (e - k)) := by
    have whole := Cut.exact (m * 2 ^ k)
    convert whole using 1
    rw [quotient, zpow_sub₀ two_ne_zero, zpow_natCast]
    push_cast
    field_simp
  have word := toNat_pack_roundWithAccuracy hn hd cut (by rw [log]; omega) negative
  rw [← quotient]
  refine nearest_of_word hd ?_
  rw [← word]
  have rounded : UnpackedFloat.round .binary64 (if negative then .negative else .positive) m e =
      roundWithAccuracy .binary64 (if negative then .negative else .positive) (m * 2 ^ k) (e - k)
        .exact := by
    simp only [UnpackedFloat.round, decreaseExponent, targetExponent_eq, ← widening,
      Nat.shiftLeft_eq]
  rw [← rounded, ← packed]
  rfl

theorem nearest_of_pack_normalize {x : Float} {n e : Int}
    (packed : x.toBits.toBitVec =
      UnpackedFloat.pack .binary64 (UnpackedFloat.normalize .binary64 n e .positive)) :
    Nearest x (n * 2 ^ e) := by
  rw [UnpackedFloat.normalize] at packed
  rcases lt_trichotomy n 0 with below | rfl | above
  · rw [compare_lt_iff_lt.mpr below] at packed
    have nearest := nearest_of_pack_round (by omega : 0 < (-n).toNat) true packed
    have absolute : ((-n).toNat : ℚ) = -n := by exact_mod_cast Int.toNat_of_nonneg (by omega)
    rwa [absolute, withSign, if_pos rfl, neg_mul, neg_neg] at nearest
  · rw [compare_eq_iff_eq.mpr rfl] at packed
    rw [Int.cast_zero, zero_mul]
    exact nearest_of_pack_zero packed
  · rw [compare_gt_iff_gt.mpr above] at packed
    have nearest := nearest_of_pack_round (by omega : 0 < n.toNat) false packed
    have absolute : (n.toNat : ℚ) = n := by exact_mod_cast Int.toNat_of_nonneg (by omega)
    rwa [absolute] at nearest

/-- A mantissa at a smaller exponent, with its sign. -/
theorem apply_decreaseExponent (d : Dyadic) {e : Int} (le : e ≤ d.exponent) :
    (d.sign.apply ((decreaseExponent d.mantissa d.exponent e).1 : Nat) : ℚ) * 2 ^ e =
      d.signed := by
  have widened : (((decreaseExponent d.mantissa d.exponent e).1 : Nat) : ℚ) * 2 ^ e = d.value := by
    have exponent : d.exponent = ((d.exponent - e).toNat : Int) + e := by omega
    rw [decreaseExponent, Nat.shiftLeft_eq, Dyadic.value]
    conv_rhs => rw [exponent, zpow_add₀ two_ne_zero, zpow_natCast]
    push_cast
    ring
  rw [Dyadic.signed, ← widened, Dyadic.sign]
  cases d.negative with
  | true => simp [Sign.apply, withSign]
  | false => simp [Sign.apply, withSign]

theorem signed_of_zero {d : Dyadic} (zero : d.mantissa = 0) : d.signed = 0 := by
  rw [Dyadic.signed, Dyadic.value, zero, Nat.cast_zero, zero_mul, withSign_zero]

section

variable {a b : Dyadic}

theorem add_unpacked (positiveA : 0 < a.mantissa) (positiveB : 0 < b.mantissa) :
    UnpackedFloat.add .binary64 a.unpacked b.unpacked =
      UnpackedFloat.normalize .binary64
        (a.sign.apply (decreaseExponent a.mantissa a.exponent (min a.exponent b.exponent)).1 +
          b.sign.apply (decreaseExponent b.mantissa b.exponent (min a.exponent b.exponent)).1)
        (min a.exponent b.exponent) .positive := by
  rw [Dyadic.unpacked_of_pos positiveA, Dyadic.unpacked_of_pos positiveB]
  rfl

theorem add_unpacked_zero (zero : b.mantissa = 0) (positive : 0 < a.mantissa) :
    UnpackedFloat.add .binary64 a.unpacked b.unpacked = a.unpacked := by
  rw [Dyadic.unpacked_of_pos positive, Dyadic.unpacked_of_zero zero]
  rfl

theorem zero_add_unpacked (zero : a.mantissa = 0) (positive : 0 < b.mantissa) :
    UnpackedFloat.add .binary64 a.unpacked b.unpacked = b.unpacked := by
  rw [Dyadic.unpacked_of_pos positive, Dyadic.unpacked_of_zero zero]
  rfl

theorem zero_add_zero (zeroA : a.mantissa = 0) (zeroB : b.mantissa = 0) :
    ∃ s, UnpackedFloat.add .binary64 a.unpacked b.unpacked = .zero s := by
  rw [Dyadic.unpacked_of_zero zeroA, Dyadic.unpacked_of_zero zeroB, UnpackedFloat.add]
  split
  · exact ⟨_, rfl⟩
  · exact ⟨_, rfl⟩

/-- The sum of two canonical values is rounded to the nearest double. -/
theorem nearest_of_pack_add {x : Float} (canonicalA : a.Canonical) (canonicalB : b.Canonical)
    (packed : x.toBits.toBitVec = UnpackedFloat.pack .binary64
      (UnpackedFloat.add .binary64 a.unpacked b.unpacked)) : Nearest x (a.signed + b.signed) := by
  rcases Nat.eq_zero_or_pos a.mantissa with zeroA | positiveA
  · rw [signed_of_zero zeroA, add_comm, add_zero]
    rcases Nat.eq_zero_or_pos b.mantissa with zeroB | positiveB
    · obtain ⟨s, sum⟩ := zero_add_zero zeroA zeroB
      rw [sum] at packed
      rw [signed_of_zero zeroB]
      exact nearest_of_pack_zero packed
    · rw [zero_add_unpacked zeroA positiveB] at packed
      exact nearest_of_pack_unpacked canonicalB packed
  · rcases Nat.eq_zero_or_pos b.mantissa with zeroB | positiveB
    · rw [add_unpacked_zero zeroB positiveA] at packed
      rw [signed_of_zero zeroB, add_zero]
      exact nearest_of_pack_unpacked canonicalA packed
    · rw [add_unpacked positiveA positiveB] at packed
      have nearest := nearest_of_pack_normalize packed
      rwa [Int.cast_add, add_mul, apply_decreaseExponent a (min_le_left _ _),
        apply_decreaseExponent b (min_le_right _ _)] at nearest

end

section

variable {x y : Float} (finiteX : x.isFinite = true) (finiteY : y.isFinite = true)

include finiteX finiteY

/-- The sum of two finite doubles is the double nearest to the sum of their values. -/
theorem nearest_add : Nearest (x + y) (value x + value y) := by
  obtain ⟨a, decodedX⟩ := exists_decode finiteX
  obtain ⟨b, decodedY⟩ := exists_decode finiteY
  rw [value_of_decode decodedX, value_of_decode decodedY]
  refine nearest_of_pack_add (decode_canonical decodedX) (decode_canonical decodedY) ?_
  rw [← unpack_of_decode decodedX, ← unpack_of_decode decodedY]
  rfl

end

/-! ## Differences -/

/-- The value with the other sign. -/
def opposite (d : Dyadic) : Dyadic := { d with negative := !d.negative }

theorem signed_opposite (d : Dyadic) : (opposite d).signed = -d.signed := withSign_not _ _

theorem canonical_opposite {d : Dyadic} (canonical : d.Canonical) : (opposite d).Canonical :=
  ⟨canonical.mantissa_lt, canonical.minExponent_le, canonical.exponent_le, canonical.exponent_eq⟩

theorem unpacked_opposite (d : Dyadic) : (opposite d).unpacked = d.unpacked.neg := by
  have sign : (opposite d).sign = -d.sign := by
    rw [Dyadic.sign, Dyadic.sign, opposite]
    cases d.negative <;> rfl
  rcases Nat.eq_zero_or_pos d.mantissa with zero | positive
  · rw [Dyadic.unpacked_of_zero zero, Dyadic.unpacked_of_zero (d := opposite d) zero, sign]
    rfl
  · rw [Dyadic.unpacked_of_pos positive, Dyadic.unpacked_of_pos (d := opposite d) positive, sign]
    rfl

/-- A difference is computed as the sum with the opposite. -/
theorem sub_eq_add_neg_unpacked (u v : UnpackedFloat) :
    UnpackedFloat.sub .binary64 u v = UnpackedFloat.add .binary64 u v.neg := by
  have signs (s : Sign) (n : Int) : s.apply n = -(-s).apply n := by
    cases s
    · rfl
    · exact (neg_neg n).symm
  have twice (s : Sign) : - -s = s := by cases s <;> rfl
  cases u with
  | notANumber => cases v <;> rfl
  | infinity s => cases v <;> rfl
  | zero s => cases v <;> rfl
  | finite s m e positive =>
    cases v with
    | finite s' m' e' positive' =>
      simp only [UnpackedFloat.sub, UnpackedFloat.add, UnpackedFloat.neg]
      rw [signs s', sub_neg_eq_add]
    | _ => rfl

/-- The opposite of a finite double has the opposite parts. -/
theorem decode_neg {x : Float} {d : Dyadic} (decoded : decode x = some d) :
    decode (-x) = some (opposite d) := by
  have canonical := decode_canonical decoded
  have normal : (opposite d).Normal :=
    ⟨canonical.mantissa_lt, canonical.minExponent_le, canonical.exponent_eq⟩
  have packed : (-x).toBits.toBitVec =
      UnpackedFloat.pack .binary64 (opposite d).unpacked := by
    rw [unpacked_opposite, ← unpack_of_decode decoded]
    rfl
  have finite := (canonical_opposite canonical).magnitude_lt
  have word := normal.toNat_pack_of_finite finite
  rw [← packed] at word
  rw [eq_ofMagnitude word]
  exact decode_ofMagnitude (canonical_opposite canonical) finite

theorem isFinite_neg {x : Float} (finite : x.isFinite = true) : (-x).isFinite = true := by
  obtain ⟨d, decoded⟩ := exists_decode finite
  rw [← isSome_decode_iff, decode_neg decoded]
  rfl

/-- The difference of two finite doubles is the double nearest to the difference of their
values. -/
theorem nearest_sub {x y : Float} (finiteX : x.isFinite = true) (finiteY : y.isFinite = true) :
    Nearest (x - y) (value x - value y) := by
  obtain ⟨a, decodedX⟩ := exists_decode finiteX
  obtain ⟨b, decodedY⟩ := exists_decode finiteY
  rw [value_of_decode decodedX, value_of_decode decodedY, sub_eq_add_neg, ← signed_opposite]
  refine nearest_of_pack_add (decode_canonical decodedX)
    (canonical_opposite (decode_canonical decodedY)) ?_
  rw [unpacked_opposite, ← sub_eq_add_neg_unpacked, ← unpack_of_decode decodedX,
    ← unpack_of_decode decodedY]
  rfl

/-! ## Quotients -/

theorem value_div_value {a b : Dyadic} :
    ((a.num * b.den : Nat) : ℚ) / (a.den * b.num : Nat) = a.value / b.value := by
  rw [Nat.cast_mul, Nat.cast_mul, mul_div_mul_comm, ← a.num_div_den, ← b.num_div_den,
    div_div_eq_mul_div, mul_div_assoc]

/-- A quotient of mantissas has 53 digits if the first one is widened far enough. -/
theorem le_log2_div {m n k : Nat} (positive : 0 < m) (positive' : 0 < n)
    (wide : n.log2 + 53 ≤ m.log2 + k) : 52 ≤ (m * 2 ^ k / n).log2 := by
  have large : 2 ^ 52 ≤ m * 2 ^ k / n := by
    rw [Nat.le_div_iff_mul_le positive']
    calc 2 ^ 52 * n ≤ 2 ^ 52 * 2 ^ (n.log2 + 1) := Nat.mul_le_mul_left _ Nat.lt_log2_self.le
      _ = 2 ^ (n.log2 + 53) := by rw [← Nat.pow_add]; congr 1; omega
      _ ≤ 2 ^ (m.log2 + k) := Nat.pow_le_pow_right two_pos wide
      _ ≤ m * 2 ^ k := by
        rw [Nat.pow_add]
        exact Nat.mul_le_mul_right _ (Nat.log2_self_le positive.ne')
  exact (Nat.le_log2 (by omega)).mpr large

/-- The quotient of two values above zero is cut off with enough digits. -/
theorem toNat_pack_div {a b : Dyadic} (positiveA : 0 < a.mantissa) (positiveB : 0 < b.mantissa)
    (negative : Bool) :
    let parts := divCore .binary64 a.mantissa a.exponent b.mantissa b.exponent
    (UnpackedFloat.pack .binary64 (roundWithAccuracy .binary64
      (if negative then .negative else .positive) parts.1 parts.2.1 parts.2.2)).toNat =
        if negative then 2 ^ 63 + quotientBits (a.num * b.den) (a.den * b.num)
        else quotientBits (a.num * b.den) (a.den * b.num) := by
  intro parts
  have numA : 0 < a.num := Nat.mul_pos positiveA (Nat.pow_pos two_pos)
  have numB : 0 < b.num := Nat.mul_pos positiveB (Nat.pow_pos two_pos)
  have smallest : minExponent = -1074 := rfl
  -- the exponent of the quotient, and the digits by which the first mantissa is widened for it
  obtain ⟨e, exponent⟩ : ∃ e, e = min (a.exponent - b.exponent)
      (max ((a.mantissa.log2 : Int) + 1 + a.exponent - (b.mantissa.log2 + 1 + b.exponent) - 53)
        (-1074)) := ⟨_, rfl⟩
  obtain ⟨k, widening⟩ : ∃ k : Nat, k = (a.exponent - b.exponent - e).toNat := ⟨_, rfl⟩
  have parts_eq : parts = (a.mantissa * 2 ^ k / b.mantissa, e,
      accuracyOfFraction (a.mantissa * 2 ^ k % b.mantissa) b.mantissa) := by
    rw [← Nat.shiftLeft_eq, widening, exponent]
    rfl
  have cut := Cut.quotient (a.mantissa * 2 ^ k) positiveB
  have quotient : ((a.mantissa * 2 ^ k : Nat) : ℚ) / b.mantissa =
      ((a.num * b.den : Nat) : ℚ) / (a.den * b.num : Nat) / 2 ^ e := by
    have split : a.exponent = (k : Int) + b.exponent + e := by omega
    have nonzero : (b.mantissa : ℚ) ≠ 0 := by exact_mod_cast positiveB.ne'
    rw [value_div_value, Dyadic.value, Dyadic.value, split, zpow_add₀ two_ne_zero,
      zpow_add₀ two_ne_zero, zpow_natCast]
    push_cast
    field_simp
  rw [quotient] at cut
  rw [parts_eq]
  refine toNat_pack_roundWithAccuracy (Nat.mul_pos numA b.den_pos) (Nat.mul_pos a.den_pos numB) cut
    ?_ negative
  by_cases low : e ≤ minExponent
  · exact .inr low
  · exact .inl (le_log2_div positiveA positiveB (by omega))

/-- The quotient of two finite doubles is the double nearest to the quotient of their values. -/
theorem nearest_div {x y : Float} (finiteX : x.isFinite = true) (finiteY : y.isFinite = true)
    (nonzero : value y ≠ 0) : Nearest (x / y) (value x / value y) := by
  obtain ⟨a, decodedX⟩ := exists_decode finiteX
  obtain ⟨b, decodedY⟩ := exists_decode finiteY
  rw [value_of_decode decodedY] at nonzero
  rw [value_of_decode decodedX, value_of_decode decodedY]
  have positiveB : 0 < b.mantissa := Nat.pos_of_ne_zero fun zero => nonzero (signed_of_zero zero)
  have packed : (x / y).toBits.toBitVec = UnpackedFloat.pack .binary64
      (UnpackedFloat.div .binary64 a.unpacked b.unpacked) := by
    rw [← unpack_of_decode decodedX, ← unpack_of_decode decodedY]
    rfl
  rw [Dyadic.unpacked_of_pos positiveB] at packed
  rcases Nat.eq_zero_or_pos a.mantissa with zeroA | positiveA
  · rw [Dyadic.unpacked_of_zero zeroA] at packed
    rw [signed_of_zero zeroA, zero_div]
    exact nearest_of_pack_zero packed
  · rw [Dyadic.unpacked_of_pos positiveA] at packed
    have word := toNat_pack_div positiveA positiveB (a.negative != b.negative)
    have sign : (if (a.negative != b.negative) = true then Sign.negative else Sign.positive) =
        a.sign / b.sign := by
      rw [Dyadic.sign, Dyadic.sign]
      cases a.negative <;> cases b.negative <;> rfl
    have numB : 0 < b.num := Nat.mul_pos positiveB (Nat.pow_pos two_pos)
    have signs : a.signed / b.signed =
        withSign (a.negative != b.negative) (a.value / b.value) := by
      rw [Dyadic.signed, Dyadic.signed]
      cases a.negative <;> cases b.negative <;> simp [withSign, neg_div, div_neg]
    rw [signs, ← value_div_value]
    refine nearest_of_word (Nat.mul_pos a.den_pos numB) ?_
    rw [← word, sign]
    exact congrArg BitVec.toNat packed

/-! ## How far the nearest double is away -/

theorem not_isFinite_infinity (negative : Bool) :
    ¬ (ofMagnitude negative infinityBits).isFinite = true := by
  cases negative <;> decide

section

variable {num den : Nat} (hn : 0 < num) (hd : 0 < den) {q : Int}
  (last : max (binaryExponent num den - 52) minExponent = q) (negative : Bool)

include hn hd last

/-- The value of a rounded quotient is its significand times its step. -/
theorem value_ofQuotient (finite : (ofQuotient negative num den).isFinite = true) :
    value (ofQuotient negative num den) = withSign negative
      (roundDiv (num * Nat.pow 2 (-q).toNat) (den * Nat.pow 2 q.toNat) * 2 ^ q) := by
  have rounded := rounded_significand hn hd last
  have bits := quotientBits_eq hn last rfl
  have magnitude := rounded.magnitude_carried negative
  rw [← magnitude] at bits
  have below : (Dyadic.carried negative (roundDiv (num * Nat.pow 2 (-q).toNat)
      (den * Nat.pow 2 q.toNat)) q).magnitude < infinityBits := by
    by_contra notBelow
    rw [min_eq_right (not_lt.mp notBelow)] at bits
    rw [ofQuotient, bits] at finite
    exact not_isFinite_infinity negative finite
  rw [min_eq_left below.le] at bits
  have decoded := decode_ofMagnitude ((rounded.normal_carried negative).canonical below) below
  rw [Rounded.negative_carried] at decoded
  rw [ofQuotient, bits, value_of_decode decoded, Dyadic.signed, Rounded.negative_carried,
    rounded.value_carried]

/-- A quotient that is not too large is rounded to a finite double. -/
theorem isFinite_ofQuotient (small : (num : ℚ) / den < 2 ^ (1023 : Int)) :
    (ofQuotient negative num den).isFinite = true := by
  have smallest : minExponent = -1074 := rfl
  have infinite : infinityBits = 2047 * 2 ^ 52 := rfl
  have rounded := rounded_significand hn hd last
  obtain ⟨atLeast, -⟩ := binaryExponent_between hn hd
  have exponent : binaryExponent num den < 1023 :=
    (zpow_lt_zpow_iff_right₀ one_lt_two).mp (atLeast.trans_lt small)
  refine isFinite_ofMagnitude ?_ negative
  rw [quotientBits_eq hn last rfl]
  refine (min_le_left _ _).trans_lt ?_
  have le := rounded.le
  omega

omit hn last in
/-- Rounding moves a quotient by at most half a step. -/
theorem abs_significand_sub_le :
    |(roundDiv (num * Nat.pow 2 (-q).toNat) (den * Nat.pow 2 q.toNat) : ℚ) * 2 ^ q - num / den| ≤
      2 ^ q / 2 := by
  have step : (0 : ℚ) < 2 ^ q := by positivity
  have near := abs_roundDiv_sub_le (num * Nat.pow 2 (-q).toNat) (scaled_den_pos two_pos hd q.toNat)
  rw [scaled_div 2 two_pos, Nat.cast_ofNat, zpow_neg, ← div_eq_mul_inv] at near
  have scaled := mul_le_mul_of_nonneg_right near step.le
  rw [← abs_of_pos step, ← abs_mul, abs_of_pos step, sub_mul, div_mul_cancel₀ _ step.ne'] at scaled
  linarith

/-- Half a step is small against the quotient, unless it is half the smallest one. -/
theorem half_step_le (notSmallest : q ≠ minExponent) : (2 : ℚ) ^ q / 2 ≤ num / den / 2 ^ 53 := by
  obtain ⟨atLeast, -⟩ := binaryExponent_between hn hd
  obtain rfl : q = binaryExponent num den - 52 := by omega
  rw [zpow_sub₀ two_ne_zero]
  norm_num
  linarith

end

theorem value_ofQuotient_zero (negative : Bool) (den : Nat) :
    value (ofQuotient negative 0 den) = 0 := by
  have decoded : decode (ofMagnitude negative 0) = some ⟨negative, 0, minExponent⟩ := by
    cases negative <;> decide
  rw [ofQuotient, quotientBits_zero, value_of_decode decoded]
  exact signed_of_zero rfl

theorem abs_ratio (num den : Nat) : |(num : ℚ) / den| = num / den :=
  abs_of_nonneg (div_nonneg (Nat.cast_nonneg _) (Nat.cast_nonneg _))

namespace Nearest

variable {x : Float} {y : ℚ} (nearest : Nearest x y)

include nearest

/-- The nearest double of a number that is not too large is finite. -/
theorem isFinite (small : |y| < 2 ^ (1023 : Int)) : x.isFinite = true := by
  obtain ⟨negative, num, den, hd, rfl, rfl⟩ := nearest
  rw [abs_withSign, abs_ratio] at small
  rcases Nat.eq_zero_or_pos num with rfl | hn
  · rw [ofQuotient, quotientBits_zero]
    exact isFinite_ofMagnitude (by decide) negative
  · exact isFinite_ofQuotient hn hd rfl negative small

variable (finite : x.isFinite = true)

include finite

/-- The nearest double is off by a part of the number, or by half the smallest double. -/
theorem abs_sub_le_max : |value x - y| ≤ max (|y| / 2 ^ 53) (2 ^ minExponent / 2) := by
  obtain ⟨negative, num, den, hd, rfl, rfl⟩ := nearest
  rcases Nat.eq_zero_or_pos num with rfl | hn
  · simp [value_ofQuotient_zero]
  · obtain ⟨q, last⟩ : ∃ q, max (binaryExponent num den - 52) minExponent = q := ⟨_, rfl⟩
    rw [value_ofQuotient hn hd last negative finite, withSign_sub, abs_withSign, abs_withSign,
      abs_ratio]
    refine (abs_significand_sub_le hd).trans ?_
    by_cases smallest : q = minExponent
    · rw [smallest]
      exact le_max_right _ _
    · exact (half_step_le hn hd last smallest).trans (le_max_left _ _)

/-- The two errors together. -/
theorem abs_sub_le : |value x - y| ≤ |y| / 2 ^ 53 + 2 ^ minExponent / 2 :=
  (nearest.abs_sub_le_max finite).trans (max_le_add_of_nonneg (by positivity) (by positivity))

/-- The nearest double of a multiple of the smallest double is off by a part of the number. -/
theorem abs_sub_le_of_multiple {n : Int} (multiple : y = n * 2 ^ minExponent) :
    |value x - y| ≤ |y| / 2 ^ 53 := by
  obtain ⟨negative, num, den, hd, rfl, rfl⟩ := nearest
  rcases Nat.eq_zero_or_pos num with rfl | hn
  · simp [value_ofQuotient_zero]
  · obtain ⟨q, last⟩ : ∃ q, max (binaryExponent num den - 52) minExponent = q := ⟨_, rfl⟩
    rw [value_ofQuotient hn hd last negative finite, withSign_sub, abs_withSign, abs_withSign,
      abs_ratio]
    by_cases smallest : q = minExponent
    · -- a multiple of the smallest double is its own significand
      have positive : (0 : ℚ) < 2 ^ minExponent := by positivity
      have absolute : (num : ℚ) / den = n.natAbs * 2 ^ q := by
        rw [← abs_ratio, ← abs_withSign negative, multiple, abs_mul, abs_of_pos positive,
          smallest, Nat.cast_natAbs, Int.cast_abs]
      have step : (2 : ℚ) ^ q ≠ 0 := by positivity
      have scaled : ((num * Nat.pow 2 (-q).toNat : Nat) : ℚ) / (den * Nat.pow 2 q.toNat : Nat) =
          n.natAbs := by
        rw [scaled_div 2 two_pos, Nat.cast_ofNat, absolute, mul_assoc, ← zpow_add₀ two_ne_zero,
          Int.add_right_neg, zpow_zero, mul_one]
      have significand : roundDiv (num * Nat.pow 2 (-q).toNat) (den * Nat.pow 2 q.toNat) =
          n.natAbs := by
        refine roundDiv_eq (scaled_den_pos two_pos hd _) ?_ fun _ => ?_ <;>
          rw [scaled, sub_self, abs_zero] <;> norm_num
      rw [significand, absolute, sub_self, abs_zero]
      positivity
    · exact (abs_significand_sub_le hd).trans (half_step_le hn hd last smallest)

end Nearest

/-- A finite double is a multiple of the smallest one. -/
theorem exists_multiple {x : Float} (finite : x.isFinite = true) :
    ∃ n : Int, value x = n * 2 ^ minExponent := by
  obtain ⟨d, decoded⟩ := exists_decode finite
  have lowest := (decode_canonical decoded).minExponent_le
  have exponent : d.exponent = ((d.exponent - minExponent).toNat : Int) + minExponent := by omega
  have value_eq : d.value = (d.mantissa * 2 ^ (d.exponent - minExponent).toNat : Nat) *
      2 ^ minExponent := by
    rw [Dyadic.value]
    conv_lhs => rw [exponent, zpow_add₀ two_ne_zero, zpow_natCast]
    push_cast
    ring
  rw [value_of_decode decoded, Dyadic.signed, value_eq]
  cases d.negative
  · exact ⟨(d.mantissa * 2 ^ (d.exponent - minExponent).toNat : Nat), by
      rw [withSign, if_neg Bool.false_ne_true, Int.cast_natCast]⟩
  · exact ⟨-(d.mantissa * 2 ^ (d.exponent - minExponent).toNat : Nat), by
      rw [withSign, if_pos rfl, Int.cast_neg, Int.cast_natCast, neg_mul]⟩

end Binary64

end GrowthGrammar.Decimal

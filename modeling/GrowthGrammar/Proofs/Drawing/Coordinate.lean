import GrowthGrammar.Drawing.Coordinate
import GrowthGrammar.Proofs.Decimal.Canonical

/-!
# Coordinates that are read again

A coordinate is written as a whole number of units of the fourth place.  Trimming takes zeros
from behind the point only, and the sign of zero, so it leaves the canonical decimal of the number
that was written (`exists_canonical_trimDecimal`), and the text of a finite double says the double
rounded to four places (`said_coordinate`).  The number that is said is at most half a unit off
(`abs_printed_sub_le`), and of two that are equally near it is the even one
(`isFourPlaces_printed`).  It is zero for what is at most half a unit (`printed_eq_zero`).

Main statement: the text of a finite coordinate is the one canonical decimal of the number with
four places that is nearest to the coordinate, so coordinates share a text if and only if they are
rounded to one number (`coordinate_canonical`).
-/

namespace GrowthGrammar.Drawing

open Decimal

/-! ## What a text says -/

/-- The number that a text says, nothing for a text that is no decimal. -/
def said (text : List Char) : Option ℚ :=
  match readNumeral text with
  | some (.decimal negative digits e) => some (withSign negative (digits * 10 ^ e))
  | _ => none

/-- A written number with a sign says its value with the sign. -/
theorem said_signed {text : List Char} {value : ℚ} (writes : Writes text value) (negative : Bool) :
    said (signed negative text) = some (withSign negative value) := by
  obtain ⟨digits, e, reads, same⟩ := writes.readNumeral_signed negative
  simp only [said, reads, same]

section

variable {whole fraction : List Char} (digits : AreDigits whole) (given : whole ≠ [])
  (negative : Bool)

include digits given

/-- Digits without a point say a whole number. -/
theorem said_whole :
    said (signed negative whole) = some (withSign negative (natOfDigits whole)) := by
  have writes := writes_whole digits given .nothing
  rw [List.append_nil, zpow_zero, mul_one] at writes
  exact said_signed writes negative

/-- Digits with a point among them say a number of units of the last place. -/
theorem said_point (behind : AreDigits fraction) :
    said (signed negative (whole ++ '.' :: fraction)) =
      some (withSign negative (natOfDigits (whole ++ fraction) / 10 ^ fraction.length)) := by
  have writes := writes_point digits given .nothing behind
  rw [List.append_nil, zero_sub, zpow_neg, zpow_natCast, ← div_eq_mul_inv] at writes
  exact said_signed writes negative

end

/-- The text of a canonical decimal says the number that it stands for. -/
theorem said_canonicalText {places : Nat} (c : CanonicalDecimal places) :
    said c.text = some c.value := by
  rw [CanonicalDecimal.text, numberText, CanonicalDecimal.value, CanonicalDecimal.magnitude]
  by_cases none : c.fraction = []
  · simp only [none, if_true, Option.elim_none, List.append_nil, List.length_nil, pow_zero, div_one]
    exact said_whole c.front.digits c.front.given c.negative
  · simp only [none, if_false, Option.elim_none, List.append_nil]
    exact said_point c.front.digits c.front.given c.negative c.digits

/-- Canonical decimals have one text if and only if they stand for one number. -/
theorem canonicalText_eq_iff {places : Nat} (c d : CanonicalDecimal places) :
    c.text = d.text ↔ c.value = d.value := by
  constructor
  · intro same
    rw [← Option.some_inj, ← said_canonicalText, same, said_canonicalText]
  · intro same
    rw [CanonicalDecimal.value_injective same]

/-! ## Fixed places -/

section

variable {places units : Nat} {padded : List Char}
  (filled : padded = zeros (places + 1 - (decimalDigits units).length) ++ decimalDigits units)

include filled

theorem length_of_filled :
    padded.length = places + 1 - (decimalDigits units).length + (decimalDigits units).length := by
  rw [filled, List.length_append, zeros, List.length_replicate]

/-- Zeros are put in front only as far as the digit in front of the point. -/
theorem isWhole_take_of_filled : IsWhole (padded.take (padded.length - places)) := by
  have length := length_of_filled filled
  have digits : AreDigits padded := filled ▸ areDigits_padded _ _
  have given : padded.take (padded.length - places) ≠ [] := by
    rw [ne_eq, List.take_eq_nil_iff, not_or]
    exact ⟨by omega, List.ne_nil_of_length_pos (by omega)⟩
  by_cases few : (decimalDigits units).length ≤ places + 1
  · -- a single digit is in front of the point
    refine ⟨digits.take _, given, fun zero => ?_⟩
    obtain ⟨c, single⟩ : ∃ c, padded.take (padded.length - places) = [c] := by
      rw [← List.length_eq_one_iff, List.length_take]
      omega
    rw [single, List.head?_singleton, Option.some.injEq] at zero
    rw [single, zero]
  · -- no zeros are put in front
    have positive : 0 < units := by
      rw [Nat.pos_iff_ne_zero]
      rintro rfl
      exact few (Nat.le_add_left 1 places)
    have same : padded = decimalDigits units := by
      rw [filled, Nat.sub_eq_zero_of_le (not_le.mp few).le, zeros, List.replicate_zero,
        List.nil_append]
    exact isWhole_of_prefix (digits.take _) given (head?_decimalDigits positive)
      ((List.take_append_drop _ padded).trans same)

end

/-- The digits of a decimal with a fixed number of places. -/
theorem fixedUnits_eq (places units : Nat) : ∃ whole fraction,
    fixedUnits places units = whole ++ '.' :: fraction ∧ IsWhole whole ∧ AreDigits fraction ∧
      fraction.length = places ∧ natOfDigits (whole ++ fraction) = units := by
  let padded := zeros (places + 1 - (decimalDigits units).length) ++ decimalDigits units
  have length : padded.length = _ := length_of_filled rfl
  refine ⟨padded.take (padded.length - places), padded.drop (padded.length - places), rfl,
    isWhole_take_of_filled rfl, (areDigits_padded _ _).drop _, ?_, ?_⟩
  · rw [List.length_drop]
    omega
  · rw [List.take_append_drop]
    simp only [padded, natOfDigits_zeros_append, natOfDigits_decimalDigits]

/-! ## Trimming -/

section

variable {c : Char}

theorem dropTrailing_eq (c : Char) (cs : List Char) :
    dropTrailing c cs = cs.rdropWhile (· == c) := rfl

theorem dropTrailing_append (xs ys : List Char) : dropTrailing c (xs ++ ys) =
    if dropTrailing c ys = [] then dropTrailing c xs else xs ++ dropTrailing c ys := by
  simp only [dropTrailing, List.reverse_append, List.dropWhile_append, List.isEmpty_iff,
    List.reverse_eq_nil_iff]
  split
  · rfl
  · rw [List.reverse_append, List.reverse_reverse]

/-- A text that ends in a digit does not end in a point. -/
theorem dropTrailing_point {ds : List Char} (digits : AreDigits ds) : dropTrailing '.' ds = ds := by
  rw [dropTrailing_eq, List.rdropWhile_eq_self_iff]
  intro nonempty isPoint
  have last := digits _ (List.getLast_mem nonempty)
  rw [beq_iff_eq.mp isPoint] at last
  cases last

theorem areDigits_dropTrailing (c : Char) {ds : List Char} (digits : AreDigits ds) :
    AreDigits (dropTrailing c ds) :=
  fun d member => digits d ((List.rdropWhile_prefix _ _).subset member)

theorem getLast?_dropTrailing_ne (cs : List Char) : (dropTrailing c cs).getLast? ≠ some c := by
  intro last
  have given : dropTrailing c cs ≠ [] := List.ne_nil_of_mem (List.mem_of_getLast? last)
  have same : (dropTrailing c cs).getLast given = c := List.getLast_of_getLast?_eq_some last
  exact List.rdropWhile_last_not (· == c) cs given (beq_iff_eq.mpr same)

/-- Zeros that are taken from behind some digits count by their number only. -/
theorem natOfDigits_dropTrailing (ds : List Char) : ∃ n,
    ds.length = (dropTrailing '0' ds).length + n ∧
      ∀ whole, natOfDigits (whole ++ ds) = natOfDigits (whole ++ dropTrailing '0' ds) * 10 ^ n := by
  refine ⟨(ds.rtakeWhile (· == '0')).length, ?_, fun whole => ?_⟩
  · rw [dropTrailing_eq, ← List.length_append, List.rdropWhile_append_rtakeWhile]
  · have only : ds.rtakeWhile (· == '0') = zeros (ds.rtakeWhile (· == '0')).length :=
      List.eq_replicate_iff.mpr ⟨rfl, fun c member =>
        beq_iff_eq.mp (List.mem_rtakeWhile_imp (p := (· == '0')) member)⟩
    rw [dropTrailing_eq, ← natOfDigits_append_zeros, ← only, List.append_assoc,
      List.rdropWhile_append_rtakeWhile]

/-- Zeros that are taken from behind the point do not change the number. -/
theorem ratio_dropTrailing (whole fraction : List Char) :
    (natOfDigits (whole ++ fraction) : ℚ) / 10 ^ fraction.length =
      natOfDigits (whole ++ dropTrailing '0' fraction) /
        10 ^ (dropTrailing '0' fraction).length := by
  obtain ⟨n, length, number⟩ := natOfDigits_dropTrailing fraction
  have ten : (10 : ℚ) ^ n ≠ 0 := by positivity
  rw [number, length, pow_add, Nat.cast_mul, Nat.cast_pow, Nat.cast_ofNat,
    mul_div_mul_right _ _ ten]

end

section

variable {whole fraction : List Char} (digits : AreDigits whole) (given : whole ≠ [])
  (behind : AreDigits fraction) (negative : Bool)

include digits given in
theorem dropTrailing_point_signed :
    dropTrailing '.' (signed negative whole) = signed negative whole := by
  have kept := dropTrailing_point digits
  cases negative with
  | false => exact kept
  | true =>
    have front : signed true whole = ['-'] ++ whole := rfl
    rw [front, dropTrailing_append, kept, if_neg given]

theorem signed_append (xs ys : List Char) :
    signed negative (xs ++ ys) = signed negative xs ++ ys := by
  cases negative <;> rfl

include digits given behind in
/-- Trimming takes the zeros from the end of the fraction, and the point if nothing is left. -/
theorem dropTrailing_decimal :
    dropTrailing '.' (dropTrailing '0' (signed negative (whole ++ '.' :: fraction))) =
      signed negative (numberText whole (dropTrailing '0' fraction) none) := by
  have cut : dropTrailing '0' ('.' :: fraction) = '.' :: dropTrailing '0' fraction := by
    have point : '.' :: fraction = ['.'] ++ fraction := rfl
    rw [point, dropTrailing_append]
    split
    case isTrue none => rw [none]; rfl
    case isFalse => rfl
  rw [signed_append, dropTrailing_append, cut, if_neg (List.cons_ne_nil _ _), dropTrailing_append]
  have kept := areDigits_dropTrailing '0' behind
  have point : '.' :: dropTrailing '0' fraction = ['.'] ++ dropTrailing '0' fraction := rfl
  have rest : dropTrailing '.' ('.' :: dropTrailing '0' fraction) =
      if dropTrailing '0' fraction = [] then [] else '.' :: dropTrailing '0' fraction := by
    rw [point, dropTrailing_append, dropTrailing_point kept]
    rfl
  rw [rest, numberText, Option.elim_none, List.append_nil]
  split
  case isTrue none => rw [if_pos rfl, dropTrailing_point_signed digits given, List.append_nil]
  case isFalse some => rw [if_neg (List.cons_ne_nil _ _), ← signed_append]

include digits given in
/-- Only zero is written as a zero behind a sign. -/
theorem signed_ne_minusZero {rest : List Char} (nonzero : ¬ (whole = ['0'] ∧ rest = [])) :
    signed negative (whole ++ rest) ≠ ['-', '0'] := by
  intro zero
  cases negative with
  | true =>
    have alone : whole ++ rest = ['0'] := List.tail_eq_of_cons_eq zero
    rcases List.append_eq_singleton_iff.mp alone with ⟨empty, -⟩ | all
    · exact given empty
    · exact nonzero all
  | false =>
    have minus : whole.head? = some '-' := by
      rw [← List.head?_append_of_ne_nil whole given]
      exact congrArg List.head? zero
    cases digits '-' (List.mem_of_head? minus)

end

/-- A decimal with a point is trimmed to the canonical decimal of its number. -/
theorem exists_canonical_trimDecimal {whole fraction : List Char} (front : IsWhole whole)
    (behind : AreDigits fraction) (negative : Bool) {most : Nat} (short : fraction.length ≤ most) :
    ∃ c : CanonicalDecimal most,
      trimDecimal (signed negative (whole ++ '.' :: fraction)) = c.text ∧
        c.value = withSign negative (natOfDigits (whole ++ fraction) / 10 ^ fraction.length) := by
  have fewer : (dropTrailing '0' fraction).length ≤ fraction.length :=
    (List.rdropWhile_prefix _ _).length_le
  rw [trimDecimal, dropTrailing_decimal front.digits front.given behind negative,
    ratio_dropTrailing]
  by_cases isZero : whole = ['0'] ∧ dropTrailing '0' fraction = []
  · -- zero loses its sign
    refine ⟨.zero, ?_, ?_⟩
    · rw [isZero.1, isZero.2, CanonicalDecimal.text_zero]
      cases negative <;> rfl
    · have none : natOfDigits ['0'] = 0 := rfl
      rw [isZero.1, isZero.2, List.append_nil, none, Nat.cast_zero, zero_div, withSign_zero,
        CanonicalDecimal.value_zero]
  · refine ⟨⟨negative, whole, dropTrailing '0' fraction, front, areDigits_dropTrailing '0' behind,
      fewer.trans short, getLast?_dropTrailing_ne _, fun _ => isZero⟩, ?_, rfl⟩
    have given : signed negative (numberText whole (dropTrailing '0' fraction) none) ≠ [] :=
      signed_ne_nil (startsWithDigit_append front.digits front.given _) negative
    have notMinusZero :
        signed negative (numberText whole (dropTrailing '0' fraction) none) ≠ ['-', '0'] := by
      refine signed_ne_minusZero front.digits front.given negative fun ⟨alone, nothing⟩ => ?_
      by_cases none : dropTrailing '0' fraction = []
      · exact isZero ⟨alone, none⟩
      · simp [none] at nothing
    simp [given, notMinusZero, CanonicalDecimal.text]

/-! ## Four places -/

/-- The number is the nearest one with four places to an exact one, and of two that are equally
near the one whose last digit is even. -/
def IsFourPlaces (exact q : ℚ) : Prop :=
  ∃ units : ℤ, q = units / 10000 ∧ |q - exact| ≤ 1 / 20000 ∧
    (|q - exact| = 1 / 20000 → Even units)

/-- There is only one such number. -/
theorem IsFourPlaces.unique {exact p q : ℚ} (first : IsFourPlaces exact p)
    (second : IsFourPlaces exact q) : p = q := by
  obtain ⟨m, rfl, nearM, evenM⟩ := first
  obtain ⟨n, rfl, nearN, evenN⟩ := second
  -- two different ones are a unit apart, with the exact number in the middle
  have apart {m n : ℤ} (less : m < n) (nearM : |(m : ℚ) / 10000 - exact| ≤ 1 / 20000)
      (nearN : |(n : ℚ) / 10000 - exact| ≤ 1 / 20000) : n = m + 1 ∧
        |(m : ℚ) / 10000 - exact| = 1 / 20000 ∧ |(n : ℚ) / 10000 - exact| = 1 / 20000 := by
    rw [abs_le] at nearM nearN
    have close : (n : ℚ) < m + 2 := by linarith
    have next : n = m + 1 := by
      have : n < m + 2 := by exact_mod_cast close
      omega
    subst next
    push_cast at nearN ⊢
    refine ⟨rfl, ?_, ?_⟩ <;> rw [abs_eq (by norm_num)]
    · exact .inr (by linarith)
    · exact .inl (by linarith)
  rcases lt_trichotomy m n with less | rfl | more
  · obtain ⟨rfl, tieM, tieN⟩ := apart less nearM nearN
    exact absurd (evenM tieM) (Int.even_add_one.mp (evenN tieN))
  · rfl
  · obtain ⟨rfl, tieN, tieM⟩ := apart more nearN nearM
    exact absurd (evenN tieN) (Int.even_add_one.mp (evenM tieM))

/-! ## Coordinates -/

/-- A finite double rounded to the places of a coordinate. -/
def printed (x : Float) : ℚ :=
  ((Binary64.decode x).map fun d => withSign d.negative (unitsOf places d / 10 ^ places)).getD 0

theorem printed_of_decode {x : Float} {d : Decimal.Dyadic} (decoded : Binary64.decode x = some d) :
    printed x = withSign d.negative (unitsOf places d / 10 ^ places) := by
  rw [printed, decoded]
  rfl

/-- The absolute value in units of the fourth place. -/
theorem units_div_den (d : Decimal.Dyadic) :
    ((d.num * Nat.pow 10 places : Nat) : ℚ) / d.den = d.value * 10000 := by
  rw [Nat.cast_mul, mul_div_right_comm, d.num_div_den]
  norm_num [places]

theorem abs_unitsOf_sub_le (d : Decimal.Dyadic) :
    |(unitsOf places d : ℚ) / 10 ^ places - d.value| ≤ 1 / 20000 := by
  have near := abs_roundDiv_sub_le (d.num * Nat.pow 10 places) d.den_pos
  have four : (10 : ℚ) ^ places = 10000 := by norm_num [places]
  rw [units_div_den, ← unitsOf, abs_le] at near
  rw [four, abs_le]
  constructor <;> linarith

section

variable {x : Float} (finite : x.isFinite = true)

include finite

/-- A coordinate is written as the canonical decimal of the rounded double. -/
theorem exists_canonical_coordinate : ∃ c : CanonicalDecimal places,
    coordinate x = c.text ∧ c.value = printed x ∧ said (fixed places x) = some c.value := by
  obtain ⟨d, decoded⟩ := Binary64.exists_decode finite
  obtain ⟨whole, fraction, units, front, behind, length, number⟩ :=
    fixedUnits_eq places (unitsOf places d)
  have text : fixed places x = signed d.negative (whole ++ '.' :: fraction) := by
    simp only [fixed, decoded, units]
  obtain ⟨c, trimmed, value⟩ :=
    exists_canonical_trimDecimal front behind d.negative length.le
  refine ⟨c, by rw [coordinate, text, trimmed], ?_, ?_⟩
  · rw [value, number, length, printed_of_decode decoded]
  · rw [text, said_point front.digits front.given _ behind, value]

/-- The text of a coordinate says the rounded double. -/
theorem said_coordinate : said (coordinate x) = some (printed x) := by
  obtain ⟨c, text, value, -⟩ := exists_canonical_coordinate finite
  rw [text, said_canonicalText, value]

/-- A coordinate is rounded by at most half a unit. -/
theorem abs_printed_sub_le : |printed x - Binary64.value x| ≤ 1 / 20000 := by
  obtain ⟨d, decoded⟩ := Binary64.exists_decode finite
  rw [printed_of_decode decoded, Binary64.value_of_decode decoded, Dyadic.signed, withSign_sub,
    abs_withSign]
  exact abs_unitsOf_sub_le d

/-- A coordinate is written as the four-place decimal of the double. -/
theorem isFourPlaces_printed : IsFourPlaces (Binary64.value x) (printed x) := by
  obtain ⟨d, decoded⟩ := Binary64.exists_decode finite
  have near := abs_printed_sub_le finite
  have ten : (10 : ℚ) ^ places = 10000 := by norm_num [places]
  have moved : |printed x - Binary64.value x| =
      |(unitsOf places d : ℚ) - (d.num * Nat.pow 10 places : Nat) / d.den| / 10000 := by
    rw [printed_of_decode decoded, Binary64.value_of_decode decoded, Dyadic.signed, withSign_sub,
      abs_withSign, units_div_den, ten, ← abs_of_pos (by norm_num : (0 : ℚ) < 10000), ← abs_div,
      abs_of_pos (by norm_num : (0 : ℚ) < 10000), sub_div,
      mul_div_cancel_right₀ _ (by norm_num : (10000 : ℚ) ≠ 0)]
  refine ⟨if d.negative then -unitsOf places d else unitsOf places d, ?_, near, fun tie => ?_⟩
  · rw [printed_of_decode decoded, withSign, ten]
    split <;> push_cast <;> ring
  · have even : Even (unitsOf places d) := by
      refine even_roundDiv_of_tie d.den_pos ?_
      rw [← unitsOf]
      linarith
    split
    · exact (Int.even_coe_nat _).mpr even |>.neg
    · exact (Int.even_coe_nat _).mpr even

theorem printed_neg : printed (-x) = -printed x := by
  obtain ⟨d, decoded⟩ := Binary64.exists_decode finite
  rw [printed_of_decode decoded, printed_of_decode (Binary64.decode_neg decoded), ← withSign_not]
  rfl

/-- What is at most half a unit is written as zero. -/
theorem printed_eq_zero (small : |Binary64.value x| ≤ 1 / 20000) : printed x = 0 := by
  obtain ⟨d, decoded⟩ := Binary64.exists_decode finite
  have nonneg : 0 ≤ d.value := mul_nonneg (Nat.cast_nonneg _) (by positivity)
  rw [Binary64.value_of_decode decoded, Dyadic.signed, abs_withSign, abs_of_nonneg nonneg] at small
  have none : unitsOf places d = 0 := by
    refine roundDiv_eq d.den_pos ?_ fun odd => absurd odd (by decide)
    rw [units_div_den, Nat.cast_zero, zero_sub, abs_neg, abs_of_nonneg (by positivity)]
    linarith
  rw [printed_of_decode decoded, none, Nat.cast_zero, zero_div, withSign_zero]

end

/-! ## The canonical text -/

/-- The text of a finite coordinate is a canonical decimal with at most four places.  It says the
same number as the text with exactly four places, that is the coordinate rounded to four places,
and no other canonical decimal stands for the rounded coordinate.  Two coordinates have one text
if and only if they are rounded to one number. -/
theorem coordinate_canonical {x y : Float} (finiteX : x.isFinite = true)
    (finiteY : y.isFinite = true) :
    (∃ c : CanonicalDecimal 4, coordinate x = c.text ∧ said (coordinate x) = said (fixed 4 x) ∧
      said (fixed 4 x) = some c.value ∧ IsFourPlaces (Binary64.value x) c.value ∧
      ∀ other : CanonicalDecimal 4, IsFourPlaces (Binary64.value x) other.value → other = c) ∧
    (coordinate x = coordinate y ↔
      ∃ q, IsFourPlaces (Binary64.value x) q ∧ IsFourPlaces (Binary64.value y) q) := by
  obtain ⟨c, textX, valueX, saidX⟩ := exists_canonical_coordinate finiteX
  obtain ⟨d, textY, valueY, -⟩ := exists_canonical_coordinate finiteY
  have nearX : IsFourPlaces (Binary64.value x) c.value := valueX ▸ isFourPlaces_printed finiteX
  have nearY : IsFourPlaces (Binary64.value y) d.value := valueY ▸ isFourPlaces_printed finiteY
  constructor
  · have same : said (coordinate x) = said (fixed places x) := by
      rw [textX, said_canonicalText, saidX]
    exact ⟨c, textX, same, saidX, nearX,
      fun other near => CanonicalDecimal.value_injective (near.unique nearX)⟩
  · rw [textX, textY, canonicalText_eq_iff]
    constructor
    · intro same
      exact ⟨c.value, nearX, same ▸ nearY⟩
    · rintro ⟨q, first, second⟩
      exact (nearX.unique first).trans (second.unique nearY)

/-- A number just below zero is written as zero, and the zeros of a hundred are kept, so the two
are not rounded to one number. -/
theorem coordinate_canonical_of_zeros :
    fixed 4 (-0.00004) = "-0.0000".toList ∧
    (∃ c : CanonicalDecimal 4, c.text = "0".toList ∧ said (fixed 4 (-0.00004)) = some c.value ∧
      IsFourPlaces (Binary64.value (-0.00004)) c.value) ∧
    (∃ c : CanonicalDecimal 4, c.text = "100".toList ∧ said (fixed 4 100) = some c.value ∧
      IsFourPlaces (Binary64.value 100) c.value) ∧
    ¬ ∃ q, IsFourPlaces (Binary64.value (-0.00004)) q ∧ IsFourPlaces (Binary64.value 100) q := by
  have finiteSmall : Float.isFinite (-0.00004) = true := by decide +kernel
  have finiteHundred : Float.isFinite 100 = true := by decide +kernel
  have zero : coordinate (-0.00004) = "0".toList := by decide +kernel
  have hundred : coordinate 100 = "100".toList := by decide +kernel
  obtain ⟨⟨c, text, -, number, near, -⟩, same⟩ := coordinate_canonical finiteSmall finiteHundred
  obtain ⟨⟨d, textD, -, numberD, nearD, -⟩, -⟩ := coordinate_canonical finiteHundred finiteSmall
  refine ⟨by decide +kernel, ⟨c, text ▸ zero, number, near⟩, ⟨d, textD ▸ hundred, numberD, nearD⟩,
    fun common => ?_⟩
  have equal := same.mpr common
  rw [zero, hundred] at equal
  exact absurd equal (by decide)

end GrowthGrammar.Drawing

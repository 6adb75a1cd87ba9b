import GrowthGrammar.Proofs.Datum.Numbers
import GrowthGrammar.Proofs.Decimal.Arithmetic

/-!
# Canonical decimals

A number can be written in many ways: with zeros in front, with zeros behind the point, with a
point and nothing behind it, and zero with a sign.  A canonical decimal has none of these, by its
type.

Main statement: no number has two canonical decimals (`CanonicalDecimal.value_injective`).  If one
of them had more digits behind the point than the other, it would end in a zero
(`CanonicalDecimal.length_fraction_le`), and if it had more in front, it would begin with one
(`IsWhole.length_le`).  So they have their digits at the same places, and digits of one length
that write one number are the same (`eq_of_natOfDigits_eq`).
-/

namespace GrowthGrammar.Decimal

/-! ## Digits -/

theorem natOfDigits_append_singleton (ds : List Char) (c : Char) :
    natOfDigits (ds ++ [c]) = natOfDigits ds * 10 + (c.toNat - 48) := by
  rw [natOfDigits, List.foldl_append]
  rfl

/-- Digits of one length that write the same number are the same. -/
theorem eq_of_natOfDigits_eq {ds es : List Char} (first : AreDigits ds) (second : AreDigits es)
    (length : ds.length = es.length) (same : natOfDigits ds = natOfDigits es) : ds = es := by
  induction ds using List.reverseRecOn generalizing es with
  | nil => exact (List.length_eq_zero_iff.mp length.symm).symm
  | append_singleton ds c ih =>
    rcases List.eq_nil_or_concat' es with rfl | ⟨es, e, rfl⟩
    · simp at length
    rw [natOfDigits_append_singleton, natOfDigits_append_singleton] at same
    have digitC := toNat_of_isDigit (first c (by simp))
    have digitE := toNat_of_isDigit (second e (by simp))
    have last : c = e := by
      have code : c.toNat = e.toNat := by omega
      rw [← Char.ofNat_toNat c, code, Char.ofNat_toNat]
    have rest : ds = es :=
      ih (fun c member => first c (by simp [member])) (fun c member => second c (by simp [member]))
        (by simpa using length) (by omega)
    rw [last, rest]

/-- A number whose last digit is not zero is no multiple of ten. -/
theorem not_ten_dvd_natOfDigits {ds : List Char} (digits : AreDigits ds) (given : ds ≠ [])
    (nonzero : ds.getLast? ≠ some '0') : ¬ 10 ∣ natOfDigits ds := by
  obtain ⟨front, c, rfl⟩ := (List.eq_nil_or_concat' ds).resolve_left given
  have digit := toNat_of_isDigit (digits c (by simp))
  have code : c.toNat ≠ 48 := by
    intro zero
    have same : c = '0' := by rw [← Char.ofNat_toNat c, zero]
    simp [same] at nonzero
  rw [natOfDigits_append_singleton]
  omega

/-- Digits without zeros in front are at most as many as any others that write the same number. -/
theorem IsWhole.length_le {whole other fraction rest : List Char} (isWhole : IsWhole whole)
    (digits : AreDigits other) (given : other ≠ []) (behind : AreDigits fraction)
    (behindOther : AreDigits rest) (length : fraction.length = rest.length)
    (same : natOfDigits (whole ++ fraction) = natOfDigits (other ++ rest)) :
    whole.length ≤ other.length := by
  by_contra longer
  obtain ⟨n, more⟩ : ∃ n, whole.length = n + 1 + other.length :=
    ⟨whole.length - other.length - 1, by omega⟩
  -- the other digits begin as the longer ones do once zeros fill their place
  have filled : whole ++ fraction = zeros (n + 1) ++ (other ++ rest) := by
    refine eq_of_natOfDigits_eq (isWhole.digits.append behind)
      ((areDigits_zeros _).append (digits.append behindOther)) ?_ ?_
    · simp only [List.length_append, zeros, List.length_replicate]
      omega
    · rw [natOfDigits_zeros_append, same]
  have front : whole.head? = some '0' := by
    have first := congrArg List.head? filled
    rwa [List.head?_append_of_ne_nil _ isWhole.given] at first
  have short : whole.length = 1 := congrArg List.length (isWhole.front front)
  have long : 0 < other.length := List.length_pos_iff.mpr given
  omega

/-! ## Decimals -/

/-- A decimal with at most `places` places from which nothing can be left out. -/
@[ext]
structure CanonicalDecimal (places : Nat) where
  /-- There is a minus sign. -/
  negative : Bool
  /-- The digits in front of the point. -/
  whole : List Char
  /-- The digits behind the point, none for a whole number. -/
  fraction : List Char
  /-- There are digits in front of the point, and no zero before another digit. -/
  front : IsWhole whole
  /-- There are only digits behind the point. -/
  digits : AreDigits fraction
  /-- They are not too many. -/
  short : fraction.length ≤ places
  /-- The last of them is not zero. -/
  back : fraction.getLast? ≠ some '0'
  /-- Zero has no sign. -/
  sign : negative = true → ¬ (whole = ['0'] ∧ fraction = [])

namespace CanonicalDecimal

variable {places : Nat}

/-- The text of a decimal.  There is a point only if something stands behind it. -/
def text (c : CanonicalDecimal places) : List Char :=
  signed c.negative (numberText c.whole c.fraction none)

/-- The absolute value of a decimal. -/
def magnitude (c : CanonicalDecimal places) : ℚ :=
  natOfDigits (c.whole ++ c.fraction) / 10 ^ c.fraction.length

/-- The number that a decimal stands for. -/
def value (c : CanonicalDecimal places) : ℚ := withSign c.negative c.magnitude

/-- The decimal of zero. -/
def zero : CanonicalDecimal places where
  negative := false
  whole := ['0']
  fraction := []
  front := isWhole_decimalDigits 0
  digits := areDigits_zeros 0
  short := Nat.zero_le places
  back := by decide
  sign := by decide

@[simp]
theorem text_zero : (zero : CanonicalDecimal places).text = ['0'] := rfl

@[simp]
theorem magnitude_zero : (zero : CanonicalDecimal places).magnitude = 0 := by
  have none : natOfDigits (['0'] ++ []) = 0 := rfl
  simp only [magnitude, zero, none, Nat.cast_zero, zero_div]

@[simp]
theorem value_zero : (zero : CanonicalDecimal places).value = 0 := by
  rw [value, magnitude_zero, withSign_zero]

/-! ## One decimal for a number -/

section

variable {c d : CanonicalDecimal places}

theorem magnitude_nonneg (c : CanonicalDecimal places) : 0 ≤ c.magnitude :=
  div_nonneg (Nat.cast_nonneg _) (by positivity)

/-- The longer of two fractions says the digits of the shorter one and zeros. -/
theorem natOfDigits_eq_of_length {n : Nat} (same : c.magnitude = d.magnitude)
    (longer : d.fraction.length = c.fraction.length + n) :
    natOfDigits (d.whole ++ d.fraction) = natOfDigits (c.whole ++ c.fraction) * 10 ^ n := by
  have ten : (10 : ℚ) ^ c.fraction.length ≠ 0 := by positivity
  rw [magnitude, magnitude, longer, pow_add, div_eq_div_iff ten (by positivity), ← mul_assoc,
    mul_right_comm, mul_left_inj' ten] at same
  exact_mod_cast same.symm

/-- Digits behind the point that are needed cannot be missing. -/
theorem length_fraction_le (same : c.magnitude = d.magnitude) :
    d.fraction.length ≤ c.fraction.length := by
  by_contra longer
  obtain ⟨n, more⟩ : ∃ n, d.fraction.length = c.fraction.length + (n + 1) :=
    ⟨d.fraction.length - c.fraction.length - 1, by omega⟩
  have given : d.fraction ≠ [] := List.ne_nil_of_length_pos (by omega)
  have last : (d.whole ++ d.fraction).getLast? ≠ some '0' := by
    rw [List.getLast?_append_of_ne_nil _ given]
    exact d.back
  refine not_ten_dvd_natOfDigits (d.front.digits.append d.digits) (by simp [given]) last ?_
  rw [natOfDigits_eq_of_length same more, pow_succ]
  exact (Dvd.intro_left _ rfl).mul_left _

/-- Decimals with one absolute value have the same digits. -/
theorem digits_eq_of_magnitude_eq (same : c.magnitude = d.magnitude) :
    c.whole = d.whole ∧ c.fraction = d.fraction := by
  have behind : c.fraction.length = d.fraction.length :=
    (length_fraction_le same.symm).antisymm (length_fraction_le same)
  have number : natOfDigits (c.whole ++ c.fraction) = natOfDigits (d.whole ++ d.fraction) := by
    rw [natOfDigits_eq_of_length (n := 0) same behind.symm, pow_zero, mul_one]
  have inFront : c.whole.length = d.whole.length :=
    (c.front.length_le d.front.digits d.front.given c.digits d.digits behind number).antisymm
      (d.front.length_le c.front.digits c.front.given d.digits c.digits behind.symm number.symm)
  refine List.append_inj (eq_of_natOfDigits_eq (c.front.digits.append c.digits)
    (d.front.digits.append d.digits) ?_ number) inFront
  rw [List.length_append, List.length_append, inFront, behind]

theorem abs_value (c : CanonicalDecimal places) : |c.value| = c.magnitude := by
  rw [value, abs_withSign, abs_of_nonneg c.magnitude_nonneg]

/-- A decimal with a sign stands for a number below zero. -/
theorem negative_iff : c.negative = true ↔ c.value < 0 := by
  constructor
  · intro negative
    have nonzero : c.magnitude ≠ 0 := by
      intro none
      exact c.sign negative (digits_eq_of_magnitude_eq (d := zero) (none.trans magnitude_zero.symm))
    rw [value, withSign, if_pos negative]
    exact neg_neg_of_pos (c.magnitude_nonneg.lt_of_ne' nonzero)
  · intro below
    by_contra positive
    rw [value, withSign, if_neg positive] at below
    exact absurd c.magnitude_nonneg below.not_ge

end

/-- A number has at most one canonical decimal. -/
theorem value_injective : Function.Injective (value : CanonicalDecimal places → ℚ) := by
  intro c d same
  have magnitude : c.magnitude = d.magnitude := by rw [← abs_value, same, abs_value]
  obtain ⟨whole, fraction⟩ := digits_eq_of_magnitude_eq magnitude
  have negative : c.negative = d.negative := by
    rw [Bool.eq_iff_iff, negative_iff, negative_iff, same]
  exact CanonicalDecimal.ext negative whole fraction

end CanonicalDecimal

end GrowthGrammar.Decimal

import Mathlib
import GrowthGrammar.Decimal.Numeral
import GrowthGrammar.Decimal.Reader
import GrowthGrammar.Proofs.Decimal.ReadBack

/-!
# Written decimals and their values

A decimal is written in one of several shapes, with a point among its digits, with zeros
around them, or with an exponent part.  What the shapes have in common is `Writes`: the
text is read as digits and an exponent of a given value.

Main statement: in every style, the text of a decimal has the value of the decimal
(`Scientific.writes_write`).
-/

namespace GrowthGrammar.Decimal

/-! ## Digits -/

/-- The characters of written numbers. -/
def numeralChars : List Char := "0123456789.e+-".toList

theorem toNat_of_isDigit {c : Char} (digit : c.isDigit = true) : 48 ≤ c.toNat ∧ c.toNat ≤ 57 := by
  simpa [Char.isDigit, UInt32.le_iff_toNat_le] using digit

theorem mem_numeralChars_of_isDigit {c : Char} (digit : c.isDigit = true) : c ∈ numeralChars := by
  obtain ⟨low, high⟩ := toNat_of_isDigit digit
  rw [← Char.ofNat_toNat c]
  generalize c.toNat = code at low high
  interval_cases code <;> decide

/-- A property of the characters of written numbers, tried on each of them. -/
theorem of_mem_numeralChars (P : Char → Prop) [DecidablePred P]
    (all : numeralChars.all (fun c => P c) = true) {c : Char} (written : c ∈ numeralChars) : P c :=
  of_decide_eq_true (List.all_eq_true.mp all c written)

theorem natOfDigits_eq (ds : List Char) : natOfDigits ds = Nat.ofDigitChars 10 ds 0 := by
  simp only [natOfDigits, Nat.ofDigitChars_eq_foldl, mul_comm 10]
  rfl

@[simp]
theorem natOfDigits_decimalDigits (n : Nat) : natOfDigits (decimalDigits n) = n := by
  rw [natOfDigits_eq, decimalDigits, Nat.ofDigitChars_ten_toDigits]

/-- Zeros in front of some digits do not count. -/
@[simp]
theorem natOfDigits_zeros_append (n : Nat) (ds : List Char) :
    natOfDigits (zeros n ++ ds) = natOfDigits ds := by
  simp [natOfDigits_eq, zeros, Nat.ofDigitChars_append]

/-- A zero behind some digits multiplies by ten. -/
@[simp]
theorem natOfDigits_append_zeros (ds : List Char) (n : Nat) :
    natOfDigits (ds ++ zeros n) = natOfDigits ds * 10 ^ n := by
  simp [natOfDigits_eq, zeros, Nat.ofDigitChars_append, mul_comm]

/-- The text has digits only. -/
def AreDigits (ds : List Char) : Prop := ∀ c ∈ ds, c.isDigit = true

theorem AreDigits.append {ds es : List Char} (first : AreDigits ds) (second : AreDigits es) :
    AreDigits (ds ++ es) := by
  intro c member
  rcases List.mem_append.mp member with left | right
  · exact first c left
  · exact second c right

theorem areDigits_zeros (n : Nat) : AreDigits (zeros n) := by
  intro c member
  rw [List.eq_of_mem_replicate member]
  rfl

theorem areDigits_decimalDigits (n : Nat) : AreDigits (decimalDigits n) :=
  fun _ member => Nat.isDigit_of_mem_toDigits (by decide) (by decide) member

theorem areDigits_padded (k n : Nat) : AreDigits (zeros k ++ decimalDigits n) :=
  (areDigits_zeros k).append (areDigits_decimalDigits n)

theorem decimalDigits_ne_nil (n : Nat) : decimalDigits n ≠ [] := Nat.toDigits_ne_nil

/-! ## Exponents -/

/-- What may stand behind the digits of a number, and the exponent that it gives. -/
inductive Ending : List Char → Int → Prop
  /-- Nothing. -/
  | nothing : Ending [] 0
  /-- An exponent part. -/
  | part (e : Int) : Ending (exponentPart e) e

theorem readDigits_of_areDigits {ds : List Char} (digits : AreDigits ds) (given : ds ≠ []) :
    readDigits ds = some (natOfDigits ds) := by
  have all : ds.all Char.isDigit = true := List.all_eq_true.mpr digits
  simp [readDigits, all, given]

theorem readExponent_exponentPart (e : Int) : readExponent (exponentPart e) = some e := by
  have digits := readDigits_of_areDigits
    (areDigits_padded (2 - (decimalDigits e.natAbs).length) e.natAbs)
    (by simp [decimalDigits_ne_nil])
  rw [natOfDigits_zeros_append, natOfDigits_decimalDigits] at digits
  simp only [exponentPart, readExponent, readSigned]
  by_cases negative : e < 0
  · simp [negative, splitSign, digits, abs_of_neg negative]
  · simp [negative, splitSign, digits, abs_of_nonneg (not_lt.mp negative)]

theorem Ending.readExponent {ending : List Char} {e : Int} (ends : Ending ending e) :
    readExponent ending = some e := by
  cases ends with
  | nothing => rfl
  | part => exact readExponent_exponentPart e

/-- Neither a digit nor a point follows the digits of a number. -/
theorem Ending.first {ending : List Char} {e : Int} (ends : Ending ending e) :
    ∀ c ∈ ending.head?, c = 'e' := by
  cases ends with
  | nothing => simp
  | part => simp [exponentPart]

theorem Ending.chars {ending : List Char} {e : Int} (ends : Ending ending e) :
    ∀ c ∈ ending, c ∈ numeralChars := by
  cases ends with
  | nothing => simp
  | part =>
    have digits := areDigits_padded (2 - (decimalDigits e.natAbs).length) e.natAbs
    intro c member
    rcases List.mem_cons.mp member with rfl | member
    · decide
    rcases List.mem_cons.mp member with rfl | member
    · split <;> decide
    · exact mem_numeralChars_of_isDigit (digits c member)

/-! ## Digits, a point, and an exponent -/

/-- The text of a number without a sign is read as digits and an exponent, and the number
has the given value. -/
structure Writes (text : List Char) (value : ℚ) : Prop where
  /-- The text has the characters of a number. -/
  chars : ∀ c ∈ text, c ∈ numeralChars
  /-- It starts with a digit. -/
  first : startsWithDigit text = true
  /-- It is read, and its parts give the value. -/
  reads : ∀ negative, ∃ digits e,
    readDecimal negative text = some (.decimal negative digits e) ∧ (digits : ℚ) * 10 ^ e = value

theorem startsWithDigit_append {ds : List Char} (digits : AreDigits ds) (given : ds ≠ [])
    (rest : List Char) : startsWithDigit (ds ++ rest) = true := by
  cases ds with
  | nil => exact absurd rfl given
  | cons d ds => exact digits d (by simp)

section

variable {whole ending : List Char} {e : Int} (digits : AreDigits whole) (given : whole ≠ [])
  (ends : Ending ending e)

include ends in
theorem Ending.cut {ds : List Char} (digits : AreDigits ds) :
    (ds ++ ending).takeWhile Char.isDigit = ds ∧
      (ds ++ ending).dropWhile Char.isDigit = ending := by
  have first := ends.first
  cases ending with
  | nil =>
    rw [List.append_nil, List.takeWhile_eq_self_iff, List.dropWhile_eq_nil_iff]
    exact ⟨digits, digits⟩
  | cons c rest =>
    obtain rfl : c = 'e' := first c (by simp)
    rw [List.takeWhile_append_of_pos digits, List.dropWhile_append_of_pos digits]
    simp

include digits given ends

/-- Digits without a point. -/
theorem writes_whole : Writes (whole ++ ending) (natOfDigits whole * 10 ^ e) := by
  constructor
  case chars =>
    intro c member
    rcases List.mem_append.mp member with digit | last
    · exact mem_numeralChars_of_isDigit (digits c digit)
    · exact ends.chars c last
  case first => exact startsWithDigit_append digits given ending
  case reads =>
    intro negative
    refine ⟨natOfDigits whole, e, ?_, rfl⟩
    obtain ⟨taken, dropped⟩ := ends.cut digits
    simp only [readDecimal, taken, dropped]
    have first := ends.first
    have exponent := ends.readExponent
    cases ending with
    | nil => simp [given, exponent]
    | cons c rest =>
      obtain rfl : c = 'e' := first c (by simp)
      simp [given, exponent]

/-- Digits with a point behind the first ones. -/
theorem writes_point {fraction : List Char} (behind : AreDigits fraction) :
    Writes (whole ++ '.' :: (fraction ++ ending))
      (natOfDigits (whole ++ fraction) * 10 ^ (e - fraction.length)) := by
  constructor
  case chars =>
    intro c member
    rcases List.mem_append.mp member with digit | member
    · exact mem_numeralChars_of_isDigit (digits c digit)
    rcases List.mem_cons.mp member with rfl | member
    · decide
    rcases List.mem_append.mp member with digit | last
    · exact mem_numeralChars_of_isDigit (behind c digit)
    · exact ends.chars c last
  case first => exact startsWithDigit_append digits given _
  case reads =>
    intro negative
    refine ⟨natOfDigits (whole ++ fraction), e - fraction.length, ?_, rfl⟩
    obtain ⟨taken, dropped⟩ := ends.cut behind
    have front : (whole ++ '.' :: (fraction ++ ending)).takeWhile Char.isDigit = whole := by
      rw [List.takeWhile_append_of_pos digits]
      simp
    have back : (whole ++ '.' :: (fraction ++ ending)).dropWhile Char.isDigit =
        '.' :: (fraction ++ ending) := by
      rw [List.dropWhile_append_of_pos digits]
      simp
    simp [readDecimal, front, back, taken, dropped, given, ends.readExponent]

end

/-! ## The shapes of a decimal -/

theorem AreDigits.take {ds : List Char} (digits : AreDigits ds) (n : Nat) :
    AreDigits (ds.take n) :=
  fun c member => digits c (List.mem_of_mem_take member)

theorem AreDigits.drop {ds : List Char} (digits : AreDigits ds) (n : Nat) :
    AreDigits (ds.drop n) :=
  fun c member => digits c (List.mem_of_mem_drop member)

section

variable {ds : List Char} (digits : AreDigits ds) (given : ds ≠ [])

include digits given

/-- A decimal with a point among its digits, wherever the point stands. -/
theorem writes_placePoint (style : Style) (point : Int) :
    Writes (placePoint style ds point) (natOfDigits ds * 10 ^ (point - ds.length)) := by
  have length_pos : 0 < ds.length := List.length_pos_iff.mpr given
  rw [placePoint]
  split
  case isTrue front =>
    have shape := writes_point (areDigits_zeros 1) (by simp [zeros]) .nothing
      ((areDigits_zeros (-point).toNat).append digits)
    have exponent : (0 : Int) - (zeros (-point).toNat ++ ds).length = point - ds.length := by
      simp only [zeros, List.length_append, List.length_replicate]
      omega
    rw [exponent, natOfDigits_zeros_append, natOfDigits_zeros_append] at shape
    simpa [zeros] using shape
  case isFalse inside =>
    split
    case isTrue behind =>
      have power : point - ds.length = (point.toNat - ds.length : Nat) := by omega
      have whole := digits.append (areDigits_zeros (point.toNat - ds.length))
      have notEmpty : ds ++ zeros (point.toNat - ds.length) ≠ [] := by simp [given]
      cases style.wholeWithPoint with
      | false =>
        have shape := writes_whole whole notEmpty .nothing
        simpa [power] using shape
      | true =>
        have shape := writes_point whole notEmpty .nothing (areDigits_zeros 1)
        simp only [natOfDigits_append_zeros] at shape
        simpa [power, zeros] using shape
    case isFalse among =>
      have notEmpty : ds.take point.toNat ≠ [] := by
        rw [ne_eq, List.take_eq_nil_iff, not_or]
        exact ⟨by omega, given⟩
      have shape := writes_point (digits.take point.toNat) notEmpty .nothing
        (digits.drop point.toNat)
      have exponent : (0 : Int) - (ds.drop point.toNat).length = point - ds.length := by
        rw [List.length_drop]
        omega
      rw [exponent, List.take_append_drop, List.append_nil] at shape
      exact shape

/-- A decimal with an exponent part. -/
theorem writes_withExponent (leading : Int) :
    Writes (withExponent ds leading) (natOfDigits ds * 10 ^ (leading - ds.length + 1)) := by
  cases ds with
  | nil => exact absurd rfl given
  | cons d rest =>
    have front : AreDigits [d] := fun c member => digits c (by simp_all)
    have behind : AreDigits rest := fun c member => digits c (List.mem_cons_of_mem d member)
    cases rest with
    | nil => simpa [withExponent] using writes_whole front (by simp) (.part leading)
    | cons d' rest =>
      have shape := writes_point front (by simp) (.part leading) behind
      have exponent : leading - (d :: d' :: rest).length + 1 = leading - (d' :: rest).length := by
        simp only [List.length_cons]
        omega
      rw [exponent]
      simpa [withExponent] using shape

end

/-- The text of a decimal has its value. -/
theorem Scientific.writes_write (style : Style) (s : Scientific) :
    Writes (s.write style) s.value := by
  have digits := areDigits_decimalDigits s.digits
  have given := decimalDigits_ne_nil s.digits
  have value : s.value = natOfDigits (decimalDigits s.digits) * 10 ^ s.exponent := by
    rw [natOfDigits_decimalDigits, Scientific.value]
  simp only [Scientific.write]
  split
  case isTrue zero =>
    have shape := writes_placePoint digits given style 1
    rw [natOfDigits_decimalDigits, zero] at shape
    simpa [Scientific.value, zero] using shape
  case isFalse nonzero =>
    split
    case isTrue plain =>
      have shape := writes_placePoint digits given style
        (s.exponent + (decimalDigits s.digits).length)
      rw [Int.add_sub_cancel, ← value] at shape
      rwa [Int.sub_add_cancel]
    case isFalse small =>
      have shape := writes_withExponent digits given
        (s.exponent + (decimalDigits s.digits).length - 1)
      have exponent : s.exponent + (decimalDigits s.digits).length - 1 -
          (decimalDigits s.digits).length + 1 = s.exponent := by omega
      rwa [exponent, ← value] at shape

end GrowthGrammar.Decimal

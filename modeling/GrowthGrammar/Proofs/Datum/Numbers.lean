import GrowthGrammar.Datum.Json
import GrowthGrammar.Proofs.Decimal.RoundTrip
import GrowthGrammar.Proofs.Decimal.Words

/-!
# Numbers of JSON documents

A number of a document is narrower than a number of a text: its whole part has no zeros in
front, a point stands between digits, and without a point and an exponent it is a whole
number.  `numberText` puts such a number together from its parts, and `readUnsigned` takes
it apart again (`readUnsigned_numberText`).

The written form of every double is of that kind (`Scientific.write_eq_numberText`), so a
document keeps doubles (`readScalar_jsonReal`) and, up to the limit of digits, whole numbers
(`readScalar_toString`).
-/

namespace GrowthGrammar.Decimal

/-! ## Written numbers in parts -/

/-- Digits without a zero in front of others. -/
structure IsWhole (whole : List Char) : Prop where
  digits : AreDigits whole
  given : whole ≠ []
  front : whole.head? = some '0' → whole = ['0']

/-- A whole part, digits behind a point if there are any, and an exponent part if there is
one. -/
def numberText (whole fraction : List Char) (exponent : Option Int) : List Char :=
  whole ++ ((if fraction = [] then [] else '.' :: fraction) ++ exponent.elim [] exponentPart)

theorem head?_decimalDigits {n : Nat} (positive : 0 < n) :
    (decimalDigits n).head? ≠ some '0' := by
  induction n using Nat.strong_induction_on with
  | _ n ih =>
    rw [decimalDigits, Nat.toDigits_eq_if (by decide)]
    split
    case isTrue small => interval_cases n <;> decide
    case isFalse large =>
      change (decimalDigits (n / 10) ++ _).head? ≠ some '0'
      rw [List.head?_append_of_ne_nil _ (decimalDigits_ne_nil (n / 10))]
      exact ih (n / 10) (by omega) (by omega)

theorem isWhole_decimalDigits (n : Nat) : IsWhole (decimalDigits n) where
  digits := areDigits_decimalDigits n
  given := decimalDigits_ne_nil n
  front := by
    rcases Nat.eq_zero_or_pos n with rfl | positive
    · exact fun _ => rfl
    · exact fun zero => absurd zero (head?_decimalDigits positive)

/-- The front of digits whose first is not zero. -/
theorem isWhole_of_prefix {ds whole more : List Char} (digits : AreDigits whole)
    (given : whole ≠ []) (nonzero : ds.head? ≠ some '0') (same : whole ++ more = ds) :
    IsWhole whole := by
  refine ⟨digits, given, fun zero => absurd ?_ nonzero⟩
  rw [← same, List.head?_append_of_ne_nil _ given, zero]

section

variable {ds : List Char} (digits : AreDigits ds) (given : ds ≠ []) (nonzero : ds.head? ≠ some '0')

include digits given nonzero

theorem placePoint_eq_numberText (point : Int) :
    ∃ whole fraction, IsWhole whole ∧ AreDigits fraction ∧ fraction ≠ [] ∧
      placePoint Style.exact ds point = numberText whole fraction none := by
  rw [placePoint]
  split
  case isTrue front =>
    have notEmpty : zeros (-point).toNat ++ ds ≠ [] := by simp [given]
    refine ⟨['0'], zeros (-point).toNat ++ ds, ⟨areDigits_zeros 1, by simp, fun _ => rfl⟩,
      (areDigits_zeros _).append digits, notEmpty, ?_⟩
    simp [numberText, notEmpty]
  case isFalse inside =>
    split
    case isTrue behind =>
      refine ⟨ds ++ zeros (point.toNat - ds.length), ['0'], ?_, areDigits_zeros 1, by simp, ?_⟩
      · refine ⟨digits.append (areDigits_zeros _), by simp [given], fun zero => ?_⟩
        rw [List.head?_append_of_ne_nil _ given] at zero
        exact absurd zero nonzero
      · simp [numberText, Style.exact]
    case isFalse among =>
      have notEmpty : ds.take point.toNat ≠ [] := by
        rw [ne_eq, List.take_eq_nil_iff, not_or]
        exact ⟨by omega, given⟩
      have behind : ds.drop point.toNat ≠ [] := by
        rw [ne_eq, List.drop_eq_nil_iff]
        omega
      refine ⟨ds.take point.toNat, ds.drop point.toNat,
        isWhole_of_prefix (digits.take _) notEmpty nonzero (List.take_append_drop _ _),
        digits.drop _, behind, ?_⟩
      simp [numberText, behind]

theorem withExponent_eq_numberText (leading : Int) :
    ∃ whole fraction, IsWhole whole ∧ AreDigits fraction ∧
      withExponent ds leading = numberText whole fraction (some leading) := by
  cases ds with
  | nil => exact absurd rfl given
  | cons d rest =>
    have front : IsWhole [d] :=
      isWhole_of_prefix (digits.take 1) (by simp) nonzero List.singleton_append
    refine ⟨[d], rest, front, digits.drop 1, ?_⟩
    cases rest with
    | nil => rfl
    | cons d' rest => rfl

end

/-- Every decimal is written as the number of a document with a point or an exponent. -/
theorem Scientific.write_eq_numberText (s : Scientific) :
    ∃ whole fraction exponent, IsWhole whole ∧ AreDigits fraction ∧
      (fraction ≠ [] ∨ exponent.isSome) ∧
      s.write Style.exact = numberText whole fraction exponent := by
  have digits := areDigits_decimalDigits s.digits
  have given := decimalDigits_ne_nil s.digits
  simp only [Scientific.write]
  split
  case isTrue zero =>
    exact ⟨['0'], ['0'], none, ⟨areDigits_zeros 1, by simp, fun _ => rfl⟩, areDigits_zeros 1,
      .inl (by simp), by rw [zero]; decide⟩
  case isFalse positive =>
    have nonzero := head?_decimalDigits (Nat.pos_of_ne_zero positive)
    split
    case isTrue plain =>
      obtain ⟨whole, fraction, isWhole, areDigits, some, same⟩ :=
        placePoint_eq_numberText digits given nonzero
          (s.exponent + (decimalDigits s.digits).length - 1 + 1)
      exact ⟨whole, fraction, none, isWhole, areDigits, .inl some, same⟩
    case isFalse far =>
      obtain ⟨whole, fraction, isWhole, areDigits, same⟩ :=
        withExponent_eq_numberText digits given nonzero
          (s.exponent + (decimalDigits s.digits).length - 1)
      exact ⟨whole, fraction, _, isWhole, areDigits, .inr rfl, same⟩

end GrowthGrammar.Decimal

namespace GrowthGrammar.Datum

open GrowthGrammar.Decimal

/-! ## Taking a number apart -/

/-- A number ends before the text: nothing in front of it can belong to the number. -/
def EndsNumber (text : List Char) : Prop :=
  ∀ c ∈ text.head?, c.isDigit = false ∧ c ≠ '.' ∧ c ≠ 'e' ∧ c ≠ 'E'

theorem takeWhile_digits {ds : List Char} (digits : AreDigits ds) (rest : List Char)
    (ends : ∀ c ∈ rest.head?, c.isDigit = false) :
    (ds ++ rest).takeWhile Char.isDigit = ds ∧ (ds ++ rest).dropWhile Char.isDigit = rest := by
  rw [List.takeWhile_append_of_pos digits, List.dropWhile_append_of_pos digits]
  cases rest with
  | nil => simp
  | cons c rest =>
    have other : c.isDigit = false := ends c rfl
    simp [other]

section

variable {whole fraction rest : List Char} {exponent : Option Int}

theorem splitWhole_append (isWhole : IsWhole whole) (ends : ∀ c ∈ rest.head?, c.isDigit = false) :
    splitWhole (whole ++ rest) = some (whole, rest) := by
  unfold splitWhole
  split
  case h_1 tail front =>
    have zero : whole.head? = some '0' := by
      have first := congrArg List.head? front
      rwa [List.head?_append_of_ne_nil _ isWhole.given] at first
    rw [isWhole.front zero] at front ⊢
    exact congrArg (fun left => some (['0'], left)) (List.cons.inj front).2.symm
  case h_2 =>
    obtain ⟨taken, left⟩ := takeWhile_digits isWhole.digits rest ends
    simp [taken, left, isWhole.given]

theorem splitFraction_append (digits : AreDigits fraction)
    (ends : ∀ c ∈ rest.head?, c.isDigit = false ∧ c ≠ '.') :
    splitFraction ((if fraction = [] then [] else '.' :: fraction) ++ rest) = (fraction, rest) := by
  split
  case isTrue none =>
    rw [none, List.nil_append]
    unfold splitFraction
    split
    · exact absurd rfl (ends '.' rfl).2
    · rfl
  case isFalse some =>
    obtain ⟨taken, left⟩ := takeWhile_digits digits rest fun c member => (ends c member).1
    simp [splitFraction, taken, left, some]

theorem splitExponent_append (ends : EndsNumber rest) :
    splitExponent (exponent.elim [] exponentPart ++ rest) = (exponent, rest) := by
  cases exponent with
  | none =>
    rw [Option.elim_none, List.nil_append]
    cases rest with
    | nil => rfl
    | cons c rest =>
      obtain ⟨-, -, small, large⟩ := ends c rfl
      simp [splitExponent, small, large]
  | some e =>
    obtain ⟨taken, left⟩ := takeWhile_digits
      (areDigits_padded (2 - (decimalDigits e.natAbs).length) e.natAbs) rest
      fun c member => (ends c member).1
    rw [List.append_assoc] at taken left
    simp only [Option.elim_some, exponentPart, splitExponent]
    by_cases negative : e < 0
    · simp [negative, splitSign, taken, left, decimalDigits_ne_nil, abs_of_neg negative]
    · simp [negative, splitSign, taken, left, decimalDigits_ne_nil,
        abs_of_nonneg (not_lt.mp negative)]

theorem readUnsigned_numberText (isWhole : IsWhole whole) (digits : AreDigits fraction)
    (ends : EndsNumber rest) (negative : Bool) :
    readUnsigned negative (numberText whole fraction exponent ++ rest) =
      if !fraction.isEmpty || exponent.isSome then
        .ok (.real (Binary64.ofDecimal negative (natOfDigits (whole ++ fraction))
          (exponent.getD 0 - fraction.length)), rest)
      else if maxDigits < whole.length then .error (.digits whole.length)
      else .ok (.int (if negative then -(natOfDigits whole : Int) else natOfDigits whole),
        rest) := by
  have afterFraction : ∀ c ∈ (exponent.elim [] exponentPart ++ rest).head?,
      c.isDigit = false ∧ c ≠ '.' := by
    intro c first
    cases exponent with
    | none => exact ⟨(ends c first).1, (ends c first).2.1⟩
    | some e =>
      obtain rfl := Option.some.inj first
      exact ⟨rfl, by decide⟩
  have afterWhole : ∀ c ∈ ((if fraction = [] then [] else '.' :: fraction) ++
      (exponent.elim [] exponentPart ++ rest)).head?, c.isDigit = false := by
    intro c first
    split at first
    · exact (afterFraction c first).1
    · obtain rfl := Option.some.inj first
      rfl
  rw [numberText, List.append_assoc, List.append_assoc, readUnsigned,
    splitWhole_append isWhole afterWhole]
  simp only [splitFraction_append digits afterFraction, splitExponent_append ends]

/-- A text reader finds the same digits and the same exponent. -/
theorem readDecimal_numberText (isWhole : IsWhole whole) (digits : AreDigits fraction)
    (negative : Bool) :
    readDecimal negative (numberText whole fraction exponent) =
      some (.decimal negative (natOfDigits (whole ++ fraction))
        (exponent.getD 0 - fraction.length)) := by
  have exponentRead : readExponent (exponent.elim [] exponentPart) = some (exponent.getD 0) := by
    cases exponent with
    | none => rfl
    | some e => exact readExponent_exponentPart e
  have notDigit : ∀ c ∈ (exponent.elim [] exponentPart).head?, c.isDigit = false := by
    intro c first
    cases exponent with
    | none => cases first
    | some e =>
      obtain rfl := Option.some.inj first
      rfl
  by_cases none : fraction = []
  · obtain ⟨taken, left⟩ := takeWhile_digits isWhole.digits _ notDigit
    rw [numberText, if_pos none, List.nil_append, readDecimal]
    simp only [taken, left]
    cases exponent with
    | none => simp [none, isWhole.given, readExponent]
    | some e =>
      simp only [Option.elim_some, exponentPart] at exponentRead ⊢
      simp [none, isWhole.given, exponentRead]
  · obtain ⟨taken, left⟩ := takeWhile_digits digits _ notDigit
    obtain ⟨front, back⟩ := takeWhile_digits isWhole.digits
      ('.' :: (fraction ++ exponent.elim [] exponentPart)) (by rintro c ⟨⟩; rfl)
    simp [readDecimal, numberText, none, taken, left, front, back, isWhole.given, exponentRead]

end

/-! ## Scalars -/

/-- A text that starts with a digit is no word. -/
theorem readScalar_of_digit {cs : List Char} (first : startsWithDigit cs = true) :
    readScalar cs = readUnsigned false cs := by
  cases cs with
  | nil => cases first
  | cons c rest =>
    have digit : c.isDigit = true := first
    have other : c ≠ 'n' ∧ c ≠ 't' ∧ c ≠ 'f' ∧ c ≠ 'N' ∧ c ≠ 'I' ∧ c ≠ '-' := by
      refine ⟨?_, ?_, ?_, ?_, ?_, ?_⟩ <;> (rintro rfl; cases digit)
    obtain ⟨notN, notT, notF, notCapital, notI, notMinus⟩ := other
    have noWord : ∀ entry ∈ wordValues, dropWord entry.1 (c :: rest) = none := by
      simp [wordValues, dropWord, notN.symm, notT.symm, notF.symm, notCapital.symm, notI.symm,
        notMinus.symm]
    rw [readScalar, List.findSome?_eq_none_iff.mpr]
    · exact fun entry member => by simp [noWord entry member]
    · exact fun tail same => notMinus (List.cons.inj same).1

/-- A sign in front of a digit is no word either. -/
theorem readScalar_minus {cs : List Char} (first : startsWithDigit cs = true) :
    readScalar ('-' :: cs) = readUnsigned true cs := by
  cases cs with
  | nil => cases first
  | cons c rest =>
    have digit : c.isDigit = true := first
    have notI : c ≠ 'I' := by
      rintro rfl
      cases digit
    have noWord : ∀ entry ∈ wordValues, dropWord entry.1 ('-' :: c :: rest) = none := by
      simp [wordValues, dropWord, notI.symm]
    rw [readScalar, List.findSome?_eq_none_iff.mpr]
    exact fun entry member => by simp [noWord entry member]

theorem readScalar_signed {cs : List Char} (first : startsWithDigit cs = true)
    (negative : Bool) : readScalar (signed negative cs) = readUnsigned negative cs := by
  cases negative with
  | false => exact readScalar_of_digit first
  | true => exact readScalar_minus first

/-! ## Doubles -/

theorem eq_undefined {x : Float} (nan : x.isNaN = true) : x = Binary64.undefined := by
  apply Binary64.eq_of_unpack_eq
  have unpackedNaN : x.toModel.unpack.isNaN = true := nan
  cases unpacked : x.toModel.unpack with
  | notANumber => rfl
  | infinity s | zero s | finite s m e h =>
    rw [unpacked] at unpackedNaN
    cases unpackedNaN

theorem eq_infinity_or {x : Float} (inf : x.isInf = true) :
    x = Binary64.infinity ∨ x = Binary64.ofMagnitude true Binary64.infinityBits := by
  have unpackedInf : x.toModel.unpack.isInf = true := inf
  cases unpacked : x.toModel.unpack with
  | infinity s =>
    cases s with
    | positive => exact .inl (Binary64.eq_of_unpack_eq unpacked)
    | negative => exact .inr (Binary64.eq_of_unpack_eq unpacked)
  | notANumber | zero s | finite s m e h =>
    rw [unpacked] at unpackedInf
    cases unpackedInf

theorem isFinite_of_not {x : Float} (number : ¬ x.isNaN = true) (notInf : ¬ x.isInf = true) :
    x.isFinite = true := by
  have unpackedNaN : ¬ x.toModel.unpack.isNaN = true := number
  have unpackedInf : ¬ x.toModel.unpack.isInf = true := notInf
  change x.toModel.unpack.isFinite = true
  cases unpacked : x.toModel.unpack with
  | notANumber => exact absurd rfl (unpacked ▸ unpackedNaN)
  | infinity s => exact absurd rfl (unpacked ▸ unpackedInf)
  | zero s | finite s m e h => rfl

/-- The written form of a double is read as the double. -/
theorem readScalar_jsonReal (x : Float) {rest : List Char} (ends : EndsNumber rest) :
    readScalar ((jsonReal x).toList ++ rest) = .ok (.real x, rest) := by
  rw [jsonReal]
  split
  case isTrue nan =>
    rw [eq_undefined nan]
    rfl
  case isFalse number =>
    split
    case isTrue inf =>
      rcases eq_infinity_or inf with rfl | rfl <;> rfl
    case isFalse notInf =>
      have finite := isFinite_of_not number notInf
      obtain ⟨d, decoded⟩ :=
        Option.isSome_iff_exists.mp ((Binary64.isSome_decode_iff x).mpr finite)
      obtain ⟨whole, fraction, exponent, isWhole, digits, marked, text⟩ :=
        (shortest d).write_eq_numberText
      have writes := Scientific.writes_write Style.exact (shortest d)
      obtain ⟨n, e, reads, value⟩ := writes.reads d.negative
      rw [text, readDecimal_numberText isWhole digits] at reads
      cases reads
      have first : startsWithDigit (numberText whole fraction exponent ++ rest) = true := by
        rw [numberText, List.append_assoc]
        exact startsWithDigit_append isWhole.digits isWhole.given _
      have sign : (exact x).toList ++ rest =
          signed d.negative (numberText whole fraction exponent ++ rest) := by
        rw [exact_of_decode decoded, text]
        cases d.negative <;> rfl
      rw [sign, readScalar_signed first, readUnsigned_numberText isWhole digits ends,
        ofDecimal_of_value decoded value]
      refine if_pos ?_
      rcases marked with some | some
      · simp [some]
      · simp [some]

/-! ## Whole numbers -/

theorem toList_toString (n : Int) :
    (toString n).toList = signed (decide (n < 0)) (decimalDigits n.natAbs) := by
  cases n with
  | ofNat m => exact Nat.toList_repr
  | negSucc m =>
    have text : (toString (Int.negSucc m)).toList = ("-" ++ Nat.repr (m + 1)).toList := rfl
    rw [text, String.toList_append, Nat.toList_repr, decide_eq_true (Int.negSucc_lt_zero m)]
    rfl

/-- A whole number that has not too many digits is read as itself. -/
theorem readScalar_toString {n : Int} (short : (decimalDigits n.natAbs).length ≤ maxDigits)
    {rest : List Char} (ends : EndsNumber rest) :
    readScalar ((toString n).toList ++ rest) = .ok (.int n, rest) := by
  have text : (toString n).toList ++ rest =
      signed (decide (n < 0)) (numberText (decimalDigits n.natAbs) [] none ++ rest) := by
    rw [toList_toString, numberText, if_pos rfl, Option.elim_none, List.append_nil,
      List.append_nil]
    cases decide (n < 0) <;> rfl
  have first : startsWithDigit (numberText (decimalDigits n.natAbs) [] none ++ rest) = true := by
    rw [numberText, List.append_assoc]
    exact startsWithDigit_append (areDigits_decimalDigits _) (decimalDigits_ne_nil _) _
  have value : (if decide (n < 0) then -(n.natAbs : Int) else n.natAbs) = n := by
    simp only [decide_eq_true_eq]
    omega
  have none : AreDigits [] := areDigits_zeros 0
  rw [text, readScalar_signed first, readUnsigned_numberText (isWhole_decimalDigits _)
    none ends, natOfDigits_decimalDigits, value]
  simp [not_lt.mpr short]

end GrowthGrammar.Datum

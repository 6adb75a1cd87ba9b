import Mathlib
import GrowthGrammar.Proofs.Decimal.Shortest
import GrowthGrammar.Proofs.Decimal.Written
import GrowthGrammar.Proofs.Text.Tokens

/-!
# Written doubles read back

Main statement: the text that `exact` writes for a finite double is read as that double
(`readReal_exact`).

A text is read as digits and an exponent, and the double depends on the value of these
alone (`ofDecimal_of_contains`), so the zeros that the writer adds do not matter.
-/

namespace GrowthGrammar.Decimal

/-! ## From a decimal to a double -/

theorem quotient_pow_ten (digits : Nat) (e : Int) :
    ((digits * Nat.pow 10 e.toNat : Nat) : ℚ) / (Nat.pow 10 (-e).toNat : Nat) =
      digits * 10 ^ e := by
  have ten := pow_div_pow 10 (by decide) e
  rw [Nat.cast_mul, mul_div_assoc, ten]
  rfl

/-- A decimal lies between the powers of ten of its leading exponent. -/
theorem decimal_between {digits : Nat} (positive : 0 < digits) (e : Int) :
    (10 : ℚ) ^ (e + digitCount digits - 1) ≤ digits * 10 ^ e ∧
      (digits : ℚ) * 10 ^ e < 10 ^ (e + digitCount digits) := by
  obtain ⟨low, high⟩ := pow_digitCount positive
  have counted := digitCount_pos digits
  have scale : (0 : ℚ) < 10 ^ e := by positivity
  constructor
  · rw [show e + digitCount digits - 1 = ((digitCount digits - 1 : Nat) : Int) + e by omega,
      zpow_add₀ (by norm_num), zpow_natCast]
    gcongr
    exact_mod_cast low
  · rw [add_comm, zpow_add₀ (by norm_num), zpow_natCast]
    gcongr
    exact_mod_cast high

theorem two_pow_lt_ten_pow {m n : Nat} (positive : 0 < n) (small : m ≤ 3 * n) :
    (2 : ℚ) ^ (m : Int) < 10 ^ (n : Int) := by
  rw [zpow_natCast, zpow_natCast]
  calc (2 : ℚ) ^ m ≤ 2 ^ (3 * n) := pow_le_pow_right₀ one_le_two small
    _ = 8 ^ n := by rw [pow_mul]; norm_num
    _ < 10 ^ n := by gcongr; norm_num

/-- The interval of a double is within the decimals that are not cut off. -/
theorem ReadBack.Contains.between {d : Dyadic} (canonical : d.Canonical) (positive : 0 < d.mantissa)
    {x : ℚ} (inside : (ReadBack.of d).Contains x) :
    (10 : ℚ) ^ (-401 : Int) < x ∧ x < 10 ^ (400 : Int) := by
  have least : Binary64.minExponent = -1074 := rfl
  have lowestExponent := canonical.minExponent_le
  have highestExponent := canonical.exponent_le
  have exponent : (ReadBack.of d).exponent = d.exponent - 2 := rfl
  constructor
  · have two_le : (2 : ℚ) ≤ (ReadBack.of d).low := by
      have atLeast : (1 : ℚ) ≤ d.mantissa := by exact_mod_cast positive
      rw [ReadBack.low_of positive]
      split <;> linarith
    have power : (2 : ℚ) ^ (-1076 : Int) ≤ 2 ^ (ReadBack.of d).exponent :=
      zpow_le_zpow_right₀ one_le_two (by omega)
    have smallest : (10 : ℚ) ^ (-401 : Int) < 2 ^ (-1076 : Int) := by
      rw [zpow_neg, zpow_neg]
      gcongr
      exact two_pow_lt_ten_pow (by decide) (by decide)
    calc (10 : ℚ) ^ (-401 : Int) < 1 * 2 ^ (-1076 : Int) := by rwa [one_mul]
      _ ≤ (ReadBack.of d).low * 2 ^ (ReadBack.of d).exponent := by gcongr; linarith
      _ ≤ x := inside.low_le
  · have high : ((ReadBack.of d).high : ℚ) ≤ 2 ^ (55 : Int) := by
      have : (ReadBack.of d).high ≤ 2 ^ 55 := by
        have := canonical.mantissa_lt
        simp only [ReadBack.of]
        omega
      exact_mod_cast this
    have power : (2 : ℚ) ^ (ReadBack.of d).exponent ≤ 2 ^ (969 : Int) :=
      zpow_le_zpow_right₀ one_le_two (by omega)
    calc x ≤ (ReadBack.of d).high * 2 ^ (ReadBack.of d).exponent := inside.le_high
      _ ≤ 2 ^ (55 : Int) * 2 ^ (969 : Int) := by gcongr
      _ = 2 ^ (1024 : Int) := by rw [← zpow_add₀ two_ne_zero]; rfl
      _ < 10 ^ (400 : Int) := two_pow_lt_ten_pow (by decide) (by decide)

/-- A decimal in the interval of a double is read as that double. -/
theorem ofDecimal_of_contains {d : Dyadic} (canonical : d.Canonical) (positive : 0 < d.mantissa)
    {digits : Nat} {e : Int} (inside : (ReadBack.of d).Contains (digits * 10 ^ e))
    (negative : Bool) :
    Binary64.ofDecimal negative digits e = Binary64.ofMagnitude negative d.magnitude := by
  obtain ⟨above, below⟩ := inside.between canonical positive
  have digitsPos : 0 < digits := by
    rw [Nat.pos_iff_ne_zero]
    rintro rfl
    have : (0 : ℚ) < 10 ^ (-401 : Int) := by positivity
    simp only [Nat.cast_zero, zero_mul] at above
    linarith
  obtain ⟨low, high⟩ := decimal_between digitsPos e
  have one_lt_ten : (1 : ℚ) < 10 := by norm_num
  have notSmall : -401 < e + digitCount digits :=
    (zpow_lt_zpow_iff_right₀ one_lt_ten).mp (above.trans high)
  have notLarge : e + digitCount digits - 1 < 400 :=
    (zpow_lt_zpow_iff_right₀ one_lt_ten).mp (low.trans_lt below)
  have kept : ¬ (digits = 0 ∨ e + digitCount digits < -400) := by omega
  rw [Binary64.ofDecimal]
  simp only [Bool.or_eq_true, decide_eq_true_eq, kept, if_false]
  have denPos : 0 < Nat.pow 10 (-e).toNat := Nat.pow_pos (by decide)
  rw [if_neg (by omega), Binary64.ofQuotient, quotientBits_of_contains canonical positive denPos]
  rwa [quotient_pow_ten]

/-! ## From a text to a decimal -/

theorem isBlank_of_mem_numeralChars {c : Char} (written : c ∈ numeralChars) :
    Text.isBlank c = false :=
  of_mem_numeralChars (fun c => Text.isBlank c = false) (by decide) written

theorem plainDigit_of_mem_numeralChars {c : Char} (written : c ∈ numeralChars) :
    Text.plainDigit c = c :=
  of_mem_numeralChars (fun c => Text.plainDigit c = c) (by decide) written

/-- A digit is no sign, and no word for a number starts with it. -/
theorem first_of_isDigit {c : Char} (digit : c.isDigit = true) :
    c ≠ '-' ∧ c ≠ '+' ∧ c.toLower ≠ 'i' ∧ c.toLower ≠ 'n' :=
  of_mem_numeralChars
    (fun c => c.isDigit = true → c ≠ '-' ∧ c ≠ '+' ∧ c.toLower ≠ 'i' ∧ c.toLower ≠ 'n') (by decide)
    (mem_numeralChars_of_isDigit digit) digit

theorem joinDigits_eq_self {text : List Char} (plain : ∀ c ∈ text, c ≠ '_') (afterDigit : Bool) :
    joinDigits afterDigit text = some text := by
  induction text generalizing afterDigit with
  | nil => rfl
  | cons c rest ih =>
    have rest := ih (fun c member => plain c (List.mem_cons_of_mem _ member)) c.isDigit
    simp [joinDigits, plain c (by simp), rest]

theorem trimSpaces_eq_self {text : List Char} (solid : ∀ c ∈ text, Text.isBlank c = false) :
    Text.trimSpaces text = text := by
  have keep {cs : List Char} (solid : ∀ c ∈ cs, Text.isBlank c = false) :
      cs.dropWhile Text.isSpace = cs := by
    cases cs with
    | nil => rfl
    | cons c rest => simp [Text.isSpace, solid c (by simp)]
  rw [Text.trimSpaces, keep solid, keep (by simpa using solid), List.reverse_reverse]

/-- A text with the characters of a number is read as it is. -/
theorem readNumeral_of_chars {text : List Char} (chars : ∀ c ∈ text, c ∈ numeralChars) :
    readNumeral text = readPlain text := by
  have solid : ∀ c ∈ text, Text.isBlank c = false :=
    fun c member => isBlank_of_mem_numeralChars (chars c member)
  have plain : text.map Text.plainDigit = text := by
    rw [List.map_congr_left fun c member => plainDigit_of_mem_numeralChars (chars c member)]
    exact List.map_id' text
  have joined : ∀ c ∈ text, c ≠ '_' :=
    fun c member => of_mem_numeralChars (fun c => c ≠ '_') (by decide) (chars c member)
  rw [readNumeral, trimSpaces_eq_self solid, plain, joinDigits_eq_self joined]
  rfl

theorem mem_numeralChars_of_mem_signed {text : List Char} (chars : ∀ c ∈ text, c ∈ numeralChars)
    (negative : Bool) : ∀ c ∈ signed negative text, c ∈ numeralChars := by
  cases negative with
  | false => exact chars
  | true => exact List.forall_mem_cons.mpr ⟨by decide, chars⟩

theorem signed_ne_nil {text : List Char} (first : startsWithDigit text = true) (negative : Bool) :
    signed negative text ≠ [] := by
  cases negative with
  | true => exact List.cons_ne_nil _ _
  | false =>
    intro empty
    obtain rfl : text = [] := empty
    cases first

/-- The sign that is written is cut off again. -/
theorem splitSign_signed {text : List Char} (first : startsWithDigit text = true)
    (negative : Bool) : splitSign (signed negative text) = (negative, text) := by
  cases negative with
  | true => rfl
  | false =>
    cases text with
    | nil => cases first
    | cons c rest =>
      obtain ⟨noMinus, noPlus, -, -⟩ := first_of_isDigit first
      simp [signed, splitSign, noMinus, noPlus]

theorem map_toLower_ne {text : List Char} (first : startsWithDigit text = true) {letter : Char}
    (starts : letter = 'i' ∨ letter = 'n') (word : List Char) :
    text.map Char.toLower ≠ letter :: word := by
  cases text with
  | nil => simp
  | cons c rest =>
    obtain ⟨-, -, noI, noN⟩ := first_of_isDigit first
    intro same
    obtain ⟨rfl, -⟩ := List.cons.inj same
    exact starts.elim noI noN

/-- A written number with a sign is read as the number. -/
theorem Writes.readNumeral_signed {text : List Char} {value : ℚ} (writes : Writes text value)
    (negative : Bool) : ∃ digits e,
      readNumeral (signed negative text) = some (.decimal negative digits e) ∧
        (digits : ℚ) * 10 ^ e = value := by
  obtain ⟨digits, e, reads, same⟩ := writes.reads negative
  refine ⟨digits, e, ?_, same⟩
  have noWord (letter : Char) (starts : letter = 'i' ∨ letter = 'n') (word : List Char) :=
    map_toLower_ne writes.first starts word
  rw [readNumeral_of_chars (mem_numeralChars_of_mem_signed writes.chars negative), readPlain,
    splitSign_signed writes.first]
  simpa [noWord 'i' (.inl rfl), noWord 'n' (.inr rfl)] using reads

/-! ## From a double to its text and back -/

theorem exact_of_decode {x : Float} {d : Dyadic} (decoded : Binary64.decode x = some d) :
    (exact x).toList = signed d.negative ((shortest d).write Style.exact) := by
  simp [exact, decoded]

/-- A double is read from every decimal that has the value of its shortest one. -/
theorem ofDecimal_of_value {x : Float} {d : Dyadic} (decoded : Binary64.decode x = some d)
    {digits : Nat} {e : Int} (value : (digits : ℚ) * 10 ^ e = (shortest d).value) :
    Binary64.ofDecimal d.negative digits e = x := by
  have canonical := Binary64.decode_canonical decoded
  rw [← Binary64.ofMagnitude_magnitude decoded]
  by_cases zero : d.mantissa = 0
  · have nothing : digits = 0 := by
      simpa [shortest, zero, Scientific.value, zpow_ne_zero] using value
    have smallest : d.magnitude = 0 := by
      have := canonical.exponent_eq
      simp [Dyadic.magnitude, zero, this]
    simp [Binary64.ofDecimal, nothing, smallest]
  · have positive : 0 < d.mantissa := Nat.pos_of_ne_zero zero
    have inside := contains_shortest canonical positive
    rw [← value] at inside
    exact ofDecimal_of_contains canonical positive inside d.negative

/-- The text of a finite double is read as the double. -/
theorem readReal_exact {x : Float} (finite : x.isFinite = true) :
    readReal (exact x).toList = some x := by
  obtain ⟨d, decoded⟩ := Option.isSome_iff_exists.mp ((Binary64.isSome_decode_iff x).mpr finite)
  obtain ⟨digits, e, reads, value⟩ :=
    (Scientific.writes_write Style.exact (shortest d)).readNumeral_signed d.negative
  rw [exact_of_decode decoded, readReal, reads, Option.map_some, Numeral.toFloat,
    ofDecimal_of_value decoded value]

/-- The text of a finite double is one token. -/
theorem isToken_exact {x : Float} (finite : x.isFinite = true) : Text.IsToken (exact x).toList := by
  obtain ⟨d, decoded⟩ := Option.isSome_iff_exists.mp ((Binary64.isSome_decode_iff x).mpr finite)
  have writes := Scientific.writes_write Style.exact (shortest d)
  rw [exact_of_decode decoded]
  constructor
  case nonempty => exact signed_ne_nil writes.first d.negative
  case solid =>
    intro c member
    exact isBlank_of_mem_numeralChars
      (mem_numeralChars_of_mem_signed writes.chars d.negative c member)

end GrowthGrammar.Decimal

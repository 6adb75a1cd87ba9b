import GrowthGrammar.Proofs.Datum.Numbers

/-!
# Documents read as they were written

`Datum.Reads` says of a datum that its written form, at some level of nesting and in front
of a text that does not go on with a number, is read as the datum.  It holds of words and
numbers, of texts of plain characters, and of lists and records of data of which it holds,
where the fields of a record have different names (`reads_list`, `reads_record`).

A datum of which it holds at the outermost level is a document that is read as itself
(`ofJson_of_reads`).  The fuel is never short: what is read is at least half as long as the
fuel it takes.
-/

namespace GrowthGrammar.Datum

open GrowthGrammar.Decimal

variable {level levels fuel : Nat} {cs rest : List Char}

/-! ## Plain texts -/

/-- A printable character of ASCII that stands for itself between quotes. -/
def IsPlainChar (c : Char) : Prop := 0x20 ≤ c.toNat ∧ c.toNat ≤ 0x7e ∧ c ≠ '"' ∧ c ≠ '\\'

instance (c : Char) : Decidable (IsPlainChar c) := inferInstanceAs (Decidable (_ ∧ _))

/-- The text has plain characters only. -/
def IsPlainText (s : String) : Prop := ∀ c ∈ s.toList, IsPlainChar c

-- the characters of the text are tried, and not all characters
instance (s : String) : Decidable (IsPlainText s) :=
  List.decidableBAll IsPlainChar s.toList

theorem jsonCodePoint_of_isPlainChar {c : Char} (plain : IsPlainChar c) :
    jsonCodePoint c.toNat = [c] := by
  obtain ⟨low, high, quote, slash⟩ := plain
  have noQuote : c.toNat ≠ 34 := fun same => quote (Char.toNat_inj.mp same)
  have noSlash : c.toNat ≠ 92 := fun same => slash (Char.toNat_inj.mp same)
  rw [jsonCodePoint, if_neg (by simp [noQuote, noSlash]), if_neg (by simp; omega),
    if_neg (by simp; omega), if_neg (by simp; omega), if_neg (by simp; omega),
    if_neg (by simp; omega), if_pos (by simp [low, high]), Char.ofNat_toNat]

theorem codePoints_of_isPlainChar (plain : ∀ c ∈ cs, IsPlainChar c) :
    Text.codePoints cs = cs.map Char.toNat := by
  induction cs with
  | nil => rfl
  | cons c rest ih =>
    obtain ⟨here, later⟩ := List.forall_mem_cons.mp plain
    have noMark : (c == Text.mark) = false := by
      rw [beq_eq_false_iff_ne]
      rintro rfl
      exact absurd here (by decide)
    cases rest with
    | nil => rfl
    | cons d rest => simp [Text.codePoints, noMark, ih later]

theorem kept_of_isPlainChar {c : Char} (plain : IsPlainChar c) : Text.kept c.toNat = [c] := by
  obtain ⟨low, high, -⟩ := plain
  have noMark : Text.mark.toNat = 0x10ffff := by decide
  rw [Text.kept, if_neg (by simp [Text.isHalf]; omega), if_neg (by simp [noMark]; omega),
    Char.ofNat_toNat]

theorem joinUnits_of_isPlainChar (plain : ∀ c ∈ cs, IsPlainChar c) :
    Text.joinUnits (cs.map Char.toNat) = cs.map Char.toNat := by
  induction cs with
  | nil => rfl
  | cons c rest ih =>
    obtain ⟨⟨-, high, -⟩, later⟩ := List.forall_mem_cons.mp plain
    have notHigh : Text.isHighHalf c.toNat = false := by simp [Text.isHighHalf]; omega
    cases rest with
    | nil => rfl
    | cons d rest => simpa [Text.joinUnits, notHigh] using ih later

theorem readUnits_of_isPlainChar (plain : ∀ c ∈ cs, IsPlainChar c) (rest : List Char) :
    readUnits (cs ++ '"' :: rest) = some (cs.map Char.toNat, rest) := by
  induction cs with
  | nil => rfl
  | cons c cs ih =>
    obtain ⟨⟨low, -, quote, slash⟩, later⟩ := List.forall_mem_cons.mp plain
    rw [List.cons_append, readUnits, ih later, if_neg (by omega)]
    · rfl
    · exact quote
    · exact fun _ _ _ _ _ escape => absurd escape slash
    · exact fun _ _ escape => absurd escape slash

theorem jsonString_of_isPlainText {s : String} (plain : IsPlainText s) :
    (jsonString s).toList = '"' :: s.toList ++ ['"'] := by
  rw [jsonString, String.toList_ofList, codePoints_of_isPlainChar plain, List.flatMap_map,
    List.flatMap_congr fun c member => jsonCodePoint_of_isPlainChar (plain c member),
    List.flatMap_singleton']

theorem readString_of_isPlainText {s : String} (plain : IsPlainText s) (rest : List Char) :
    readString (s.toList ++ '"' :: rest) = .ok (s, rest) := by
  rw [readString, readUnits_of_isPlainChar plain]
  simp only [joinUnits_of_isPlainChar plain, Text.ofCodePoints, List.flatMap_map,
    List.flatMap_congr fun c member => kept_of_isPlainChar (plain c member),
    List.flatMap_singleton', String.ofList_toList]

/-! ## What is read -/

/-- The written form of the datum is read as the datum. -/
def Reads (level levels : Nat) (d : Datum) : Prop :=
  ∀ fuel rest, 2 * (writeValue level d).toList.length ≤ fuel → EndsNumber rest →
    readValue fuel levels ((writeValue level d).toList ++ rest) = .ok (d, rest)

theorem skipSpace_append {space : List Char} (blank : ∀ c ∈ space, isJsonSpace c = true)
    (cs : List Char) : skipSpace (space ++ cs) = skipSpace cs :=
  List.dropWhile_append_of_pos blank

/-- Space in front of a value does not matter. -/
theorem readValue_append {space : List Char} (blank : ∀ c ∈ space, isJsonSpace c = true)
    (fuel levels : Nat) (cs : List Char) :
    readValue fuel levels (space ++ cs) = readValue fuel levels cs := by
  cases fuel with
  | zero => rfl
  | succ fuel => rw [readValue, readValue, skipSpace_append blank]

theorem newLine_eq (level : Nat) :
    (newLine level).toList = '\n' :: List.replicate (4 * level) ' ' := by
  rw [newLine, String.toList_ofList]

theorem isJsonSpace_of_mem_newLine (level : Nat) :
    ∀ c ∈ (newLine level).toList, isJsonSpace c = true := by
  intro c member
  rw [newLine_eq] at member
  rcases List.mem_cons.mp member with rfl | member
  · rfl
  · rw [List.eq_of_mem_replicate member]
    rfl

/-- A value does not begin with the end of a list. -/
theorem readValue_of_skipSpace_bracket {left : List Char} (end_ : skipSpace cs = ']' :: left)
    (fuel levels : Nat) : readValue fuel levels cs = .error .shape := by
  cases fuel with
  | zero => rfl
  | succ fuel =>
    rw [readValue, end_]
    rfl

/-! ## Scalars -/

/-- The text begins like a word or a number. -/
def BeginsScalar (text : List Char) : Prop :=
  ∃ c ∈ text.head?, isJsonSpace c = false ∧ c ≠ '"' ∧ c ≠ '[' ∧ c ≠ '\x7b'

/-- What is read as a scalar begins like one. -/
theorem beginsScalar_of_readScalar {found : Datum × List Char}
    (read : readScalar cs = .ok found) : BeginsScalar cs := by
  cases cs with
  | nil => cases read
  | cons c rest =>
    have refused (bad : Char) (refuses : readScalar (bad :: rest) = .error .shape) : c ≠ bad := by
      rintro rfl
      cases refuses.symm.trans read
    refine ⟨c, rfl, ?_, refused '"' rfl, refused '[' rfl, refused '\x7b' rfl⟩
    simp [isJsonSpace, refused ' ' rfl, refused '\t' rfl, refused '\n' rfl, refused '\r' rfl]

theorem readValue_eq_readScalar (begins : BeginsScalar cs) (fuel levels : Nat) :
    readValue (fuel + 1) levels cs = readScalar cs := by
  obtain ⟨c, first, solid, quote, bracket, brace⟩ := begins
  have kept : skipSpace cs = cs := by
    cases cs with
    | nil => rfl
    | cons d rest =>
      obtain rfl := Option.some.inj first
      simp [skipSpace, solid]
  rw [readValue, kept]
  split
  case h_1 => exact absurd (Option.some.inj first).symm quote
  case h_2 => exact absurd (Option.some.inj first).symm bracket
  case h_3 => exact absurd (Option.some.inj first).symm brace
  case h_4 => rfl

/-- What is written as a scalar is read if the scalar is. -/
theorem Reads.of_scalar {d : Datum}
    (reads : ∀ rest, EndsNumber rest →
      readScalar ((writeValue level d).toList ++ rest) = .ok (d, rest)) :
    Reads level levels d := by
  intro fuel rest enough ends
  have given : (writeValue level d).toList ≠ [] := by
    intro none
    have read := reads [] (by rintro c ⟨⟩)
    rw [none] at read
    cases read
  have positive := List.length_pos_iff.mpr given
  obtain ⟨fuel, rfl⟩ : ∃ f, fuel = f + 1 := ⟨fuel - 1, by omega⟩
  have read := reads rest ends
  rw [readValue_eq_readScalar (beginsScalar_of_readScalar read), read]

theorem reads_bool (level levels : Nat) (b : Bool) : Reads level levels (.bool b) := by
  refine .of_scalar fun rest _ => ?_
  cases b <;> (rw [writeValue]; rfl)

theorem reads_int (level levels : Nat) {n : Int}
    (short : (decimalDigits n.natAbs).length ≤ maxDigits) : Reads level levels (.int n) := by
  refine .of_scalar fun rest ends => ?_
  rw [writeValue]
  exact readScalar_toString short ends

theorem reads_real (level levels : Nat) (x : Float) : Reads level levels (.real x) := by
  refine .of_scalar fun rest ends => ?_
  rw [writeValue]
  exact readScalar_jsonReal x ends

/-! ## Lists -/

theorem endsNumber_newLine (level : Nat) (cs : List Char) :
    EndsNumber ((newLine level).toList ++ cs) := by
  rw [newLine_eq]
  rintro c ⟨⟩
  decide

theorem endsNumber_comma (cs : List Char) : EndsNumber (',' :: cs) := by
  rintro c ⟨⟩
  decide

theorem skipSpace_newLine_append (level : Nat) {c : Char} (solid : isJsonSpace c = false) :
    skipSpace ((newLine level).toList ++ c :: cs) = c :: cs := by
  rw [skipSpace_append (isJsonSpace_of_mem_newLine level)]
  simp [skipSpace, solid]

theorem length_newLine (level : Nat) : (newLine level).toList.length = 4 * level + 1 := by
  rw [newLine_eq, List.length_cons, List.length_replicate]

/-- Texts with commas between them. -/
theorem toList_commas_cons (text next : String) (more : List String) :
    (",".intercalate (text :: next :: more)).toList =
      text.toList ++ ',' :: (",".intercalate (next :: more)).toList := by
  rw [String.toList_intercalate, String.toList_intercalate, List.map_cons, List.map_cons,
    List.intercalate_cons_cons]
  simp

theorem toList_commas_singleton (text : String) :
    (",".intercalate [text]).toList = text.toList := by
  rw [String.toList_intercalate, List.map_singleton, List.intercalate_singleton]

/-- The members of a list are read up to its bracket. -/
theorem readItems_of_reads {items : List Datum} (some : items ≠ [])
    (all : ∀ d ∈ items, Reads level levels d) (fuel outer : Nat) (rest : List Char)
    (enough : 2 * (",".intercalate (writeItems level items)).toList.length ≤ fuel) :
    readItems fuel levels ((",".intercalate (writeItems level items)).toList ++
      ((newLine outer).toList ++ ']' :: rest)) = .ok (items, rest) := by
  induction items generalizing fuel with
  | nil => exact absurd rfl some
  | cons d more ih =>
    obtain ⟨here, later⟩ := List.forall_mem_cons.mp all
    cases more with
    | nil =>
      rw [writeItems, writeItems, toList_commas_singleton, String.toList_append] at enough ⊢
      rw [List.length_append, length_newLine] at enough
      obtain ⟨fuel, rfl⟩ : ∃ f, fuel = f + 1 := ⟨fuel - 1, by omega⟩
      rw [readItems, List.append_assoc, readValue_append (isJsonSpace_of_mem_newLine level),
        here fuel _ (by omega) (endsNumber_newLine outer _)]
      simp only [bind, Except.bind, skipSpace_newLine_append outer (c := ']') rfl]
      rfl
    | cons next more =>
      rw [writeItems, writeItems, toList_commas_cons, ← writeItems, String.toList_append]
        at enough ⊢
      rw [List.length_append, List.length_append, length_newLine, List.length_cons] at enough
      obtain ⟨fuel, rfl⟩ : ∃ f, fuel = f + 1 := ⟨fuel - 1, by omega⟩
      rw [readItems, List.append_assoc, List.append_assoc,
        readValue_append (isJsonSpace_of_mem_newLine level), List.cons_append,
        here fuel _ (by omega) (endsNumber_comma _)]
      have others := ih (List.cons_ne_nil next more) later fuel (by omega)
      have comma (cs : List Char) : skipSpace (',' :: cs) = ',' :: cs := rfl
      simp only [bind, Except.bind, comma, others]
      rfl

/-- The members of a list do not begin with its bracket. -/
theorem readItems_of_bracket {left : List Char} (bracket : skipSpace cs = ']' :: left)
    (fuel levels : Nat) : readItems fuel levels cs = .error .shape := by
  cases fuel with
  | zero => rfl
  | succ fuel =>
    rw [readItems, readValue_of_skipSpace_bracket bracket]
    rfl

theorem writeValue_list {items : List Datum} (some : items ≠ []) (level : Nat) :
    (writeValue level (.list items)).toList =
      '[' :: ((",".intercalate (writeItems (level + 1) items)).toList ++
        ((newLine level).toList ++ [']'])) := by
  rw [writeValue, if_neg (by simp [some])]
  simp

theorem reads_list (level levels : Nat) {items : List Datum}
    (all : ∀ d ∈ items, Reads (level + 1) levels d) : Reads level (levels + 1) (.list items) := by
  intro fuel rest enough ends
  by_cases none : items = []
  · have text : (writeValue level (.list items)).toList = ['[', ']'] := by
      simp [none, writeValue]
    rw [text] at enough ⊢
    obtain ⟨fuel, rfl⟩ : ∃ f, fuel = f + 1 := ⟨fuel - 1, by simp at enough; omega⟩
    rw [none]
    rfl
  · rw [writeValue_list none] at enough ⊢
    simp only [List.length_cons, List.length_append] at enough
    obtain ⟨fuel, rfl⟩ : ∃ f, fuel = f + 1 := ⟨fuel - 1, by omega⟩
    have members := readItems_of_reads none all fuel level rest (by omega)
    have front (cs : List Char) : skipSpace ('[' :: cs) = '[' :: cs := rfl
    simp only [List.cons_append, List.append_assoc, List.nil_append]
    rw [readValue, front]
    simp only
    split
    case h_1 left bracket =>
      rw [readItems_of_bracket bracket] at members
      cases members
    case h_2 => rw [members]; rfl

/-! ## Records -/

theorem toList_field {name : String} (plain : IsPlainText name) (level : Nat) (d : Datum) :
    (newLine level ++ jsonString name ++ ": " ++ writeValue level d).toList =
      (newLine level).toList ++
        ('"' :: (name.toList ++ ('"' :: ':' :: ' ' :: (writeValue level d).toList))) := by
  simp [jsonString_of_isPlainText plain]

/-- The fields of a record are read up to its brace. -/
theorem readFields_of_reads {fields : List (String × Datum)} (some : fields ≠ [])
    (plain : ∀ name ∈ fields.map Prod.fst, IsPlainText name)
    (all : ∀ f ∈ fields, Reads level levels f.2) (fuel outer : Nat)
    (before : List (String × Datum)) (distinct : ((before ++ fields).map Prod.fst).Nodup)
    (rest : List Char)
    (enough : 2 * (",".intercalate (writeFields level fields)).toList.length ≤ fuel) :
    readFields fuel levels before ((",".intercalate (writeFields level fields)).toList ++
      ((newLine outer).toList ++ '\x7d' :: rest)) = .ok (before ++ fields, rest) := by
  induction fields generalizing fuel before with
  | nil => exact absurd rfl some
  | cons f more ih =>
    obtain ⟨name, d⟩ := f
    obtain ⟨here, later⟩ : Reads level levels d ∧ ∀ f ∈ more, Reads level levels f.2 :=
      List.forall_mem_cons.mp all
    obtain ⟨plainHere, plainLater⟩ :
        IsPlainText name ∧ ∀ name ∈ more.map Prod.fst, IsPlainText name :=
      List.forall_mem_cons.mp plain
    have fresh : name ∉ before.map Prod.fst := by
      rw [List.map_append, List.map_cons] at distinct
      exact fun known => (List.nodup_append.mp distinct).2.2 name known name (by simp) rfl
    have colon (cs : List Char) : skipSpace (':' :: cs) = ':' :: cs := rfl
    have blank : ∀ c ∈ [' '], isJsonSpace c = true := by simp [isJsonSpace]
    cases more with
    | nil =>
      rw [writeFields, writeFields, toList_commas_singleton, toList_field plainHere] at enough ⊢
      simp only [List.length_append, length_newLine, List.length_cons] at enough
      obtain ⟨fuel, rfl⟩ : ∃ f, fuel = f + 1 := ⟨fuel - 1, by omega⟩
      simp only [List.append_assoc, List.cons_append]
      rw [readFields, skipSpace_newLine_append level rfl]
      simp only [readString_of_isPlainText plainHere, bind, Except.bind, colon]
      rw [← List.singleton_append, readValue_append blank,
        here fuel _ (by omega) (endsNumber_newLine outer _)]
      simp only [skipSpace_newLine_append outer (c := '\x7d') rfl, setField_of_fresh fresh]
      rfl
    | cons next more =>
      obtain ⟨nextName, nextDatum⟩ := next
      rw [writeFields, writeFields, toList_commas_cons, ← writeFields, toList_field plainHere]
        at enough ⊢
      simp only [List.length_append, length_newLine, List.length_cons] at enough
      obtain ⟨fuel, rfl⟩ : ∃ f, fuel = f + 1 := ⟨fuel - 1, by omega⟩
      simp only [List.append_assoc, List.cons_append]
      rw [readFields, skipSpace_newLine_append level rfl]
      simp only [readString_of_isPlainText plainHere, bind, Except.bind, colon]
      rw [← List.singleton_append, readValue_append blank,
        here fuel _ (by omega) (endsNumber_comma _)]
      have others := ih (List.cons_ne_nil _ more) plainLater later fuel (before ++ [(name, d)])
        (by rwa [List.append_assoc]) (by omega)
      have comma (cs : List Char) : skipSpace (',' :: cs) = ',' :: cs := rfl
      simp only [comma, setField_of_fresh fresh]
      rw [List.append_assoc] at others
      exact others

theorem writeValue_record {fields : List (String × Datum)} (some : fields ≠ []) (level : Nat) :
    (writeValue level (.record fields)).toList =
      '\x7b' :: ((",".intercalate (writeFields (level + 1) fields)).toList ++
        ((newLine level).toList ++ ['\x7d'])) := by
  rw [writeValue, if_neg (by simp [some])]
  simp

/-- The fields of a record do not begin with its brace. -/
theorem readFields_of_brace {left : List Char} (brace : skipSpace cs = '\x7d' :: left)
    (fuel levels : Nat) (before : List (String × Datum)) :
    readFields fuel levels before cs = .error .shape := by
  cases fuel with
  | zero => rfl
  | succ fuel =>
    rw [readFields, brace]
    rfl

theorem reads_record (level levels : Nat) {fields : List (String × Datum)}
    (plain : ∀ name ∈ fields.map Prod.fst, IsPlainText name)
    (distinct : (fields.map Prod.fst).Nodup)
    (all : ∀ f ∈ fields, Reads (level + 1) levels f.2) :
    Reads level (levels + 1) (.record fields) := by
  intro fuel rest enough ends
  by_cases none : fields = []
  · have text : (writeValue level (.record fields)).toList = ['\x7b', '\x7d'] := by
      simp [none, writeValue]
    rw [text] at enough ⊢
    obtain ⟨fuel, rfl⟩ : ∃ f, fuel = f + 1 := ⟨fuel - 1, by simp at enough; omega⟩
    rw [none]
    rfl
  · rw [writeValue_record none] at enough ⊢
    simp only [List.length_cons, List.length_append] at enough
    obtain ⟨fuel, rfl⟩ : ∃ f, fuel = f + 1 := ⟨fuel - 1, by omega⟩
    have members := readFields_of_reads none plain all fuel level []
      (by rwa [List.nil_append]) rest (by omega)
    have front (cs : List Char) : skipSpace ('\x7b' :: cs) = '\x7b' :: cs := rfl
    simp only [List.cons_append, List.append_assoc, List.nil_append]
    rw [readValue, front]
    simp only
    split
    case h_1 left brace =>
      rw [readFields_of_brace brace] at members
      cases members
    case h_2 => rw [members]; rfl

/-! ## Documents -/

/-- A datum that is read at the outermost level is the value of its document. -/
theorem ofJson_of_reads {d : Datum} (reads : Reads 0 maxLevels d) :
    ofJson d.toJson.toList = .ok d := by
  have read := reads (2 * d.toJson.toList.length + 2) [] (by rw [toJson]; omega) (by rintro c ⟨⟩)
  rw [List.append_nil] at read
  rw [ofJson, toJson] at *
  rw [read]
  rfl

end GrowthGrammar.Datum

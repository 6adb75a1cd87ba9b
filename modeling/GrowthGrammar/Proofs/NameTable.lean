import GrowthGrammar.Proofs.Guarded
import GrowthGrammar.Proofs.Vocabulary

/-!
# Entering names into a table

While the lock of a table is free, a computation on the table has one of two runs.
A computation that refuses its text leaves the table as it was.  One that goes on
enters the names of its text one after the other, and then the vocabulary of the
table is `Vocabulary.addAll` of the one before and the symbols given are those of
`Vocabulary.wordOf`.
-/

namespace GrowthGrammar

/-! ## Checking names -/

theorem Name.checkAll_eq_ok_iff (names : List String) :
    Name.checkAll names = .ok () ↔ ∀ name ∈ names, Name.IsValid name := by
  induction names with
  | nil => simp [Name.checkAll]
  | cons name rest ih =>
    rw [Name.checkAll, List.forall_mem_cons, ← ih, Name.IsValid]
    cases Name.fault? name <;> simp

theorem checkNames_eq_ok_iff (names : List String) :
    checkNames names = .ok () ↔ ∀ name ∈ names, Name.IsValid name := by
  rw [← Name.checkAll_eq_ok_iff, checkNames]
  cases Name.checkAll names with
  | ok found => exact ⟨fun _ => rfl, fun _ => rfl⟩
  | error fault => constructor <;> rintro ⟨⟩

theorem Name.ofDatum_valid {d : Datum} {name : String} (h : Name.ofDatum d = .ok name) :
    Name.IsValid name := by
  cases d with
  | text given =>
    simp only [Name.ofDatum, Name.check] at h
    split at h
    · cases h
    · cases h
      assumption
  | _ => cases h

namespace NameTable

/-- The table after some names were entered. -/
def addAll (t : NameTable) (names : List String) : NameTable :=
  { t with value := t.value.addAll names }

@[simp]
theorem addAll_lock (t : NameTable) (names : List String) : (t.addAll names).lock = t.lock := rfl

@[simp]
theorem addAll_value (t : NameTable) (names : List String) :
    (t.addAll names).value = t.value.addAll names := rfl

@[simp]
theorem addAll_nil (t : NameTable) : t.addAll [] = t := rfl

theorem addAll_append (t : NameTable) (first second : List String) :
    t.addAll (first ++ second) = (t.addAll first).addAll second := by
  simp [addAll, Vocabulary.addAll_append]

/-! ## Entering names -/

theorem enter_runFrom {t : NameTable} (free : t.lock.IsFree) {name : String}
    (valid : Name.IsValid name) :
    (enter name).runFrom t = (.ok (t.value.symbol name).1, t.addAll [name]) := by
  have unfaulted : Name.fault? name = none := valid
  simp only [enter, unfaulted]
  rw [Step.runFrom_bind_ok (Guarded.read_runFrom free _)]
  cases found : t.value.code? name with
  | none =>
    rw [Vocabulary.symbol?_of_new found]
    exact Guarded.write_runFrom free _
  | some k =>
    rw [Vocabulary.symbol?_of_seen found, addAll, Vocabulary.addAll,
      Vocabulary.symbol_of_seen found]
    rfl

theorem enterFrom_runFrom {t : NameTable} (free : t.lock.IsFree) {names : List String}
    (valid : ∀ name ∈ names, Name.IsValid name) (done : Word) :
    (enterFrom done names).runFrom t =
      (.ok (done.reverse ++ t.value.wordOf names), t.addAll names) := by
  induction names generalizing t done with
  | nil => simp [enterFrom]
  | cons name rest ih =>
    rw [enterFrom, Step.runFrom_bind_ok (enter_runFrom free (valid name (by simp)))]
    rw [ih (by simpa using free) (fun other member => valid other (by simp [member]))]
    simp [addAll, Vocabulary.addAll, Vocabulary.wordOf]

/-- Valid names are entered one after the other. -/
theorem enterAll_runFrom {t : NameTable} (free : t.lock.IsFree) {names : List String}
    (valid : ∀ name ∈ names, Name.IsValid name) :
    (enterAll names).runFrom t = (.ok (t.value.wordOf names), t.addAll names) := by
  rw [enterAll, enterFrom_runFrom free valid]
  rfl

theorem enterDatum_runFrom {t : NameTable} (free : t.lock.IsFree) {d : Datum} {name : String}
    (named : Name.ofDatum d = .ok name) :
    (enterDatum d).runFrom t = (.ok (t.value.symbol name).1, t.addAll [name]) := by
  rw [enterDatum, named]
  exact enter_runFrom free (Name.ofDatum_valid named)

theorem enterDatum_runFrom_of_fault (t : NameTable) {d : Datum} {fault : NameFault}
    (refused : Name.ofDatum d = .error fault) :
    (enterDatum d).runFrom t = (.error (.parse (.written (.name fault))), t) := by
  simp [enterDatum, refused]

/-! ## Asking a table -/

theorem nameAt_runFrom {t : NameTable} (free : t.lock.IsFree) (code : Int) :
    (nameAt code).runFrom t = (.ok (t.value.name? code), t) :=
  Guarded.read_runFrom free _

theorem lookUpCode_runFrom {t : NameTable} (free : t.lock.IsFree) (name : String) :
    (lookUpCode (.text name)).runFrom t = (.ok (t.value.code? name), t) := by
  rw [lookUpCode, Step.runFrom_bind_ok (Guarded.read_runFrom free _)]
  rfl

theorem size_runFrom {t : NameTable} (free : t.lock.IsFree) :
    size.runFrom t = (.ok t.value.size, t) :=
  Guarded.read_runFrom free _

theorem symbols_runFrom {t : NameTable} (free : t.lock.IsFree) :
    symbols.runFrom t = (.ok t.value.symbols, t) :=
  Guarded.read_runFrom free _

theorem contains_runFrom {t : NameTable} (free : t.lock.IsFree) (s : Symbol) :
    (contains s).runFrom t = (.ok (t.value.contains s), t) := by
  rw [contains, Step.runFrom_bind_ok (nameAt_runFrom free s.code)]
  rfl

/-! ## Reading text -/

@[simp]
theorem ofWritten_ok_runFrom {α : Type} (found : α) (t : NameTable) :
    (ofWritten (.ok found)).runFrom t = (.ok found, t) := rfl

@[simp]
theorem ofWritten_error_runFrom {α : Type} (fault : WrittenFault) (t : NameTable) :
    (ofWritten (.error fault : Except WrittenFault α)).runFrom t =
      (.error (.parse (.written fault)), t) := rfl

/-- A text whose tokens are names is read as their symbols. -/
theorem readWord_runFrom {t : NameTable} (free : t.lock.IsFree) {text : String}
    (valid : ∀ name ∈ tokensOf text.toList, Name.IsValid name) :
    (readWord text).runFrom t =
      (.ok (t.value.wordOf (tokensOf text.toList)), t.addAll (tokensOf text.toList)) := by
  have checked := (checkNames_eq_ok_iff _).mpr valid
  simp only [readWord, checked]
  rw [Step.runFrom_bind_ok (ofWritten_ok_runFrom _ _), enterAll_runFrom free valid]

/-- A text with a token that is no name is refused before any name is entered. -/
theorem readWord_runFrom_of_fault (t : NameTable) {text : String} {fault : WrittenFault}
    (refused : checkNames (tokensOf text.toList) = .error fault) :
    (readWord text).runFrom t = (.error (.parse (.written fault)), t) := by
  simp only [readWord, refused]
  rw [Step.runFrom_bind_error (ofWritten_error_runFrom _ _)]

end NameTable

end GrowthGrammar

import GrowthGrammar.Proofs.Workspace.Call

/-!
# Runs on a workspace

A run starts with a workspace that holds nothing and makes one call after the other.
`enteredBy` lists the names that its calls bring into one table, and `issuedBy` the
symbols that the table gives for them at that time.

Whatever the calls are and whichever of them are refused, the vocabulary of the table is
the one that all these names make of an empty vocabulary (`vocabularyAt_afterAll`).  So
the table is determined by the list, and all answers it gives can be read off it
(`NameTable.Serves`).
-/

namespace GrowthGrammar

namespace Workspace

/-! ## What a run brings into a table -/

/-- The workspace after some calls. -/
def afterAll (ws : Workspace) (calls : List Call) : Workspace :=
  calls.foldl (fun ws call => call.after ws) ws

/-- The names that a call brings into one of the tables that there are. -/
def enteredAt (ws : Workspace) (id : TableId) (call : Call) : List String :=
  match call.enters ws with
  | some (table, names) => if table = id ∧ id.index < ws.tables.size then names else []
  | none => []

/-- The symbols that a table gives when the names of a call are entered. -/
def issuedAt (ws : Workspace) (id : TableId) (call : Call) : Word :=
  match ws.tables[id.index]? with
  | none => []
  | some t =>
    match ((NameTable.enterAll (ws.enteredAt id call)).runFrom t).1 with
    | .ok issued => issued
    | .error _ => []

/-- The names that some calls bring into a table. -/
def enteredBy (id : TableId) (ws : Workspace) : List Call → List String
  | [] => []
  | call :: rest => ws.enteredAt id call ++ enteredBy id (call.after ws) rest

/-- The symbols that a table gives for the names of some calls. -/
def issuedBy (id : TableId) (ws : Workspace) : List Call → Word
  | [] => []
  | call :: rest => ws.issuedAt id call ++ issuedBy id (call.after ws) rest

/-- The vocabulary of a table, empty if there is no such table yet. -/
def vocabularyAt (ws : Workspace) (id : TableId) : Vocabulary :=
  (ws.tables[id.index]?.map Guarded.value).getD .empty

/-! ## One call -/

theorem Grows.getElem?_tables {ws now : Workspace} {call : Call}
    (grows : Grows ws now (call.enters ws)) {id : TableId} {t : NameTable}
    (found : ws.tables[id.index]? = some t) :
    now.tables[id.index]? = some (t.addAll (ws.enteredAt id call)) := by
  have inside := (Array.getElem?_eq_some_iff.mp found).1
  rcases grows.tables with entered | ⟨noNames, timeout, pushed⟩
  · rw [entered, enteredAt]
    cases call.enters ws with
    | none => simpa [enterAt] using found
    | some names =>
      obtain ⟨table, names⟩ := names
      rw [enterAt, Array.getElem?_modify]
      by_cases here : table = id
      · subst here
        rw [if_pos rfl, found]
        simp [inside]
      · have elsewhere : table.index ≠ id.index := by
          cases table
          cases id
          simpa using here
        simpa [here, elsewhere] using found
  · rw [pushed, Array.getElem?_push_lt inside, enteredAt, noNames]
    simpa [inside] using found

/-- A table that a call makes is empty. -/
theorem Grows.vocabularyAt_of_missing {ws now : Workspace} {call : Call}
    (grows : Grows ws now (call.enters ws)) {id : TableId}
    (missing : ws.tables[id.index]? = none) : now.vocabularyAt id = .empty := by
  have outside : ws.tables.size ≤ id.index := Array.getElem?_eq_none_iff.mp missing
  rcases grows.tables with entered | ⟨-, timeout, pushed⟩
  · have stillMissing : now.tables[id.index]? = none := by
      rw [entered]
      cases call.enters ws with
      | none => exact missing
      | some names => simpa [enterAt] using outside
    rw [vocabularyAt, stillMissing]
    rfl
  · rw [vocabularyAt, pushed, Array.getElem?_push]
    split
    · rfl
    · rw [missing]
      rfl

theorem enteredAt_of_missing {ws : Workspace} {id : TableId}
    (missing : ws.tables[id.index]? = none) (call : Call) : ws.enteredAt id call = [] := by
  have outside : ws.tables.size ≤ id.index := Array.getElem?_eq_none_iff.mp missing
  have noSuch : ¬ id.index < ws.tables.size := by omega
  rw [enteredAt]
  cases call.enters ws <;> simp [noSuch]

theorem Lawful.valid_of_mem_enteredAt {ws : Workspace} (lawful : ws.Lawful) (id : TableId)
    (call : Call) : ∀ name ∈ ws.enteredAt id call, Name.IsValid name := by
  have valid := (lawful.grows_call call).valid
  rw [enteredAt]
  cases brought : call.enters ws with
  | none => simp
  | some names =>
    obtain ⟨table, names⟩ := names
    intro name member
    simp only at member
    by_cases here : table = id ∧ id.index < ws.tables.size
    · rw [if_pos here] at member
      exact valid (table, names) brought name member
    · rw [if_neg here] at member
      cases member

/-- A call leaves a vocabulary as entering its names there does. -/
theorem Lawful.vocabularyAt_after {ws : Workspace} (lawful : ws.Lawful) (id : TableId)
    (call : Call) :
    (call.after ws).vocabularyAt id = (ws.vocabularyAt id).addAll (ws.enteredAt id call) := by
  cases found : ws.tables[id.index]? with
  | none =>
    rw [(lawful.grows_call call).vocabularyAt_of_missing found, enteredAt_of_missing found,
      vocabularyAt, found]
    rfl
  | some t =>
    rw [vocabularyAt, (lawful.grows_call call).getElem?_tables found, vocabularyAt, found]
    rfl

/-- What a call has issued are the symbols of its names. -/
theorem Lawful.issuedAt_eq {ws : Workspace} (lawful : ws.Lawful) (id : TableId) (call : Call) :
    ws.issuedAt id call = (ws.vocabularyAt id).wordOf (ws.enteredAt id call) := by
  cases found : ws.tables[id.index]? with
  | none => rw [issuedAt, found, enteredAt_of_missing found, Vocabulary.wordOf_nil]
  | some t =>
    have free := (lawful.tables t (Array.mem_of_getElem? found)).1
    rw [issuedAt, found]
    simp only [NameTable.enterAll_runFrom free (lawful.valid_of_mem_enteredAt id call)]
    rw [vocabularyAt, found]
    rfl

/-! ## Runs -/

theorem Lawful.afterAll {ws : Workspace} (lawful : ws.Lawful) (calls : List Call) :
    (ws.afterAll calls).Lawful := by
  induction calls generalizing ws with
  | nil => exact lawful
  | cons call rest ih => exact ih (lawful.grows_call call).lawful

theorem Lawful.valid_of_mem_enteredBy {ws : Workspace} (lawful : ws.Lawful) (id : TableId)
    (calls : List Call) : ∀ name ∈ enteredBy id ws calls, Name.IsValid name := by
  induction calls generalizing ws with
  | nil => simp [enteredBy]
  | cons call rest ih =>
    intro name member
    rcases List.mem_append.mp member with first | later
    · exact lawful.valid_of_mem_enteredAt id call name first
    · exact ih (lawful.grows_call call).lawful name later

/-- A run leaves a vocabulary as entering all of its names there does. -/
theorem Lawful.vocabularyAt_afterAll {ws : Workspace} (lawful : ws.Lawful) (id : TableId)
    (calls : List Call) :
    (ws.afterAll calls).vocabularyAt id = (ws.vocabularyAt id).addAll (enteredBy id ws calls) := by
  induction calls generalizing ws with
  | nil => rfl
  | cons call rest ih =>
    rw [enteredBy, Vocabulary.addAll_append, ← lawful.vocabularyAt_after]
    exact ih (lawful.grows_call call).lawful

/-- What a run has issued are the symbols of its names. -/
theorem Lawful.issuedBy_eq {ws : Workspace} (lawful : ws.Lawful) (id : TableId)
    (calls : List Call) :
    issuedBy id ws calls = (ws.vocabularyAt id).wordOf (enteredBy id ws calls) := by
  induction calls generalizing ws with
  | nil => rfl
  | cons call rest ih =>
    rw [issuedBy, enteredBy, Vocabulary.wordOf_append, ← lawful.vocabularyAt_after,
      lawful.issuedAt_eq, ih (lawful.grows_call call).lawful]

theorem vocabularyAt_of_getElem? {ws : Workspace} {id : TableId} {t : NameTable}
    (found : ws.tables[id.index]? = some t) : ws.vocabularyAt id = t.value := by
  rw [vocabularyAt, found]
  rfl

/-- A table contains what a run has issued from it. -/
theorem contains_of_mem_issuedBy {calls : List Call} {id : TableId} {t : NameTable}
    (found : (empty.afterAll calls).tables[id.index]? = some t) {s : Symbol}
    (issued : s ∈ issuedBy id .empty calls) : t.value.contains s = true := by
  have held := empty_lawful.vocabularyAt_afterAll id calls
  rw [vocabularyAt_of_getElem? found] at held
  rw [empty_lawful.issuedBy_eq] at issued
  rw [held]
  exact Vocabulary.contains_of_mem_wordOf issued

/-- A table that there is stays, and its vocabulary is extended. -/
theorem Lawful.extends_afterAll {ws : Workspace} (lawful : ws.Lawful) {id : TableId}
    {t : NameTable} (found : ws.tables[id.index]? = some t) (calls : List Call) :
    ∃ later, (ws.afterAll calls).tables[id.index]? = some later ∧ t.value.Extends later.value := by
  induction calls generalizing ws t with
  | nil => exact ⟨t, found, .refl _⟩
  | cons call rest ih =>
    have grows := lawful.grows_call call
    obtain ⟨later, foundLater, grown⟩ := ih grows.lawful (grows.getElem?_tables found)
    exact ⟨later, foundLater, (t.value.extends_addAll _).trans grown⟩

end Workspace

/-! ## Answers of a table -/

/-- The table answers as one in which some names were entered one after the other and
some symbols were given for them. -/
structure NameTable.Serves (t : NameTable) (entered : List String) (issued : Word) : Prop where
  /-- Both dictionaries have the names that were entered, in the order of their first
  occurrences, with the codes zero, one, two, …, and the next code is the number of them. -/
  fields : t.value.codes = .ofNames entered.eraseDups
  /-- The size is the number of names. -/
  size : NameTable.size.runFrom t = (.ok t.value.size, t)
  /-- The codes are those from zero up to the size. -/
  codes (code : Int) :
    (∃ name, (NameTable.nameAt code).runFrom t = (.ok (some name), t)) ↔
      0 ≤ code ∧ code < t.value.size
  /-- The next new name gets the next code. -/
  next (name : String) : Name.IsValid name →
    (NameTable.lookUpCode (.text name)).runFrom t = (.ok none, t) →
      ((NameTable.enter name).runFrom t).1 = .ok ⟨t.value.size, name⟩
  /-- Codes and names are inverse to each other. -/
  inverse (name : String) (code : Nat) :
    (NameTable.lookUpCode (.text name)).runFrom t = (.ok (some code), t) ↔
      (NameTable.nameAt code).runFrom t = (.ok (some name), t)
  /-- All names are valid. -/
  valid (name : String) (code : Int) :
    (NameTable.nameAt code).runFrom t = (.ok (some name), t) → Name.IsValid name
  /-- The symbols are listed by code, which is the order of the first occurrences of their
  names. -/
  symbols : ∃ listed, NameTable.symbols.runFrom t = (.ok listed, t) ∧
    listed.names = entered.eraseDups ∧ listed.codes = (List.range t.value.size).map Int.ofNat
  /-- The symbols that were given are contained, and no others. -/
  contains (s : Symbol) : (NameTable.contains s).runFrom t = (.ok (decide (s ∈ issued)), t)

/-- A table with a free lock that holds what some valid names make of an empty vocabulary. -/
theorem NameTable.serves_addAll_empty {t : NameTable} (free : t.lock.IsFree)
    {entered : List String} (valid : ∀ name ∈ entered, Name.IsValid name)
    (held : t.value = Vocabulary.empty.addAll entered) :
    t.Serves entered (Vocabulary.empty.wordOf entered) := by
  have sound : t.value.Sound := held ▸ Vocabulary.empty_sound.addAll valid
  have listed : t.value.names = entered.eraseDups := by
    rw [held, Vocabulary.names_addAll_empty]
  constructor
  case fields =>
    rw [t.value.inStep.eq_ofNames]
    exact congrArg CodeTable.ofNames listed
  case size => exact size_runFrom free
  case codes =>
    intro code
    rw [nameAt_runFrom free, ← Vocabulary.isSome_name?_iff, Option.isSome_iff_exists]
    simp
  case next =>
    intro name nameValid unseen
    rw [lookUpCode_runFrom free] at unseen
    have new : t.value.code? name = none := by simpa using unseen
    rw [enter_runFrom free nameValid, Vocabulary.symbol_of_new new]
  case inverse =>
    intro name code
    rw [lookUpCode_runFrom free, nameAt_runFrom free]
    simpa using sound.code?_iff
  case valid =>
    intro name code named
    rw [nameAt_runFrom free] at named
    have found : t.value.name? code = some name := by simpa using named
    exact sound.valid name (Vocabulary.mem_of_name? found)
  case symbols =>
    exact ⟨_, symbols_runFrom free, by rw [Vocabulary.names_symbols, listed],
      Vocabulary.codes_symbols _⟩
  case contains =>
    intro s
    have same : (Vocabulary.empty.addAll entered).contains s =
        decide (s ∈ Vocabulary.empty.wordOf entered) := by
      rw [Bool.eq_iff_iff, Vocabulary.contains_addAll_empty_iff valid, decide_eq_true_iff]
    rw [contains_runFrom free, held, same]

/-- After every run, and whichever of its calls were refused, each table serves the names
that the run brought into it, and whatever the run goes on with, names keep their codes. -/
theorem table_serves_names_of_run (calls : List Call) (id : TableId) (t : NameTable)
    (found : (Workspace.empty.afterAll calls).tables[id.index]? = some t) :
    t.Serves (Workspace.enteredBy id .empty calls) (Workspace.issuedBy id .empty calls) ∧
      ∀ more, ∃ later,
        (Workspace.empty.afterAll (calls ++ more)).tables[id.index]? = some later ∧
        ∀ name code, t.value.name? code = some name → later.value.name? code = some name := by
  have lawful := Workspace.empty_lawful.afterAll calls
  have held := Workspace.empty_lawful.vocabularyAt_afterAll id calls
  rw [Workspace.vocabularyAt_of_getElem? found] at held
  constructor
  · rw [Workspace.empty_lawful.issuedBy_eq]
    exact NameTable.serves_addAll_empty (lawful.tables t (Array.mem_of_getElem? found)).1
      (Workspace.empty_lawful.valid_of_mem_enteredBy id calls) held
  · intro more
    obtain ⟨later, foundLater, grown⟩ := lawful.extends_afterAll found more
    refine ⟨later, ?_, fun name code => grown.name?⟩
    rwa [Workspace.afterAll, List.foldl_append]

/-- A family whose table is used by a system: one rule is accepted, one is refused for its
weight, and one text is refused for its names. -/
def familyRun : List Call := [
  .newFamily "trees",
  .describe ⟨0⟩ (.text "F") .production none,
  .systemOfFamily ⟨0⟩ .latest,
  .addText ⟨0⟩ "F -> X F",
  .addText ⟨0⟩ "X -> -1 Y",
  .read ⟨0⟩ (.word "Z (")]

/-- The table of a family after a run of which two calls were refused. -/
theorem table_serves_names_of_family_run :
    Workspace.enteredBy ⟨0⟩ .empty familyRun = ["F", "F", "F", "X", "F", "X", "Y"] ∧
    ∃ t, (Workspace.empty.afterAll familyRun).tables[0]? = some t ∧
      t.Serves ["F", "F", "F", "X", "F", "X", "Y"] (Workspace.issuedBy ⟨0⟩ .empty familyRun) := by
  have entered : Workspace.enteredBy ⟨0⟩ .empty familyRun =
      ["F", "F", "F", "X", "F", "X", "Y"] := by decide +kernel
  have there : (Workspace.empty.afterAll familyRun).tables[0]?.isSome = true := by
    decide +kernel
  obtain ⟨t, found⟩ := Option.isSome_iff_exists.mp there
  refine ⟨entered, t, found, ?_⟩
  rw [← entered]
  exact (table_serves_names_of_run familyRun ⟨0⟩ t found).1

end GrowthGrammar

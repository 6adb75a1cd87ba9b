import GrowthGrammar.Proofs.Rule.Reading

/-!
# Entries

There are five ways to bring names into a table: a name as a datum, and a word, a head,
a body or a rule as a text.  Each of them, whether it is accepted or refused, enters a
list of valid names in their order (`Entry.perform_runFrom`).  A refused entry enters
none, with the one exception of a rule that is refused for a weight below zero.
-/

namespace GrowthGrammar

/-- Something that is read into a table. -/
inductive Entry
  /-- A datum that should be a name. -/
  | name (d : Datum)
  /-- A text that should be a word. -/
  | word (text : String)
  /-- A text that should be the head of a rule. -/
  | head (text : String)
  /-- A text that should be the body of a rule. -/
  | body (text : String)
  /-- A text that should be a rule. -/
  | rule (text : String)

namespace Entry

/-- Read an entry into a table, whatever it gives. -/
def perform : Entry → Step NameTable Unit
  | .name d => do let _ ← NameTable.enterDatum d
  | .word text => do let _ ← NameTable.readWord text
  | .head text => do let _ ← Rule.readHead text
  | .body text => do let _ ← Rule.readBody text
  | .rule text => do let _ ← Rule.read text

/-- The names in what was found, none if there was a fault. -/
def namesIn {ε α : Type} (names : α → List String) : Except ε α → List String
  | .ok found => names found
  | .error _ => []

/-- The names that an entry brings into a table. -/
def names : Entry → List String
  | .name d => namesIn (fun name => [name]) (Name.ofDatum d)
  | .word text =>
    namesIn (fun _ => tokensOf text.toList) (checkNames (tokensOf text.toList))
  | .head text => namesIn Head.names (Head.ofText text.toList)
  | .body text => namesIn Body.successor (Body.ofText text.toList)
  | .rule text => namesIn WrittenRule.entered (WrittenRule.ofText text.toList)

theorem valid_of_mem_namesIn {ε α : Type} {names : α → List String} {found : Except ε α}
    (valid : ∀ a, found = .ok a → ∀ name ∈ names a, Name.IsValid name) :
    ∀ name ∈ namesIn names found, Name.IsValid name := by
  cases found with
  | ok a => exact valid a rfl
  | error fault => simp [namesIn]

/-- Only valid names are brought into a table. -/
theorem valid_of_mem_names (entry : Entry) : ∀ name ∈ entry.names, Name.IsValid name := by
  cases entry with
  | name d =>
    refine valid_of_mem_namesIn fun name named other member => ?_
    rw [List.mem_singleton.mp member]
    exact Name.ofDatum_valid named
  | word text => exact valid_of_mem_namesIn fun _ checked => (checkNames_eq_ok_iff _).mp checked
  | head text => exact valid_of_mem_namesIn fun _ found => Head.valid_of_ofText found
  | body text => exact valid_of_mem_namesIn fun _ found => Body.valid_of_ofText found
  | rule text => exact valid_of_mem_namesIn fun _ found => WrittenRule.valid_of_ofText found

/-- A computation that enters the names in what was found, and nothing after a fault. -/
theorem state_of_found {ε α β : Type} {x : Step NameTable β} {t : NameTable}
    {names : α → List String} {found : Except ε α}
    (refused : ∀ fault, found = .error fault → (x.runFrom t).2 = t)
    (entered : ∀ a, found = .ok a → (x.runFrom t).2 = t.addAll (names a)) :
    (x.runFrom t).2 = t.addAll (namesIn names found) := by
  cases found with
  | error fault => exact refused fault rfl
  | ok a => exact entered a rfl

/-- An entry leaves a table as entering its names one after the other does. -/
theorem perform_runFrom {t : NameTable} (free : t.lock.IsFree) (entry : Entry) :
    (entry.perform.runFrom t).2 = t.addAll entry.names := by
  cases entry with
  | name d =>
    rw [perform, Step.state_of_discard]
    refine state_of_found (fun fault named => ?_) (fun name named => ?_)
    · rw [NameTable.enterDatum_runFrom_of_fault t named]
    · rw [NameTable.enterDatum_runFrom free named]
  | word text =>
    rw [perform, Step.state_of_discard]
    refine state_of_found (fun fault checked => ?_) (fun _ checked => ?_)
    · rw [NameTable.readWord_runFrom_of_fault t checked]
    · rw [NameTable.readWord_runFrom free ((checkNames_eq_ok_iff _).mp checked)]
  | head text =>
    rw [perform, Step.state_of_discard]
    refine state_of_found (fun fault found => ?_) (fun head found => ?_)
    · rw [Rule.readHead_runFrom_of_fault t found]
    · rw [Rule.readHead_runFrom free found]
  | body text =>
    rw [perform, Step.state_of_discard]
    refine state_of_found (fun fault found => ?_) (fun body found => ?_)
    · rw [Rule.readBody_runFrom_of_fault t found]
    · rw [Rule.readBody_runFrom free found]
  | rule text =>
    rw [perform, Step.state_of_discard]
    refine state_of_found (fun fault found => ?_) (fun written found => ?_)
    · rw [Rule.read_runFrom_of_fault t found]
    -- a weight below zero is found after the names were entered
    · by_cases negative : written.body.weight < 0
      · rw [Rule.read_runFrom_of_negative free found negative]
      · rw [Rule.read_runFrom free found negative]

end Entry

end GrowthGrammar

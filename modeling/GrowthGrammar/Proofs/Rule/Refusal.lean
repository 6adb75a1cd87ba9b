import GrowthGrammar.Proofs.Rule.Reading

/-!
# What a refused text leaves behind

A text can be refused as a word, a head, a body or a rule.  All that is looked at
before the first name is entered leaves the table as it was, whatever the text is.
There is one reason to refuse a text that is found later: a rule with a finite weight
below zero.  Its names are in the table by then, and stay there.

So a refused text changes the table exactly if it writes such a rule and the table has
not seen all of its names (`Vocabulary.GainsFromRefused`).  A store is never changed by
a refused text.
-/

namespace GrowthGrammar

/-- The text writes a rule with a weight below zero, and the vocabulary has not seen
every name of it. -/
def Vocabulary.GainsFromRefused (v : Vocabulary) (text : String) : Prop :=
  ∃ written, WrittenRule.ofText text.toList = .ok written ∧ written.body.weight < 0 ∧
    ∃ name ∈ written.entered, name ∉ v.names

namespace NameTable

theorem addAll_eq_self_iff (t : NameTable) (names : List String) :
    t.addAll names = t ↔ ∀ name ∈ names, name ∈ t.value.names := by
  rw [← Vocabulary.addAll_eq_self_iff]
  exact ⟨congrArg Guarded.value, fun same => by rw [addAll, same]⟩

/-- A refused word leaves the table as it was. -/
theorem eq_of_readWord_refused {t after : NameTable} (free : t.lock.IsFree) {text : String}
    {e : Error} (refused : (readWord text).runFrom t = (.error e, after)) : after = t := by
  cases checked : checkNames (tokensOf text.toList) with
  | error fault =>
    rw [readWord_runFrom_of_fault t checked] at refused
    cases refused
    rfl
  | ok _ =>
    rw [readWord_runFrom free ((checkNames_eq_ok_iff _).mp checked)] at refused
    cases refused

end NameTable

namespace Rule

/-- A refused head leaves the table as it was. -/
theorem eq_of_readHead_refused {t after : NameTable} (free : t.lock.IsFree) {text : String}
    {e : Error} (refused : (readHead text).runFrom t = (.error e, after)) : after = t := by
  cases found : Head.ofText text.toList with
  | error fault =>
    rw [readHead_runFrom_of_fault t found] at refused
    cases refused
    rfl
  | ok head =>
    rw [readHead_runFrom free found] at refused
    cases refused

/-- A refused body leaves the table as it was. -/
theorem eq_of_readBody_refused {t after : NameTable} (free : t.lock.IsFree) {text : String}
    {e : Error} (refused : (readBody text).runFrom t = (.error e, after)) : after = t := by
  cases found : Body.ofText text.toList with
  | error fault =>
    rw [readBody_runFrom_of_fault t found] at refused
    cases refused
    rfl
  | ok body =>
    rw [readBody_runFrom free found] at refused
    cases refused

/-- A refused rule was refused before any name was entered, or for a weight below zero
after all of them were. -/
theorem cases_of_read_refused {t after : NameTable} (free : t.lock.IsFree) {text : String}
    {e : Error} (refused : (read text).runFrom t = (.error e, after)) :
    after = t ∨ ∃ written, WrittenRule.ofText text.toList = .ok written ∧
      written.body.weight < 0 ∧ after = t.addAll written.entered := by
  cases found : WrittenRule.ofText text.toList with
  | error fault =>
    rw [read_runFrom_of_fault t found] at refused
    cases refused
    exact .inl rfl
  | ok written =>
    by_cases negative : written.body.weight < 0
    · rw [read_runFrom_of_negative free found negative] at refused
      cases refused
      exact .inr ⟨written, rfl, negative, rfl⟩
    · rw [read_runFrom free found negative] at refused
      cases refused

/-- A refused rule changes the table exactly if the table gains from it. -/
theorem read_refused_changes_iff {t : NameTable} (free : t.lock.IsFree) (text : String) :
    (∃ e after, (read text).runFrom t = (.error e, after) ∧ after ≠ t) ↔
      t.value.GainsFromRefused text := by
  constructor
  · rintro ⟨e, after, refused, changed⟩
    rcases cases_of_read_refused free refused with same | ⟨written, found, negative, rfl⟩
    · exact absurd same changed
    · refine ⟨written, found, negative, ?_⟩
      simpa [NameTable.addAll_eq_self_iff] using changed
  · rintro ⟨written, found, negative, name, entered, unseen⟩
    refine ⟨_, _, read_runFrom_of_negative free found negative, fun same => ?_⟩
    exact unseen ((NameTable.addAll_eq_self_iff t _).mp same name entered)

end Rule

namespace System

/-- A text that a system refuses was refused as a rule. -/
theorem read_refused_of_addText {system after : System} (tableFree : system.table.lock.IsFree)
    (storeFree : system.store.guarded.lock.IsFree) {text : String} {e : Error}
    (refused : (addText text).runFrom system = (.error e, after)) :
    (Rule.read text).runFrom system.table = (.error e, after.table) ∧
      after.store = system.store := by
  rcases run : (Rule.read text).runFrom system.table with ⟨outcome, table⟩
  cases outcome with
  | error other =>
    rw [addText_runFrom_of_refused run] at refused
    cases refused
    exact ⟨rfl, rfl⟩
  | ok r =>
    cases found : WrittenRule.ofText text.toList with
    | error fault =>
      rw [Rule.read_runFrom_of_fault _ found] at run
      cases run
    | ok written =>
      by_cases negative : written.body.weight < 0
      · rw [Rule.read_runFrom_of_negative tableFree found negative] at run
        cases run
      · rw [addText_runFrom tableFree storeFree found negative] at refused
        cases refused

end System

/-- A refused text leaves the table and the store as they were, unless it writes a rule
with a weight below zero and a name that is new to the table. -/
theorem refused_text_changes_table_iff {system : System} (tableFree : system.table.lock.IsFree)
    (storeFree : system.store.guarded.lock.IsFree) (text : String) :
    (∀ e after, (NameTable.readWord text).runFrom system.table = (.error e, after) →
      after = system.table) ∧
    (∀ e after, (Rule.readHead text).runFrom system.table = (.error e, after) →
      after = system.table) ∧
    (∀ e after, (Rule.readBody text).runFrom system.table = (.error e, after) →
      after = system.table) ∧
    ((∃ e after, (Rule.read text).runFrom system.table = (.error e, after) ∧
        after ≠ system.table) ↔
      system.table.value.GainsFromRefused text) ∧
    (∀ e after, (System.addText text).runFrom system = (.error e, after) →
      after.store = system.store) ∧
    ((∃ e after, (System.addText text).runFrom system = (.error e, after) ∧
        after.table ≠ system.table) ↔
      system.table.value.GainsFromRefused text) := by
  refine ⟨fun _ _ => NameTable.eq_of_readWord_refused tableFree,
    fun _ _ => Rule.eq_of_readHead_refused tableFree,
    fun _ _ => Rule.eq_of_readBody_refused tableFree,
    Rule.read_refused_changes_iff tableFree text,
    fun _ _ refused => (System.read_refused_of_addText tableFree storeFree refused).2, ?_⟩
  rw [← Rule.read_refused_changes_iff tableFree]
  constructor
  · rintro ⟨e, after, refused, changed⟩
    exact ⟨e, after.table, (System.read_refused_of_addText tableFree storeFree refused).1, changed⟩
  · rintro ⟨e, table, refused, changed⟩
    exact ⟨e, _, System.addText_runFrom_of_refused refused, changed⟩

/-- A rule with weight minus one is refused, and its names stay in a new table. -/
theorem refused_text_changes_table_of_negative_weight :
    (System.new .latest .forever).table.lock.IsFree ∧
    (System.new .latest .forever).store.guarded.lock.IsFree ∧
    ∃ e after, (Rule.read "X -> -1 F").runFrom (NameTable.new .forever) = (.error e, after) ∧
      after ≠ NameTable.new .forever :=
  ⟨Lock.free_isFree _ _, Lock.free_isFree _ _,
    (@refused_text_changes_table_iff (System.new .latest .forever) (Lock.free_isFree _ _)
      (Lock.free_isFree _ _) "X -> -1 F").2.2.2.1.mpr
        ⟨⟨⟨[], "X", []⟩, ⟨-1.0, ["F"]⟩⟩, by rfl, by decide, "X", by decide, by decide⟩⟩

end GrowthGrammar

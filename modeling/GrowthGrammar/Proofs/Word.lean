import GrowthGrammar.Proofs.Rule.RoundTrip
import GrowthGrammar.Proofs.System.Reached

/-!
# Words that are written and read

The text of a word has one space between its names, and reading a text enters the names that
stand between its blanks.  A name is a token, so it is cut neither by a blank that it holds nor by
the one that is written behind it, and the text of a word is cut into the names of the word
(`Word.tokensOf_text`).  A table that contains the symbols of a word gives them again for these
names and gets no new one (`NameTable.readWord_text`).

A text that is read has the names of its word as its tokens.  So written again it is the same
text but for its blanks, which have become single spaces.

Main statement: whatever a run has done, each of its tables reads the text of a word that it has
issued as this word, and a text that it reads once is read from then on as the same word in its
written form (`readWord_text_of_run`).
-/

namespace GrowthGrammar

/-! ## The text of a word -/

namespace Word

theorem toList_text (w : Word) :
    w.text.toList = [' '].intercalate (w.names.map String.toList) := by
  rw [text, String.toList_intercalate]
  rfl

/-- The text of a word is cut into its names. -/
theorem tokensOf_text {w : Word} (valid : ∀ s ∈ w, Name.IsValid s.name) :
    tokensOf w.text.toList = w.names := by
  apply tokensOf_eq
  rw [toList_text]
  cases w with
  | nil => rfl
  | cons s rest =>
    obtain ⟨here, later⟩ := List.forall_mem_cons.mp valid
    have restTokens : ∀ u ∈ (names rest).map String.toList, Text.IsToken u := by
      rw [names, List.forall_mem_map, List.forall_mem_map]
      exact fun r member => (later r member).isToken
    have cut := Text.tokens_append_spaced here.isToken restTokens Text.startsBlank_nil
    rw [List.append_nil, Text.tokens_nil, List.append_nil] at cut
    rw [names, List.map_cons, List.map_cons, Text.intercalate_cons]
    exact cut

end Word

/-! ## Reading it -/

namespace NameTable

/-- A table that contains the symbols of a word reads the text of the word as the word, and is
not changed. -/
theorem readWord_text {t : NameTable} (free : t.lock.IsFree) (sound : t.value.Sound) {w : Word}
    (issued : ∀ s ∈ w, t.value.contains s = true) :
    (readWord w.text).runFrom t = (.ok w, t) := by
  have valid : ∀ s ∈ w, Name.IsValid s.name := fun s member =>
    sound.valid_of_contains (issued s member)
  have cut := Word.tokensOf_text valid
  have names : ∀ name ∈ tokensOf w.text.toList, Name.IsValid name := by
    rw [cut]
    exact List.forall_mem_map.mpr valid
  obtain ⟨same, unchanged⟩ := sound.enter_names issued
  rw [readWord_runFrom free names, cut, same, addAll, unchanged]

theorem ok_of_readWord {t t' : NameTable} (free : t.lock.IsFree) {text : String} {w : Word}
    (run : (readWord text).runFrom t = (.ok w, t')) :
    (∀ name ∈ tokensOf text.toList, Name.IsValid name) ∧
      w = t.value.wordOf (tokensOf text.toList) ∧ t' = t.addAll (tokensOf text.toList) := by
  cases checked : checkNames (tokensOf text.toList) with
  | error fault =>
    rw [readWord_runFrom_of_fault t checked] at run
    cases run
  | ok _ =>
    have valid := (checkNames_eq_ok_iff _).mp checked
    rw [readWord_runFrom free valid] at run
    cases run
    exact ⟨valid, rfl, rfl⟩

/-- The text of a word that was read joins the pieces between the blanks of what was read. -/
theorem text_of_readWord {t t' : NameTable} (free : t.lock.IsFree) {text : String} {w : Word}
    (run : (readWord text).runFrom t = (.ok w, t')) :
    w.text.toList =
      [' '].intercalate ((text.toList.splitOnP Text.isBlank).filter (!·.isEmpty)) := by
  obtain ⟨-, rfl, -⟩ := ok_of_readWord free run
  rw [Word.toList_text, Vocabulary.names_wordOf, ← Text.tokens_eq_splitOnP, tokensOf, List.map_map]
  simp [Function.comp_def]

/-- What a text was read as is read from its own text, as long as the table only grows. -/
theorem readWord_text_of_readWord {t t' later : NameTable} (free : t.lock.IsFree) {text : String}
    {w : Word} (run : (readWord text).runFrom t = (.ok w, t')) (laterFree : later.lock.IsFree)
    (grown : later.GrownFrom t'.value) : (readWord w.text).runFrom later = (.ok w, later) := by
  obtain ⟨-, rfl, rfl⟩ := ok_of_readWord free run
  exact readWord_text laterFree grown.sound fun s member =>
    grown.extended.contains (Vocabulary.contains_of_mem_wordOf member)

end NameTable

/-- After every run, a table reads the text of a word that the run has issued from it as this
word, and is not changed.  Every text that it reads as some word is written as its pieces between
blanks with one space between them, and this is read as the same word, without a change, now and
by every table that it grows into. -/
theorem readWord_text_of_run (calls : List Call) (id : TableId) (t : NameTable)
    (found : (Workspace.empty.afterAll calls).tables[id.index]? = some t) :
    (∀ w : Word, (∀ s ∈ w, s ∈ Workspace.issuedBy id .empty calls) →
      (NameTable.readWord w.text).runFrom t = (.ok w, t)) ∧
    ∀ text w t', (NameTable.readWord text).runFrom t = (.ok w, t') →
      w.text.toList =
        [' '].intercalate ((text.toList.splitOnP Text.isBlank).filter (!·.isEmpty)) ∧
      (NameTable.readWord w.text).runFrom t' = (.ok w, t') ∧
      ∀ later : NameTable, later.lock.IsFree → later.GrownFrom t'.value →
        (NameTable.readWord w.text).runFrom later = (.ok w, later) := by
  have lawful := Workspace.empty_lawful.afterAll calls
  obtain ⟨free, sound⟩ := lawful.tables t (Array.mem_of_getElem? found)
  refine ⟨fun w issued => ?_, fun text w t' run => ⟨?_, ?_, fun later laterFree grown => ?_⟩⟩
  · exact NameTable.readWord_text free sound fun s member =>
      Workspace.contains_of_mem_issuedBy found (issued s member)
  · exact NameTable.text_of_readWord free run
  · obtain ⟨valid, -, after⟩ := NameTable.ok_of_readWord free run
    have freeAfter : t'.lock.IsFree := by rwa [after]
    have soundAfter : t'.value.Sound := by
      rw [after]
      exact sound.addAll valid
    exact NameTable.readWord_text_of_readWord free run freeAfter (.refl soundAfter)
  · exact NameTable.readWord_text_of_readWord free run laterFree grown

/-- The table that has issued some odd names reads them back from their text.  Two of them with
other blanks around them are read as a word whose text has one space. -/
theorem readWord_text_of_spread_names :
    ∃ t, (Workspace.empty.afterAll oddNamesRun).tables[0]? = some t ∧
      (NameTable.readWord "1e F >y").runFrom t =
        (.ok [⟨3, "1e"⟩, ⟨0, "F"⟩, ⟨2, ">y"⟩], t) ∧
      ∃ w t', (NameTable.readWord "\t>y\n\x1c x-").runFrom t = (.ok w, t') ∧
        w.text = ">y x-" ∧ (NameTable.readWord ">y x-").runFrom t' = (.ok w, t') := by
  have there : (Workspace.empty.afterAll oddNamesRun).tables[0]?.isSome = true := by
    decide +kernel
  obtain ⟨t, found⟩ := Option.isSome_iff_exists.mp there
  have issued : Workspace.issuedBy ⟨0⟩ .empty oddNamesRun =
      [⟨0, "F"⟩, ⟨1, "x-"⟩, ⟨2, ">y"⟩, ⟨3, "1e"⟩] := by decide +kernel
  obtain ⟨written, read⟩ := readWord_text_of_run oddNamesRun ⟨0⟩ t found
  refine ⟨t, found, written [⟨3, "1e"⟩, ⟨0, "F"⟩, ⟨2, ">y"⟩] ?_, ?_⟩
  · rw [issued]
    decide
  · have free := ((Workspace.empty_lawful.afterAll oddNamesRun).tables t
      (Array.mem_of_getElem? found)).1
    have cut : tokensOf "\t>y\n\x1c x-".toList = [">y", "x-"] := by decide +kernel
    have valid : ∀ name ∈ tokensOf "\t>y\n\x1c x-".toList, Name.IsValid name := by
      rw [cut]
      decide +kernel
    have run := NameTable.readWord_runFrom free valid
    have text : (t.value.wordOf (tokensOf "\t>y\n\x1c x-".toList)).text = ">y x-" := by
      rw [cut, Word.text, Vocabulary.names_wordOf]
      decide +kernel
    obtain ⟨-, again, -⟩ := read _ _ _ run
    rw [text] at again
    exact ⟨_, _, run, text, again⟩

end GrowthGrammar

import GrowthGrammar.Proofs.Plant.Settings
import GrowthGrammar.Proofs.Plant.Shape

/-!
# What is accepted as a plant

`Plant.Describes` says what a text that is a plant looks like: its lines with settings and with
rules can be read, one line gives an initial word of valid names, some line gives a rule, and the
last values of the settings are in their ranges.  It speaks of no order in which lines are looked
at, and of no table.

Main statement: whatever a workspace has read before, a text is accepted exactly if it describes a
sheet, and then the plant has the rules, the initial word and the settings of the sheet.  Any other
text is refused, as a text or for its settings and for no other reason (`read_ok_iff_describes`).
-/

namespace GrowthGrammar

namespace Plant

open PlantSetting

/-! ## Texts that describe a sheet -/

/-- A plant is derived and drawn as the last of some settings say, and as usual where they say
nothing, and what they say is in its range. -/
structure InForce (given : List PlantSetting) (run : Schedule) (turtle : TurtleSettings) :
    Prop where
  passes : (run.iterations : Int) =
    (last iterations? given).getD Configuration.standard.iterations
  seed : run.seed.map Nat.cast = last seed? given
  drawn : turtle =
    { TurtleSettings.standard with
      delta := (last delta? given).getD TurtleSettings.standard.delta
      stepLength := (last step? given).getD TurtleSettings.standard.stepLength }
  turn : turtle.delta.isFinite
  length : turtle.stepLength.isFinite ∧ 0 < turtle.stepLength

/-- The names are those of a word that stands on the only line for the initial word. -/
def GivesInitial (lines : List (List Char)) (names : List String) : Prop :=
  ∃ line, (contents lines).filter (fun cs => IsInitial cs) = [line] ∧
    Text.isNonBlank (remainder line) ∧ names = tokensOf (remainder line) ∧
    ∀ name ∈ names, Name.IsValid name

/-- The text is a plant, and the sheet is what it says. -/
structure Describes (text : List Char) (s : Sheet) : Prop where
  nonBlank : Text.isNonBlank text
  initial : GivesInitial (Text.lines text) s.initial
  rules : List.Forall₂ Writes (ruleLines (Text.lines text)) s.rules
  someRule : s.rules ≠ []
  settings : ∃ given, List.Forall₂ Gives (settingLines (Text.lines text)) given ∧
    InForce given s.run s.turtle

/-! ## The draft that is filled -/

theorem inForce_iff [Ruler] (given : List PlantSetting) (words : List String) (count : Nat)
    (run : Schedule) (turtle : TurtleSettings) :
    InForce given run turtle ↔ (Draft.start.fill given words count).schedule = .ok run ∧
      (Draft.start.fill given words count).turtleSettings = .ok turtle := by
  rw [Draft.schedule_eq_ok_iff, Draft.turtleSettings_eq_ok_iff]
  have passes : (Draft.start.fill given words count).iterations = _ :=
    Draft.iterations_foldl_set .start given
  have turn : (Draft.start.fill given words count).delta = _ := Draft.delta_foldl_set .start given
  have length : (Draft.start.fill given words count).step = _ := Draft.step_foldl_set .start given
  have seed : (Draft.start.fill given words count).seed = last seed? given :=
    (Draft.seed_foldl_set .start given).trans Option.or_none
  rw [passes, turn, length, seed]
  constructor
  · rintro ⟨passes, seed, rfl, turn, length⟩
    exact ⟨⟨passes, seed⟩, turn, length.1, length.2, rfl⟩
  · rintro ⟨⟨passes, seed⟩, turn, finite, positive, rfl⟩
    exact ⟨passes, seed, rfl, turn, finite, positive⟩

theorem trimmed_isEmpty_iff (cs : List Char) :
    (PlantLine.trimmed cs).isEmpty = false ↔ Text.isNonBlank cs := by
  rw [← Bool.not_eq_true, String.isEmpty_iff, PlantLine.trimmed, String.ofList_eq_empty_iff,
    Text.trim_eq_nil_iff, Bool.not_eq_false]

theorem namesWritten_eq_ok_iff (text : String) (names : List String) :
    namesWritten text = .ok names ↔
      names = tokensOf text.toList ∧ ∀ name ∈ names, Name.IsValid name := by
  rw [namesWritten, orRefused, mapError_eq_ok_iff, map_eq_ok_iff]
  constructor
  · rintro ⟨_, checked, rfl⟩
    exact ⟨rfl, (checkNames_eq_ok_iff _).mp checked⟩
  · rintro ⟨rfl, valid⟩
    exact ⟨(), (checkNames_eq_ok_iff _).mpr valid, rfl⟩

theorem sheetOf_eq_ok_iff [Ruler] (d : Draft) (rules : List WrittenRule) (s : Sheet) :
    sheetOf d rules = .ok s ↔ d.rules ≠ 0 ∧ s.rules = rules ∧
      (∃ word, d.initial = some word ∧ word.isEmpty = false ∧ namesWritten word = .ok s.initial) ∧
      d.schedule = .ok s.run ∧ d.turtleSettings = .ok s.turtle := by
  rw [sheetOf]
  cases given : d.initial with
  | none => simp
  | some word =>
    simp only
    split_ifs with noRules noWord
    · simp [noRules]
    · simp [String.isEmpty_iff.mp noWord]
    · constructor
      · intro found
        obtain ⟨initial, names, found⟩ := ok_of_except_bind found
        obtain ⟨run, schedule, found⟩ := ok_of_except_bind found
        obtain ⟨turtle, settings, found⟩ := ok_of_except_bind found
        cases found
        exact ⟨noRules, rfl, ⟨word, rfl, by simpa using noWord, names⟩, schedule, settings⟩
      · rintro ⟨-, rfl, ⟨_, ⟨⟩, -, names⟩, schedule, settings⟩
        rw [names, schedule, settings]
        rfl

/-- If no second initial word is given, it is the first one that has to be right. -/
theorem givesInitial_iff {lines : List (List Char)} (once : (wordsOf lines).length ≤ 1)
    (names : List String) :
    GivesInitial lines names ↔ ∃ word, (wordsOf lines).head? = some word ∧
      word.isEmpty = false ∧ namesWritten word = .ok names := by
  rw [wordsOf] at once ⊢
  rw [GivesInitial]
  generalize (contents lines).filter (fun cs => IsInitial cs) = found at once ⊢
  rcases found with _ | ⟨line, _ | ⟨second, more⟩⟩
  case nil => simp
  case cons.nil =>
    have tokens : tokensOf (PlantLine.trimmed (remainder line)).toList =
        tokensOf (remainder line) := by
      rw [PlantLine.trimmed, String.toList_ofList, Text.trim, tokensOf_trimEnd, tokensOf_trimStart]
    constructor
    · rintro ⟨_, ⟨⟩, nonBlank, rfl, valid⟩
      exact ⟨_, rfl, (trimmed_isEmpty_iff _).mpr nonBlank,
        (namesWritten_eq_ok_iff _ _).mpr ⟨tokens.symm, valid⟩⟩
    · rintro ⟨_, ⟨⟩, nonBlank, written⟩
      obtain ⟨rfl, valid⟩ := (namesWritten_eq_ok_iff _ _).mp written
      exact ⟨line, rfl, (trimmed_isEmpty_iff _).mp nonBlank, tokens, valid⟩
  case cons.cons => simp at once

/-- A filled draft makes the sheet that the lines give. -/
theorem sheetOf_fill_eq_ok_iff [Ruler] (given : List PlantSetting) (lines : List (List Char))
    (rules : List WrittenRule) (once : (wordsOf lines).length ≤ 1) (s : Sheet) :
    sheetOf (Draft.start.fill given (wordsOf lines) rules.length) rules = .ok s ↔
      s.rules = rules ∧ s.rules ≠ [] ∧ GivesInitial lines s.initial ∧
        InForce given s.run s.turtle := by
  have word : (Draft.start.fill given (wordsOf lines) rules.length).initial =
      (wordsOf lines).head? := rfl
  have count : (Draft.start.fill given (wordsOf lines) rules.length).rules = rules.length :=
    Nat.zero_add _
  have ruled : rules.length ≠ 0 ↔ rules ≠ [] := not_congr List.length_eq_zero_iff
  rw [sheetOf_eq_ok_iff, ← inForce_iff, word, count, ruled, givesInitial_iff once]
  constructor
  · rintro ⟨ruled, rfl, initial, inForce⟩
    exact ⟨rfl, ruled, initial, inForce⟩
  · rintro ⟨rfl, ruled, initial, inForce⟩
    exact ⟨ruled, rfl, initial, inForce⟩

/-- A text writes the sheet that it describes. -/
theorem sheet_eq_ok_iff [Ruler] (text : List Char) (s : Sheet) :
    sheet text = .ok s ↔ Describes text s := by
  rw [sheet]
  constructor
  · intro read
    split at read
    case isFalse => cases read
    case isTrue nonBlank =>
      obtain ⟨⟨d, rules⟩, filled, read⟩ := ok_of_except_bind read
      obtain ⟨given, gives, writes, once, rfl⟩ := (sheetLines_eq_ok_iff _ _ _ _ _).mp filled
      obtain ⟨rfl, ruled, initial, inForce⟩ := (sheetOf_fill_eq_ok_iff _ _ _ once s).mp read
      exact ⟨nonBlank, initial, writes, ruled, given, gives, inForce⟩
  · rintro ⟨nonBlank, initial, writes, ruled, given, gives, inForce⟩
    have once : (wordsOf (Text.lines text)).length ≤ 1 := by
      obtain ⟨line, only, -⟩ := initial
      rw [wordsOf, only]
      exact le_refl 1
    have filled := (sheetLines_eq_ok_iff 1 .start _ _ _).mpr ⟨given, gives, writes, once, rfl⟩
    rw [if_pos nonBlank, filled]
    exact (sheetOf_fill_eq_ok_iff _ _ _ once s).mpr ⟨rfl, ruled, initial, inForce⟩

-- Neither the equals signs of the initial word and of the rule nor the first value of `n` count.
example : ∃ s, Describes "n = -1 # later\ninitial: F = F # n = 3\nF -> F =\nn = 2".toList s ∧
    s.initial = ["F", "=", "F"] ∧ s.run = ⟨2, none⟩ :=
  ⟨_, (sheet_eq_ok_iff _ _).mp rfl, rfl, rfl⟩

/-! ## Errors -/

/-- The error says that a text is refused, or that settings are. -/
def IsRefusal (e : Error) : Prop := e.kind = .parsing ∨ e.kind = .invalidSettings

/-- Nothing but a refusal is an error of the outcome. -/
def OnlyRefused {α : Type} (outcome : Except Error α) : Prop :=
  ∀ e, outcome = .error e → IsRefusal e

section Outcomes

variable {α β : Type}

theorem OnlyRefused.ok (a : α) : OnlyRefused (.ok a) := nofun

theorem OnlyRefused.parse (fault : ParseFault) :
    OnlyRefused (.error (.parse fault) : Except Error α) := by
  rintro e ⟨⟩
  exact .inl rfl

theorem OnlyRefused.settings (fault : SettingsFault) :
    OnlyRefused (.error (.settings fault) : Except Error α) := by
  rintro e ⟨⟩
  exact .inr rfl

theorem OnlyRefused.map {outcome : Except Error α} (only : OnlyRefused outcome) (f : α → β) :
    OnlyRefused (outcome.map f) := by
  cases outcome with
  | ok a => exact .ok (f a)
  | error e =>
    rintro _ ⟨⟩
    exact only e rfl

theorem OnlyRefused.bind {outcome : Except Error α} (first : OnlyRefused outcome)
    {f : α → Except Error β} (later : ∀ a, OnlyRefused (f a)) : OnlyRefused (outcome >>= f) := by
  cases outcome with
  | ok a => exact later a
  | error e =>
    rintro _ ⟨⟩
    exact first e rfl

theorem OnlyRefused.atLine {outcome : Except Error α} (only : OnlyRefused outcome) (number : Nat) :
    OnlyRefused (outcome.mapError (atLine number)) := by
  cases outcome with
  | ok a => exact .ok a
  | error e =>
    have refused := only e rfl
    rintro _ ⟨⟩
    -- The number of the line does not change the kind of the error.
    cases e <;> exact refused

theorem OnlyRefused.issues (outcome : Settings.Checked α) (subject : String) :
    OnlyRefused (outcome.mapError fun issues => Error.settings (.fields subject issues)) := by
  cases outcome with
  | ok a => exact .ok a
  | error issues => exact .settings _

theorem onlyRefused_orRefused (written : Except WrittenFault α) :
    OnlyRefused (orRefused written) := by
  cases written with
  | ok a => exact .ok a
  | error fault => exact .parse _

end Outcomes

theorem onlyRefused_admitted (text : String) : OnlyRefused (WrittenRule.admitted text) := by
  refine (onlyRefused_orRefused _).bind fun written => OnlyRefused.map ?_ _
  rw [Rule.checkWeight]
  split
  · exact .settings _
  · exact .ok _

theorem onlyRefused_sheetLine (d : Draft) (line : PlantLine) : OnlyRefused (sheetLine d line) := by
  cases line with
  | blank => exact .ok _
  | initial word =>
    rw [sheetLine]
    cases d.initial with
    | none => exact .ok _
    | some first => exact .parse _
  | setting key value =>
    rw [sheetLine]
    cases PlantSetting.read key value with
    | ok setting => exact .ok _
    | error fault => exact .parse _
  | rule text => exact (onlyRefused_admitted text).map _

theorem onlyRefused_sheetLines (number : Nat) (d : Draft) (lines : List (List Char)) :
    OnlyRefused (sheetLines number d lines) := by
  induction lines generalizing number d with
  | nil => exact .ok _
  | cons line rest ih =>
    refine ((onlyRefused_sheetLine d _).atLine number).bind fun first => ?_
    exact (ih (number + 1) first.1).bind fun _ => .ok _

theorem onlyRefused_sheetOf [Ruler] (d : Draft) (rules : List WrittenRule) :
    OnlyRefused (sheetOf d rules) := by
  rw [sheetOf]
  cases d.initial with
  | none => exact .parse _
  | some word =>
    simp only
    split_ifs
    · exact .parse _
    · exact .parse _
    · refine (onlyRefused_orRefused _).bind fun initial => OnlyRefused.bind ?_ fun run =>
        OnlyRefused.bind ?_ fun turtle => .ok _
      · exact .issues _ _
      · exact .issues _ _

theorem onlyRefused_sheet [Ruler] (text : List Char) : OnlyRefused (sheet text) := by
  rw [sheet]
  split
  · exact (onlyRefused_sheetLines _ _ _).bind fun filled => onlyRefused_sheetOf filled.1 filled.2
  · exact .parse _

/-! ## Reading in a workspace -/

/-- The plant has, in its workspace, the rules of the sheet in their order, and its initial word and
settings. -/
structure Shows (p : Plant) (ws : Workspace) (s : Sheet) : Prop where
  rules : ∃ rules, (p.rules.runFrom ws).1 = .ok (RuleSet.ofList rules).toList ∧
    rules.map Rule.written = s.rules
  initial : p.initial.names = s.initial
  run : p.run = s.run
  turtle : p.turtle = s.turtle

theorem Follows.shows {p : Plant} {ws : Workspace} {s : Sheet} (follows : p.Follows ws s) :
    p.Shows ws s := by
  obtain ⟨⟨table, system, rules, hosts, ready, written, -⟩, initial, run, turtle⟩ := follows
  refine ⟨⟨rules, ?_, written⟩, initial, run, turtle⟩
  rw [Plant.rules, hosts.onSystem_runFrom, ready.toList_runFrom]

/-- Whatever texts have been read before, a text gives a plant exactly if it describes a sheet.  The
plant shows this sheet.  Every other text is refused for what it says or for its settings. -/
theorem read_ok_iff_describes [Ruler] (history : List (List Char)) (text : List Char) :
    ((∃ p after, (read text).runFrom (afterReading history) = (.ok p, after)) ↔
        ∃ s, Describes text s) ∧
      (∀ s, Describes text s → ∃ p after,
        (read text).runFrom (afterReading history) = (.ok p, after) ∧ p.Shows after s) ∧
      ∀ e after, (read text).runFrom (afterReading history) = (.error e, after) →
        e.kind = .parsing ∨ e.kind = .invalidSettings := by
  rcases run : (read text).runFrom (afterReading history) with ⟨outcome, now⟩
  obtain ⟨-, outcomes⟩ := (serves_afterReading history).read text run
  generalize found : sheet text = outcome' at outcomes
  cases outcomes with
  | @error e e' same =>
    obtain rfl := same
    have nothing : ∀ s, ¬ Describes text s := by
      intro s describes
      rw [(sheet_eq_ok_iff text s).mpr describes] at found
      cases found
    refine ⟨iff_of_false nofun (not_exists.mpr nothing), fun s describes =>
      absurd describes (nothing s), ?_⟩
    rintro _ _ ⟨⟩
    exact onlyRefused_sheet text e found
  | @ok p s follows =>
    have describes := (sheet_eq_ok_iff text s).mp found
    refine ⟨iff_of_true ⟨p, now, rfl⟩ ⟨s, describes⟩, fun other described => ?_, nofun⟩
    have same := (sheet_eq_ok_iff text other).mpr described
    rw [found] at same
    cases same
    exact ⟨p, now, rfl, follows.shows⟩

end Plant

end GrowthGrammar

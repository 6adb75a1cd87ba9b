import GrowthGrammar.Proofs.Plant.Sheet
import GrowthGrammar.Proofs.Rule.Grammar
import Mathlib.Data.List.Forall2

/-!
# The shape of the lines of a plant

The contents of the lines of a plant fall into three kinds, by what they begin with and what they
hold (`IsInitial`, `IsSetting`, `IsRule`).  For the lines of a kind it does not matter which lines
of the other kinds stand between them: the settings are read from the lines with settings
(`Gives`), and the rules from the lines with rules (`Writes`).

Main statement: the lines are read exactly if each of them is read by itself and no second one gives
an initial word, and what they leave is the draft filled with what they give, kind by kind
(`sheetLines_eq_ok_iff`).
-/

namespace GrowthGrammar

namespace Plant

/-! ## Kinds of lines -/

/-- The contents of those lines that have any. -/
def contents (lines : List (List Char)) : List (List Char) :=
  (lines.map PlantLine.content).filter fun cs => !cs.isEmpty

/-- The line gives the initial word. -/
def IsInitial (cs : List Char) : Prop := PlantLine.initialMark <+: cs

/-- The line gives a setting. -/
def IsSetting (cs : List Char) : Prop := ¬ IsInitial cs ∧ '=' ∈ cs ∧ ¬ ['-', '>'] <:+: cs

/-- The line gives a rule. -/
def IsRule (cs : List Char) : Prop := ¬ IsInitial cs ∧ ¬ ('=' ∈ cs ∧ ¬ ['-', '>'] <:+: cs)

instance : DecidablePred IsInitial := fun cs =>
  inferInstanceAs (Decidable (PlantLine.initialMark <+: cs))

instance : DecidablePred IsSetting := fun cs =>
  inferInstanceAs (Decidable (¬ IsInitial cs ∧ '=' ∈ cs ∧ ¬ ['-', '>'] <:+: cs))

instance : DecidablePred IsRule := fun cs =>
  inferInstanceAs (Decidable (¬ IsInitial cs ∧ ¬ ('=' ∈ cs ∧ ¬ ['-', '>'] <:+: cs)))

/-- What stands behind the mark of an initial word. -/
def remainder (cs : List Char) : List Char := cs.drop PlantLine.initialMark.length

/-- What stands before the first equals sign. -/
def keyOf (cs : List Char) : String := PlantLine.trimmed (cs.takeWhile (· != '='))

/-- What stands behind the first equals sign. -/
def valueOf (cs : List Char) : String := PlantLine.trimmed ((cs.dropWhile (· != '=')).drop 1)

theorem ofContent_of_isInitial {cs : List Char} (initial : IsInitial cs) :
    PlantLine.ofContent cs = .initial (PlantLine.trimmed (remainder cs)) := by
  have nonempty : cs ≠ [] := by
    rintro rfl
    cases List.prefix_nil.mp initial
  have marked : PlantLine.initialMark.isPrefixOf cs = true := List.isPrefixOf_iff_prefix.mpr initial
  simp [PlantLine.ofContent, nonempty, marked, remainder]

theorem ofContent_of_isSetting {cs : List Char} (setting : IsSetting cs) :
    PlantLine.ofContent cs = .setting (keyOf cs) (valueOf cs) := by
  obtain ⟨notInitial, equals, noArrow⟩ := setting
  have nonempty : cs ≠ [] := by
    rintro rfl
    cases equals
  have unmarked : ¬ PlantLine.initialMark.isPrefixOf cs = true :=
    fun marked => notInitial (List.isPrefixOf_iff_prefix.mp marked)
  have uncut := (Name.splitArrow_eq_none_iff cs).mpr noArrow
  simp [PlantLine.ofContent, nonempty, unmarked, PlantLine.splitEquals, equals, uncut, keyOf,
    valueOf]

theorem ofContent_of_isRule {cs : List Char} (nonempty : cs ≠ []) (rule : IsRule cs) :
    PlantLine.ofContent cs = .rule (String.ofList cs) := by
  obtain ⟨notInitial, notSetting⟩ := rule
  have unmarked : ¬ PlantLine.initialMark.isPrefixOf cs = true :=
    fun marked => notInitial (List.isPrefixOf_iff_prefix.mp marked)
  rw [PlantLine.ofContent, if_neg (by simpa using nonempty), if_neg unmarked]
  split
  · rename_i key value equals noArrow
    refine absurd ⟨?_, (Name.splitArrow_eq_none_iff cs).mp noArrow⟩ notSetting
    rw [PlantLine.splitEquals] at equals
    split at equals
    case isTrue holds => simpa using holds
    case isFalse => cases equals
  · rfl

/-! ## What lines give -/

theorem exists_mem_of_forall₂ {α β : Type} {R : α → β → Prop} {as : List α} {bs : List β}
    (related : List.Forall₂ R as bs) {b : β} (member : b ∈ bs) : ∃ a ∈ as, R a b := by
  induction related with
  | nil => cases member
  | cons here _ ih =>
    rcases List.mem_cons.mp member with rfl | later
    · exact ⟨_, List.mem_cons_self, here⟩
    · obtain ⟨a, inside, there⟩ := ih later
      exact ⟨a, List.mem_cons_of_mem _ inside, there⟩

/-- The setting on a line. -/
inductive Gives : List Char → PlantSetting → Prop
  | iterations {cs : List Char} {n : Int} : keyOf cs ∈ ["n", "N"] →
    Decimal.readInt (valueOf cs).toList = some n → Gives cs (.iterations n)
  | delta {cs : List Char} {x : Float} : keyOf cs ∈ ["d", "D", "delta"] →
    Decimal.readReal (valueOf cs).toList = some x → Gives cs (.delta x)
  | step {cs : List Char} {x : Float} : keyOf cs = "step" →
    Decimal.readReal (valueOf cs).toList = some x → Gives cs (.step x)
  | seed {cs : List Char} {n : Int} : keyOf cs = "seed" →
    Decimal.readInt (valueOf cs).toList = some n → Gives cs (.seed n)

/-- Every free table reads the line as the rule. -/
def Writes (cs : List Char) (written : WrittenRule) : Prop :=
  ∀ t : NameTable, t.lock.IsFree → ∃ r after,
    (Rule.read (String.ofList cs)).runFrom t = (.ok r, after) ∧ r.written = written

theorem wholeOf_eq_ok_iff (key value : String) (n : Int) :
    PlantSetting.wholeOf key value = .ok n ↔ Decimal.readInt value.toList = some n := by
  rw [PlantSetting.wholeOf]
  cases Decimal.readInt value.toList <;> simp

theorem numberOf_eq_ok_iff (key value : String) (x : Float) :
    PlantSetting.numberOf key value = .ok x ↔ Decimal.readReal value.toList = some x := by
  rw [PlantSetting.numberOf]
  cases Decimal.readReal value.toList <;> simp

/-- The setting on a line is the one that is read from its key and its value. -/
theorem gives_iff (cs : List Char) (s : PlantSetting) :
    Gives cs s ↔ PlantSetting.read (keyOf cs) (valueOf cs) = .ok s := by
  constructor
  · intro gives
    cases gives with
    | iterations key value =>
      have read := (wholeOf_eq_ok_iff (keyOf cs) _ _).mpr value
      rw [PlantSetting.read, if_pos (by simpa using key), read]
      rfl
    | delta key value =>
      have read := (numberOf_eq_ok_iff (keyOf cs) _ _).mpr value
      have other : ¬ (keyOf cs == "n" || keyOf cs == "N") = true := by
        simp only [List.mem_cons, List.not_mem_nil, or_false] at key
        rcases key with key | key | key <;> rw [key] <;> decide
      rw [PlantSetting.read, if_neg other, if_pos (by simpa [or_assoc] using key), read]
      rfl
    | step key value =>
      have read := (numberOf_eq_ok_iff (keyOf cs) _ _).mpr value
      simp only [PlantSetting.read, key] at read ⊢
      simp [read, Except.map]
    | seed key value =>
      have read := (wholeOf_eq_ok_iff (keyOf cs) _ _).mpr value
      simp only [PlantSetting.read, key] at read ⊢
      simp [read, Except.map]
  · intro found
    rw [PlantSetting.read] at found
    split_ifs at found with count turn length start <;>
      obtain ⟨a, read, rfl⟩ := map_eq_ok_iff.mp found
    · exact .iterations (by simpa using count) ((wholeOf_eq_ok_iff _ _ _).mp read)
    · exact .delta (by simpa [or_assoc] using turn) ((numberOf_eq_ok_iff _ _ _).mp read)
    · exact .step (by simpa using length) ((numberOf_eq_ok_iff _ _ _).mp read)
    · exact .seed (by simpa using start) ((wholeOf_eq_ok_iff _ _ _).mp read)

/-! ## Reading one line -/

section Line

variable {d d' : Draft} {line : List Char} {here : List WrittenRule}

theorem sheetLine_eq_ok_iff_of_blank (blank : PlantLine.content line = []) :
    sheetLine d (PlantLine.ofText line) = .ok (d', here) ↔ d' = d ∧ here = [] := by
  rw [PlantLine.ofText, blank]
  show Except.ok (d, []) = Except.ok (d', here) ↔ _
  rw [Except.ok.injEq, Prod.mk.injEq]
  exact and_congr eq_comm eq_comm

theorem sheetLine_eq_ok_iff_of_initial (initial : IsInitial (PlantLine.content line)) :
    sheetLine d (PlantLine.ofText line) = .ok (d', here) ↔ d.initial = none ∧
      d' = { d with initial := PlantLine.trimmed (remainder (PlantLine.content line)) } ∧
      here = [] := by
  rw [PlantLine.ofText, ofContent_of_isInitial initial, sheetLine]
  cases d.initial with
  | some first => simp
  | none =>
    simp only [Except.ok.injEq, Prod.mk.injEq, true_and]
    exact and_congr eq_comm eq_comm

theorem sheetLine_eq_ok_iff_of_setting (setting : IsSetting (PlantLine.content line)) :
    sheetLine d (PlantLine.ofText line) = .ok (d', here) ↔
      ∃ s, Gives (PlantLine.content line) s ∧ d' = d.set s ∧ here = [] := by
  simp only [gives_iff]
  rw [PlantLine.ofText, ofContent_of_isSetting setting, sheetLine]
  cases PlantSetting.read _ _ with
  | error fault => simp
  | ok s =>
    simp only [Except.ok.injEq, Prod.mk.injEq, exists_eq_left']
    exact and_congr eq_comm eq_comm

theorem sheetLine_eq_ok_iff_of_rule (nonempty : PlantLine.content line ≠ [])
    (rule : IsRule (PlantLine.content line)) :
    sheetLine d (PlantLine.ofText line) = .ok (d', here) ↔
      ∃ written, Writes (PlantLine.content line) written ∧ d' = { d with rules := d.rules + 1 } ∧
        here = [written] := by
  simp only [Writes, ← WrittenRule.admitted_eq_ok_iff]
  rw [PlantLine.ofText, ofContent_of_isRule nonempty rule, sheetLine, map_eq_ok_iff]
  refine exists_congr fun written => and_congr_right fun _ => ?_
  rw [Prod.mk.injEq]
  exact and_congr eq_comm eq_comm

end Line

/-! ## Reading the lines -/

/-- The initial words that some lines give. -/
def wordsOf (lines : List (List Char)) : List String :=
  ((contents lines).filter fun cs => IsInitial cs).map fun cs => PlantLine.trimmed (remainder cs)

/-- The lines that give settings. -/
def settingLines (lines : List (List Char)) : List (List Char) :=
  (contents lines).filter fun cs => IsSetting cs

/-- The lines that give rules. -/
def ruleLines (lines : List (List Char)) : List (List Char) :=
  (contents lines).filter fun cs => IsRule cs

/-- The draft with some settings, initial words and a number of rules more. -/
def Draft.fill (d : Draft) (given : List PlantSetting) (words : List String) (count : Nat) :
    Draft :=
  { given.foldl Draft.set d with
    initial := (d.initial.toList ++ words).head?
    rules := d.rules + count }

/-- The draft is filled with what the lines give, and no second initial word is among it. -/
def Filled (d : Draft) (lines : List (List Char)) (filled : Draft) (rules : List WrittenRule) :
    Prop :=
  ∃ given, List.Forall₂ Gives (settingLines lines) given ∧
    List.Forall₂ Writes (ruleLines lines) rules ∧
    (d.initial.toList ++ wordsOf lines).length ≤ 1 ∧
    filled = d.fill given (wordsOf lines) rules.length

theorem contents_cons (line : List Char) (rest : List (List Char)) :
    contents (line :: rest) =
      if PlantLine.content line = [] then contents rest
      else PlantLine.content line :: contents rest := by
  by_cases empty : PlantLine.content line = [] <;> simp [contents, empty]

section Kinds

variable {line : List Char} (rest : List (List Char))

theorem kinds_cons_of_blank (blank : PlantLine.content line = []) :
    wordsOf (line :: rest) = wordsOf rest ∧ settingLines (line :: rest) = settingLines rest ∧
      ruleLines (line :: rest) = ruleLines rest := by
  simp [wordsOf, settingLines, ruleLines, contents_cons, blank]

theorem kinds_cons_of_initial (nonempty : PlantLine.content line ≠ [])
    (initial : IsInitial (PlantLine.content line)) :
    wordsOf (line :: rest) =
        PlantLine.trimmed (remainder (PlantLine.content line)) :: wordsOf rest ∧
      settingLines (line :: rest) = settingLines rest ∧
      ruleLines (line :: rest) = ruleLines rest := by
  simp [wordsOf, settingLines, ruleLines, contents_cons, nonempty, initial, IsSetting, IsRule]

theorem kinds_cons_of_setting (setting : IsSetting (PlantLine.content line)) :
    wordsOf (line :: rest) = wordsOf rest ∧
      settingLines (line :: rest) = PlantLine.content line :: settingLines rest ∧
      ruleLines (line :: rest) = ruleLines rest := by
  have nonempty : PlantLine.content line ≠ [] := by
    intro empty
    rw [empty] at setting
    exact absurd setting (by decide)
  have other : ¬ IsRule (PlantLine.content line) := fun rule => rule.2 setting.2
  simp [wordsOf, settingLines, ruleLines, contents_cons, nonempty, setting.1, setting, other]

theorem kinds_cons_of_rule (nonempty : PlantLine.content line ≠ [])
    (rule : IsRule (PlantLine.content line)) :
    wordsOf (line :: rest) = wordsOf rest ∧ settingLines (line :: rest) = settingLines rest ∧
      ruleLines (line :: rest) = PlantLine.content line :: ruleLines rest := by
  have other : ¬ IsSetting (PlantLine.content line) := fun setting => rule.2 setting.2
  simp [wordsOf, settingLines, ruleLines, contents_cons, nonempty, rule.1, rule, other]

end Kinds

theorem filled_cons_of_blank {d filled : Draft} {line : List Char} {rest : List (List Char)}
    {rules : List WrittenRule} (blank : PlantLine.content line = []) :
    Filled d (line :: rest) filled rules ↔ Filled d rest filled rules := by
  obtain ⟨words, settings, ruled⟩ := kinds_cons_of_blank rest blank
  rw [Filled, Filled, words, settings, ruled]

theorem foldl_set_with (d : Draft) (given : List PlantSetting) (initial : Option String)
    (rules : Nat) :
    given.foldl Draft.set { d with initial := initial, rules := rules } =
      { given.foldl Draft.set d with initial := initial, rules := rules } := by
  induction given generalizing d with
  | nil => rfl
  | cons s rest ih =>
    rw [List.foldl_cons, List.foldl_cons, ← ih (d.set s)]
    cases s <;> rfl

theorem Draft.fill_initial {d : Draft} (none : d.initial = none) (given : List PlantSetting)
    (word : String) (words : List String) (count : Nat) :
    d.fill given (word :: words) count =
      Draft.fill { d with initial := word } given words count := by
  have same := foldl_set_with d given (some word) d.rules
  simp only [Draft.fill, none]
  rw [same]
  rfl

theorem Draft.fill_set (d : Draft) (s : PlantSetting) (given : List PlantSetting)
    (words : List String) (count : Nat) :
    d.fill (s :: given) words count = (d.set s).fill given words count := by
  cases s <;> rfl

theorem Draft.fill_rule (d : Draft) (given : List PlantSetting) (words : List String)
    (count : Nat) :
    d.fill given words (count + 1) =
      Draft.fill { d with rules := d.rules + 1 } given words count := by
  have same := foldl_set_with d given d.initial (d.rules + 1)
  have total : d.rules + (count + 1) = d.rules + 1 + count := by omega
  simp only [Draft.fill, total]
  rw [same]

section Cons

variable {d filled : Draft} {line : List Char} {rest : List (List Char)} {rules : List WrittenRule}

theorem filled_cons_of_initial (nonempty : PlantLine.content line ≠ [])
    (initial : IsInitial (PlantLine.content line)) :
    Filled d (line :: rest) filled rules ↔ d.initial = none ∧
      Filled { d with initial := PlantLine.trimmed (remainder (PlantLine.content line)) } rest
        filled rules := by
  obtain ⟨words, settings, ruled⟩ := kinds_cons_of_initial rest nonempty initial
  rw [Filled, Filled, words, settings, ruled]
  cases given : d.initial with
  | none =>
    simp only [true_and, Option.toList_none, List.nil_append, Option.toList_some, List.cons_append,
      Draft.fill_initial given]
  | some first => simp

theorem filled_cons_of_setting (setting : IsSetting (PlantLine.content line)) :
    Filled d (line :: rest) filled rules ↔
      ∃ s, Gives (PlantLine.content line) s ∧ Filled (d.set s) rest filled rules := by
  obtain ⟨words, settings, ruled⟩ := kinds_cons_of_setting rest setting
  have initial (s : PlantSetting) : (d.set s).initial = d.initial := by cases s <;> rfl
  rw [Filled, words, settings, ruled]
  constructor
  · rintro ⟨_, gives, writes, once, rfl⟩
    obtain ⟨s, given, here, later, rfl⟩ := List.forall₂_cons_left_iff.mp gives
    exact ⟨s, here, given, later, writes, by rwa [initial], d.fill_set s given _ _⟩
  · rintro ⟨s, here, given, later, writes, once, rfl⟩
    rw [initial] at once
    exact ⟨s :: given, .cons here later, writes, once, (d.fill_set s given _ _).symm⟩

theorem filled_cons_of_rule (nonempty : PlantLine.content line ≠ [])
    (rule : IsRule (PlantLine.content line)) :
    Filled d (line :: rest) filled rules ↔ ∃ written later, rules = written :: later ∧
      Writes (PlantLine.content line) written ∧
      Filled { d with rules := d.rules + 1 } rest filled later := by
  obtain ⟨words, settings, ruled⟩ := kinds_cons_of_rule rest nonempty rule
  rw [Filled, words, settings, ruled]
  constructor
  · rintro ⟨given, gives, writes, once, rfl⟩
    obtain ⟨written, later, here, others, rfl⟩ := List.forall₂_cons_left_iff.mp writes
    exact ⟨written, later, rfl, here, given, gives, others, once, d.fill_rule given _ _⟩
  · rintro ⟨written, later, rfl, here, given, gives, others, once, rfl⟩
    exact ⟨given, gives, .cons here others, once, (d.fill_rule given _ _).symm⟩

end Cons

theorem Draft.fill_nothing (d : Draft) : d.fill [] [] 0 = d := by
  obtain ⟨iterations, delta, step, seed, initial, rules⟩ := d
  cases initial <;> rfl

theorem filled_nil {d filled : Draft} {rules : List WrittenRule} :
    Filled d [] filled rules ↔ filled = d ∧ rules = [] := by
  have once : d.initial.toList.length ≤ 1 := by cases d.initial <;> simp
  have none : contents [] = [] := rfl
  simp only [Filled, wordsOf, settingLines, ruleLines, none, List.filter_nil, List.map_nil,
    List.forall₂_nil_left_iff, List.append_nil]
  constructor
  · rintro ⟨given, rfl, rfl, -, rfl⟩
    exact ⟨d.fill_nothing, rfl⟩
  · rintro ⟨rfl, rfl⟩
    exact ⟨[], rfl, rfl, once, filled.fill_nothing.symm⟩

theorem sheetLines_cons_eq_ok_iff (number : Nat) (d filled : Draft) (line : List Char)
    (rest : List (List Char)) (rules : List WrittenRule) :
    sheetLines number d (line :: rest) = .ok (filled, rules) ↔
      ∃ d' here later, sheetLine d (PlantLine.ofText line) = .ok (d', here) ∧
        sheetLines (number + 1) d' rest = .ok (filled, later) ∧ rules = here ++ later := by
  rw [sheetLines]
  constructor
  · intro read
    obtain ⟨⟨d', here⟩, first, read⟩ := ok_of_except_bind read
    obtain ⟨⟨last, later⟩, others, read⟩ := ok_of_except_bind read
    cases read
    exact ⟨d', here, later, mapError_eq_ok_iff.mp first, others, rfl⟩
  · rintro ⟨d', here, later, first, others, rfl⟩
    simp only [first, others, Except.mapError, bind, Except.bind]
    rfl

/-- Lines are read if each is of the shape of its kind and at most one of them gives an initial
word, and then the draft is filled with what they give. -/
theorem sheetLines_eq_ok_iff (number : Nat) (d : Draft) (lines : List (List Char)) (filled : Draft)
    (rules : List WrittenRule) :
    sheetLines number d lines = .ok (filled, rules) ↔ Filled d lines filled rules := by
  -- Each line changes the draft that the others start with, or takes the first of the rules.
  induction lines generalizing number d rules with
  | nil =>
    rw [filled_nil, sheetLines, Except.ok.injEq, Prod.mk.injEq]
    exact and_congr eq_comm eq_comm
  | cons line rest ih =>
    simp only [sheetLines_cons_eq_ok_iff, ih]
    by_cases empty : PlantLine.content line = []
    · rw [filled_cons_of_blank empty]
      simp only [sheetLine_eq_ok_iff_of_blank empty]
      constructor
      · rintro ⟨_, _, later, ⟨rfl, rfl⟩, others, rfl⟩
        exact others
      · intro others
        exact ⟨d, [], rules, ⟨rfl, rfl⟩, others, rfl⟩
    by_cases initial : IsInitial (PlantLine.content line)
    · rw [filled_cons_of_initial empty initial]
      simp only [sheetLine_eq_ok_iff_of_initial initial]
      constructor
      · rintro ⟨_, _, later, ⟨none, rfl, rfl⟩, others, rfl⟩
        exact ⟨none, others⟩
      · rintro ⟨none, others⟩
        exact ⟨_, [], rules, ⟨none, rfl, rfl⟩, others, rfl⟩
    by_cases setting : IsSetting (PlantLine.content line)
    · rw [filled_cons_of_setting setting]
      simp only [sheetLine_eq_ok_iff_of_setting setting]
      constructor
      · rintro ⟨_, _, later, ⟨s, given, rfl, rfl⟩, others, rfl⟩
        exact ⟨s, given, others⟩
      · rintro ⟨s, given, others⟩
        exact ⟨_, [], rules, ⟨s, given, rfl, rfl⟩, others, rfl⟩
    · have rule : IsRule (PlantLine.content line) :=
        ⟨initial, fun other => setting ⟨initial, other⟩⟩
      rw [filled_cons_of_rule empty rule]
      simp only [sheetLine_eq_ok_iff_of_rule empty rule]
      constructor
      · rintro ⟨_, _, later, ⟨written, given, rfl, rfl⟩, others, rfl⟩
        exact ⟨written, later, rfl, given, others⟩
      · rintro ⟨written, later, rfl, given, others⟩
        exact ⟨_, [written], later, ⟨written, given, rfl, rfl⟩, others, rfl⟩

end Plant

end GrowthGrammar

import GrowthGrammar.Proofs.Decimal.RoundTrip
import GrowthGrammar.Proofs.Name
import GrowthGrammar.Proofs.Rule.Reading
import GrowthGrammar.Proofs.Workspace.Run

/-!
# Rules that are written and read

A rule is written as its names, with the marks of its contexts, the arrow and a weight
other than one between them.  Main statement: a table that has issued the symbols of a
rule reads the text of the rule as the same rule, and is not changed
(`read_text_of_issued`).

Nothing that is written can be taken for something else.  Names are no marks, so the head
is cut at its own marks (`Head.ofTokens_tokens`).  They are no numbers, so a body without
a weight starts with none (`Body.ofTokens_tokens`).  No token of the head holds an arrow,
and a blank follows each, so the first arrow of the text is the one between the head and
the body (`WrittenRule.ofText_text`).
-/

namespace GrowthGrammar

/-! ## Heads -/

namespace Head

/-- The tokens of a head. -/
def tokens (head : Head) : List String :=
  (if head.left.isEmpty then [] else head.left ++ [Name.leftMark])
    ++ head.predecessor :: (if head.right.isEmpty then [] else Name.rightMark :: head.right)

theorem cutAt_eq_none {mark : String} {ts : List String} (absent : mark ∉ ts) :
    cutAt mark ts = none := by
  induction ts with
  | nil => rfl
  | cons t ts ih =>
    obtain ⟨different, later⟩ := not_or.mp (List.mem_cons.not.mp absent)
    rw [cutAt, if_neg (by simpa using Ne.symm different), ih later]
    rfl

theorem cutAt_append {mark : String} {before : List String} (absent : mark ∉ before)
    (after : List String) : cutAt mark (before ++ mark :: after) = some (before, after) := by
  induction before with
  | nil => simp [cutAt]
  | cons t ts ih =>
    obtain ⟨different, later⟩ := not_or.mp (List.mem_cons.not.mp absent)
    rw [List.cons_append, cutAt, if_neg (by simpa using Ne.symm different), ih later]
    rfl

/-- The left context is cut off at its mark. -/
theorem cutLeft_eq_ok {left rest : List String} (shown : String) (inLeft : Name.leftMark ∉ left)
    (inRest : Name.leftMark ∉ rest) :
    cutLeft shown ((if left.isEmpty then [] else left ++ [Name.leftMark]) ++ rest) =
      .ok (left, rest) := by
  cases left with
  | nil => simp [cutLeft, cutAt_eq_none inRest]
  | cons t ts =>
    have cut := cutAt_append inLeft rest
    simp only [List.isEmpty_cons, Bool.false_eq_true, if_false, List.append_assoc,
      List.singleton_append, cutLeft, cut]

/-- The right context is cut off at its mark. -/
theorem cutRight_eq_ok {predecessor : String} (shown : String)
    (different : Name.rightMark ≠ predecessor) (right : List String) :
    cutRight shown (predecessor :: (if right.isEmpty then [] else Name.rightMark :: right)) =
      .ok ([predecessor], right) := by
  have absent : Name.rightMark ∉ [predecessor] := by simpa using different
  cases right with
  | nil => simp [cutRight, cutAt_eq_none absent]
  | cons t ts =>
    have cut := cutAt_append absent (t :: ts)
    rw [List.singleton_append] at cut
    simp only [List.isEmpty_cons, Bool.false_eq_true, if_false, cutRight, cut]

/-- A mark that is no name occurs at most once among the tokens of a head. -/
theorem count_tokens_le {head : Head} {mark : String} (absent : mark ∉ head.names) :
    head.tokens.count mark ≤ 1 := by
  have different : Name.leftMark ≠ Name.rightMark := by decide
  obtain ⟨left, predecessor, right⟩ := head
  simp only [names, List.mem_append, List.mem_cons, not_or] at absent
  obtain ⟨inLeft, notPredecessor, inRight⟩ := absent
  have leftCount : (if left.isEmpty then [] else left ++ [Name.leftMark]).count mark ≤
      if Name.leftMark = mark then 1 else 0 := by
    split <;> simp [List.count_eq_zero_of_not_mem inLeft, List.count_singleton]
  have rightCount : (if right.isEmpty then [] else Name.rightMark :: right).count mark ≤
      if Name.rightMark = mark then 1 else 0 := by
    split <;> simp [List.count_eq_zero_of_not_mem inRight, List.count_cons]
  have predecessorCount : ¬ predecessor = mark := fun same => notPredecessor same.symm
  simp only [tokens, List.count_append, List.count_cons, beq_iff_eq, predecessorCount, if_false]
  grind

/-- The tokens of a head with valid names are read as the head. -/
theorem ofTokens_tokens {head : Head} (valid : ∀ name ∈ head.names, Name.IsValid name)
    (shown : String) : ofTokens shown head.tokens = .ok head := by
  have noLeftMark : Name.leftMark ∉ head.names := fun member => (valid _ member).ne_leftMark rfl
  have noRightMark : Name.rightMark ∉ head.names := fun member => (valid _ member).ne_rightMark rfl
  have countLeft := count_tokens_le noLeftMark
  have countRight := count_tokens_le noRightMark
  obtain ⟨left, predecessor, right⟩ := head
  simp only [names, List.mem_append, List.mem_cons, not_or] at noLeftMark noRightMark
  obtain ⟨leftInLeft, leftInPredecessor, leftInRight⟩ := noLeftMark
  obtain ⟨rightInLeft, rightInPredecessor, rightInRight⟩ := noRightMark
  have inRest : Name.leftMark ∉
      predecessor :: (if right.isEmpty then [] else Name.rightMark :: right) := by
    have different : Name.leftMark ≠ Name.rightMark := by decide
    split <;> simp [leftInPredecessor, leftInRight, different]
  have notReversed : left.contains Name.rightMark = false := by simpa using rightInLeft
  rw [ofTokens, if_neg (by simp [tokens]), if_neg (by simp; omega), tokens]
  simp only [bind, Except.bind, cutLeft_eq_ok shown leftInLeft inRest,
    cutRight_eq_ok shown rightInPredecessor right, notReversed]
  rfl

end Head

/-! ## Bodies -/

namespace Body

/-- The tokens of a body.  A weight of one is not written. -/
def tokens (body : Body) : List String :=
  (if body.weight != 1.0 then [Decimal.exact body.weight] else []) ++ body.successor

/-- The tokens of a body with a finite weight and valid names are read as the body. -/
theorem ofTokens_tokens {body : Body} (finite : body.weight.isFinite = true)
    (valid : ∀ name ∈ body.successor, Name.IsValid name) : ofTokens body.tokens = .ok body := by
  obtain ⟨weight, successor⟩ := body
  rw [tokens]
  by_cases one : (weight == 1.0) = true
  case pos =>
    obtain rfl := Decimal.Binary64.eq_one_of_beq one
    simp only [bne, one, Bool.not_true, Bool.false_eq_true, if_false, List.nil_append]
    cases successor with
    | nil => rfl
    | cons name rest =>
      have noNumber : Decimal.readReal name.toList = none := by
        rw [Decimal.readReal, (valid name (by simp)).readNumeral_eq_none]
        rfl
      simp only [ofTokens, noNumber]
  case neg =>
    have written : (weight != 1.0) = true := by simpa [bne] using one
    simp only [written, if_true, List.singleton_append, ofTokens, Decimal.readReal_exact finite]
    rw [if_pos finite]

end Body

/-! ## Texts -/

theorem tokensOf_eq {text : List Char} {ts : List String}
    (cut : Text.tokens text = ts.map String.toList) : tokensOf text = ts := by
  rw [tokensOf, cut, List.map_map]
  simp [Function.comp_def]

/-- Tokens without arrows, an arrow and other tokens are cut where they were joined. -/
theorem cut_intercalate {head body : List String} (given : head ≠ [])
    (headTokens : ∀ t ∈ head, Text.IsToken t.toList ∧ Name.splitArrow t.toList = none)
    (bodyTokens : ∀ t ∈ body, Text.IsToken t.toList) {text : List Char}
    (joined : text = (" ".intercalate (head ++ "->" :: body)).toList) :
    Text.trim text = text ∧ text ≠ [] ∧ ∃ before after,
      Name.splitArrow text = some (before, after) ∧ tokensOf before = head ∧
        tokensOf after = body := by
  obtain ⟨t, ts, rfl⟩ := List.exists_cons_of_ne_nil given
  have firstToken := (headTokens t (by simp)).1
  have restTokens : ∀ u ∈ ts.map String.toList, Text.IsToken u := by
    rw [List.forall_mem_map]
    exact fun u member => (headTokens u (by simp [member])).1
  have lastTokens : ∀ u ∈ body.map String.toList, Text.IsToken u := by
    rwa [List.forall_mem_map]
  have noArrow : ∀ u ∈ t.toList :: ts.map String.toList, Name.splitArrow u = none := by
    rw [← List.map_cons, List.forall_mem_map]
    exact fun u member => (headTokens u member).2
  have shape : text = t.toList ++
      Text.spaced (ts.map String.toList ++ ['-', '>'] :: body.map String.toList) := by
    rw [joined, String.toList_intercalate, List.cons_append, List.map_cons, List.map_append,
      List.map_cons, show " ".toList = [' '] from rfl, Text.intercalate_cons]
    rfl
  refine ⟨?trimmed, ?nonempty, t.toList ++ Text.spaced (ts.map String.toList) ++ [' '],
    Text.spaced (body.map String.toList), ?cut, ?before, ?after⟩
  case trimmed =>
    rw [shape]
    refine Text.trim_append_spaced firstToken fun u member => ?_
    rcases List.mem_append.mp member with early | member
    · exact restTokens u early
    rcases List.mem_cons.mp member with rfl | late
    · exact Name.isToken_arrow
    · exact lastTokens u late
  case nonempty =>
    rw [shape]
    exact List.append_ne_nil_of_left_ne_nil firstToken.nonempty _
  case cut =>
    rw [shape, Text.spaced_append, Text.spaced_cons, ← List.append_assoc]
    exact Name.splitArrow_append_spaced noArrow _
  case before =>
    apply tokensOf_eq
    rw [Text.tokens_append_spaced firstToken restTokens (Text.startsBlank_space [])]
    simp
  case after => exact tokensOf_eq (Text.tokens_spaced lastTokens)

namespace WrittenRule

/-- The text of a rule. -/
def text (written : WrittenRule) : String :=
  " ".intercalate (written.head.tokens ++ "->" :: written.body.tokens)

/-- The names of the rule are valid and its weight is finite. -/
structure IsProper (written : WrittenRule) : Prop where
  /-- The names of the head are valid. -/
  head : ∀ name ∈ written.head.names, Name.IsValid name
  /-- The names of the body are valid. -/
  body : ∀ name ∈ written.body.successor, Name.IsValid name
  /-- The weight is finite. -/
  finite : written.body.weight.isFinite = true

/-- The tokens of a head hold no arrow. -/
theorem IsProper.isToken_of_mem_head {written : WrittenRule} (proper : written.IsProper)
    {t : String} (member : t ∈ written.head.tokens) :
    Text.IsToken t.toList ∧ Name.splitArrow t.toList = none := by
  have named : t ∈ written.head.names ∨ t = Name.leftMark ∨ t = Name.rightMark := by
    simp only [Head.tokens, Head.names] at member ⊢
    grind
  rcases named with name | mark
  · exact ⟨(proper.head t name).isToken, (proper.head t name).splitArrow_eq_none⟩
  · exact Name.isToken_of_mark mark

theorem IsProper.isToken_of_mem_body {written : WrittenRule} (proper : written.IsProper)
    {t : String} (member : t ∈ written.body.tokens) : Text.IsToken t.toList := by
  rw [Body.tokens] at member
  rcases List.mem_append.mp member with weight | name
  · split at weight
    · rw [List.mem_singleton.mp weight]
      exact Decimal.isToken_exact proper.finite
    · cases weight
  · exact (proper.body t name).isToken

/-- The text of a rule is read as the rule. -/
theorem IsProper.ofText_text {written : WrittenRule} (proper : written.IsProper) :
    ofText written.text.toList = .ok written := by
  obtain ⟨trimmed, nonempty, before, after, cut, headTokens, bodyTokens⟩ :=
    cut_intercalate (by simp [Head.tokens]) (fun _ => proper.isToken_of_mem_head)
      (fun _ => proper.isToken_of_mem_body) (show written.text.toList = _ from rfl)
  have headRead : Head.split before = .ok written.head := by
    rw [Head.split, headTokens, Head.ofTokens_tokens proper.head]
    rfl
  have bodyRead : Body.split after = .ok written.body := by
    rw [Body.split, bodyTokens, Body.ofTokens_tokens proper.finite proper.body]
    rfl
  have checked : checkNames (written.head.names ++ written.body.successor) = .ok () :=
    (checkNames_eq_ok_iff _).mpr (List.forall_mem_append.mpr ⟨proper.head, proper.body⟩)
  simp only [ofText, trimmed, List.isEmpty_iff, nonempty, if_false, cut, bind, Except.bind,
    headRead, bodyRead, checked]
  rfl

end WrittenRule

/-! ## Rules with symbols -/

namespace Rule

/-- The names and the weight of a rule. -/
def written (r : Rule) : WrittenRule where
  head := ⟨Word.names r.left, r.predecessor.name, Word.names r.right⟩
  body := ⟨r.weight, Word.names r.successor⟩

theorem text_written (r : Rule) : r.written.text = r.text := by
  have head : r.written.head.tokens = r.headTokens := by
    obtain ⟨predecessor, successor, left, right, weight⟩ := r
    cases left <;> cases right <;> rfl
  have body : r.written.body.tokens = r.bodyTokens := rfl
  rw [WrittenRule.text, text, head, body]

end Rule

namespace Vocabulary

theorem written_ruleOf (v : Vocabulary) (written : WrittenRule) :
    (v.ruleOf written).written = written := by
  simp [Rule.written, ruleOf, names_wordOf, symbol_name]

/-- The names of a rule whose symbols are contained give the same rule again, and nothing
is added. -/
theorem Sound.ruleOf_written {v : Vocabulary} (sound : v.Sound) {r : Rule}
    (issued : ∀ s ∈ r.symbols, v.contains s = true) :
    v.ruleOf r.written = r ∧ v.addAll r.written.entered = v := by
  have known (w : Word) (part : ∀ s ∈ w, s ∈ r.symbols) :=
    sound.enter_names fun s member => issued s (part s member)
  have predecessor := sound.symbol_of_contains (issued r.predecessor (by simp [Rule.symbols]))
  obtain ⟨successor, afterSuccessor⟩ := known r.successor (by simp +contextual [Rule.symbols])
  obtain ⟨left, afterLeft⟩ := known r.left (by simp +contextual [Rule.symbols])
  obtain ⟨right, afterRight⟩ := known r.right (by simp +contextual [Rule.symbols])
  simp [ruleOf, Rule.written, WrittenRule.entered, addAll_cons, addAll_append, predecessor,
    successor, afterSuccessor, left, afterLeft, right, afterRight]

end Vocabulary

namespace Rule

theorem isProper_written {v : Vocabulary} (sound : v.Sound) {r : Rule}
    (issued : ∀ s ∈ r.symbols, v.contains s = true) (finite : r.weight.isFinite = true) :
    r.written.IsProper := by
  have valid (w : Word) (part : ∀ s ∈ w, s ∈ r.symbols) : ∀ name ∈ w.names, Name.IsValid name :=
    List.forall_mem_map.mpr fun s member => sound.valid_of_contains (issued s (part s member))
  constructor
  case head =>
    have names : r.written.head.names = Word.names (r.left ++ r.predecessor :: r.right) := by
      simp [written, Head.names, Word.names]
    rw [names]
    exact valid _ (by simp [symbols]; grind)
  case body => exact valid r.successor (by simp +contextual [symbols])
  case finite => exact finite

/-- A table that contains the symbols of a rule reads the text of the rule as the rule, and
is not changed. -/
theorem read_text {t : NameTable} (free : t.lock.IsFree) (sound : t.value.Sound) {r : Rule}
    (issued : ∀ s ∈ r.symbols, t.value.contains s = true) (finite : r.weight.isFinite = true)
    (notNegative : ¬ r.weight < 0) : (read r.text).runFrom t = (.ok r, t) := by
  have found : WrittenRule.ofText r.text.toList = .ok r.written := by
    rw [← text_written]
    exact (isProper_written sound issued finite).ofText_text
  obtain ⟨same, unchanged⟩ := sound.ruleOf_written issued
  rw [read_runFrom free found notNegative, same, NameTable.addAll, unchanged]

end Rule

/-- After every run, a table reads the text of a rule as the rule, if the run has issued all
of its symbols from the table, and is not changed. -/
theorem read_text_of_issued (calls : List Call) (id : TableId) (t : NameTable)
    (found : (Workspace.empty.afterAll calls).tables[id.index]? = some t) (r : Rule)
    (issued : ∀ s ∈ r.symbols, s ∈ Workspace.issuedBy id .empty calls)
    (finite : r.weight.isFinite = true) (notNegative : ¬ r.weight < 0) :
    (Rule.read r.text).runFrom t = (.ok r, t) := by
  have lawful := Workspace.empty_lawful.afterAll calls
  obtain ⟨free, sound⟩ := lawful.tables t (Array.mem_of_getElem? found)
  have valid := Workspace.empty_lawful.valid_of_mem_enteredBy id calls
  have held := Workspace.empty_lawful.vocabularyAt_afterAll id calls
  rw [Workspace.vocabularyAt_of_getElem? found] at held
  have contained : ∀ s ∈ r.symbols, t.value.contains s = true := by
    intro s member
    have given := issued s member
    rw [Workspace.empty_lawful.issuedBy_eq] at given
    rw [held]
    exact Vocabulary.contains_of_mem_wordOf given
  exact Rule.read_text free sound contained finite notNegative

/-- A run that issues names which look like half an arrow, a mark or a number. -/
def oddNamesRun : List Call := [
  .newTable .forever,
  .read ⟨0⟩ (.word "F x- >y 1e")]

/-- A rule with such names in every place. -/
def oddNamesRule : Rule where
  predecessor := ⟨0, "F"⟩
  successor := [⟨3, "1e"⟩, ⟨1, "x-"⟩]
  left := [⟨0, "F"⟩, ⟨1, "x-"⟩]
  right := [⟨2, ">y"⟩]
  weight := 0.5

/-- The text of a rule with odd names. -/
theorem read_text_of_odd_names :
    oddNamesRule.text = "F x- < F > >y -> 0.5 1e x-" ∧
    ∃ t, (Workspace.empty.afterAll oddNamesRun).tables[0]? = some t ∧
      (Rule.read "F x- < F > >y -> 0.5 1e x-").runFrom t = (.ok oddNamesRule, t) := by
  have text : oddNamesRule.text = "F x- < F > >y -> 0.5 1e x-" := by decide +kernel
  have there : (Workspace.empty.afterAll oddNamesRun).tables[0]?.isSome = true := by
    decide +kernel
  have issued : ∀ s ∈ oddNamesRule.symbols, s ∈ Workspace.issuedBy ⟨0⟩ .empty oddNamesRun := by
    have all : (Workspace.issuedBy ⟨0⟩ .empty oddNamesRun) =
        [⟨0, "F"⟩, ⟨1, "x-"⟩, ⟨2, ">y"⟩, ⟨3, "1e"⟩] := by decide +kernel
    rw [all]
    simp [oddNamesRule, Rule.symbols]
  obtain ⟨t, found⟩ := Option.isSome_iff_exists.mp there
  refine ⟨text, t, found, ?_⟩
  rw [← text]
  exact read_text_of_issued oddNamesRun ⟨0⟩ t found oddNamesRule issued (by decide) (by decide)

end GrowthGrammar

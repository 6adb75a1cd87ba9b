import GrowthGrammar.Proofs.Decimal.Sum
import GrowthGrammar.Proofs.Rule.RoundTrip

/-!
# The grammar of rules

A rule is read by cutting and counting.  What is read that way is a grammar over the tokens
of a text, with `N` for a name and `W` for a finite number:

* a head is `[N+ <] N [> N+]` (`HeadShape`);
* a body is `[W] N*` (`BodyShape`);
* a rule is a head, the first arrow of the text and a body (`RuleShape`).

A shape says which names and which weight the text writes, and the reader finds the shape
exactly if there is one (`ofTokens_eq_ok_iff` for the halves, `WrittenRule.ofText_eq_ok_iff`
for rules).  Blanks at the ends of a text, which the reader drops, do not matter.

Main statement: with a free table a text is accepted exactly if it has the shape of a rule
with a weight of zero or above, as the rule of just these names.  With a weight below zero
it is refused for its weight, and any other text is refused as no rule
(`Rule.read_iff_shape`).
-/

namespace GrowthGrammar

/-! ## Heads -/

/-- What may stand in front of a predecessor: nothing, or names and a mark. -/
inductive LeftPart : List String → List String → Prop
  | absent : LeftPart [] []
  | present {names : List String} : names ≠ [] → LeftPart (names ++ [Name.leftMark]) names

/-- What may stand behind a predecessor: nothing, or a mark and names. -/
inductive RightPart : List String → List String → Prop
  | absent : RightPart [] []
  | present {names : List String} : names ≠ [] → RightPart (Name.rightMark :: names) names

/-- Tokens of the shape `[N+ <] N [> N+]`, and the head that they write. -/
inductive HeadShape : List String → Head → Prop
  | parts {leftTokens rightTokens : List String} {head : Head} :
    LeftPart leftTokens head.left → RightPart rightTokens head.right →
    (∀ name ∈ head.names, Name.IsValid name) →
    HeadShape (leftTokens ++ head.predecessor :: rightTokens) head

theorem LeftPart.tokens_eq {tokens left : List String} (part : LeftPart tokens left) :
    tokens = if left.isEmpty then [] else left ++ [Name.leftMark] := by
  cases part with
  | absent => rfl
  | present given => simp [given]

theorem RightPart.tokens_eq {tokens right : List String} (part : RightPart tokens right) :
    tokens = if right.isEmpty then [] else Name.rightMark :: right := by
  cases part with
  | absent => rfl
  | present given => simp [given]

namespace Head

theorem eq_of_cutAt {mark : String} {tokens before after : List String}
    (cut : cutAt mark tokens = some (before, after)) : tokens = before ++ mark :: after := by
  induction tokens generalizing before with
  | nil => cases cut
  | cons t ts ih =>
    rw [cutAt] at cut
    split at cut
    case isTrue same =>
      cases cut
      rw [beq_iff_eq.mp same]
      rfl
    case isFalse =>
      obtain ⟨⟨start, rest⟩, cut, same⟩ := Option.map_eq_some_iff.mp cut
      cases same
      rw [ih cut]
      rfl

theorem leftPart_of_cutLeft {shown : String} {tokens left rest : List String}
    (cut : cutLeft shown tokens = .ok (left, rest)) :
    ∃ leftTokens, LeftPart leftTokens left ∧ tokens = leftTokens ++ rest := by
  rw [cutLeft] at cut
  rcases found : cutAt Name.leftMark tokens with _ | ⟨before, after⟩
  · rw [found] at cut
    cases cut
    exact ⟨[], .absent, rfl⟩
  · rw [found] at cut
    cases before with
    | nil => cases cut
    | cons t ts =>
      cases cut
      refine ⟨t :: ts ++ [Name.leftMark], .present (List.cons_ne_nil t ts), ?_⟩
      rw [eq_of_cutAt found]
      simp

theorem rightPart_of_cutRight {shown : String} {tokens middle right : List String}
    (cut : cutRight shown tokens = .ok (middle, right)) :
    ∃ rightTokens, RightPart rightTokens right ∧ tokens = middle ++ rightTokens := by
  rw [cutRight] at cut
  rcases found : cutAt Name.rightMark tokens with _ | ⟨before, after⟩
  · rw [found] at cut
    cases cut
    exact ⟨[], .absent, (List.append_nil _).symm⟩
  · rw [found] at cut
    cases after with
    | nil => cases cut
    | cons t ts =>
      cases cut
      exact ⟨Name.rightMark :: t :: ts, .present (List.cons_ne_nil t ts), eq_of_cutAt found⟩

/-- What is found in some tokens is written by them. -/
theorem parts_of_ofTokens {shown : String} {tokens : List String} {head : Head}
    (found : ofTokens shown tokens = .ok head) :
    ∃ leftTokens rightTokens, LeftPart leftTokens head.left ∧ RightPart rightTokens head.right ∧
      tokens = leftTokens ++ head.predecessor :: rightTokens := by
  rw [ofTokens] at found
  -- what was counted before the cuts is not needed: they leave the shape whatever it was
  split at found
  · cases found
  split at found
  · cases found
  obtain ⟨⟨left, rest⟩, leftCut, afterLeft⟩ := ok_of_except_bind found
  obtain ⟨⟨middle, right⟩, rightCut, afterRight⟩ := ok_of_except_bind afterLeft
  obtain ⟨leftTokens, leftPart, whole⟩ := leftPart_of_cutLeft leftCut
  obtain ⟨rightTokens, rightPart, rfl⟩ := rightPart_of_cutRight rightCut
  simp only at afterRight
  split at afterRight
  · cases afterRight
  split at afterRight
  · cases afterRight
    exact ⟨leftTokens, rightTokens, leftPart, rightPart, whole⟩
  · cases afterRight

/-- A head with valid names is found in some tokens exactly if they have its shape. -/
theorem ofTokens_eq_ok_iff (shown : String) (tokens : List String) (head : Head) :
    (ofTokens shown tokens = .ok head ∧ ∀ name ∈ head.names, Name.IsValid name) ↔
      HeadShape tokens head := by
  constructor
  · rintro ⟨found, valid⟩
    obtain ⟨leftTokens, rightTokens, left, right, rfl⟩ := parts_of_ofTokens found
    exact .parts left right valid
  · rintro ⟨left, right, valid⟩
    refine ⟨?_, valid⟩
    rw [left.tokens_eq, right.tokens_eq]
    exact ofTokens_tokens valid shown

end Head

/-! ## Bodies -/

/-- Tokens of the shape `[W] N*`, and the body that they write. -/
inductive BodyShape : List String → Body → Prop
  | plain {names : List String} : (∀ name ∈ names, Name.IsValid name) → BodyShape names ⟨1.0, names⟩
  | weighted {term : String} {weight : Float} {names : List String} :
    Decimal.readReal term.toList = some weight → weight.isFinite = true →
    (∀ name ∈ names, Name.IsValid name) → BodyShape (term :: names) ⟨weight, names⟩

namespace Body

/-- A body with valid names is found in some tokens exactly if they have its shape. -/
theorem ofTokens_eq_ok_iff (tokens : List String) (body : Body) :
    (ofTokens tokens = .ok body ∧ ∀ name ∈ body.successor, Name.IsValid name) ↔
      BodyShape tokens body := by
  constructor
  · rintro ⟨found, valid⟩
    rw [ofTokens.eq_def] at found
    split at found
    · cases found
      exact .plain valid
    · split at found
      · cases found
        exact .plain valid
      · rename_i number
        split at found
        case isTrue finite =>
          cases found
          exact .weighted number finite valid
        case isFalse => cases found
  · intro shape
    cases shape with
    | plain valid =>
      refine ⟨?_, valid⟩
      cases tokens with
      | nil => rfl
      | cons name rest =>
        have noNumber : Decimal.readReal name.toList = none := by
          rw [Decimal.readReal, (valid name (by simp)).readNumeral_eq_none]
          rfl
        simp only [ofTokens, noNumber]
    | weighted number finite valid =>
      refine ⟨?_, valid⟩
      simp only [ofTokens, number, finite, if_true]

end Body

/-! ## Texts -/

theorem tokensOf_trimStart (text : List Char) : tokensOf (Text.trimStart text) = tokensOf text := by
  rw [tokensOf, Text.tokens_trimStart, tokensOf]

theorem tokensOf_trimEnd (text : List Char) : tokensOf (Text.trimEnd text) = tokensOf text := by
  rw [tokensOf, Text.tokens_trimEnd, tokensOf]

theorem map_eq_ok_iff {ε α β : Type} {f : α → β} {found : Except ε α} {b : β} :
    found.map f = .ok b ↔ ∃ a, found = .ok a ∧ f a = b := by
  cases found with
  | ok a => simp [Except.map]
  | error e => simp [Except.map]

theorem mapError_eq_ok_iff {ε δ α : Type} {f : ε → δ} {found : Except ε α} {a : α} :
    found.mapError f = .ok a ↔ found = .ok a := by
  cases found with
  | ok b => simp [Except.mapError]
  | error e => exact iff_of_false nofun nofun

/-- A part of a text is accepted exactly if it is found and its names are valid. -/
theorem checked_eq_ok_iff {α : Type} (found : Except WrittenFault α) (names : α → List String)
    (a : α) :
    (do let a ← found; checkNames (names a); return a) = .ok a ↔
      found = .ok a ∧ ∀ name ∈ names a, Name.IsValid name := by
  refine ⟨valid_of_checked, ?_⟩
  rintro ⟨rfl, valid⟩
  simp only [bind, Except.bind, (checkNames_eq_ok_iff _).mpr valid]
  rfl

/-- A text is accepted as a head exactly if its tokens have the shape of one. -/
theorem Head.ofText_eq_ok_iff (text : List Char) (head : Head) :
    Head.ofText text = .ok head ↔ HeadShape (tokensOf text) head := by
  rw [Head.ofText, checked_eq_ok_iff, Head.split, mapError_eq_ok_iff, Head.ofTokens_eq_ok_iff]

/-- A text is accepted as a body exactly if its tokens have the shape of one. -/
theorem Body.ofText_eq_ok_iff (text : List Char) (body : Body) :
    Body.ofText text = .ok body ↔ BodyShape (tokensOf text) body := by
  rw [Body.ofText, checked_eq_ok_iff, Body.split, mapError_eq_ok_iff, Body.ofTokens_eq_ok_iff]

/-- The text has the shape of a rule: at its first arrow it is cut into a head and a body. -/
def RuleShape (text : List Char) (written : WrittenRule) : Prop :=
  ∃ before after, text = before ++ '-' :: '>' :: after ∧ ¬ ['-', '>'] <:+: before ∧
    HeadShape (tokensOf before) written.head ∧ BodyShape (tokensOf after) written.body

namespace WrittenRule

/-- A text is accepted as a rule exactly if it has the shape of one. -/
theorem ofText_eq_ok_iff (text : List Char) (written : WrittenRule) :
    ofText text = .ok written ↔ RuleShape text written := by
  constructor
  · intro found
    obtain ⟨_, _, cut, headFound, bodyFound, checked⟩ := parts_of_ofText found
    rw [Name.splitArrow_trim, Option.map_eq_some_iff] at cut
    obtain ⟨⟨before, after⟩, cut, same⟩ := cut
    cases same
    obtain ⟨whole, first⟩ := (Name.splitArrow_eq_some_iff _ _ _).mp cut
    rw [Head.split, mapError_eq_ok_iff, tokensOf_trimStart] at headFound
    rw [Body.split, mapError_eq_ok_iff, tokensOf_trimEnd] at bodyFound
    obtain ⟨headValid, bodyValid⟩ := List.forall_mem_append.mp ((checkNames_eq_ok_iff _).mp checked)
    exact ⟨before, after, whole, first, (Head.ofTokens_eq_ok_iff _ _ _).mp ⟨headFound, headValid⟩,
      (Body.ofTokens_eq_ok_iff _ _).mp ⟨bodyFound, bodyValid⟩⟩
  · rintro ⟨before, after, whole, first, head, body⟩
    have cut : Name.splitArrow (Text.trim text) =
        some (Text.trimStart before, Text.trimEnd after) := by
      rw [Name.splitArrow_trim, (Name.splitArrow_eq_some_iff _ _ _).mpr ⟨whole, first⟩]
      rfl
    have nonempty : Text.trim text ≠ [] := by
      intro empty
      rw [empty] at cut
      cases cut
    have headFound := (Head.ofTokens_eq_ok_iff
      (String.ofList (Text.trim (Text.trimStart before))) _ _).mpr head
    have bodyFound := (Body.ofTokens_eq_ok_iff _ _).mpr body
    have headSplit : Head.split (Text.trimStart before) = .ok written.head := by
      rw [Head.split, mapError_eq_ok_iff, tokensOf_trimStart]
      exact headFound.1
    have bodySplit : Body.split (Text.trimEnd after) = .ok written.body := by
      rw [Body.split, mapError_eq_ok_iff, tokensOf_trimEnd]
      exact bodyFound.1
    have checked : checkNames (written.head.names ++ written.body.successor) = .ok () :=
      (checkNames_eq_ok_iff _).mpr (List.forall_mem_append.mpr ⟨headFound.2, bodyFound.2⟩)
    simp only [ofText, List.isEmpty_iff, nonempty, if_false, cut, bind, Except.bind, headSplit,
      bodySplit, checked]
    rfl

end WrittenRule

/-! ## Reading into a table -/

namespace Rule

/-- The names of the parts of a head. -/
def headOfParts (parts : Word × Symbol × Word) : Head :=
  ⟨parts.1.names, parts.2.1.name, parts.2.2.names⟩

theorem headOfParts_headOf (v : Vocabulary) (head : Head) : headOfParts (v.headOf head) = head := by
  simp [headOfParts, Vocabulary.headOf, Vocabulary.names_wordOf, Vocabulary.symbol_name]

variable {t : NameTable}

/-- A text is read as a rule of some names exactly if it has the shape of this rule and its
weight is not below zero. -/
theorem read_ok_iff (free : t.lock.IsFree) (text : String) (written : WrittenRule) :
    (∃ r after, (read text).runFrom t = (.ok r, after) ∧ r.written = written) ↔
      RuleShape text.toList written ∧ 0 ≤ written.body.weight := by
  rw [← WrittenRule.ofText_eq_ok_iff]
  constructor
  · rintro ⟨r, after, run, rfl⟩
    cases found : WrittenRule.ofText text.toList with
    | error fault =>
      rw [read_runFrom_of_fault t found] at run
      cases run
    | ok written =>
      have finite := WrittenRule.isFinite_of_ofText found
      by_cases negative : written.body.weight < 0
      · rw [read_runFrom_of_negative free found negative] at run
        cases run
      · rw [read_runFrom free found negative] at run
        cases run
        rw [Vocabulary.written_ruleOf]
        exact ⟨rfl, (Decimal.Binary64.nonneg_iff_not_neg finite).mpr negative⟩
  · rintro ⟨found, nonneg⟩
    have finite := WrittenRule.isFinite_of_ofText found
    have notNegative := (Decimal.Binary64.nonneg_iff_not_neg finite).mp nonneg
    exact ⟨_, _, read_runFrom free found notNegative, Vocabulary.written_ruleOf _ _⟩

/-- A text is refused for its weight exactly if it has the shape of a rule with a weight
below zero. -/
theorem read_invalidSettings_iff (free : t.lock.IsFree) (text : String) :
    (∃ e after, (read text).runFrom t = (.error e, after) ∧ e.kind = .invalidSettings) ↔
      ∃ written, RuleShape text.toList written ∧ written.body.weight < 0 := by
  simp only [← WrittenRule.ofText_eq_ok_iff]
  constructor
  · rintro ⟨e, after, run, kind⟩
    cases found : WrittenRule.ofText text.toList with
    | error fault =>
      rw [read_runFrom_of_fault t found] at run
      cases run
      cases kind
    | ok written =>
      refine ⟨written, rfl, ?_⟩
      by_contra notNegative
      rw [read_runFrom free found notNegative] at run
      cases run
  · rintro ⟨written, found, negative⟩
    exact ⟨_, _, read_runFrom_of_negative free found negative, rfl⟩

/-- A text is refused as no rule exactly if it has not the shape of one. -/
theorem read_parsing_iff (free : t.lock.IsFree) (text : String) :
    (∃ e after, (read text).runFrom t = (.error e, after) ∧ e.kind = .parsing) ↔
      ¬ ∃ written, RuleShape text.toList written := by
  simp only [← WrittenRule.ofText_eq_ok_iff]
  constructor
  · rintro ⟨e, after, run, kind⟩ ⟨written, found⟩
    by_cases negative : written.body.weight < 0
    · rw [read_runFrom_of_negative free found negative] at run
      cases run
      cases kind
    · rw [read_runFrom free found negative] at run
      cases run
  · intro none
    cases found : WrittenRule.ofText text.toList with
    | error fault => exact ⟨_, _, read_runFrom_of_fault t found, rfl⟩
    | ok written => exact absurd ⟨written, found⟩ none

/-- A text is read as a head of some names exactly if it has its shape, and is refused
otherwise. -/
theorem readHead_iff (free : t.lock.IsFree) (text : String) :
    (∀ head, (∃ parts after, (readHead text).runFrom t = (.ok parts, after) ∧
        headOfParts parts = head) ↔ HeadShape (tokensOf text.toList) head) ∧
      ((∃ e after, (readHead text).runFrom t = (.error e, after) ∧ e.kind = .parsing) ↔
        ¬ ∃ head, HeadShape (tokensOf text.toList) head) := by
  simp only [← Head.ofText_eq_ok_iff]
  cases found : Head.ofText text.toList with
  | error fault =>
    rw [readHead_runFrom_of_fault t found]
    exact ⟨by simp, by simp [Error.kind]⟩
  | ok head =>
    rw [readHead_runFrom free found]
    refine ⟨fun other => ?_, by simp⟩
    rw [Except.ok.injEq]
    constructor
    · rintro ⟨parts, after, run, rfl⟩
      cases run
      exact (headOfParts_headOf _ _).symm
    · rintro rfl
      exact ⟨_, _, rfl, headOfParts_headOf _ _⟩

/-- A text is read as a body of some names and a weight exactly if it has its shape, and is
refused otherwise. -/
theorem readBody_iff (free : t.lock.IsFree) (text : String) :
    (∀ body : Body, (∃ successor after, (readBody text).runFrom t =
        (.ok (body.weight, successor), after) ∧ successor.names = body.successor) ↔
          BodyShape (tokensOf text.toList) body) ∧
      ((∃ e after, (readBody text).runFrom t = (.error e, after) ∧ e.kind = .parsing) ↔
        ¬ ∃ body, BodyShape (tokensOf text.toList) body) := by
  simp only [← Body.ofText_eq_ok_iff]
  cases found : Body.ofText text.toList with
  | error fault =>
    rw [readBody_runFrom_of_fault t found]
    exact ⟨by simp, by simp [Error.kind]⟩
  | ok body =>
    rw [readBody_runFrom free found]
    refine ⟨fun other => ?_, by simp⟩
    rw [Except.ok.injEq]
    constructor
    · rintro ⟨successor, after, run, names⟩
      obtain ⟨weight, otherNames⟩ := other
      cases run
      rw [Vocabulary.names_wordOf] at names
      obtain rfl : body.successor = otherNames := names
      rfl
    · rintro rfl
      exact ⟨_, _, rfl, Vocabulary.names_wordOf _ _⟩

/-- With a free table, what is read from a text is what the grammar says, for rules and for
each of their halves: the names and the weight of its shape.  A rule with a weight below
zero is refused for that, and what has no shape is refused as no rule. -/
theorem read_iff_shape (free : t.lock.IsFree) (text : String) :
    (∀ written, (∃ r after, (read text).runFrom t = (.ok r, after) ∧ r.written = written) ↔
        RuleShape text.toList written ∧ 0 ≤ written.body.weight) ∧
      ((∃ e after, (read text).runFrom t = (.error e, after) ∧ e.kind = .invalidSettings) ↔
        ∃ written, RuleShape text.toList written ∧ written.body.weight < 0) ∧
      ((∃ e after, (read text).runFrom t = (.error e, after) ∧ e.kind = .parsing) ↔
        ¬ ∃ written, RuleShape text.toList written) ∧
      (∀ head, (∃ parts after, (readHead text).runFrom t = (.ok parts, after) ∧
        headOfParts parts = head) ↔ HeadShape (tokensOf text.toList) head) ∧
      ((∃ e after, (readHead text).runFrom t = (.error e, after) ∧ e.kind = .parsing) ↔
        ¬ ∃ head, HeadShape (tokensOf text.toList) head) ∧
      (∀ body : Body, (∃ successor after, (readBody text).runFrom t =
        (.ok (body.weight, successor), after) ∧ successor.names = body.successor) ↔
          BodyShape (tokensOf text.toList) body) ∧
      ((∃ e after, (readBody text).runFrom t = (.error e, after) ∧ e.kind = .parsing) ↔
        ¬ ∃ body, BodyShape (tokensOf text.toList) body) := by
  obtain ⟨headOk, headRefused⟩ := readHead_iff free text
  obtain ⟨bodyOk, bodyRefused⟩ := readBody_iff free text
  exact ⟨read_ok_iff free text, read_invalidSettings_iff free text, read_parsing_iff free text,
    headOk, headRefused, bodyOk, bodyRefused⟩

/-- A new table reads a weighted rule with a context on both sides. -/
theorem read_iff_shape_of_contexts :
    ∃ r after, (read "A B < X > C -> 0.5 Y X").runFrom (NameTable.new .forever) = (.ok r, after) ∧
      r.written = ⟨⟨["A", "B"], "X", ["C"]⟩, ⟨0.5, ["Y", "X"]⟩⟩ := by
  obtain ⟨accepted, -⟩ := read_iff_shape (t := NameTable.new .forever) (Lock.free_isFree _ _)
    "A B < X > C -> 0.5 Y X"
  refine (accepted _).mpr ⟨⟨"A B < X > C ".toList, " 0.5 Y X".toList, by decide, by decide, ?_, ?_⟩,
    by decide⟩
  · have tokens : tokensOf "A B < X > C ".toList = ["A", "B", "<"] ++ "X" :: [">", "C"] := by decide
    have left : LeftPart ["A", "B", "<"] ["A", "B"] :=
      @LeftPart.present ["A", "B"] (List.cons_ne_nil _ _)
    have right : RightPart [">", "C"] ["C"] := .present (List.cons_ne_nil _ _)
    rw [tokens]
    exact @HeadShape.parts _ _ ⟨["A", "B"], "X", ["C"]⟩ left right (by decide)
  · have tokens : tokensOf " 0.5 Y X".toList = "0.5" :: ["Y", "X"] := by decide
    rw [tokens]
    exact .weighted (by decide +kernel) (by decide) (by decide)

end Rule

end GrowthGrammar

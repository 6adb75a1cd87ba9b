import GrowthGrammar.Name
import GrowthGrammar.Proofs.Text.Tokens

/-!
# What a name cannot be taken for

A name is a token that is no arrow, no mark and no number (`Name.isValid_iff`).

The arrow of a rule is the first one in its text (`splitArrow_eq_some_iff`), whatever blanks
stand at the ends of the text (`splitArrow_trim`).  Main statement: an arrow behind some
tokens without arrows is the first one (`splitArrow_append_spaced`), since it cannot
begin at the end of a token that a blank follows.
-/

namespace GrowthGrammar.Name

/-- Everything that a name must not be. -/
theorem isValid_iff (name : String) :
    IsValid name ↔ Text.IsToken name.toList ∧ (∀ c ∈ name.toList, c ≠ '(' ∧ c ≠ ')') ∧
      splitArrow name.toList = none ∧ name ≠ leftMark ∧ name ≠ rightMark ∧
      Decimal.readNumeral name.toList = none := by
  have token : Text.IsToken name.toList ↔
      name.toList ≠ [] ∧ ∀ c ∈ name.toList, Text.isBlank c = false :=
    ⟨fun h => ⟨h.nonempty, h.solid⟩, fun h => ⟨h.1, h.2⟩⟩
  rw [IsValid, fault?, token]
  grind [Option.isSome_iff_ne_none]

/-- A name is one token. -/
theorem IsValid.isToken {name : String} (valid : IsValid name) : Text.IsToken name.toList :=
  ((isValid_iff name).mp valid).1

theorem IsValid.splitArrow_eq_none {name : String} (valid : IsValid name) :
    splitArrow name.toList = none :=
  ((isValid_iff name).mp valid).2.2.1

theorem IsValid.ne_leftMark {name : String} (valid : IsValid name) : name ≠ leftMark :=
  ((isValid_iff name).mp valid).2.2.2.1

theorem IsValid.ne_rightMark {name : String} (valid : IsValid name) : name ≠ rightMark :=
  ((isValid_iff name).mp valid).2.2.2.2.1

theorem IsValid.readNumeral_eq_none {name : String} (valid : IsValid name) :
    Decimal.readNumeral name.toList = none :=
  ((isValid_iff name).mp valid).2.2.2.2.2

/-- The marks are tokens too, and no arrows. -/
theorem isToken_of_mark {mark : String} (isMark : mark = leftMark ∨ mark = rightMark) :
    Text.IsToken mark.toList ∧ splitArrow mark.toList = none := by
  rcases isMark with rfl | rfl
  · exact ⟨Text.isToken_of_all (by decide) (by decide), by decide⟩
  · exact ⟨Text.isToken_of_all (by decide) (by decide), by decide⟩

theorem isToken_arrow : Text.IsToken ['-', '>'] := Text.isToken_of_all (by decide) (by decide)

/-! ## The first arrow -/

theorem splitArrow_cons {c : Char} {cs : List Char} (noArrow : c = '-' → ∀ d ∈ cs.head?, d ≠ '>') :
    splitArrow (c :: cs) = (splitArrow cs).map fun (before, after) => (c :: before, after) := by
  rw [splitArrow]
  rintro rest rfl rfl
  exact noArrow rfl '>' rfl rfl

/-- A text either begins with an arrow or is searched from its second character on. -/
theorem splitArrow_cons_cases (c : Char) (cs : List Char) :
    (∃ rest, c = '-' ∧ cs = '>' :: rest) ∨ (c = '-' → ∀ d ∈ cs.head?, d ≠ '>') := by
  by_cases here : c = '-' ∧ cs.head? = some '>'
  · obtain ⟨first, head⟩ := here
    obtain ⟨rest, rfl⟩ := List.head?_eq_some_iff.mp head
    exact .inl ⟨rest, first, rfl⟩
  · refine .inr fun first d head second => here ⟨first, ?_⟩
    rw [← second]
    exact head

/-- A text without an arrow hides none behind it, unless what follows could complete one. -/
theorem splitArrow_append {t rest : List Char} (noArrow : splitArrow t = none)
    (boundary : ∀ c ∈ rest.head?, c ≠ '>') :
    splitArrow (t ++ rest) =
      (splitArrow rest).map fun (before, after) => (t ++ before, after) := by
  induction t with
  | nil => simp
  | cons c cs ih =>
    rcases splitArrow_cons_cases c cs with ⟨more, rfl, rfl⟩ | first
    · cases noArrow
    rw [splitArrow_cons first, Option.map_eq_none_iff] at noArrow
    -- only the last character of `t` sees what follows
    have next : c = '-' → ∀ d ∈ (cs ++ rest).head?, d ≠ '>' := by
      cases cs with
      | nil => exact fun _ => boundary
      | cons d ds => exact first
    rw [List.cons_append, splitArrow_cons next, ih noArrow, Option.map_map]
    rfl

/-- No arrow is found exactly if there is none. -/
theorem splitArrow_eq_none_iff (t : List Char) : splitArrow t = none ↔ ¬ ['-', '>'] <:+: t := by
  induction t with
  | nil => simp [splitArrow]
  | cons c cs ih =>
    rcases splitArrow_cons_cases c cs with ⟨rest, rfl, rfl⟩ | later
    · exact iff_of_false nofun fun absent => absent ⟨[], rest, rfl⟩
    · have notFirst : ¬ ['-', '>'] <+: c :: cs := by
        rintro ⟨rest, whole⟩
        cases whole
        exact later rfl '>' rfl rfl
      rw [splitArrow_cons later, Option.map_eq_none_iff, ih, List.infix_cons_iff, not_or]
      exact (and_iff_right notFirst).symm

/-- A text is cut at an arrow before which there is none. -/
theorem splitArrow_eq_some_iff (t before after : List Char) :
    splitArrow t = some (before, after) ↔
      t = before ++ '-' :: '>' :: after ∧ ¬ ['-', '>'] <:+: before := by
  rw [← splitArrow_eq_none_iff]
  constructor
  · intro cut
    induction t generalizing before with
    | nil => cases cut
    | cons c cs ih =>
      rcases splitArrow_cons_cases c cs with ⟨rest, rfl, rfl⟩ | later
      · cases cut
        exact ⟨rfl, rfl⟩
      · rw [splitArrow_cons later, Option.map_eq_some_iff] at cut
        obtain ⟨⟨start, rest⟩, cut, same⟩ := cut
        cases same
        obtain ⟨rfl, first⟩ := ih start cut
        refine ⟨rfl, ?_⟩
        have inStart : c = '-' → ∀ d ∈ start.head?, d ≠ '>' := fun dash d head =>
          later dash d (by simp [List.head?_append, Option.mem_def.mp head])
        rw [splitArrow_cons inStart, first]
        rfl
  · rintro ⟨rfl, first⟩
    rw [splitArrow_append first (by simp)]
    simp [splitArrow]

/-- The first arrow of a text stays the first one when the blanks at its ends are dropped. -/
theorem splitArrow_trim (t : List Char) :
    splitArrow (Text.trim t) =
      (splitArrow t).map fun (before, after) => (Text.trimStart before, Text.trimEnd after) := by
  cases cut : splitArrow t with
  | none =>
    rw [splitArrow_eq_none_iff] at cut
    exact (splitArrow_eq_none_iff _).mpr fun arrow => cut (arrow.trans (Text.trim_infix t))
  | some halves =>
    obtain ⟨before, after⟩ := halves
    obtain ⟨rfl, first⟩ := (splitArrow_eq_some_iff t before after).mp cut
    refine (splitArrow_eq_some_iff _ _ _).mpr ⟨Text.trim_append rfl rfl before after, ?_⟩
    exact fun arrow => first (arrow.trans (List.dropWhile_suffix Text.isBlank).isInfix)

theorem splitArrow_space (rest : List Char) :
    splitArrow (' ' :: rest) =
      (splitArrow rest).map fun (before, after) => (' ' :: before, after) :=
  splitArrow_cons fun h => absurd h (by decide)

theorem head?_spaced {ts : List (List Char)} : ∀ c ∈ (Text.spaced ts).head?, c ≠ '>' := by
  cases ts with
  | nil => simp
  | cons t ts => simp

theorem splitArrow_spaced_eq_none {ts : List (List Char)}
    (noArrow : ∀ t ∈ ts, splitArrow t = none) : splitArrow (Text.spaced ts) = none := by
  induction ts with
  | nil => rfl
  | cons t ts ih =>
    rw [Text.spaced_cons, splitArrow_space, splitArrow_append (noArrow t (by simp)) head?_spaced,
      ih fun u member => noArrow u (List.mem_cons_of_mem t member)]
    rfl

/-- The first arrow behind some tokens without arrows is the one that follows them. -/
theorem splitArrow_append_spaced {t : List Char} {ts : List (List Char)}
    (noArrow : ∀ u ∈ t :: ts, splitArrow u = none) (rest : List Char) :
    splitArrow (t ++ Text.spaced ts ++ ' ' :: '-' :: '>' :: rest) =
      some (t ++ Text.spaced ts ++ [' '], rest) := by
  have before : splitArrow (t ++ Text.spaced ts) = none := by
    rw [splitArrow_append (noArrow t (by simp)) head?_spaced,
      splitArrow_spaced_eq_none fun u member => noArrow u (List.mem_cons_of_mem t member)]
    rfl
  rw [splitArrow_append before (by simp)]
  rfl

end GrowthGrammar.Name

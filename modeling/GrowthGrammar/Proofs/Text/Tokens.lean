import GrowthGrammar.Text.Blank
import Mathlib.Data.List.TakeWhile

/-!
# Tokens that are joined and cut

Tokens with one space between them are cut into the same tokens again
(`tokens_append_spaced`), and the text that they make has no blank at either end
(`trim_append_spaced`).  The blanks at the ends of a text separate no tokens
(`tokens_trimStart`, `tokens_trimEnd`).

The tokens behind the first one stand in `spaced`, each with the space before it, so
that a text of tokens is its first token and a `spaced` rest, and cutting a list of
tokens in two cuts the text in two.
-/

namespace GrowthGrammar.Text

/-! ## Tokens -/

/-- The text is a token: it is not empty and has no blank. -/
structure IsToken (text : List Char) : Prop where
  /-- There is a character. -/
  nonempty : text ≠ []
  /-- None of them is a blank. -/
  solid : ∀ c ∈ text, isBlank c = false

theorem isToken_of_all {text : List Char} (nonempty : text ≠ [])
    (all : text.all (fun c => !isBlank c) = true) : IsToken text where
  nonempty := nonempty
  solid := by simpa using all

theorem IsToken.reverse {text : List Char} (token : IsToken text) : IsToken text.reverse where
  nonempty := by simpa using token.nonempty
  solid := by simpa using token.solid

/-- Each of some tokens behind a space. -/
def spaced (ts : List (List Char)) : List Char := ts.flatMap fun t => ' ' :: t

@[simp]
theorem spaced_nil : spaced [] = [] := rfl

@[simp]
theorem spaced_cons (t : List Char) (ts : List (List Char)) :
    spaced (t :: ts) = ' ' :: (t ++ spaced ts) := by
  simp [spaced]

@[simp]
theorem spaced_append (ts us : List (List Char)) : spaced (ts ++ us) = spaced ts ++ spaced us := by
  simp [spaced]

/-- Tokens that are joined with spaces are a token and a spaced rest. -/
theorem intercalate_cons (t : List Char) (ts : List (List Char)) :
    [' '].intercalate (t :: ts) = t ++ spaced ts := by
  induction ts generalizing t with
  | nil => simp
  | cons u us ih => rw [List.intercalate_cons_cons, ih, spaced_cons]; simp

/-! ## Cutting at blanks -/

/-- The text is empty or starts with a blank. -/
def StartsBlank (text : List Char) : Prop := ∀ c ∈ text.head?, isBlank c = true

theorem startsBlank_nil : StartsBlank [] := by simp [StartsBlank]

theorem startsBlank_space (text : List Char) : StartsBlank (' ' :: text) := by
  rintro c ⟨⟩
  rfl

theorem StartsBlank.spaced_append {rest : List Char} (blank : StartsBlank rest)
    (ts : List (List Char)) : StartsBlank (spaced ts ++ rest) := by
  cases ts with
  | nil => exact blank
  | cons t ts => exact startsBlank_space _

theorem tokensFrom_append {text : List Char} (solid : ∀ c ∈ text, isBlank c = false)
    (current rest : List Char) :
    tokensFrom current (text ++ rest) = tokensFrom (text.reverse ++ current) rest := by
  induction text generalizing current with
  | nil => rfl
  | cons c cs ih =>
    rw [List.cons_append, tokensFrom, if_neg (by simp [solid c]),
      ih (fun d member => solid d (List.mem_cons_of_mem c member))]
    simp

@[simp]
theorem tokens_nil : tokens [] = [] := rfl

@[simp]
theorem tokens_space (text : List Char) : tokens (' ' :: text) = tokens text := rfl

/-- A token ends where a blank follows it. -/
theorem tokens_append {t rest : List Char} (token : IsToken t) (blank : StartsBlank rest) :
    tokens (t ++ rest) = t :: tokens rest := by
  rw [tokens, tokensFrom_append token.solid, List.append_nil]
  cases rest with
  | nil => simp [tokens, tokensFrom, token.nonempty]
  | cons c rest =>
    have first : isBlank c = true := blank c rfl
    simp [tokens, tokensFrom, first, token.nonempty]

theorem tokens_spaced_append {ts : List (List Char)} {rest : List Char}
    (each : ∀ t ∈ ts, IsToken t) (blank : StartsBlank rest) :
    tokens (spaced ts ++ rest) = ts ++ tokens rest := by
  induction ts with
  | nil => rfl
  | cons t ts ih =>
    have later := ih fun u member => each u (List.mem_cons_of_mem t member)
    rw [spaced_cons, List.cons_append, List.append_assoc, tokens_space,
      tokens_append (each t (by simp)) (blank.spaced_append ts), later, List.cons_append]

theorem tokens_spaced {ts : List (List Char)} (each : ∀ t ∈ ts, IsToken t) :
    tokens (spaced ts) = ts := by
  simpa using tokens_spaced_append each startsBlank_nil

/-- Tokens with one space between them are cut into the same tokens, whatever blank
stands behind them. -/
theorem tokens_append_spaced {t rest : List Char} {ts : List (List Char)} (token : IsToken t)
    (each : ∀ u ∈ ts, IsToken u) (blank : StartsBlank rest) :
    tokens (t ++ spaced ts ++ rest) = t :: ts ++ tokens rest := by
  rw [List.append_assoc, tokens_append token (blank.spaced_append ts),
    tokens_spaced_append each blank, List.cons_append]

/-- The tokens of a text are the pieces between its blanks that are not empty. -/
theorem tokensFrom_eq_splitOnPPrepend (current text : List Char) :
    tokensFrom current text = (text.splitOnPPrepend isBlank current).filter (!·.isEmpty) := by
  induction text generalizing current with
  | nil => cases current <;> simp [tokensFrom]
  | cons c cs ih =>
    rw [tokensFrom, List.splitOnPPrepend_cons_eq_if]
    by_cases blank : isBlank c = true
    · rw [if_pos blank, if_pos blank, ih]
      cases current <;> simp
    · rw [if_neg blank, if_neg blank, ih]

theorem tokens_eq_splitOnP (text : List Char) :
    tokens text = (text.splitOnP isBlank).filter (!·.isEmpty) := by
  rw [tokens, tokensFrom_eq_splitOnPPrepend, List.splitOnPPrepend_nil_right]

/-! ## Blanks at the ends -/

theorem dropWhile_token {t : List Char} (token : IsToken t) (rest : List Char) :
    (t ++ rest).dropWhile isBlank = t ++ rest := by
  cases t with
  | nil => exact absurd rfl token.nonempty
  | cons c cs => simp [token.solid c (by simp)]

/-- A text of tokens ends with a token. -/
theorem append_spaced_eq {t : List Char} {ts : List (List Char)} (token : IsToken t)
    (each : ∀ u ∈ ts, IsToken u) : ∃ front last, t ++ spaced ts = front ++ last ∧ IsToken last := by
  rcases List.eq_nil_or_concat ts with rfl | ⟨init, last, rfl⟩
  · exact ⟨[], t, by simp, token⟩
  · exact ⟨t ++ spaced init ++ [' '], last, by simp, each last (by simp)⟩

/-- A text of tokens has no blank at either end. -/
theorem trim_append_spaced {t : List Char} {ts : List (List Char)} (token : IsToken t)
    (each : ∀ u ∈ ts, IsToken u) : trim (t ++ spaced ts) = t ++ spaced ts := by
  obtain ⟨front, last, ended, lastToken⟩ := append_spaced_eq token each
  rw [trim, trimStart, dropWhile_token token, trimEnd, ended, List.reverse_append,
    dropWhile_token lastToken.reverse, ← List.reverse_append, List.reverse_reverse]

theorem tokensFrom_append_blanks {blanks : List Char} (blank : ∀ c ∈ blanks, isBlank c = true)
    (current text : List Char) : tokensFrom current (text ++ blanks) = tokensFrom current text := by
  induction text generalizing current with
  | nil =>
    induction blanks generalizing current with
    | nil => rfl
    | cons c cs ih =>
      obtain ⟨here, later⟩ := List.forall_mem_cons.mp blank
      have rest : tokensFrom [] cs = [] := ih later []
      simp [tokensFrom, here, rest]
  | cons c cs ih => simp only [List.cons_append, tokensFrom, ih]

/-- A text is what remains of it and the blanks at its end. -/
theorem trimEnd_append (text : List Char) :
    trimEnd text ++ (text.reverse.takeWhile isBlank).reverse = text := by
  rw [trimEnd, ← List.reverse_append, List.takeWhile_append_dropWhile, List.reverse_reverse]

/-- Blanks at the end separate nothing. -/
theorem tokens_trimEnd (text : List Char) : tokens (trimEnd text) = tokens text := by
  have blank : ∀ c ∈ (text.reverse.takeWhile isBlank).reverse, isBlank c = true := fun c member =>
    List.all_eq_true.mp List.all_takeWhile c (List.mem_reverse.mp member)
  rw [tokens, ← tokensFrom_append_blanks blank [] (trimEnd text), trimEnd_append]
  rfl

/-- Blanks at the start separate nothing. -/
theorem tokens_trimStart (text : List Char) : tokens (trimStart text) = tokens text := by
  induction text with
  | nil => rfl
  | cons c cs ih =>
    cases blank : isBlank c with
    | true =>
      rw [trimStart, List.dropWhile_cons_of_pos blank, ← trimStart, ih]
      simp [tokens, tokensFrom, blank]
    | false => rw [trimStart, List.dropWhile_cons_of_neg (by simp [blank])]

/-- Nothing remains of a text exactly if it is blank. -/
theorem trim_eq_nil_iff (text : List Char) : trim text = [] ↔ isNonBlank text = false := by
  have rest : (∀ c ∈ trimStart text, isBlank c = true) ↔ ∀ c ∈ text, isBlank c = true := by
    constructor
    · intro blank c member
      rw [← List.takeWhile_append_dropWhile (p := isBlank) (l := text)] at member
      rcases List.mem_append.mp member with start | later
      · exact List.all_eq_true.mp List.all_takeWhile c start
      · exact blank c later
    · intro blank c member
      exact blank c ((List.dropWhile_sublist _).mem member)
  simpa [trim, trimEnd, isNonBlank] using rest

theorem dropWhile_append_solid {c : Char} (solid : isBlank c = false) (before after : List Char) :
    (before ++ c :: after).dropWhile isBlank = before.dropWhile isBlank ++ c :: after := by
  induction before with
  | nil => simp [solid]
  | cons d ds ih =>
    cases blank : isBlank d with
    | true => simpa [blank] using ih
    | false => simp [blank]

/-- What remains of a text is a part of it. -/
theorem trim_infix (text : List Char) : trim text <:+: text :=
  have start : trimStart text <:+ text := List.dropWhile_suffix isBlank
  have toEnd : trimEnd (trimStart text) <+: trimStart text := ⟨_, trimEnd_append _⟩
  toEnd.isInfix.trans start.isInfix

/-- Around a part that begins and ends with no blank, only the outer blanks are dropped. -/
theorem trim_append {first last : Char} (firstSolid : isBlank first = false)
    (lastSolid : isBlank last = false) (before after : List Char) :
    trim (before ++ first :: last :: after) =
      trimStart before ++ first :: last :: trimEnd after := by
  have reversed : (trimStart before ++ first :: last :: after).reverse =
      after.reverse ++ last :: first :: (trimStart before).reverse := by simp
  rw [trim, trimStart, dropWhile_append_solid firstSolid, ← trimStart, trimEnd, reversed,
    dropWhile_append_solid lastSolid]
  simp [trimEnd]

end GrowthGrammar.Text

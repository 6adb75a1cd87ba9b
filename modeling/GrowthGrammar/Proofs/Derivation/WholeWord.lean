import GrowthGrammar.Derivation
import GrowthGrammar.Proofs.System

/-!
# Passes that see the whole word

A pass looks at each symbol through a window: it asks how far the rules of the symbol
reach, and shows them only that much of the symbols before and after it.  `wholePass`
is the plain reading of what a pass should do.  It has no windows and no groups of
rules, but goes through all rules at every position and asks each about the whole word.

The two are the same computation for every book that holds the rules
(`pass_eq_wholePass`), and both the answers of a store and those of the rules frozen
from it are such a book.  So a registered store derives by the whole word, with the
same outcome and the same draws from every generator.
-/

namespace GrowthGrammar

/-- The book answers for the rules of a list, registered in this order. -/
structure Rulebook.Holds (book : Rulebook) (tieBreak : TieBreak) (rules : List Rule) : Prop where
  /-- The window of a symbol is the one of its rules. -/
  window (s : Symbol) :
    book.window s = .ok (Rule.windowOf (rules.filter (·.predecessor.same s)))
  /-- The candidates for a symbol are found among its rules. -/
  candidates (s : Symbol) (before after : Word) :
    book.candidates s before after =
      .ok (Rule.candidates tieBreak (rules.filter (·.predecessor.same s)) before after)

namespace RuleStore

variable {tieBreak : TieBreak} {store : RuleStore} {rules : List Rule}

/-- A store with a free lock answers for the rules that it holds. -/
theorem rulebook_holds (free : store.guarded.lock.IsFree)
    (held : store.guarded.value = RuleSet.ofList rules) :
    store.rulebook.Holds store.tieBreak rules where
  window s := by rw [rulebook_window free, held, RuleSet.window_ofList]
  candidates s before after := by rw [rulebook_candidates free, held, RuleSet.rulesOf_ofList]

/-- A store answers for the rules registered in it. -/
theorem Registered.holds (history : Registered tieBreak store rules) :
    store.rulebook.Holds tieBreak rules := by
  rw [← history.tieBreak_eq]
  exact rulebook_holds history.free history.value_eq

/-- The rules frozen from a store answer for the rules that it holds. -/
theorem frozen_holds (held : store.guarded.value = RuleSet.ofList rules) :
    store.frozen.rulebook.Holds store.tieBreak rules where
  window s := by
    simp only [FrozenRules.rulebook, FrozenRules.window, FrozenRules.rulesOf_frozen, held,
      RuleSet.rulesOf_ofList]
  candidates s before after := by
    have same : store.frozen.tieBreak = store.tieBreak := rfl
    simp only [FrozenRules.rulebook, FrozenRules.candidates, FrozenRules.rulesOf_frozen, held,
      RuleSet.rulesOf_ofList, same]

theorem Registered.frozen_holds (history : Registered tieBreak store rules) :
    store.frozen.rulebook.Holds tieBreak rules := by
  rw [← history.tieBreak_eq]
  exact RuleStore.frozen_holds history.value_eq

end RuleStore

namespace Derivation

variable {tieBreak : TieBreak} {rules : List Rule} {book : Rulebook}

/-! ## Candidates at a position -/

/-- Through its window a rule of the symbol fits just where it applies to the word. -/
theorem fits_window_eq_appliesAt {w : Word} {position : Nat} {s : Symbol}
    (here : w[position]? = some s) {r : Rule}
    (mine : r ∈ rules.filter (·.predecessor.same s)) :
    r.fits
        ((w.take position).reverse.take
          (Rule.windowOf (rules.filter (·.predecessor.same s))).1).reverse
        ((w.drop (position + 1)).take
          (Rule.windowOf (rules.filter (·.predecessor.same s))).2) =
      r.appliesAt w position := by
  obtain ⟨leftShort, rightShort⟩ := Rule.le_windowOf mine
  have same : r.predecessor.same s = true := (List.mem_filter.mp mine).2
  rw [Rule.fits_take leftShort rightShort, List.reverse_reverse, Rule.appliesAt_eq here, same,
    Bool.true_and]

/-- The candidates that a pass finds through its windows are the best of all rules at
this position of the whole word. -/
theorem candidatesAt_eq_bestAt (holds : book.Holds tieBreak rules) {w : Word} {position : Nat}
    {s : Symbol} (here : w[position]? = some s) :
    candidatesAt book (w.take position).reverse s (w.drop (position + 1)) =
      .ok (tieBreak.choose (Rule.bestAt rules w position)) := by
  have opened := holds.window s
  simp only [candidatesAt, opened, bind, Except.bind, holds.candidates, Rule.candidates_eq]
  congr 2
  rw [Rule.bestAt, List.filter_filter]
  apply List.filter_congr
  intro r member
  by_cases same : r.predecessor.same s = true
  · have mine : r ∈ rules.filter (·.predecessor.same s) := List.mem_filter.mpr ⟨member, same⟩
    rw [fits_window_eq_appliesAt here mine, same, Bool.and_true]
    congr 1
    rw [Bool.eq_iff_iff, Rule.isUnsurpassed_iff, Rule.isUnsurpassed_iff]
    constructor
    · intro unsurpassed q listed applies
      have qSame : q.predecessor.same s = true := by
        rw [Rule.appliesAt_eq here, Bool.and_eq_true] at applies
        exact applies.1
      have qMine : q ∈ rules.filter (·.predecessor.same s) := List.mem_filter.mpr ⟨listed, qSame⟩
      exact unsurpassed q qMine (by rwa [fits_window_eq_appliesAt here qMine])
    · intro unsurpassed q qMine fitting
      rw [fits_window_eq_appliesAt here qMine] at fitting
      exact unsurpassed q (List.mem_filter.mp qMine).1 fitting
  · simp [same, Rule.appliesAt_eq here]

/-! ## Passes -/

/-- Replace every symbol of a word once, asking at every position all rules of a list
about the whole word. -/
def wholePass (tieBreak : TieBreak) (rules : List Rule) (w : Word) : Draws Word := do
  let images ← w.zipIdx.mapM fun (s, position) =>
    imageOf s (tieBreak.choose (Rule.bestAt rules w position))
  return images.flatten

theorem ask_ok_bind {α β : Type} (answer : α) (f : α → Draws β) :
    (ask (.ok answer) >>= f) = f answer := rfl

-- The induction is on the symbols to come; the word is what was passed and these.
theorem passFrom_eq (holds : book.Holds tieBreak rules) (w before done rest : Word)
    (split : w = before.reverse ++ rest) :
    passFrom book before done rest = do
      let images ← (rest.zipIdx before.length).mapM fun (s, position) =>
        imageOf s (tieBreak.choose (Rule.bestAt rules w position))
      return done.reverse ++ images.flatten := by
  induction rest generalizing before done with
  | nil => simp [passFrom]
  | cons s after ih =>
    have here : w[before.length]? = some s := by simp [split]
    have shown : w.take before.length = before.reverse := by simp [split]
    have hidden : w.drop (before.length + 1) = after := by
      simp [split, List.drop_append]
    have found := candidatesAt_eq_bestAt holds here
    rw [shown, hidden, List.reverse_reverse] at found
    have later (image : Word) :=
      ih (s :: before) (image.reverse ++ done) (by simp [split])
    simp only [passFrom, found, ask_ok_bind, later, List.zipIdx_cons, List.mapM_cons, bind_assoc,
      pure_bind]
    simp

/-- A pass through windows is the pass that sees the whole word. -/
theorem pass_eq_wholePass (holds : book.Holds tieBreak rules) (w : Word) :
    pass book w = wholePass tieBreak rules w := by
  rw [pass, passFrom_eq holds w [] [] w rfl]
  rfl

/-- A registered store, and the rules frozen from it, find at every position of every
word the best of the registered rules for the whole word, and derive it as the pass
that asks for these rules one position after the other. -/
theorem registered_pass_sees_whole_word {store : RuleStore}
    (history : RuleStore.Registered tieBreak store rules) :
    ∃ frozen, RuleStore.freeze.runFrom store = (.ok frozen, store) ∧
      ∀ book ∈ [store.rulebook, frozen.rulebook],
        (∀ (w : Word) (position : Nat) (s : Symbol), w[position]? = some s →
          candidatesAt book (w.take position).reverse s (w.drop (position + 1)) =
            .ok (tieBreak.choose (Rule.bestAt rules w position))) ∧
        ∀ (w : Word) (g : Random.Generator),
          (pass book w).runFrom g = (wholePass tieBreak rules w).runFrom g := by
  refine ⟨store.frozen, RuleStore.freeze_runFrom history.free, fun book member => ?_⟩
  have holds : book.Holds tieBreak rules := by
    rcases List.mem_cons.mp member with rfl | other
    · exact history.holds
    · rw [List.mem_singleton.mp other]
      exact history.frozen_holds
  exact ⟨fun w position s here => candidatesAt_eq_bestAt holds here,
    fun w g => by rw [pass_eq_wholePass holds]⟩

/-- The store that got `X -> F` and then `F < X -> X X` finds only the second one for the
`X` in `F X`, and derives the word as the pass over the whole word does. -/
theorem registered_pass_sees_whole_word_of_two_rules :
    ∃ (store : RuleStore) (plain long : Rule),
      RuleStore.Registered .pool store [plain, long] ∧
        candidatesAt store.rulebook [⟨0, "F"⟩] ⟨1, "X"⟩ [] = .ok [long] ∧
        ∀ g : Random.Generator,
          (pass store.rulebook [⟨0, "F"⟩, ⟨1, "X"⟩]).runFrom g =
            (wholePass .pool [plain, long] [⟨0, "F"⟩, ⟨1, "X"⟩]).runFrom g := by
  let F : Symbol := ⟨0, "F"⟩
  let X : Symbol := ⟨1, "X"⟩
  let plain : Rule := ⟨X, [F], [], [], 1⟩
  let long : Rule := ⟨X, [X, X], [F], [], 1⟩
  let start : System :=
    ⟨⟨Lock.free "symbol table" .forever, .ofNames ["F", "X"]⟩, .new .pool .forever⟩
  have given (r : Rule) (only : ∀ s ∈ r.symbols, s = F ∨ s = X) : start.Knows r.symbols := by
    intro s member
    rcases only s member with rfl | rfl <;> rfl
  have first := System.add_runFrom (Lock.free_isFree _ _) (Lock.free_isFree _ _)
    (given plain (by simp [plain, Rule.symbols]))
  have second : (System.add long).runFrom (start.withRule plain) =
      (.ok long, (start.withRule plain).withRule long) :=
    System.add_runFrom (Lock.free_isFree _ _) (Lock.free_isFree _ _)
      (given long (by simp [long, Rule.symbols]))
  have history : RuleStore.Registered .pool ((start.withRule plain).withRule long).store
      [plain, long] :=
    .add (.add (.new .forever) first) second
  obtain ⟨frozen, -, same⟩ := registered_pass_sees_whole_word history
  obtain ⟨found, runs⟩ := same _ List.mem_cons_self
  exact ⟨_, plain, long, history, found [F, X] 1 X rfl, runs [F, X]⟩

end Derivation

end GrowthGrammar

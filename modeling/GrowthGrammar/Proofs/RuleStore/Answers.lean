import GrowthGrammar.Proofs.Derivation.Generations
import GrowthGrammar.Proofs.Rule.Refusal
import Mathlib.Order.Bounds.Basic
import Mathlib.Order.MinMax

/-!
# What a store answers

A store answers for the list of the rules that it has accepted (`RuleStore.Serves`): it gives
the rules of a predecessor in the order of the list, their number, a listing of all of them,
and the window of a predecessor, which reaches exactly as far as the longest contexts of its
rules.  The rules frozen from a store give the same answers (`FrozenRules.AnswersLike`), although
they measure their windows anew, and so the same derivations.

Main statement: whatever registrations a system has accepted or refused, and whatever has been
read into its table in the meantime, its store serves the accepted ones.  A rule is refused for
a symbol exactly if the table has not issued one of its symbols, and a refusal changes nothing
(`System.store_serves_accepted`).
-/

namespace GrowthGrammar

/-! ## Windows -/

namespace Rule

/-- The number is the largest of the sizes of some items, or zero if there are none. -/
def IsLargest {α : Type} (size : α → Nat) (items : List α) (n : Nat) : Prop :=
  IsGreatest (insert 0 {m | ∃ item ∈ items, size item = m}) n

theorem foldl_max_mem {α : Type} (size : α → Nat) (items : List α) (start : Nat) :
    items.foldl (fun most item => max most (size item)) start ∈
      insert start {m | ∃ item ∈ items, size item = m} := by
  induction items generalizing start with
  | nil => exact Set.mem_insert _ _
  | cons item rest ih =>
    rw [List.foldl_cons]
    rcases Set.mem_insert_iff.mp (ih (max start (size item))) with kept | ⟨other, member, found⟩
    · rw [kept]
      rcases max_choice start (size item) with first | second
      · exact Set.mem_insert_iff.mpr (.inl first)
      · exact Set.mem_insert_of_mem _ ⟨item, List.mem_cons_self, second.symm⟩
    · exact Set.mem_insert_of_mem _ ⟨other, List.mem_cons_of_mem _ member, found⟩

theorem isLargest_foldl_max {α : Type} (size : α → Nat) (items : List α) :
    IsLargest size items (items.foldl (fun most item => max most (size item)) 0) := by
  refine ⟨foldl_max_mem size items 0, ?_⟩
  rintro n (rfl | ⟨item, member, rfl⟩)
  · exact Nat.zero_le _
  · exact ((foldl_max_le_iff size items 0 _).mp (Nat.le_refl _)).2 item member

end Rule

/-! ## The answers -/

/-- The store answers for the rules of a list, registered in this order. -/
structure RuleStore.Serves (store : RuleStore) (rules : List Rule) : Prop where
  /-- The rules of a predecessor stand in the order of their registration, each as often as it
  was registered. -/
  rulesOf (s : Symbol) :
    (RuleStore.rulesOf s).runFrom store = (.ok (rules.filter (·.predecessor.same s)), store)
  /-- Their number is that of the registrations. -/
  size : RuleStore.size.runFrom store = (.ok rules.length, store)
  /-- The listing is a rearrangement that keeps the order of rules with one predecessor. -/
  toList : ∃ listed, RuleStore.toList.runFrom store = (.ok listed, store) ∧ listed.Perm rules ∧
    ∀ s, listed.filter (·.predecessor.same s) = rules.filter (·.predecessor.same s)
  /-- The window of a predecessor reaches as far as the longest contexts of its rules, and no
  further. -/
  window (s : Symbol) : ∃ left right,
    (RuleStore.window s).runFrom store = (.ok (left, right), store) ∧
    Rule.IsLargest (·.left.length) (rules.filter (·.predecessor.same s)) left ∧
    Rule.IsLargest (·.right.length) (rules.filter (·.predecessor.same s)) right

/-- The frozen rules give every answer that the store gives, and every derivation. -/
structure FrozenRules.AnswersLike (frozen : FrozenRules) (store : RuleStore) : Prop where
  /-- The windows are the same. -/
  window (s : Symbol) : (RuleStore.window s).runFrom store = (.ok (frozen.window s), store)
  /-- The rules of a predecessor are the same. -/
  rulesOf (s : Symbol) : (RuleStore.rulesOf s).runFrom store = (.ok (frozen.rulesOf s), store)
  /-- The rules that apply between two words are the same. -/
  candidates (s : Symbol) (before after : Word) :
    (RuleStore.candidates s before after).runFrom store =
      (.ok (frozen.candidates s before after), store)
  /-- The number of rules is the same. -/
  size : RuleStore.size.runFrom store = (.ok frozen.size, store)
  /-- A derivation gives the same word or the same error, with the same draws. -/
  derive (steps : Int) (w : Word) (g : Random.Generator) :
    (Derivation.derive frozen.rulebook steps w).runFrom g =
      (Derivation.derive store.rulebook steps w).runFrom g

namespace RuleStore

variable {store : RuleStore} {rules : List Rule} (free : store.guarded.lock.IsFree)
  (held : store.guarded.value = RuleSet.ofList rules)

include free held

theorem serves_of_held : store.Serves rules where
  rulesOf s := by rw [rulesOf_runFrom free, held, RuleSet.rulesOf_ofList]
  size := by rw [size_runFrom free, held, RuleSet.size, (RuleSet.toList_ofList_perm rules).length_eq]
  toList := by
    refine ⟨(RuleSet.ofList rules).toList, ?_, RuleSet.toList_ofList_perm rules, ?_⟩
    · rw [toList_runFrom free, held]
    · exact RuleSet.filter_toList_ofList rules
  window s := by
    refine ⟨_, _, ?_, Rule.isLargest_foldl_max _ _, Rule.isLargest_foldl_max _ _⟩
    rw [window_runFrom free, held, RuleSet.window_ofList, Rule.windowOf]

theorem frozen_answersLike : store.frozen.AnswersLike store where
  window s := by
    rw [window_runFrom free, FrozenRules.window, FrozenRules.rulesOf_frozen, held,
      RuleSet.window_ofList, RuleSet.rulesOf_ofList]
  rulesOf s := by rw [rulesOf_runFrom free, FrozenRules.rulesOf_frozen]
  candidates s before after := by
    rw [candidates_runFrom free, FrozenRules.candidates, FrozenRules.rulesOf_frozen]
    rfl
  size := by rw [size_runFrom free, FrozenRules.size_frozen]
  derive steps w g := by
    refine Derivation.derive_runFrom_congr fun k _ v g' _ => ?_
    -- both are the pass that asks the rules of the list about the whole word
    rw [Derivation.pass_eq_wholePass (frozen_holds held),
      Derivation.pass_eq_wholePass (rulebook_holds free held)]

end RuleStore

/-! ## Registrations that are refused -/

theorem Vocabulary.mem_symbols_iff (v : Vocabulary) (s : Symbol) :
    s ∈ v.symbols ↔ v.contains s = true := by
  rw [contains_iff, symbols_eq, List.mem_mapIdx]
  constructor
  · rintro ⟨code, inside, rfl⟩
    rw [name?_natCast, List.getElem?_eq_getElem inside]
  · intro named
    have inside := (isSome_name?_iff v s.code).mp (by rw [named]; rfl)
    obtain ⟨code, same⟩ := Int.eq_ofNat_of_zero_le inside.1
    rw [same, name?_natCast] at named
    obtain ⟨there, found⟩ := List.getElem?_eq_some_iff.mp named
    refine ⟨code, there, ?_⟩
    rw [found, ← same]

theorem Rule.kind_of_read_refused {t after : NameTable} (free : t.lock.IsFree) {text : String}
    {e : Error} (refused : (read text).runFrom t = (.error e, after)) :
    e.kind = .parsing ∨ e.kind = .invalidSettings := by
  cases found : WrittenRule.ofText text.toList with
  | error fault =>
    rw [read_runFrom_of_fault t found] at refused
    cases refused
    exact .inl rfl
  | ok written =>
    by_cases negative : written.body.weight < 0
    · rw [read_runFrom_of_negative free found negative] at refused
      cases refused
      exact .inr rfl
    · rw [read_runFrom free found negative] at refused
      cases refused

namespace System

variable {tieBreak : TieBreak} {system : System} {rules : List Rule}

theorem knows_iff (system : System) (w : Word) :
    system.Knows w ↔ ∀ s ∈ w, s ∈ system.table.value.symbols :=
  forall₂_congr fun s _ => (Vocabulary.mem_symbols_iff _ s).symm

theorem eq_of_add_refused {after : System} {r : Rule} {e : Error}
    (run : (add r).runFrom system = (.error e, after)) : after = system := by
  rcases add_cases system r with ⟨added, -⟩ | ⟨fault, refused⟩
  · rw [added] at run
    cases run
  · rw [refused] at run
    cases run
    rfl

/-- A rule is refused for a symbol exactly if the table does not list one of its symbols. -/
theorem add_unknown_iff (tableFree : system.table.lock.IsFree)
    (storeFree : system.store.guarded.lock.IsFree) (r : Rule) :
    (∃ e after, (add r).runFrom system = (.error e, after) ∧ e.kind = .unknownSymbol) ↔
      ∃ s ∈ r.symbols, s ∉ system.table.value.symbols := by
  by_cases known : system.Knows r.symbols
  case pos =>
    rw [add_runFrom tableFree storeFree known]
    rw [knows_iff] at known
    refine iff_of_false ?_ ?_
    · rintro ⟨e, after, run, -⟩
      cases run
    · rintro ⟨s, member, absent⟩
      exact absent (known s member)
  case neg =>
    obtain ⟨fault, refused⟩ := add_runFrom_of_not_knows tableFree known
    rw [knows_iff] at known
    push Not at known
    exact iff_of_true ⟨_, _, refused, rfl⟩ known

theorem kind_ne_of_addText_refused (tableFree : system.table.lock.IsFree)
    (storeFree : system.store.guarded.lock.IsFree) {after : System} {text : String} {e : Error}
    (refused : (addText text).runFrom system = (.error e, after)) : e.kind ≠ .unknownSymbol := by
  obtain ⟨read, -⟩ := read_refused_of_addText tableFree storeFree refused
  rcases Rule.kind_of_read_refused tableFree read with kind | kind
  · rw [kind]
    decide
  · rw [kind]
    decide

/-- In every reached system whose locks are free, the store serves the accepted rules, and rules
that are frozen now answer like it.  Registering a rule fails for a symbol exactly if the table
does not list a symbol of the rule with its code and its name, and then nothing has changed;
otherwise the rule is served behind all others.  A text is never refused for a symbol. -/
theorem store_serves_accepted (reached : Reached tieBreak system rules)
    (tableFree : system.table.lock.IsFree) (storeFree : system.store.guarded.lock.IsFree) :
    system.store.Serves rules ∧
      (∃ frozen, RuleStore.freeze.runFrom system.store = (.ok frozen, system.store) ∧
        frozen.AnswersLike system.store) ∧
      (∀ r, ((∃ e after, (add r).runFrom system = (.error e, after) ∧ e.kind = .unknownSymbol) ↔
          ∃ s ∈ r.symbols, s ∉ system.table.value.symbols) ∧
        (∀ e after, (add r).runFrom system = (.error e, after) → after = system) ∧
        ((∀ s ∈ r.symbols, s ∈ system.table.value.symbols) →
          ∃ after, (add r).runFrom system = (.ok r, after) ∧ after.table = system.table ∧
            after.store.Serves (rules ++ [r]))) ∧
      ∀ text e after, (addText text).runFrom system = (.error e, after) →
        e.kind ≠ .unknownSymbol := by
  have held := reached.closed.value_eq
  refine ⟨RuleStore.serves_of_held storeFree held,
    ⟨_, RuleStore.freeze_runFrom storeFree, RuleStore.frozen_answersLike storeFree held⟩,
    fun r => ⟨add_unknown_iff tableFree storeFree r, fun e after => eq_of_add_refused,
      fun all => ?_⟩,
    fun text e after => kind_ne_of_addText_refused tableFree storeFree⟩
  have known : system.Knows r.symbols := (knows_iff system r.symbols).mpr all
  have heldAfter : (system.withRule r).store.guarded.value = RuleSet.ofList (rules ++ [r]) := by
    rw [RuleSet.ofList_append_singleton, ← held]
    rfl
  exact ⟨_, add_runFrom tableFree storeFree known, rfl,
    RuleStore.serves_of_held storeFree heldAfter⟩

/-- A system that has accepted `X -> F`, `X < F -> X` and `X -> F` once more has the first one
twice, and refuses a rule with a symbol that looks like `X` but has another code. -/
theorem store_serves_accepted_of_repeated_rule :
    ∃ (system : System) (plain long foreign : Rule), Reached .pool system [plain, long, plain] ∧
      system.store.Serves [plain, long, plain] ∧
      (RuleStore.rulesOf ⟨1, "X"⟩).runFrom system.store = (.ok [plain, plain], system.store) ∧
      foreign.successor = [⟨2, "X"⟩] ∧
      ∃ e, (add foreign).runFrom system = (.error e, system) ∧ e.kind = .unknownSymbol := by
  let plain : Rule := ⟨⟨1, "X"⟩, [⟨0, "F"⟩], [], [], 1⟩
  let long : Rule := ⟨⟨0, "F"⟩, [⟨1, "X"⟩], [⟨1, "X"⟩], [], 0.5⟩
  let foreign : Rule := ⟨⟨0, "F"⟩, [⟨2, "X"⟩], [], [], 1⟩
  let system := ofRules .pool ["F", "X"] [plain, long, plain]
  have weighted : ∀ r ∈ [plain, long, plain], r.IsWeighted := by
    simp only [Rule.isWeighted_iff]
    decide
  have reached : Reached .pool system [plain, long, plain] :=
    reached_ofRules ⟨by decide, by decide⟩ weighted (by decide)
  obtain ⟨serves, -, registers, -⟩ :=
    store_serves_accepted reached (Lock.free_isFree _ _) (Lock.free_isFree _ _)
  obtain ⟨refused, unchanged, -⟩ := registers foreign
  obtain ⟨e, after, run, kind⟩ :=
    refused.mpr ⟨⟨2, "X"⟩, by simp [foreign, Rule.symbols],
      (Vocabulary.mem_symbols_iff _ _).not.mpr (by decide)⟩
  obtain rfl := unchanged e after run
  exact ⟨_, plain, long, foreign, reached, serves, serves.rulesOf ⟨1, "X"⟩, rfl, e, run, kind⟩

end System

end GrowthGrammar

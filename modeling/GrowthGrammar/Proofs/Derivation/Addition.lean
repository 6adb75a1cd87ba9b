import GrowthGrammar.Proofs.Derivation.Draws
import GrowthGrammar.Proofs.Derivation.Order

/-!
# One more rule

What does a rule change that is registered behind others?  It may widen the window of its
predecessor, so all rules of that predecessor are shown more of the word than before; but what a
rule is shown beyond its contexts does not count, and the best rules at a position are the best for
the whole word.  So only the specificities at that position matter.

* Where the rule does not apply, or a more specific one does, the best rules stay as they were
  (`Rule.bestAt_append_of_surpassed`).
* Where it applies and is more specific than every other rule that does, it is the only one
  (`Rule.bestAt_append_of_leads`).

Main statement: a rule that is surpassed wherever it applies changes nothing in a pass, neither the
outcome nor the draws, and a rule that leads at a position decides what the pass puts there
(`Derivation.pass_after_add`).
-/

namespace GrowthGrammar

open GrowthGrammar.Random (Generator)

namespace Rule

variable {rules : List Rule} {r : Rule} {w : Word} {position : Nat}

/-! ## Surpassed and leading rules -/

/-- Wherever the rule applies to the word, so does a more specific rule of the list. -/
def IsSurpassed (rules : List Rule) (w : Word) (r : Rule) : Prop :=
  ∀ position : Nat, r.appliesAt w position = true →
    ∃ q ∈ rules, q.appliesAt w position = true ∧ r.specificity < q.specificity

/-- The rule applies at a position, and every rule of the list that does is less specific. -/
def Leads (rules : List Rule) (w : Word) (position : Nat) (r : Rule) : Prop :=
  r.appliesAt w position = true ∧
    ∀ q ∈ rules, q.appliesAt w position = true → q.specificity < r.specificity

theorem exists_of_appliesAt (applies : r.appliesAt w position = true) :
    ∃ s, w[position]? = some s := by
  cases here : w[position]? with
  | some s => exact ⟨s, rfl⟩
  | none => simp [appliesAt, here] at applies

/-- The rule applies at a position, and no rule of the list that does is more specific. -/
def isBestAt (rules : List Rule) (w : Word) (position : Nat) (r : Rule) : Bool :=
  r.appliesAt w position && isUnsurpassed (·.appliesAt w position) rules r

theorem isBestAt_append_singleton_iff (rules : List Rule) (w : Word) (position : Nat)
    (r q : Rule) : isBestAt (rules ++ [r]) w position q = true ↔
      isBestAt rules w position q = true ∧
        (r.appliesAt w position = true → r.specificity ≤ q.specificity) := by
  simp only [isBestAt, Bool.and_eq_true, isUnsurpassed_iff, List.forall_mem_append,
    List.forall_mem_singleton, and_assoc]

theorem bestAt_append_singleton (rules : List Rule) (w : Word) (position : Nat) (r : Rule) :
    bestAt (rules ++ [r]) w position = rules.filter (isBestAt (rules ++ [r]) w position) ++
      if isBestAt (rules ++ [r]) w position r then [r] else [] :=
  (List.filter_append _ _).trans (congrArg _ List.filter_cons)

/-- A rule that is surpassed where it applies is not among the best, and hides none of them. -/
theorem bestAt_append_of_surpassed
    (surpassed : r.appliesAt w position = true →
      ∃ q ∈ rules, q.appliesAt w position = true ∧ r.specificity < q.specificity) :
    bestAt (rules ++ [r]) w position = bestAt rules w position := by
  have more {q : Rule} (best : isBestAt rules w position q = true)
      (applies : r.appliesAt w position = true) : r.specificity < q.specificity := by
    obtain ⟨p, member, there, longer⟩ := surpassed applies
    rw [isBestAt, Bool.and_eq_true, isUnsurpassed_iff] at best
    exact Nat.lt_of_lt_of_le longer (best.2 p member there)
  have absent : ¬ isBestAt (rules ++ [r]) w position r = true := by
    rw [isBestAt_append_singleton_iff]
    rintro ⟨best, -⟩
    exact absurd (more best (Bool.and_eq_true_iff.mp best).1) (Nat.lt_irrefl _)
  rw [bestAt_append_singleton, if_neg absent, List.append_nil]
  refine List.filter_congr fun q _ => ?_
  rw [Bool.eq_iff_iff, isBestAt_append_singleton_iff]
  exact and_iff_left_of_imp fun best applies => Nat.le_of_lt (more best applies)

/-- A rule that leads at a position is the only best one there. -/
theorem bestAt_append_of_leads (leads : r.Leads rules w position) :
    bestAt (rules ++ [r]) w position = [r] := by
  obtain ⟨applies, others⟩ := leads
  have best : isBestAt (rules ++ [r]) w position r = true := by
    rw [isBestAt_append_singleton_iff, isBestAt, Bool.and_eq_true, isUnsurpassed_iff]
    exact ⟨⟨applies, fun q member there => Nat.le_of_lt (others q member there)⟩,
      fun _ => Nat.le_refl _⟩
  have rest : rules.filter (isBestAt (rules ++ [r]) w position) = [] := by
    rw [List.filter_eq_nil_iff]
    intro q member
    rw [isBestAt_append_singleton_iff, isBestAt, Bool.and_eq_true]
    rintro ⟨⟨there, -⟩, atLeast⟩
    exact absurd (atLeast applies) (Nat.not_le_of_lt (others q member there))
  rw [bestAt_append_singleton, rest, if_pos best, List.nil_append]

end Rule

theorem TieBreak.choose_singleton {α : Type} (tieBreak : TieBreak) (a : α) :
    tieBreak.choose [a] = [a] := by
  cases tieBreak <;> rfl

namespace RuleStore

variable {tieBreak : TieBreak} {store : RuleStore} {rules : List Rule}

/-- A store and the rules frozen from it both answer for the registered rules. -/
theorem Registered.holds_of_mem (history : Registered tieBreak store rules) :
    ∀ book ∈ [store.rulebook, store.frozen.rulebook], book.Holds tieBreak rules := by
  intro book member
  rcases List.mem_cons.mp member with rfl | member
  · exact history.holds
  · rw [List.mem_singleton.mp member]
    exact history.frozen_holds

end RuleStore

namespace Derivation

variable {tieBreak : TieBreak} {rules : List Rule} {r : Rule} {book : Rulebook} {w : Word}
  {position : Nat}

/-! ## Passes with one more rule -/

/-- A leading rule is the only candidate at its position. -/
theorem candidatesAt_of_leads (holds : book.Holds tieBreak (rules ++ [r]))
    (leads : r.Leads rules w position) {s : Symbol} (here : w[position]? = some s) :
    candidatesAt book (w.take position).reverse s (w.drop (position + 1)) = .ok [r] := by
  rw [candidatesAt_eq_bestAt holds here, Rule.bestAt_append_of_leads leads,
    TieBreak.choose_singleton]

theorem getElem?_imagesUnder {g : Generator} {sets : List (List Rule)} {s : Symbol}
    {candidates : List Rule} (here : w[position]? = some s)
    (found : sets[position]? = some candidates) :
    (imagesUnder g w sets)[position]? =
      some (imageUnder (g.drawAt (choices (sets.take position))) s candidates) := by
  have both : (w.zip sets)[position]? = some (s, candidates) :=
    List.getElem?_zip_eq_some.mpr ⟨here, found⟩
  rw [imagesUnder, List.getElem?_mapIdx, both, Option.map_some]

/-- Where a pass found one candidate only, there stands its successor. -/
theorem TookDraws.image_of_single {g g' : Generator} {v : Word} {sets : List (List Rule)}
    (took : TookDraws book w g v g' sets) {s : Symbol} (here : w[position]? = some s)
    (single : candidatesAt book (w.take position).reverse s (w.drop (position + 1)) = .ok [r]) :
    (imagesUnder g w sets)[position]? = some r.successor := by
  have inside : position < sets.length := by
    rw [took.length]
    exact (List.getElem?_eq_some_iff.mp here).1
  have found := List.getElem?_eq_getElem inside
  have only : sets[position] = [r] :=
    Except.ok.inj ((took.candidates position s _ here found).symm.trans single)
  rw [getElem?_imagesUnder here found, only]
  rfl

/-- A rule is registered behind others.  If it is surpassed wherever it applies to a word, then a
pass over the word ends as before, with the same word or error and the same draws.  Where it leads,
it is the only candidate, and a pass that succeeds puts its successor there.  Both hold of the
stores and of the rules frozen from them, however far the new rule widens a window. -/
theorem pass_after_add {before after : System}
    (history : RuleStore.Registered tieBreak before.store rules)
    (accepted : (System.add r).runFrom before = (.ok r, after)) (w : Word) :
    ∀ book ∈ [before.store.rulebook, before.store.frozen.rulebook],
      ∀ book' ∈ [after.store.rulebook, after.store.frozen.rulebook],
        (r.IsSurpassed rules w → ∀ g, (pass book' w).runFrom g = (pass book w).runFrom g) ∧
        ∀ position, r.Leads rules w position → ∃ s, w[position]? = some s ∧
          candidatesAt book' (w.take position).reverse s (w.drop (position + 1)) = .ok [r] ∧
          ∀ g v g', (pass book' w).runFrom g = (.ok v, g') → ∃ sets,
            TookDraws book' w g v g' sets ∧
              (imagesUnder g w sets)[position]? = some r.successor := by
  intro book member book' member'
  have holds := history.holds_of_mem book member
  have holds' := (RuleStore.Registered.add history accepted).holds_of_mem book' member'
  refine ⟨fun surpassed g => ?_, fun position leads => ?_⟩
  · rw [pass_eq_wholePass holds, pass_eq_wholePass holds', wholePass_congr fun position =>
      Rule.bestAt_append_of_surpassed (surpassed position)]
  · obtain ⟨s, here⟩ := Rule.exists_of_appliesAt leads.1
    have single := candidatesAt_of_leads holds' leads here
    refine ⟨s, here, single, fun g v g' run => ?_⟩
    obtain ⟨sets, took⟩ := tookDraws_of_pass run
    exact ⟨sets, took, took.image_of_single here single⟩

/-- `X > F F -> F` comes behind `F < X -> X` and `F F F < X -> X X`, and is the first rule to look
to the right.  The pass over `F F F X F F` stays as it was, since the longest context wins there; in
`F X F F` the new rule is the only candidate for the `X`. -/
theorem pass_after_add_of_right_context :
    ∃ (before after : System) (r : Rule) (rules : List Rule) (F X : Symbol),
      RuleStore.Registered .pool before.store rules ∧
        (System.add r).runFrom before = (.ok r, after) ∧
        (∀ g, (pass after.store.rulebook [F, F, F, X, F, F]).runFrom g =
          (pass before.store.rulebook [F, F, F, X, F, F]).runFrom g) ∧
        candidatesAt after.store.rulebook [F] X [F, F] = .ok [r] := by
  let F : Symbol := ⟨0, "F"⟩
  let X : Symbol := ⟨1, "X"⟩
  let near : Rule := ⟨X, [X], [F], [], 1⟩
  let far : Rule := ⟨X, [X, X], [F, F, F], [], 1⟩
  let r : Rule := ⟨X, [F], [], [F, F], 1⟩
  let start : System :=
    ⟨⟨Lock.free "symbol table" .forever, .ofNames ["F", "X"]⟩, .new .pool .forever⟩
  have given (q : Rule) (only : ∀ s ∈ q.symbols, s = F ∨ s = X) : start.Knows q.symbols := by
    intro s member
    rcases only s member with rfl | rfl <;> rfl
  have first := System.add_runFrom (Lock.free_isFree _ _) (Lock.free_isFree _ _)
    (given near (by simp [near, Rule.symbols]))
  have second : (System.add far).runFrom (start.withRule near) =
      (.ok far, (start.withRule near).withRule far) :=
    System.add_runFrom (Lock.free_isFree _ _) (Lock.free_isFree _ _)
      (given far (by simp [far, Rule.symbols]))
  have accepted : (System.add r).runFrom ((start.withRule near).withRule far) =
      (.ok r, ((start.withRule near).withRule far).withRule r) :=
    System.add_runFrom (Lock.free_isFree _ _) (Lock.free_isFree _ _)
      (given r (by simp [r, Rule.symbols]))
  have history : RuleStore.Registered .pool ((start.withRule near).withRule far).store
      [near, far] :=
    .add (.add (.new .forever) first) second
  have everywhere : ∀ position : Nat, position < 6 →
      r.appliesAt [F, F, F, X, F, F] position = true →
        far.appliesAt [F, F, F, X, F, F] position = true := by decide
  have surpassed : r.IsSurpassed [near, far] [F, F, F, X, F, F] := by
    intro position applies
    obtain ⟨s, found⟩ := Rule.exists_of_appliesAt applies
    have inside : position < 6 := (List.getElem?_eq_some_iff.mp found).1
    exact ⟨far, by simp, everywhere position inside applies, by decide⟩
  have leads : r.Leads [near, far] [F, X, F, F] 1 := ⟨by decide, by decide⟩
  obtain ⟨same, -⟩ := pass_after_add history accepted [F, F, F, X, F, F] _ List.mem_cons_self _
    List.mem_cons_self
  obtain ⟨-, alone⟩ := pass_after_add history accepted [F, X, F, F] _ List.mem_cons_self _
    List.mem_cons_self
  obtain ⟨s, here, single, -⟩ := alone 1 leads
  obtain rfl := Option.some.inj here
  exact ⟨_, _, r, [near, far], F, X, history, accepted, same surpassed, single⟩

end Derivation

end GrowthGrammar

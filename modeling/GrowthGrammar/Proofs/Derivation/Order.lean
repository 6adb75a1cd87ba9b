import GrowthGrammar.Proofs.Derivation.Generations

/-!
# The order of registrations

How much of the order in which rules were registered can be seen in a derivation?  A source of
rules is asked for one predecessor at a time, so it answers alike for all lists that have the
rules of each predecessor in the same order (`Rule.SameOrder`): how the rules of different
predecessors alternate does not count, neither for the windows nor for the candidates.

The best rules at a position are those that no other one exceeds, and that is a matter of which
rules there are and not of their order (`Rule.bestAt_perm`).  Where there is one best rule at
most, there is nothing to order, and no tie-break and no draw to decide it.

Main statement: a rearrangement of the registrations that keeps the order within each predecessor
gives the same derivations, and any rearrangement gives the same derivation as long as no two
rules are best at one position (`Derivation.derive_of_rearranged`).
-/

namespace GrowthGrammar

open GrowthGrammar.Random (Generator)

/-! ## Order within a predecessor -/

/-- Both lists have the rules of each predecessor in the same order. -/
def Rule.SameOrder (rules rules' : List Rule) : Prop :=
  ∀ s : Symbol, rules.filter (·.predecessor.same s) = rules'.filter (·.predecessor.same s)

/-- Neighbours with different predecessors may change their places. -/
theorem Rule.SameOrder.swap {q r : Rule} (different : ¬ q.predecessor.same r.predecessor = true)
    (before after : List Rule) :
    SameOrder (before ++ q :: r :: after) (before ++ r :: q :: after) := by
  intro s
  rw [List.filter_append, List.filter_append]
  by_cases first : q.predecessor.same s = true
  · have second : ¬ r.predecessor.same s = true := by
      rw [Symbol.same_iff] at first different ⊢
      exact fun second => different (first.trans second.symm)
    simp only [List.filter_cons, first, second, Bool.false_eq_true, if_true, if_false]
  · simp only [List.filter_cons, first, Bool.false_eq_true, if_false]

theorem Rulebook.Holds.of_sameOrder {book : Rulebook} {tieBreak : TieBreak}
    {rules rules' : List Rule} (holds : book.Holds tieBreak rules)
    (order : Rule.SameOrder rules rules') : book.Holds tieBreak rules' where
  window s := by rw [holds.window, order s]
  candidates s before after := by rw [holds.candidates, order s]

/-! ## The best rules in another order -/

namespace Rule

variable {rules rules' : List Rule}

theorem isUnsurpassed_perm (perm : rules.Perm rules') (test : Rule → Bool) (r : Rule) :
    isUnsurpassed test rules r = isUnsurpassed test rules' r := by
  rw [Bool.eq_iff_iff, isUnsurpassed_iff, isUnsurpassed_iff]
  exact forall_congr' fun q => imp_congr_left perm.mem_iff

theorem bestAt_perm (perm : rules.Perm rules') (w : Word) (position : Nat) :
    (bestAt rules w position).Perm (bestAt rules' w position) := by
  have best : (fun r : Rule => r.appliesAt w position &&
      isUnsurpassed (·.appliesAt w position) rules r) = fun r =>
        r.appliesAt w position && isUnsurpassed (·.appliesAt w position) rules' r :=
    funext fun r => congrArg _ (isUnsurpassed_perm perm _ r)
  rw [bestAt, bestAt, best]
  exact perm.filter _

/-- Where one rule at most is best, it is the same one in every order of the rules. -/
theorem bestAt_eq_of_perm (perm : rules.Perm rules') {w : Word} {position : Nat}
    (single : (bestAt rules w position).length ≤ 1) :
    bestAt rules w position = bestAt rules' w position := by
  have best := bestAt_perm perm w position
  match found : bestAt rules w position with
  | [] =>
    rw [found] at best
    exact (List.nil_perm.mp best).symm
  | [r] =>
    rw [found] at best
    exact List.singleton_perm.mp best
  | first :: second :: rest =>
    rw [found] at single
    exact absurd single (by simp)

end Rule

/-! ## Derivations -/

/-- The live store of a closed system and the rules frozen from it both answer for its rules. -/
theorem System.Closed.holds_of_mem {tieBreak : TieBreak} {system : System} {rules : List Rule}
    (closed : Closed tieBreak system rules) (free : system.store.guarded.lock.IsFree) :
    ∀ book ∈ [system.store.rulebook, system.store.frozen.rulebook], book.Holds tieBreak rules := by
  intro book member
  rcases List.mem_cons.mp member with rfl | member
  · rw [← closed.tieBreak_eq]
    exact RuleStore.rulebook_holds free closed.value_eq
  · rw [List.mem_singleton.mp member]
    exact closed.frozen_holds

namespace Derivation

variable {tieBreak : TieBreak} {rules rules' : List Rule} {book book' : Rulebook}

theorem wholePass_congr {w : Word}
    (best : ∀ position, Rule.bestAt rules w position = Rule.bestAt rules' w position) :
    wholePass tieBreak rules w = wholePass tieBreak rules' w := by
  rw [wholePass, wholePass]
  simp only [best]

theorem derive_runFrom_of_sameOrder (holds : book.Holds tieBreak rules)
    (holds' : book'.Holds tieBreak rules') (order : Rule.SameOrder rules rules') (steps : Int)
    (w : Word) (g : Generator) :
    (derive book steps w).runFrom g = (derive book' steps w).runFrom g := by
  refine derive_runFrom_congr fun k _ v g' _ => ?_
  rw [pass_eq_wholePass (holds.of_sameOrder order), pass_eq_wholePass holds']

/-- As long as no two rules are best at one position, their order does not matter. -/
theorem derive_runFrom_of_perm (holds : book.Holds tieBreak rules)
    (holds' : book'.Holds tieBreak rules') (perm : rules.Perm rules') {steps : Int} {w : Word}
    {g : Generator}
    (undisputed : ∀ k : Nat, k < steps → ∀ v g', (passes book k w).runFrom g = (.ok v, g') →
      Rule.Undisputed rules v) :
    (derive book steps w).runFrom g = (derive book' steps w).runFrom g := by
  refine derive_runFrom_congr fun k below v g' generation => ?_
  rw [pass_eq_wholePass holds, pass_eq_wholePass holds']
  exact wholePass_congr fun position =>
    Rule.bestAt_eq_of_perm perm (undisputed k below v g' generation position)

/-- Two systems have accepted the same rules, one of them in another order than the other.  If
the order of the rules of each predecessor is the same, then their stores, and the rules frozen
from these, derive every word alike, with the same outcome and the same draws.  If it is not,
they still derive a word alike if no position of any generation has two rules among the best. -/
theorem derive_of_rearranged {system system' : System}
    (reached : System.Reached tieBreak system rules)
    (reached' : System.Reached tieBreak system' rules')
    (free : system.store.guarded.lock.IsFree) (free' : system'.store.guarded.lock.IsFree)
    (perm : rules.Perm rules') (steps : Int) (w : Word) (g : Generator)
    (order : Rule.SameOrder rules rules' ∨
      ∀ k : Nat, k < steps → ∀ v g',
        (passes system.store.rulebook k w).runFrom g = (.ok v, g') → Rule.Undisputed rules v) :
    ∀ book ∈ [system.store.rulebook, system.store.frozen.rulebook],
      ∀ book' ∈ [system'.store.rulebook, system'.store.frozen.rulebook],
        (derive book steps w).runFrom g = (derive book' steps w).runFrom g := by
  intro book member book' member'
  have live := reached.closed.holds_of_mem free _ List.mem_cons_self
  have holds := reached.closed.holds_of_mem free book member
  have holds' := reached'.closed.holds_of_mem free' book' member'
  rcases order with within | undisputed
  · exact derive_runFrom_of_sameOrder holds holds' within steps w g
  · calc (derive book steps w).runFrom g
        = (derive system.store.rulebook steps w).runFrom g :=
          derive_runFrom_of_sameOrder holds live (fun _ => rfl) steps w g
      _ = (derive book' steps w).runFrom g := derive_runFrom_of_perm live holds' perm undisputed

/-- A rule for `F` may come between two rules for `X` or behind them: under every tie-break `X`
derives alike. -/
theorem derive_of_rearranged_of_two_predecessors :
    ∃ first second other : Rule, first ≠ second ∧ other.predecessor ≠ first.predecessor ∧
      ∀ (tieBreak : TieBreak) (g : Generator), ∃ system system' : System,
        System.Reached tieBreak system [first, second, other] ∧
        System.Reached tieBreak system' [first, other, second] ∧
        (derive system.store.rulebook 3 [⟨1, "X"⟩]).runFrom g =
          (derive system'.store.frozen.rulebook 3 [⟨1, "X"⟩]).runFrom g := by
  let first : Rule := ⟨⟨1, "X"⟩, [⟨0, "F"⟩], [], [], 1⟩
  let second : Rule := ⟨⟨1, "X"⟩, [⟨0, "F"⟩, ⟨1, "X"⟩], [], [], 1⟩
  let other : Rule := ⟨⟨0, "F"⟩, [⟨1, "X"⟩], [], [], 1⟩
  have weighted : ∀ r ∈ [first, second, other], r.IsWeighted := by
    simp only [Rule.isWeighted_iff]
    decide
  have perm : [first, second, other].Perm [first, other, second] := .cons first (.swap _ _ _)
  refine ⟨first, second, other, ?_, by decide, fun tieBreak g => ?_⟩
  · intro same
    exact absurd (congrArg Rule.successor same) (by decide)
  have reached : System.Reached tieBreak
      (System.ofRules tieBreak ["F", "X"] [first, second, other]) [first, second, other] :=
    System.reached_ofRules ⟨by decide, by decide⟩ weighted (by decide)
  have reached' : System.Reached tieBreak
      (System.ofRules tieBreak ["F", "X"] [first, other, second]) [first, other, second] :=
    System.reached_ofRules ⟨by decide, by decide⟩
      (fun r member => weighted r (perm.mem_iff.mpr member)) (by decide)
  have within : Rule.SameOrder [first, second, other] [first, other, second] :=
    .swap (by decide) [first] []
  exact ⟨_, _, reached, reached', derive_of_rearranged reached reached' (Lock.free_isFree _ _)
    (Lock.free_isFree _ _) perm 3 _ g (.inl within) _ List.mem_cons_self _
    (List.mem_cons_of_mem _ List.mem_cons_self)⟩

end Derivation

end GrowthGrammar

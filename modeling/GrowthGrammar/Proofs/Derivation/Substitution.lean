import GrowthGrammar.Proofs.Derivation.Addition
import Mathlib.Algebra.BigOperators.Group.Finset.Basic
import Mathlib.Algebra.GroupWithZero.Nat

/-!
# Derivation as substitution

If no rule asks for a context and each predecessor is left with one rule, then what a symbol becomes
depends on its code alone: all rules of a predecessor fit everywhere and have the same specificity,
so the candidates are the same at every position (`candidatesAt_eq_choose`), and there is nothing to
draw.  A pass puts the same word for a symbol wherever it stands (`pass_eq_pure_flatMap`), and so do
several passes (`passes_eq_pure_grown`).

Such a substitution goes through concatenation (`grown_append`), so a generation is put together
from those of the single symbols.  How often a code occurs in the next generation is a sum over the
codes of this one, with coefficients that the rules give once and for all (`count_substitute`,
`length_substitute`).

Main statement: `derives_by_substitution`.
-/

namespace GrowthGrammar

open GrowthGrammar.Random (Generator)

namespace Rule

/-! ## Rules without contexts -/

/-- No rule asks for a context, and one rule at most is left for each predecessor: the tie-break
keeps one, or there is one. -/
structure AreSubstitutive (tieBreak : TieBreak) (rules : List Rule) : Prop where
  ignoresContext : ∀ r ∈ rules, r.ignoresContext = true
  single : tieBreak = .latest ∨ tieBreak = .earliest ∨
    rules.Pairwise fun q r => ¬ q.predecessor.same r.predecessor = true

theorem specificity_eq_zero {r : Rule} (ignores : r.ignoresContext = true) : r.specificity = 0 :=
  eq_of_beq ignores

theorem fits_of_ignoresContext {r : Rule} (ignores : r.ignoresContext = true)
    (before after : Word) : r.fits before after = true := by
  have sum := specificity_eq_zero ignores
  have left : r.left = [] := List.eq_nil_of_length_eq_zero (Nat.eq_zero_of_add_eq_zero_right sum)
  have right : r.right = [] := List.eq_nil_of_length_eq_zero (Nat.eq_zero_of_add_eq_zero_left sum)
  simp [fits, left, right, Word.isEndOf, Word.isStartOf, Word.codes]

/-- Rules without contexts are all candidates everywhere, as far as the tie-break leaves them. -/
theorem candidates_of_ignoresContext {rules : List Rule}
    (ignore : ∀ r ∈ rules, r.ignoresContext = true) (tieBreak : TieBreak) (before after : Word) :
    candidates tieBreak rules before after = tieBreak.choose rules := by
  have fitting : rules.filter (fun r => r.fits before after) = rules :=
    List.filter_eq_self.mpr fun r member => fits_of_ignoresContext (ignore r member) before after
  have top : topSpecificity rules = 0 :=
    Nat.le_zero.mp ((top_le_iff rules 0).mpr fun r member =>
      (specificity_eq_zero (ignore r member)).le)
  have best : rules.filter (fun r => r.specificity == topSpecificity rules) = rules :=
    List.filter_eq_self.mpr fun r member => by
      rw [top, specificity_eq_zero (ignore r member)]
      rfl
  rw [candidates]
  simp only [fitting, best]

/-- The rules of a predecessor, of which no two have the same one, are one at most. -/
theorem length_filter_le_one_of_pairwise {rules : List Rule}
    (apart : rules.Pairwise fun q r => ¬ q.predecessor.same r.predecessor = true) (s : Symbol) :
    (rules.filter (·.predecessor.same s)).length ≤ 1 := by
  have alone : (rules.filter (·.predecessor.same s)).Pairwise fun _ _ => False := by
    refine (apart.filter _).imp_of_mem fun first second different => ?_
    rw [List.mem_filter, Symbol.same_iff] at first second
    exact different (Symbol.same_iff.mpr (first.2.trans second.2.symm))
  generalize rules.filter (·.predecessor.same s) = mine at alone ⊢
  match mine with
  | [] => exact Nat.zero_le 1
  | [r] => exact Nat.le_refl 1
  | q :: r :: rest => exact ((List.pairwise_cons.mp alone).1 r List.mem_cons_self).elim

theorem AreSubstitutive.length_choose_le_one {tieBreak : TieBreak} {rules : List Rule}
    (substitutive : AreSubstitutive tieBreak rules) (s : Symbol) :
    (tieBreak.choose (rules.filter (·.predecessor.same s))).length ≤ 1 := by
  have apart : tieBreak = .pool → (rules.filter (·.predecessor.same s)).length ≤ 1 := by
    intro pool
    rcases substitutive.single with rfl | rfl | apart
    · cases pool
    · cases pool
    · exact length_filter_le_one_of_pairwise apart s
  cases tieBreak with
  | pool => exact apart rfl
  | latest => exact Option.length_toList_le
  | earliest => exact Option.length_toList_le

end Rule

namespace Derivation

variable {tieBreak : TieBreak} {rules : List Rule} {book : Rulebook}

/-! ## What a symbol becomes -/

/-- The rule that is left for a code. -/
def chosenFor (tieBreak : TieBreak) (rules : List Rule) (code : Int) : Option Rule :=
  (tieBreak.choose (rules.filter (·.predecessor.code == code))).head?

/-- What a symbol is replaced by: the successor of the rule that is left for it, or itself. -/
def substitute (tieBreak : TieBreak) (rules : List Rule) (s : Symbol) : Word :=
  ((chosenFor tieBreak rules s.code).map Rule.successor).getD [s]

/-- A word after a number of substitutions. -/
def grown (tieBreak : TieBreak) (rules : List Rule) : Nat → Word → Word
  | 0, w => w
  | n + 1, w => grown tieBreak rules n (w.flatMap (substitute tieBreak rules))

theorem imageUnder_of_few (u : Float) (s : Symbol) {candidates : List Rule}
    (few : candidates.length ≤ 1) :
    imageUnder u s candidates = (candidates.head?.map Rule.successor).getD [s] := by
  match candidates with
  | [] => rfl
  | [r] => rfl
  | first :: second :: rest => simp at few

/-- The candidates for a symbol do not depend on what stands around it. -/
theorem candidatesAt_eq_choose (holds : book.Holds tieBreak rules)
    (ignore : ∀ r ∈ rules, r.ignoresContext = true) (before : Word) (s : Symbol) (after : Word) :
    candidatesAt book before s after =
      .ok (tieBreak.choose (rules.filter (·.predecessor.same s))) := by
  have mine : ∀ r ∈ rules.filter (·.predecessor.same s), r.ignoresContext = true :=
    fun r member => ignore r (List.mem_filter.mp member).1
  have found (left right : Word) := holds.candidates s left right
  simp only [Rule.candidates_of_ignoresContext mine] at found
  rw [candidatesAt, holds.window]
  exact found _ _

theorem imageOf_choose (substitutive : Rule.AreSubstitutive tieBreak rules) (s : Symbol) :
    imageOf s (tieBreak.choose (rules.filter (·.predecessor.same s))) =
      pure (substitute tieBreak rules s) := by
  have few := substitutive.length_choose_le_one s
  rw [imageOf_eq_pure few, imageUnder_of_few 0 s few]
  rfl

/-! ## Passes -/

-- The induction is on the symbols to come; what was passed does not count.
theorem passFrom_eq_pure (holds : book.Holds tieBreak rules)
    (substitutive : Rule.AreSubstitutive tieBreak rules) (before done w : Word) :
    passFrom book before done w =
      pure (done.reverse ++ w.flatMap (substitute tieBreak rules)) := by
  induction w generalizing before done with
  | nil => rw [passFrom, List.flatMap_nil, List.append_nil]
  | cons s after ih =>
    rw [passFrom, candidatesAt_eq_choose holds substitutive.ignoresContext, ask_ok_bind,
      imageOf_choose substitutive, pure_bind, ih, List.reverse_append, List.reverse_reverse,
      List.append_assoc, List.flatMap_cons]

/-- A pass substitutes every symbol, and draws nothing. -/
theorem pass_eq_pure_flatMap (holds : book.Holds tieBreak rules)
    (substitutive : Rule.AreSubstitutive tieBreak rules) (w : Word) :
    pass book w = pure (w.flatMap (substitute tieBreak rules)) :=
  passFrom_eq_pure holds substitutive [] [] w

theorem passes_eq_pure_grown (holds : book.Holds tieBreak rules)
    (substitutive : Rule.AreSubstitutive tieBreak rules) (n : Nat) (w : Word) :
    passes book n w = pure (grown tieBreak rules n w) := by
  induction n generalizing w with
  | zero => rfl
  | succ n ih => rw [passes_succ, pass_eq_pure_flatMap holds substitutive, pure_bind, ih, grown]

/-! ## Concatenation -/

theorem grown_append (n : Nat) (v w : Word) :
    grown tieBreak rules n (v ++ w) = grown tieBreak rules n v ++ grown tieBreak rules n w := by
  induction n generalizing v w with
  | zero => rfl
  | succ n ih => rw [grown, grown, grown, List.flatMap_append, ih]

theorem grown_nil (n : Nat) : grown tieBreak rules n [] = [] := by
  induction n with
  | zero => rfl
  | succ n ih => exact ih

/-- A generation is put together from those of the single symbols. -/
theorem grown_eq_flatMap (n : Nat) (w : Word) :
    grown tieBreak rules n w = w.flatMap fun s => grown tieBreak rules n [s] := by
  induction w with
  | nil => exact grown_nil n
  | cons s rest ih => rw [← List.singleton_append, grown_append, ih]; rfl

theorem grown_succ_last (n : Nat) (w : Word) :
    grown tieBreak rules (n + 1) w =
      (grown tieBreak rules n w).flatMap (substitute tieBreak rules) := by
  induction n generalizing w with
  | zero => rfl
  | succ n ih => exact ih _

/-! ## Counting -/

/-- The codes of what a code becomes. -/
def offspring (tieBreak : TieBreak) (rules : List Rule) (code : Int) : List Int :=
  match chosenFor tieBreak rules code with
  | some r => r.successor.codes
  | none => [code]

theorem codes_substitute (s : Symbol) :
    (substitute tieBreak rules s).codes = offspring tieBreak rules s.code := by
  rw [substitute, offspring]
  cases chosenFor tieBreak rules s.code <;> rfl

theorem codes_flatMap_substitute (w : Word) :
    Word.codes (w.flatMap (substitute tieBreak rules)) =
      w.codes.flatMap (offspring tieBreak rules) := by
  have each : (fun s => (substitute tieBreak rules s).codes) =
      fun s => offspring tieBreak rules s.code :=
    funext codes_substitute
  calc Word.codes (w.flatMap (substitute tieBreak rules))
      = w.flatMap fun s => (substitute tieBreak rules s).codes := List.map_flatMap
    _ = w.flatMap fun s => offspring tieBreak rules s.code := by rw [each]
    _ = w.codes.flatMap (offspring tieBreak rules) := (List.flatMap_map _ _ w).symm

/-- A sum over a word is a sum over an alphabet that has all of its codes. -/
theorem sum_map_codes (f : Int → Nat) {w : Word} {alphabet : Finset Int}
    (within : ∀ s ∈ w, s.code ∈ alphabet) :
    (w.codes.map f).sum = ∑ a ∈ alphabet, w.codes.count a * f a := by
  have inside : w.codes.toFinset ⊆ alphabet := by
    intro a member
    obtain ⟨s, occurs, rfl⟩ := List.mem_map.mp (List.mem_toFinset.mp member)
    exact within s occurs
  have absent : ∀ a ∈ alphabet, a ∉ w.codes.toFinset → w.codes.count a * f a = 0 := by
    intro a _ missing
    rw [List.count_eq_zero.mpr fun member => missing (List.mem_toFinset.mpr member), Nat.zero_mul]
  calc (w.codes.map f).sum
      = ∑ a ∈ w.codes.toFinset, w.codes.count a * f a := Finset.sum_list_map_count w.codes f
    _ = ∑ a ∈ alphabet, w.codes.count a * f a := Finset.sum_subset inside absent

theorem count_substitute {w : Word} {alphabet : Finset Int}
    (within : ∀ s ∈ w, s.code ∈ alphabet) (b : Int) :
    (Word.codes (w.flatMap (substitute tieBreak rules))).count b =
      ∑ a ∈ alphabet, w.codes.count a * (offspring tieBreak rules a).count b := by
  rw [codes_flatMap_substitute, List.count_flatMap]
  exact sum_map_codes _ within

theorem length_substitute {w : Word} {alphabet : Finset Int}
    (within : ∀ s ∈ w, s.code ∈ alphabet) :
    (w.flatMap (substitute tieBreak rules)).length =
      ∑ a ∈ alphabet, w.codes.count a * (offspring tieBreak rules a).length := by
  have same (v : Word) : v.length = v.codes.length := (List.length_map _).symm
  rw [same, codes_flatMap_substitute, List.length_flatMap]
  exact sum_map_codes _ within

/-- A store whose rules ask for no context, with one rule at most for each predecessor or a
tie-break that keeps one, and the rules frozen from it, derive every word without an error and
without a draw.  The derivation of two words one behind the other is that of the first and behind it
that of the second, so it is put together from those of the single symbols.  From each generation to
the next, the number of each code, and the length, is a sum over the codes of any alphabet that
covers the generation: the number of each, times what the rule that is left for it yields. -/
theorem derives_by_substitution {store : RuleStore}
    (history : RuleStore.Registered tieBreak store rules)
    (substitutive : Rule.AreSubstitutive tieBreak rules) :
    ∃ frozen, RuleStore.freeze.runFrom store = (.ok frozen, store) ∧
      ∀ book ∈ [store.rulebook, frozen.rulebook], ∃ generation : Nat → Word → Word,
        (∀ (n : Nat) (w : Word) (g : Generator),
          (derive book n w).runFrom g = (.ok (generation n w), g)) ∧
        (∀ n v w, generation n (v ++ w) = generation n v ++ generation n w) ∧
        (∀ n w, generation n w = w.flatMap fun s => generation n [s]) ∧
        ∀ (k : Nat) (w : Word) (alphabet : Finset Int),
          (∀ s ∈ generation k w, s.code ∈ alphabet) →
          (∀ b, (generation (k + 1) w).codes.count b =
            ∑ a ∈ alphabet, (generation k w).codes.count a * (offspring tieBreak rules a).count b) ∧
          (generation (k + 1) w).length =
            ∑ a ∈ alphabet,
              (generation k w).codes.count a * (offspring tieBreak rules a).length := by
  refine ⟨store.frozen, RuleStore.freeze_runFrom history.free, fun book member => ?_⟩
  have holds := history.holds_of_mem book member
  refine ⟨grown tieBreak rules, fun n w g => ?_, fun n => grown_append n, grown_eq_flatMap,
    fun k w alphabet within => ?_⟩
  · rw [derive_natCast, passes_eq_pure_grown holds substitutive, Step.runFrom_pure]
  · rw [grown_succ_last]
    exact ⟨count_substitute within, length_substitute within⟩

/-- The rules `A -> A B` and `B -> A` let `A` grow by the Fibonacci numbers: the fifth generation
has eight `A` and five `B`, so the sixth has `8 * 2 + 5 * 1` symbols. -/
theorem derives_by_substitution_of_algae :
    ∃ (store : RuleStore) (grows matures : Rule) (frozen : FrozenRules)
      (generation : Nat → Word → Word),
      RuleStore.Registered .pool store [grows, matures] ∧
        Rule.AreSubstitutive .pool [grows, matures] ∧
        RuleStore.freeze.runFrom store = (.ok frozen, store) ∧
        (∀ (n : Nat) w g, (derive frozen.rulebook n w).runFrom g = (.ok (generation n w), g)) ∧
        (generation 5 [⟨0, "A"⟩]).codes = [0, 1, 0, 0, 1, 0, 1, 0, 0, 1, 0, 0, 1] ∧
        (generation 6 [⟨0, "A"⟩]).length = 21 := by
  let A : Symbol := ⟨0, "A"⟩
  let B : Symbol := ⟨1, "B"⟩
  let grows : Rule := ⟨A, [A, B], [], [], 1⟩
  let matures : Rule := ⟨B, [A], [], [], 1⟩
  let start : System :=
    ⟨⟨Lock.free "symbol table" .forever, .ofNames ["A", "B"]⟩, .new .pool .forever⟩
  have first : (System.add grows).runFrom start = (.ok grows, start.withRule grows) :=
    System.add_runFrom (Lock.free_isFree _ _) (Lock.free_isFree _ _) (by decide)
  have second : (System.add matures).runFrom (start.withRule grows) =
      (.ok matures, (start.withRule grows).withRule matures) :=
    System.add_runFrom (Lock.free_isFree _ _) (Lock.free_isFree _ _) (by decide)
  have history : RuleStore.Registered .pool ((start.withRule grows).withRule matures).store
      [grows, matures] :=
    .add (.add (.new .forever) first) second
  have substitutive : Rule.AreSubstitutive .pool [grows, matures] :=
    ⟨by decide, .inr (.inr (by decide))⟩
  obtain ⟨frozen, freezes, answers⟩ := derives_by_substitution history substitutive
  obtain ⟨generation, derives, -, -, counts⟩ :=
    answers frozen.rulebook (List.mem_cons_of_mem _ List.mem_cons_self)
  obtain rfl : _ = frozen :=
    Except.ok.inj (congrArg Prod.fst ((RuleStore.freeze_runFrom history.free).symm.trans freezes))
  have fifth : generation 5 [A] = [A, B, A, A, B, A, B, A, A, B, A, A, B] :=
    Except.ok.inj (congrArg Prod.fst (derives 5 [A] (.ofSeed 0))).symm
  obtain ⟨-, length⟩ := counts 5 [A] {0, 1} (by rw [fifth]; decide)
  refine ⟨_, grows, matures, _, generation, history, substitutive, freezes, derives, ?_, ?_⟩
  · rw [fifth]
    rfl
  · rw [length, fifth]
    rfl

end Derivation

end GrowthGrammar

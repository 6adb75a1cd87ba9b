import GrowthGrammar.Proofs.Choice
import GrowthGrammar.Proofs.Derivation.Outcome
import GrowthGrammar.Proofs.Random.Fraction

/-!
# Chances

Among rules that do not all have weight zero, a draw chooses one that has some weight, as long as
its part of the total is below the total.  Rounding can make this fail in two ways: the total may
be so small that a part of it is rounded up to the total, or so large that it is infinite.  Then
the draw falls behind every piece of the line, and the last rule is chosen, whatever its weight
is.

Main statement: the draws for which this happens, and the totals for which it can happen at all
(`chosen_has_weight_iff`).  A last rule with some weight, or a finite total above 2 ^ -1022, is
enough to rule it out, and nothing less is.
-/

namespace GrowthGrammar.Derivation

open Decimal.Binary64
open GrowthGrammar.Random (Generator)

/-- The rule among some rules that a draw stands for. -/
def chosen (first : Rule) (rest : List Rule) (u : Float) : Rule :=
  (first :: rest).getD (Choice.pick ((first :: rest).map Rule.weight) u) first

section

variable {first : Rule} {rest : List Rule} (weighted : ∀ r ∈ first :: rest, r.IsWeighted)

include weighted

theorem weights_nonneg : ∀ w ∈ (first :: rest).map Rule.weight, 0 ≤ w :=
  List.forall_mem_map.mpr fun r member => (weighted r member).nonneg

/-- Rules of which one has some weight have a total above zero. -/
theorem exists_total_pos (some : ∃ r ∈ first :: rest, 0 < r.weight) :
    ∃ t, Choice.total? ((first :: rest).map Rule.weight) = .some t ∧ 0 < t := by
  obtain ⟨here, later⟩ := List.forall_mem_cons.mp (weights_nonneg weighted)
  rw [List.map_cons, Choice.total?, Choice.runningSums]
  cases total : (first.weight :: Choice.sumsFrom first.weight (rest.map Rule.weight)).getLast? with
  | none => simp at total
  | some t =>
    obtain ⟨nonneg, zero⟩ := sumsFrom_getLast here later total
    refine ⟨t, rfl, ?_⟩
    rcases (nonneg_iff t).mp nonneg with nothing | positive
    · have all := zero.mp ((beq_zero_iff t).mpr nothing)
      rw [← List.forall_mem_cons (p := fun w => (w == 0) = true), ← List.map_cons,
        List.forall_mem_map] at all
      obtain ⟨r, member, positive⟩ := some
      have none := (beq_zero_iff _).mp (all r member)
      rw [pos_iff_sign.mp positive] at none
      cases none
    · exact pos_iff_sign.mpr positive

omit weighted in
theorem chooseAmong_runFrom {t : Float}
    (total : Choice.total? ((first :: rest).map Rule.weight) = some t) (positive : 0 < t)
    (g : Generator) :
    (chooseAmong (first :: rest)).runFrom g = (.ok (chosen first rest g.draw.1), g.draw.2) := by
  have notNone : ¬ t ≤ 0 := by
    rw [nonpos_iff, pos_iff_sign.mp positive]
    simp
  rw [chooseAmong, chooseRule_runFrom, total, Option.all_some, decide_eq_false notNone,
    if_neg Bool.false_ne_true]
  rfl

/-- Behind the total only the last rule is chosen, and below it one with some weight. -/
theorem chosen_cases {t u : Float}
    (total : Choice.total? ((first :: rest).map Rule.weight) = some t) (positive : 0 < t)
    (atLeast : 0 ≤ u) (less : u < 1) :
    chosen first rest u ∈ first :: rest ∧ (u * t < t → 0 < (chosen first rest u).weight) ∧
      (¬ u * t < t → chosen first rest u = (first :: rest).getLast (List.cons_ne_nil _ _)) := by
  have notNegative := not_fraction_neg atLeast less (nonneg_of_pos positive)
  obtain ⟨below, behind⟩ := Choice.pick_cases (weights_nonneg weighted) total notNegative
  have chosen_of_lt (inside : Choice.pick ((first :: rest).map Rule.weight) u <
      (first :: rest).length) : chosen first rest u =
        (first :: rest)[Choice.pick ((first :: rest).map Rule.weight) u] := by
    rw [chosen, List.getD_eq_getElem _ _ inside]
  have last (notBelow : ¬ u * t < t) :
      chosen first rest u = (first :: rest).getLast (List.cons_ne_nil _ _) := by
    have place := behind notBelow
    rw [List.length_map] at place
    rw [chosen, place, List.getLast_eq_getElem]
    exact List.getD_eq_getElem _ _ (Nat.lt_succ_self _)
  by_cases small : u * t < t
  · obtain ⟨inside, some⟩ := below small
    rw [List.length_map] at inside
    rw [List.getElem_map, ← chosen_of_lt inside] at some
    refine ⟨?_, fun _ => some, fun notSmall => absurd small notSmall⟩
    rw [chosen_of_lt inside]
    exact List.getElem_mem inside
  · refine ⟨?_, fun isSmall => absurd isSmall small, last⟩
    rw [last small]
    exact List.getLast_mem _

end

/-- Among rules one of which has some weight, every draw chooses one.  It has some weight if the
part of the total that is drawn is below the total, and otherwise it is the last rule.  So a rule
without weight is never chosen exactly if the last rule has some weight, or the total is finite and
above 2 ^ -1022. -/
theorem chosen_has_weight_iff {first : Rule} {rest : List Rule}
    (weighted : ∀ r ∈ first :: rest, r.IsWeighted) (some : ∃ r ∈ first :: rest, 0 < r.weight) :
    ∃ t, Choice.total? ((first :: rest).map Rule.weight) = .some t ∧ 0 < t ∧
      (∀ g : Generator, 0 ≤ g.draw.1 ∧ g.draw.1 < 1 ∧
        (chooseAmong (first :: rest)).runFrom g =
          (.ok (chosen first rest g.draw.1), g.draw.2)) ∧
      (∀ u : Float, 0 ≤ u → u < 1 → chosen first rest u ∈ first :: rest ∧
        (u * t < t → 0 < (chosen first rest u).weight) ∧
        (¬ u * t < t → chosen first rest u = (first :: rest).getLast (List.cons_ne_nil _ _))) ∧
      ((∀ g : Generator, 0 < (chosen first rest g.draw.1).weight) ↔
        0 < ((first :: rest).getLast (List.cons_ne_nil _ _)).weight ∨
          (t.isFinite = true ∧ (2 : ℚ) ^ (-1022 : Int) < value t)) := by
  obtain ⟨t, total, positive⟩ := exists_total_pos weighted some
  have runs (g : Generator) := chooseAmong_runFrom total positive g
  have cases (u : Float) (atLeast : 0 ≤ u) (less : u < 1) :=
    chosen_cases weighted total positive atLeast less
  refine ⟨t, total, positive, fun g => ⟨g.draw_mem.1, g.draw_mem.2, runs g⟩, cases, ?_, ?_⟩
  · intro always
    obtain ⟨g, drawn⟩ := Generator.exists_draw_eq_belowOne
    have here := always g
    rw [drawn] at here
    rw [← belowOne_mul_lt_iff positive]
    obtain ⟨-, -, last⟩ := cases belowOne (by decide) (by decide)
    by_cases below : belowOne * t < t
    · exact .inr below
    · rw [last below] at here
      exact .inl here
  · intro enough g
    obtain ⟨atLeast, less⟩ := g.draw_mem
    obtain ⟨-, below, last⟩ := cases g.draw.1 atLeast less
    by_cases small : g.draw.1 * t < t
    · exact below small
    · rw [last small]
      refine enough.resolve_right fun large => small ?_
      exact fraction_lt atLeast less large.1 (nonneg_of_pos positive) large.2

/-- Between the smallest weight and none, the draw of the seed zero chooses the rule without
weight. -/
theorem chosen_has_weight_iff_smallest :
    let tiny : Rule := ⟨⟨0, "X"⟩, [⟨1, "A"⟩], [], [], .ofBits 1⟩
    let none : Rule := ⟨⟨0, "X"⟩, [⟨2, "B"⟩], [], [], 0⟩
    (chooseAmong [tiny, none]).runFrom (.ofSeed 0) = (.ok none, (Generator.ofSeed 0).draw.2) := by
  intro tiny none
  have weighted : ∀ r ∈ [tiny, none], r.IsWeighted := by
    simp only [Rule.isWeighted_iff]
    decide
  obtain ⟨t, total, -, runs, cases, -⟩ :=
    chosen_has_weight_iff weighted ⟨tiny, List.mem_cons_self, by decide⟩
  have t_eq : Float.ofBits 1 + 0 = t := Option.some.inj total
  obtain ⟨atLeast, less, run⟩ := runs (.ofSeed 0)
  obtain ⟨-, -, last⟩ := cases _ atLeast less
  have notBelow : ¬ (Generator.ofSeed 0).draw.1 * t < t := by
    rw [← t_eq]
    decide +kernel
  rw [run, last notBelow]
  rfl

end GrowthGrammar.Derivation

import GrowthGrammar.Proofs.Choice
import GrowthGrammar.Proofs.Derivation.Generations
import Mathlib.Algebra.Order.BigOperators.Group.List
import Mathlib.Algebra.Order.Field.Basic
import Mathlib.Order.Interval.Set.Defs

/-!
# Exact chances

With exact numbers, the weights of some alternatives cut the line from zero to one into pieces, one
behind the other.  The piece of an alternative begins where the weights before it have their share
of the total (`edge`), and is as long as its own share.  A weight of zero has an empty piece,
wherever it stands.

A draw chooses the alternative on whose piece it lies: the first sum above a point is the one whose
piece holds the point (`findIdx_runningSums_eq_iff`), since sums of weights that are not negative
never fall.  A point below the total is below some sum, so the cap at the last place has nothing to
do.

Main statement: the alternative that a draw chooses, and the draws that choose an alternative
(`exact_choice`).  The choice among rules is this one, with other numbers
(`Derivation.chooseRule_runFrom_eq_select?`).
-/

namespace GrowthGrammar

namespace Choice

variable {K α : Type}

/-! ## One of some alternatives -/

section

variable [LT K] [DecidableLT K]

theorem placeOf_lt {sums : List K} (some : sums ≠ []) (point : K) :
    placeOf sums point < sums.length :=
  Nat.lt_of_le_of_lt (Nat.min_le_right _ _)
    (Nat.sub_lt (List.length_pos_of_ne_nil some) Nat.one_pos)

variable [Add K] [Mul K]

theorem pick_lt {weights : List K} (some : weights ≠ []) (draw : K) :
    pick weights draw < weights.length := by
  have positive := List.length_pos_of_ne_nil some
  rw [pick]
  split
  · exact positive
  · rw [← length_runningSums weights] at positive ⊢
    exact placeOf_lt (List.ne_nil_of_length_pos positive) _

variable [Zero K] [LE K] [DecidableLE K]

/-- The alternative that a draw chooses by weight, or none if the weights add up to nothing. -/
def select? (weight : α → K) (alternatives : List α) (draw : K) : Option α :=
  if (total? (alternatives.map weight)).all fun total => decide (total ≤ 0) then none
  else alternatives[pick (alternatives.map weight) draw]?

end

variable [Field K] {weights : List K}

/-! ## Exact sums -/

theorem getElem_sumsFrom (s : K) (weights : List K) {i : Nat}
    (inside : i < (sumsFrom s weights).length) :
    (sumsFrom s weights)[i] = s + (weights.take (i + 1)).sum := by
  induction weights generalizing s i with
  | nil => exact absurd inside (Nat.not_lt_zero i)
  | cons w rest ih =>
    cases i with
    | zero => simp [sumsFrom]
    | succ i =>
      rw [List.take_succ_cons, List.sum_cons, ← add_assoc]
      exact ih (s + w) (Nat.lt_of_succ_lt_succ inside)

theorem getElem_runningSums {i : Nat} (inside : i < (runningSums weights).length) :
    (runningSums weights)[i] = (weights.take (i + 1)).sum := by
  cases weights with
  | nil => exact absurd inside (Nat.not_lt_zero i)
  | cons w rest =>
    cases i with
    | zero => simp [runningSums]
    | succ i =>
      rw [List.take_succ_cons, List.sum_cons]
      exact getElem_sumsFrom w rest (Nat.lt_of_succ_lt_succ inside)

theorem total?_eq_sum (some : weights ≠ []) : total? weights = .some weights.sum := by
  have positive := List.length_pos_of_ne_nil some
  have last : weights.length - 1 < (runningSums weights).length := by
    rw [length_runningSums]
    exact Nat.sub_lt positive Nat.one_pos
  rw [total?, List.getLast?_eq_getElem?, length_runningSums, List.getElem?_eq_getElem last,
    getElem_runningSums last, Nat.sub_add_cancel positive, List.take_length]

/-- Where the piece of a place begins on the line from zero to one. -/
def edge (weights : List K) (i : Nat) : K := (weights.take i).sum / weights.sum

theorem edge_zero (weights : List K) : edge weights 0 = 0 := by
  rw [edge, List.take_zero, List.sum_nil, zero_div]

theorem edge_length (some : weights.sum ≠ 0) : edge weights weights.length = 1 := by
  rw [edge, List.take_length, div_self some]

theorem edge_succ_sub_edge {i : Nat} (inside : i < weights.length) :
    edge weights (i + 1) - edge weights i = weights[i] / weights.sum := by
  rw [edge, edge, ← sub_div, List.sum_take_succ _ _ inside, add_sub_cancel_left]

theorem runningSums_map_mul (k : K) (weights : List K) :
    runningSums (weights.map (k * ·)) = (runningSums weights).map (k * ·) := by
  have behind (s : K) (rest : List K) :
      sumsFrom (k * s) (rest.map (k * ·)) = (sumsFrom s rest).map (k * ·) := by
    induction rest generalizing s with
    | nil => rfl
    | cons w rest ih => rw [List.map_cons, sumsFrom, ← mul_add, ih, sumsFrom, List.map_cons]
  cases weights with
  | nil => rfl
  | cons w rest => rw [List.map_cons, runningSums, behind, runningSums, List.map_cons]

theorem total?_map_mul (k : K) (weights : List K) :
    total? (weights.map (k * ·)) = (total? weights).map (k * ·) := by
  rw [total?, runningSums_map_mul, List.getLast?_map, total?]

/-! ## The piece of a place -/

variable [LinearOrder K]

/-- Below the total, a point is below some sum, and the cap at the last place does not matter. -/
theorem pick_eq_findIdx {draw : K} (some : weights ≠ [])
    (below : draw * weights.sum < weights.sum) :
    pick weights draw =
      (runningSums weights).findIdx fun s => decide (draw * weights.sum < s) := by
  have found : ((runningSums weights).findIdx fun s => decide (draw * weights.sum < s)) <
      (runningSums weights).length :=
    List.findIdx_lt_length_of_exists
      ⟨weights.sum, List.mem_of_getLast? (total?_eq_sum some), decide_eq_true below⟩
  rw [pick, total?_eq_sum some]
  exact min_eq_left (Nat.le_sub_one_of_lt found)

variable [IsStrictOrderedRing K]

theorem sum_take_le (nonneg : ∀ w ∈ weights, 0 ≤ w) {i j : Nat} (le : i ≤ j) :
    (weights.take i).sum ≤ (weights.take j).sum :=
  (List.take_sublist_take_left le).sum_le_sum fun w member =>
    nonneg w (List.mem_of_mem_take member)

/-- The first sum above a point belongs to the weight on whose piece the point lies. -/
theorem findIdx_runningSums_eq_iff (nonneg : ∀ w ∈ weights, 0 ≤ w) {point : K}
    (atLeast : 0 ≤ point) {i : Nat} (inside : i < weights.length) :
    ((runningSums weights).findIdx fun s => decide (point < s)) = i ↔
      (weights.take i).sum ≤ point ∧ point < (weights.take (i + 1)).sum := by
  have here : i < (runningSums weights).length := by rwa [length_runningSums]
  rw [List.findIdx_eq here]
  simp only [getElem_runningSums, decide_eq_true_eq, decide_eq_false_iff_not, not_lt]
  constructor
  · rintro ⟨above, before⟩
    refine ⟨?_, above⟩
    cases i with
    | zero => simpa using atLeast
    | succ i => exact before i (Nat.lt_succ_self i)
  · rintro ⟨behind, above⟩
    exact ⟨above, fun j less => (sum_take_le nonneg less).trans behind⟩

theorem edge_mono (nonneg : ∀ w ∈ weights, 0 ≤ w) : Monotone (edge weights) := fun _ _ le =>
  div_le_div_of_nonneg_right (sum_take_le nonneg le) (List.sum_nonneg nonneg)

section

variable (nonneg : ∀ w ∈ weights, 0 ≤ w) (positive : 0 < weights.sum)

include nonneg positive

/-- A draw chooses the place on whose piece it lies, and the cap at the last place is not needed. -/
theorem pick_eq_iff {draw : K} (atLeast : 0 ≤ draw) (less : draw < 1) {i : Nat}
    (inside : i < weights.length) :
    pick weights draw = i ↔
      (weights.take i).sum ≤ draw * weights.sum ∧
        draw * weights.sum < (weights.take (i + 1)).sum := by
  have some : weights ≠ [] := List.ne_nil_of_length_pos (Nat.zero_lt_of_lt inside)
  rw [pick_eq_findIdx some (mul_lt_of_lt_one_left positive less)]
  exact findIdx_runningSums_eq_iff nonneg (mul_nonneg atLeast positive.le) inside

/-- The draws for a place fill its piece. -/
theorem setOf_pick_eq {i : Nat} (inside : i < weights.length) :
    {u | 0 ≤ u ∧ u < 1 ∧ pick weights u = i} =
      Set.Ico (edge weights i) (edge weights (i + 1)) := by
  ext u
  have piece : u ∈ Set.Ico (edge weights i) (edge weights (i + 1)) ↔
      (weights.take i).sum ≤ u * weights.sum ∧
        u * weights.sum < (weights.take (i + 1)).sum := by
    rw [Set.mem_Ico, edge, edge, div_le_iff₀ positive, lt_div_iff₀ positive]
  constructor
  · rintro ⟨atLeast, less, picked⟩
    exact piece.mpr ((pick_eq_iff nonneg positive atLeast less inside).mp picked)
  · rintro ⟨begins, ends⟩
    have atLeast : 0 ≤ u :=
      (edge_zero weights).symm.le.trans ((edge_mono nonneg (Nat.zero_le i)).trans begins)
    have less : u < 1 :=
      (ends.trans_le (edge_mono nonneg inside)).trans_eq (edge_length positive.ne')
    exact ⟨atLeast, less,
      (pick_eq_iff nonneg positive atLeast less inside).mpr (piece.mp ⟨begins, ends⟩)⟩

end

/-! ## Weights times a factor -/

theorem pick_map_mul {k : K} (positive : 0 < k) (weights : List K) (draw : K) :
    pick (weights.map (k * ·)) draw = pick weights draw := by
  rw [pick, pick, total?_map_mul]
  cases total? weights with
  | none => rfl
  | some total =>
    have same (s : K) : decide (draw * (k * total) < k * s) = decide (draw * total < s) := by
      rw [mul_left_comm, decide_eq_decide, mul_lt_mul_iff_right₀ positive]
    simp only [Option.map_some, placeOf, runningSums_map_mul, List.findIdx_map, List.length_map,
      Function.comp_def, same]

/-- A factor of all weights changes no choice. -/
theorem select?_mul {k : K} (positive : 0 < k) (weight : α → K) (alternatives : List α)
    (draw : K) :
    select? (fun a => k * weight a) alternatives draw = select? weight alternatives draw := by
  have weights : alternatives.map (fun a => k * weight a) =
      (alternatives.map weight).map (k * ·) := List.map_map.symm
  rw [select?, select?, weights, pick_map_mul positive, total?_map_mul]
  cases total? (alternatives.map weight) with
  | none => rfl
  | some total =>
    have same : k * total ≤ 0 ↔ total ≤ 0 := by
      rw [← mul_zero k, mul_le_mul_iff_right₀ positive, mul_zero]
    simp only [Option.map_some, Option.all_some, same]

/-! ## Choosing -/

/-- With exact weights that are not negative and do not all vanish, a draw chooses the alternative
on whose piece of the line its point lies, and no other has the point.  The cap at the last place
is not needed.  The draws for a place fill a piece as long as the share of its weight, the pieces
follow one another from zero to one, and a factor of all weights changes no choice. -/
theorem exact_choice (weight : α → K) {alternatives : List α}
    (nonneg : ∀ a ∈ alternatives, 0 ≤ weight a) (positive : 0 < (alternatives.map weight).sum) :
    let weights := alternatives.map weight
    (∀ u, 0 ≤ u → u < 1 → ∃ i, ∃ inside : i < alternatives.length,
      select? weight alternatives u = some alternatives[i] ∧ pick weights u = i ∧
        ((runningSums weights).findIdx fun s => decide (u * weights.sum < s)) = i ∧
        ∀ j < alternatives.length,
          (weights.take j).sum ≤ u * weights.sum ∧ u * weights.sum < (weights.take (j + 1)).sum ↔
            j = i) ∧
      (∀ i, ∀ inside : i < alternatives.length,
        {u | 0 ≤ u ∧ u < 1 ∧ pick weights u = i} =
            Set.Ico (edge weights i) (edge weights (i + 1)) ∧
          edge weights (i + 1) - edge weights i = weight alternatives[i] / weights.sum) ∧
      edge weights 0 = 0 ∧ edge weights alternatives.length = 1 ∧
      ∀ k, 0 < k → ∀ u,
        select? (fun a => k * weight a) alternatives u = select? weight alternatives u := by
  intro weights
  have length : weights.length = alternatives.length := List.length_map _
  have weighted : ∀ w ∈ weights, 0 ≤ w := List.forall_mem_map.mpr nonneg
  have some : weights ≠ [] := fun nothing => positive.ne' (congrArg List.sum nothing)
  refine ⟨fun u atLeast less => ?_, fun i inside => ⟨?_, ?_⟩, edge_zero weights, ?_,
    fun k factor u => select?_mul factor weight alternatives u⟩
  · have inside : pick weights u < alternatives.length := length ▸ pick_lt some u
    refine ⟨pick weights u, inside, ?_, rfl,
      (pick_eq_findIdx some (mul_lt_of_lt_one_left positive less)).symm, fun j here => ?_⟩
    · rw [select?, total?_eq_sum some, Option.all_some, decide_eq_false positive.not_ge,
        if_neg Bool.false_ne_true]
      exact List.getElem?_eq_getElem inside
    · rw [← pick_eq_iff weighted positive atLeast less (length.symm ▸ here), eq_comm]
  · exact setOf_pick_eq weighted positive (length.symm ▸ inside)
  · rw [edge_succ_sub_edge (length.symm ▸ inside), List.getElem_map]
  · rw [← length, edge_length positive.ne']

/-- Among weights 0, 1, 0 and 3, the draws below a quarter choose the second one, a quarter chooses
the last one, and none chooses the third one. -/
theorem exact_choice_of_four :
    let four : List (Char × ℚ) := [('A', 0), ('B', 1), ('C', 0), ('D', 3)]
    {u | 0 ≤ u ∧ u < 1 ∧ pick (four.map Prod.snd) u = 1} = Set.Ico 0 (1 / 4) ∧
      {u | 0 ≤ u ∧ u < 1 ∧ pick (four.map Prod.snd) u = 2} = ∅ ∧
      select? Prod.snd four (1 / 4) = some ('D', 3) := by
  intro four
  have nonneg : ∀ a ∈ four, 0 ≤ a.2 := by simp [four]
  have positive : 0 < (four.map Prod.snd).sum := by norm_num [four]
  obtain ⟨chooses, pieces, -⟩ := exact_choice Prod.snd nonneg positive
  obtain ⟨second, -⟩ := pieces 1 (by decide)
  obtain ⟨third, -⟩ := pieces 2 (by decide)
  obtain ⟨i, inside, selected, -, -, only⟩ := chooses (1 / 4) (by norm_num) (by norm_num)
  have last : 3 = i := (only 3 (by decide)).mp (by norm_num [four])
  subst last
  refine ⟨?_, ?_, selected⟩
  · rw [second]
    norm_num [edge, four]
  · rw [third]
    norm_num [edge, four]

end Choice

namespace Derivation

open GrowthGrammar.Random (Generator)

/-- Rules are chosen from like alternatives with the weights of the rules, where the numbers are
those that the draws consist of. -/
theorem chooseRule_runFrom_eq_select? (first : Rule) (rest : List Rule) (g : Generator) :
    (chooseRule first rest).runFrom g =
      match Choice.select? Rule.weight (first :: rest) g.draw.1 with
      | some r => (.ok r, g.draw.2)
      | none => (.error (.settings (.noWeight first.predecessor.name)), g) := by
  have inside : Choice.pick ((first :: rest).map Rule.weight) g.draw.1 <
      ((first :: rest).map Rule.weight).length := Choice.pick_lt (List.cons_ne_nil _ _) _
  rw [List.length_map] at inside
  rw [chooseRule_runFrom, Choice.select?]
  split
  · rfl
  · rw [List.getElem?_eq_getElem inside, List.getD_eq_getElem _ _ inside]

end Derivation

end GrowthGrammar

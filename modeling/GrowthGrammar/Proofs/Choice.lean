import GrowthGrammar.Proofs.Decimal.Product

/-!
# What a draw chooses

The running sums of weights that are not negative never fall, and a sum grows only where a
weight is above zero.  So the first sum above a point belongs to a weight above zero
(`pos_of_first_above`), wherever zeros stand among the weights.

Only the cap at the last place can give a weight of zero.  It is reached exactly if the point is
not below the total (`pick_cases`), which rounding can bring about.
-/

namespace GrowthGrammar.Choice

open Decimal.Binary64
open Float.Model (UnpackedFloat)

/-! ## Adding a weight -/

variable {p s w : Float}

theorem lt_iff_neg_of_zero (zero : sign s = some .eq) : p < s ↔ p < 0 := by
  rcases eq_zero_or_eq_negZero zero with rfl | rfl
  · exact Iff.rfl
  · rw [lt_iff_compare, lt_iff_compare]
    have same : p.toModel.unpack.compare (-0.0 : Float).toModel.unpack =
        p.toModel.unpack.compare (0 : Float).toModel.unpack := by
      have negZero : (-0.0 : Float).toModel.unpack = .zero .negative := rfl
      rw [negZero, unpack_zero]
      cases p.toModel.unpack with
      | notANumber => rfl
      | infinity s => cases s <;> rfl
      | zero s => rfl
      | finite s m e h => cases s <;> rfl
    rw [same]

/-- Adding zero moves no sum. -/
theorem lt_add_zero_iff (nonneg : 0 ≤ s) (zero : sign w = some .eq) : p < s + w ↔ p < s := by
  have nonnegW : 0 ≤ w := (nonneg_iff w).mpr (.inl zero)
  rcases (nonneg_iff s).mp nonneg with nothing | positive
  · have sum : sign (s + w) = some .eq := by rw [sign_add nonneg nonnegW, if_pos nothing, zero]
    rw [lt_iff_neg_of_zero sum, lt_iff_neg_of_zero nothing]
  · obtain ⟨sgn, unpacked⟩ := eq_zero_of_signOf zero
    have same : s + w = s := eq_of_unpack_eq (by
      rw [unpack_add, unpacked, (zero_add sgn positive).2, unpack_pack_unpack])
    rw [same]

theorem isFinite_of_add {x y : Float} (finite : (x + y).isFinite = true) :
    x.isFinite = true ∧ y.isFinite = true := by
  have parts {u v : UnpackedFloat} (sum : (UnpackedFloat.add .binary64 u v).isFinite = true) :
      u.isFinite = true ∧ v.isFinite = true := by
    cases u with
    | notANumber => cases sum
    | infinity s =>
      cases v with
      | infinity s' => cases s <;> cases s' <;> cases sum
      | _ => cases sum
    | zero s => cases v <;> first | exact ⟨rfl, rfl⟩ | cases sum
    | finite s m e h => cases v <;> first | exact ⟨rfl, rfl⟩ | cases sum
  exact parts (isFinite_of_pack finite)

/-- What is below something and not below zero is finite. -/
theorem isFinite_of_between (notNegative : ¬ p < 0) (less : p < s) : p.isFinite = true := by
  have notTop := not_atTop_of_lt less
  have number : (p == p) = true := (beq_self_iff p).mpr fun none => notTop (.inr none)
  refine (isFinite_iff_inside p).mpr ⟨fun bottom => ?_, notTop⟩
  exact not_atBottom_of_nonneg (by decide) (atBottom_of_not_lt bottom number notNegative)

/-- A point below a sum is below the next one. -/
theorem lt_add_of_lt (nonneg : 0 ≤ s) (weight : 0 ≤ w) (notNegative : ¬ p < 0) (less : p < s) :
    p < s + w := by
  have finiteP := isFinite_of_between notNegative less
  have nonnegSum := add_nonneg nonneg weight
  by_cases finite : (s + w).isFinite = true
  · obtain ⟨finiteS, finiteW⟩ := isFinite_of_add finite
    have atLeast := value_nonneg finiteS nonneg
    have more := value_nonneg finiteW weight
    have grows : value s ≤ value (s + w) :=
      (nearest_add finiteS finiteW).value_le finiteS atLeast (by linarith) finite
    rw [lt_iff_value finiteP finiteS] at less
    exact (lt_iff_value finiteP finite).mpr (less.trans_le grows)
  · rw [eq_infinity_of_nonneg nonnegSum finite]
    exact lt_infinity finiteP

/-- A point that only the next sum is above has met a weight above zero. -/
theorem pos_of_lt_add (nonneg : 0 ≤ s) (weight : 0 ≤ w) (notBefore : ¬ p < s)
    (less : p < s + w) : 0 < w := by
  rcases (nonneg_iff w).mp weight with zero | positive
  · exact absurd ((lt_add_zero_iff nonneg zero).mp less) notBefore
  · exact pos_iff_sign.mpr positive

/-! ## The first sum above a point -/

/-- The place of the first sum above a point, or the number of sums. -/
def firstAbove (p : Float) (sums : List Float) : Nat := sums.findIdx fun s => decide (p < s)

theorem firstAbove_cons_of_lt {sums : List Float} (above : p < s) :
    firstAbove p (s :: sums) = 0 := by
  rw [firstAbove, List.findIdx_cons, decide_eq_true above, cond_true]

theorem firstAbove_cons_of_not_lt {sums : List Float} (notAbove : ¬ p < s) :
    firstAbove p (s :: sums) = firstAbove p sums + 1 := by
  rw [firstAbove, List.findIdx_cons, decide_eq_false notAbove, cond_false]
  rfl

/-- The first sum above a point is the one in front or the first one behind it. -/
theorem pos_of_first_above_cons {sums weights : List Float} (here : p < s → 0 < w)
    (later : ¬ p < s → ∀ found : firstAbove p sums < weights.length,
      0 < weights[firstAbove p sums])
    (found : firstAbove p (s :: sums) < (w :: weights).length) :
    0 < (w :: weights)[firstAbove p (s :: sums)] := by
  by_cases above : p < s
  · simp only [firstAbove_cons_of_lt above, List.getElem_cons_zero]
    exact here above
  · simp only [firstAbove_cons_of_not_lt above, List.getElem_cons_succ]
    rw [firstAbove_cons_of_not_lt above] at found
    exact later above (Nat.lt_of_succ_lt_succ found)

theorem pos_of_first_above_sumsFrom {weights : List Float} (nonneg : 0 ≤ s)
    (weighted : ∀ w ∈ weights, 0 ≤ w) (notBefore : ¬ p < s)
    (found : firstAbove p (sumsFrom s weights) < weights.length) :
    0 < weights[firstAbove p (sumsFrom s weights)] := by
  induction weights generalizing s with
  | nil => exact absurd found (Nat.not_lt_zero _)
  | cons w rest ih =>
    obtain ⟨here, later⟩ := List.forall_mem_cons.mp weighted
    exact pos_of_first_above_cons (pos_of_lt_add nonneg here notBefore)
      (fun notAbove found => ih (add_nonneg nonneg here) later notAbove found) found

/-- The first sum above a point that is not negative belongs to a weight above zero. -/
theorem pos_of_first_above {weights : List Float} (weighted : ∀ w ∈ weights, 0 ≤ w)
    (notNegative : ¬ p < 0) (found : firstAbove p (runningSums weights) < weights.length) :
    0 < weights[firstAbove p (runningSums weights)] := by
  cases weights with
  | nil => exact absurd found (Nat.not_lt_zero _)
  | cons w rest =>
    obtain ⟨here, later⟩ := List.forall_mem_cons.mp weighted
    refine pos_of_first_above_cons (fun above => ?_)
      (fun notAbove found => pos_of_first_above_sumsFrom here later notAbove found) found
    rcases (nonneg_iff w).mp here with zero | positive
    · exact absurd ((lt_iff_neg_of_zero zero).mp above) notNegative
    · exact pos_iff_sign.mpr positive

/-- A point below one of the sums is below the last one. -/
theorem lt_last_of_lt {weights : List Float} {t last : Float} (nonneg : 0 ≤ s)
    (weighted : ∀ w ∈ weights, 0 ≤ w) (notNegative : ¬ p < 0)
    (member : t ∈ s :: sumsFrom s weights) (less : p < t)
    (ends : (s :: sumsFrom s weights).getLast? = some last) : p < last := by
  induction weights generalizing s t with
  | nil =>
    obtain rfl : s = last := Option.some.inj ends
    rwa [List.mem_singleton.mp member] at less
  | cons w rest ih =>
    obtain ⟨here, later⟩ := List.forall_mem_cons.mp weighted
    rw [sumsFrom, List.getLast?_cons_cons] at ends
    rw [sumsFrom, List.mem_cons] at member
    have nonnegSum := add_nonneg nonneg here
    rcases member with rfl | member
    · exact ih nonnegSum later List.mem_cons_self (lt_add_of_lt nonneg here notNegative less) ends
    · exact ih nonnegSum later member less ends

/-! ## Choosing -/

theorem length_sumsFrom {K : Type} [Add K] (s : K) (weights : List K) :
    (sumsFrom s weights).length = weights.length := by
  induction weights generalizing s with
  | nil => rfl
  | cons w rest ih => rw [sumsFrom, List.length_cons, List.length_cons, ih]

theorem length_runningSums {K : Type} [Add K] (weights : List K) :
    (runningSums weights).length = weights.length := by
  cases weights with
  | nil => rfl
  | cons w rest => rw [runningSums, List.length_cons, List.length_cons, length_sumsFrom]

/-- No sum is above a point that the total is not above. -/
theorem not_lt_of_not_lt_total {weights : List Float} {t : Float}
    (weighted : ∀ w ∈ weights, 0 ≤ w) (notNegative : ¬ p < 0) (total : total? weights = some t)
    (notBelow : ¬ p < t) : ∀ s ∈ runningSums weights, ¬ p < s := by
  intro s member less
  cases weights with
  | nil => exact absurd member List.not_mem_nil
  | cons w rest =>
    obtain ⟨here, later⟩ := List.forall_mem_cons.mp weighted
    exact notBelow (lt_last_of_lt here later notNegative member less total)

/-- A draw chooses a weight above zero if its point is below the total, and the last place
otherwise. -/
theorem pick_cases {weights : List Float} {u t : Float} (weighted : ∀ w ∈ weights, 0 ≤ w)
    (total : total? weights = some t) (notNegative : ¬ u * t < 0) :
    (u * t < t → ∃ inside : pick weights u < weights.length, 0 < weights[pick weights u]) ∧
      (¬ u * t < t → pick weights u = weights.length - 1) := by
  have place : pick weights u =
      min (firstAbove (u * t) (runningSums weights)) ((runningSums weights).length - 1) := by
    rw [pick, total]
    rfl
  have sums := length_runningSums weights
  constructor
  · intro below
    have found : firstAbove (u * t) (runningSums weights) < weights.length := by
      rw [← sums]
      exact List.findIdx_lt_length_of_exists
        ⟨t, List.mem_of_getLast? total, decide_eq_true below⟩
    rw [min_eq_left (by omega)] at place
    simp only [place]
    exact ⟨found, pos_of_first_above weighted notNegative found⟩
  · intro notBelow
    have none : firstAbove (u * t) (runningSums weights) = (runningSums weights).length :=
      List.findIdx_eq_length.mpr fun s member =>
        decide_eq_false (not_lt_of_not_lt_total weighted notNegative total notBelow s member)
    rw [place, none, sums]
    omega

end GrowthGrammar.Choice

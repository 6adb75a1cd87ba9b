import Mathlib
import GrowthGrammar.Proofs.Decimal.ReadBack

/-!
# The shortest decimal reads back

`shortest` goes through the decimal grids, from the coarsest one that could matter to
finer ones, and stops at the first with a point in the interval of the double.  It
always stops: seventeen places behind the leading digit, half the width of the grid is
less than a quarter of the step of the double (`isInside_nearest`), so the grid point
nearest to the double is in the interval.

Main statement: the shortest decimal of a double lies in its interval
(`contains_shortest`).
-/

namespace GrowthGrammar.Decimal

namespace ReadBack

/-! ## Grid points -/

/-- The factor of the ends of the interval, when they are compared with the points of
the grid of `10 ^ k`. -/
def scale (r : ReadBack) (k : Int) : Nat :=
  Nat.pow 2 r.exponent.toNat * Nat.pow 10 (-k).toNat

/-- The factor of the points of the grid. -/
def unit (r : ReadBack) (k : Int) : Nat :=
  Nat.pow 2 (-r.exponent).toNat * Nat.pow 10 k.toNat

/-- The point of the grid is in the interval. -/
def isInside (r : ReadBack) (k : Int) (point : Nat) : Bool :=
  if r.closed then r.low * r.scale k ≤ point * r.unit k && point * r.unit k ≤ r.high * r.scale k
  else r.low * r.scale k < point * r.unit k && point * r.unit k < r.high * r.scale k

/-- The three points that are tried. -/
theorem gridPoint?_eq (r : ReadBack) (k : Int) :
    r.gridPoint? k =
      if r.isInside k (roundDiv (r.middle * r.scale k) (r.unit k)) then
        some (roundDiv (r.middle * r.scale k) (r.unit k))
      else if r.isInside k (r.middle * r.scale k / r.unit k) then
        some (r.middle * r.scale k / r.unit k)
      else if r.isInside k (r.middle * r.scale k / r.unit k + 1) then
        some (r.middle * r.scale k / r.unit k + 1)
      else none := rfl

theorem unit_pos (r : ReadBack) (k : Int) : 0 < r.unit k :=
  Nat.mul_pos (Nat.pow_pos two_pos) (Nat.pow_pos (by decide))

theorem scale_div_unit (r : ReadBack) (k : Int) :
    (r.scale k : ℚ) / r.unit k = 2 ^ r.exponent / 10 ^ k := by
  have two := pow_div_pow 2 two_pos r.exponent
  have ten := pow_div_pow 10 (by decide) (-k)
  rw [neg_neg, zpow_neg] at ten
  rw [scale, unit, Nat.cast_mul, Nat.cast_mul, mul_div_mul_comm, two, ten, ← div_eq_mul_inv]
  rfl

/-- Comparing multiples of the factors is comparing the numbers. -/
theorem mul_scale_le_iff (r : ReadBack) (k : Int) (a point : Nat) :
    a * r.scale k ≤ point * r.unit k ↔ (a : ℚ) * 2 ^ r.exponent ≤ point * 10 ^ k := by
  have positive : (0 : ℚ) < r.unit k := by exact_mod_cast r.unit_pos k
  have ten : (0 : ℚ) < 10 ^ k := by positivity
  rw [← Nat.cast_le (α := ℚ), Nat.cast_mul, Nat.cast_mul, ← div_le_iff₀ positive, mul_div_assoc,
    scale_div_unit, mul_div_assoc', div_le_iff₀ ten]

theorem le_mul_scale_iff (r : ReadBack) (k : Int) (a point : Nat) :
    point * r.unit k ≤ a * r.scale k ↔ (point : ℚ) * 10 ^ k ≤ a * 2 ^ r.exponent := by
  have positive : (0 : ℚ) < r.unit k := by exact_mod_cast r.unit_pos k
  have ten : (0 : ℚ) < 10 ^ k := by positivity
  rw [← Nat.cast_le (α := ℚ), Nat.cast_mul, Nat.cast_mul, ← le_div_iff₀ positive, mul_div_assoc,
    scale_div_unit, mul_div_assoc', le_div_iff₀ ten]

theorem isInside_iff (r : ReadBack) (k : Int) (point : Nat) :
    r.isInside k point = true ↔ r.Contains (point * 10 ^ k) := by
  have low := r.mul_scale_le_iff k r.low point
  have high := r.le_mul_scale_iff k r.high point
  have low' := not_congr (r.le_mul_scale_iff k r.low point)
  have high' := not_congr (r.mul_scale_le_iff k r.high point)
  rw [not_le, not_le] at low' high'
  rw [isInside]
  cases closed : r.closed with
  | true =>
    simp only [if_true, Bool.and_eq_true, decide_eq_true_eq, low, high]
    exact ⟨fun ⟨a, b⟩ => ⟨a, b, fun opened => by simp [closed] at opened⟩,
      fun ⟨a, b, _⟩ => ⟨a, b⟩⟩
  | false =>
    simp only [Bool.false_eq_true, if_false, Bool.and_eq_true, decide_eq_true_eq, low', high']
    exact ⟨fun ⟨a, b⟩ => ⟨a.le, b.le, fun _ => ⟨a, b⟩⟩, fun ⟨_, _, inner⟩ => inner closed⟩

/-- A grid point that is found is in the interval. -/
theorem contains_of_gridPoint? {r : ReadBack} {k : Int} {point : Nat}
    (found : r.gridPoint? k = some point) : r.Contains (point * 10 ^ k) := by
  rw [gridPoint?_eq] at found
  rw [← isInside_iff]
  split at found
  · cases found
    assumption
  · split at found
    · cases found
      assumption
    · split at found
      · cases found
        assumption
      · cases found

/-- A number nearer to a double than a quarter of its step is in the interval. -/
theorem contains_of_abs_sub_lt {d : Dyadic} (positive : 0 < d.mantissa) {x : ℚ}
    (close : |x - (ReadBack.of d).middle * 2 ^ (ReadBack.of d).exponent| <
      2 ^ (ReadBack.of d).exponent) : (ReadBack.of d).Contains x := by
  have quarter : (0 : ℚ) < 2 ^ (ReadBack.of d).exponent := by positivity
  obtain ⟨above, below⟩ := abs_lt.mp close
  have low : ((ReadBack.of d).low : ℚ) + 1 ≤ (ReadBack.of d).middle := by
    have : (ReadBack.of d).low + 1 ≤ (ReadBack.of d).middle := by
      simp only [ReadBack.of]
      split <;> omega
    exact_mod_cast this
  have high : ((ReadBack.of d).middle : ℚ) + 1 ≤ (ReadBack.of d).high := by
    have : (ReadBack.of d).middle + 1 ≤ (ReadBack.of d).high := by
      simp only [ReadBack.of]
      omega
    exact_mod_cast this
  have lowScaled := mul_le_mul_of_nonneg_right low quarter.le
  have highScaled := mul_le_mul_of_nonneg_right high quarter.le
  have aboveLow : (ReadBack.of d).low * 2 ^ (ReadBack.of d).exponent < x := by linarith
  have belowHigh : x < (ReadBack.of d).high * 2 ^ (ReadBack.of d).exponent := by linarith
  exact ⟨aboveLow.le, belowHigh.le, fun _ => ⟨aboveLow, belowHigh⟩⟩

/-- On a fine grid the point nearest to a double is in the interval. -/
theorem isInside_nearest {d : Dyadic} (positive : 0 < d.mantissa) {k : Int}
    (fine : (2 : ℚ) * 10 ^ k < 2 ^ d.exponent) :
    (ReadBack.of d).isInside k
      (roundDiv ((ReadBack.of d).middle * (ReadBack.of d).scale k) ((ReadBack.of d).unit k)) =
        true := by
  rw [isInside_iff]
  apply contains_of_abs_sub_lt positive
  have quarter : (2 : ℚ) ^ (ReadBack.of d).exponent = 2 ^ d.exponent / 4 := by
    rw [ReadBack.of, zpow_sub₀ two_ne_zero]
    norm_num
  have grid : (0 : ℚ) < 10 ^ k := by positivity
  have near := abs_roundDiv_sub_le ((ReadBack.of d).middle * (ReadBack.of d).scale k)
    ((ReadBack.of d).unit_pos k)
  rw [Nat.cast_mul, mul_div_assoc, scale_div_unit] at near
  generalize roundDiv _ _ = point at near ⊢
  have scaled : (point : ℚ) * 10 ^ k - (ReadBack.of d).middle * 2 ^ (ReadBack.of d).exponent =
      (point - (ReadBack.of d).middle * (2 ^ (ReadBack.of d).exponent / 10 ^ k)) * 10 ^ k := by
    field_simp
  rw [scaled, abs_mul, abs_of_pos grid, quarter] at *
  calc |(point : ℚ) - (ReadBack.of d).middle * (2 ^ d.exponent / 4 / 10 ^ k)| * 10 ^ k
      ≤ 1 / 2 * 10 ^ k := by gcongr
    _ < 2 ^ d.exponent / 4 := by linarith

/-! ## The search -/

/-- The search ends at a grid point, if there is one on a grid it can reach. -/
theorem search_spec (r : ReadBack) {fuel : Nat} {k : Int} {steps : Nat} (reached : steps < fuel)
    (found : (r.gridPoint? (k - steps)).isSome) :
    r.Contains (r.search fuel k).value := by
  induction fuel generalizing k steps with
  | zero => omega
  | succ fuel ih =>
    rw [search]
    cases here : r.gridPoint? k with
    | some point => exact contains_of_gridPoint? here
    | none =>
      cases steps with
      | zero => simp [here] at found
      | succ steps =>
        refine ih (Nat.lt_of_succ_lt_succ reached) ?_
        rwa [show k - 1 - (steps : Int) = k - (steps + 1 : Nat) by push_cast; ring]

end ReadBack

/-! ## The shortest decimal -/

theorem Scientific.value_dropZeros (fuel : Nat) (s : Scientific) :
    (s.dropZeros fuel).value = s.value := by
  induction fuel generalizing s with
  | zero => rfl
  | succ fuel ih =>
    rw [dropZeros]
    split
    case isFalse => rfl
    case isTrue zero =>
      have tenth : s.digits = 10 * (s.digits / 10) := by omega
      rw [ih, value, value]
      conv_rhs => rw [tenth]
      rw [zpow_add_one₀ (by norm_num)]
      push_cast
      ring

/-- The grid seventeen places behind the leading digit of a double is fine. -/
theorem fine_grid {d : Dyadic} (canonical : d.Canonical) (positive : 0 < d.mantissa) :
    (2 : ℚ) * 10 ^ (leadingExponent d.num d.den - (17 : Nat)) < 2 ^ d.exponent := by
  have numPos : 0 < d.num := Nat.mul_pos positive (Nat.pow_pos two_pos)
  obtain ⟨leading, -⟩ := leadingExponent_between numPos d.den_pos
  have step : (0 : ℚ) < 2 ^ d.exponent := by positivity
  have mantissa : (d.mantissa : ℚ) ≤ 2 ^ 53 := by exact_mod_cast canonical.mantissa_lt.le
  rw [d.num_div_den, Dyadic.value] at leading
  calc (2 : ℚ) * 10 ^ (leadingExponent d.num d.den - (17 : Nat))
      = 2 * 10 ^ leadingExponent d.num d.den / 10 ^ 17 := by
        rw [zpow_sub₀ (by norm_num), zpow_natCast, mul_div_assoc]
    _ ≤ 2 * (2 ^ 53 * 2 ^ d.exponent) / 10 ^ 17 := by
        gcongr
        exact leading.trans (by gcongr)
    _ < 2 ^ d.exponent := by linarith

/-- The shortest decimal of a double lies in its interval. -/
theorem contains_shortest {d : Dyadic} (canonical : d.Canonical) (positive : 0 < d.mantissa) :
    (ReadBack.of d).Contains (shortest d).value := by
  have found : ((ReadBack.of d).gridPoint? (leadingExponent d.num d.den - (17 : Nat))).isSome := by
    rw [ReadBack.gridPoint?_eq, if_pos (ReadBack.isInside_nearest positive
      (fine_grid canonical positive))]
    rfl
  rw [shortest, if_neg positive.ne', Scientific.normal, Scientific.value_dropZeros]
  exact ReadBack.search_spec _ (by decide) found

end GrowthGrammar.Decimal

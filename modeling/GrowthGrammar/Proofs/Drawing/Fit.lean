import GrowthGrammar.Drawing.Fit
import GrowthGrammar.Proofs.Plane.Bounds

/-!
# Fits in doubles and in exact arithmetic

In exact arithmetic a fit maps the points of a box into the canvas (`Fit.apply_mem_canvas`).
With doubles each number of the fit is rounded, and `Fit.Follows` says how far each of them can
be away from the exact one.  Main statement: the fit onto a canvas exists and follows the exact
fit of the values, as long as the exact one is in the range of the doubles
(`Fit.exists_follows`).

The scale is the least of one or two quotients.  A quotient of a short side can be infinite
although the scale is not, so what is carried through the choice of the least
(`ScaleFollows`) says nothing about large scales but that they are not small.
-/

namespace GrowthGrammar

open Decimal Decimal.Binary64

namespace Fit

/-! ## The least scale -/

section

variable {k : ℚ} {ks : List ℚ}

theorem least_le (member : k ∈ ks) : least ks ≤ k := by
  cases ks with
  | nil => cases member
  | cons first rest =>
    refine foldl_of_exists (P := (· ≤ k)) (fun below => ?_) ⟨k, member, le_rfl⟩
    rwa [← min_def_lt, min_le_iff, or_comm]

theorem least_mem (given : ks ≠ []) : least ks ∈ ks := by
  cases ks with
  | nil => exact absurd rfl given
  | cons first rest =>
    refine foldl_mem_of_choice (fun m x => ?_) first rest
    split
    · exact .inr rfl
    · exact .inl rfl

theorem least_pos (positive : ∀ k ∈ ks, 0 < k) : 0 < least ks := by
  by_cases none : ks = []
  · rw [none]
    exact one_pos
  · exact positive _ (least_mem none)

end

/-! ## The exact fit -/

section

variable {width height : ℚ} {b : Bounds ℚ}

theorem mem_scales (k : ℚ) : k ∈ scales width height b ↔
    (0 < b.width ∧ k = width / b.width) ∨ (0 < b.height ∧ k = height / b.height) := by
  rw [scales, List.mem_append]
  by_cases wide : 0 < b.width <;> by_cases high : 0 < b.height <;> simp [wide, high]

variable (widthPos : 0 < width) (heightPos : 0 < height)

/-- A side that is scaled fits onto its size, also if it has no length and no scale of its own. -/
theorem scaleOf_mul_le {side size : ℚ} (sizePos : 0 < size) (nonneg : 0 ≤ side)
    (member : 0 < side → size / side ∈ scales width height b) :
    scaleOf width height b * side ≤ size := by
  rcases nonneg.eq_or_lt with none | long
  · rw [← none, mul_zero]
    exact sizePos.le
  · rw [← le_div_iff₀ long]
    exact least_le (member long)

include widthPos in
theorem scaleOf_mul_width_le (nonneg : 0 ≤ b.width) : scaleOf width height b * b.width ≤ width :=
  scaleOf_mul_le widthPos nonneg fun wide => (mem_scales _).mpr (.inl ⟨wide, rfl⟩)

include heightPos in
theorem scaleOf_mul_height_le (nonneg : 0 ≤ b.height) :
    scaleOf width height b * b.height ≤ height :=
  scaleOf_mul_le heightPos nonneg fun high => (mem_scales _).mpr (.inr ⟨high, rfl⟩)

include widthPos heightPos in
theorem scaleOf_pos : 0 < scaleOf width height b := by
  refine least_pos fun k member => ?_
  rcases (mem_scales k).mp member with ⟨wide, rfl⟩ | ⟨high, rfl⟩
  · exact div_pos widthPos wide
  · exact div_pos heightPos high

end

end Fit

namespace Bounds.Covers

variable {b : Bounds ℚ} {p : Point ℚ} (covers : b.Covers p)

include covers

theorem width_nonneg : 0 ≤ b.width := sub_nonneg.mpr (covers.left.trans covers.right)

theorem height_nonneg : 0 ≤ b.height := sub_nonneg.mpr (covers.below.trans covers.above)

/-- A point of a box is at most half a side from its middle. -/
theorem abs_sub_center_x_le : |p.x - b.center.x| ≤ b.width / 2 := by
  obtain ⟨left, right, -, -⟩ := covers
  rw [Bounds.center, Bounds.width, abs_le]
  constructor <;> simp only <;> linarith

theorem abs_sub_center_y_le : |p.y - b.center.y| ≤ b.height / 2 := by
  obtain ⟨-, -, below, above⟩ := covers
  rw [Bounds.center, Bounds.height, abs_le]
  constructor <;> simp only <;> linarith

end Bounds.Covers

namespace Fit

/-- The exact fit maps the points of the box into the canvas. -/
theorem apply_mem_canvas {width height : ℚ} {b : Bounds ℚ} {p : Point ℚ} (widthPos : 0 < width)
    (heightPos : 0 < height) (covers : b.Covers p) :
    (0 ≤ ((ofBounds width height b).apply p).x ∧ ((ofBounds width height b).apply p).x ≤ width) ∧
      0 ≤ ((ofBounds width height b).apply p).y ∧
        ((ofBounds width height b).apply p).y ≤ height := by
  have scalePos := scaleOf_pos (b := b) widthPos heightPos
  have along : scaleOf width height b * b.width ≤ width :=
    scaleOf_mul_width_le widthPos covers.width_nonneg
  have across : scaleOf width height b * b.height ≤ height :=
    scaleOf_mul_height_le heightPos covers.height_nonneg
  have x := mul_le_mul_of_nonneg_left covers.abs_sub_center_x_le scalePos.le
  have y := mul_le_mul_of_nonneg_left covers.abs_sub_center_y_le scalePos.le
  rw [← abs_of_pos scalePos, ← abs_mul, abs_of_pos scalePos, abs_le] at x y
  simp only [apply, ofBounds]
  refine ⟨⟨?_, ?_⟩, ?_, ?_⟩ <;> linarith [x.1, x.2, y.1, y.2]

/-! ## Scales in doubles -/

/-- A double follows an exact scale: it is within a few roundings of the scale, or infinite where
the scale is out of range. -/
structure ScaleFollows (x : Float) (k : ℚ) : Prop where
  /-- The scale is above zero. -/
  pos : 0 < k
  /-- The double is finite or infinity. -/
  isFinite_or : x.isFinite = true ∨ x = infinity
  /-- It is not much smaller than the scale. -/
  low : x.isFinite = true → k ≤ value x + slack k
  /-- In range it is finite and not much larger. -/
  high : InRange k → x.isFinite = true ∧ value x ≤ k + slack k

theorem slack_mono {j k : ℚ} (pos : 0 < j) (le : j ≤ k) :
    j - slack j ≤ k - slack k ∧ j + slack j ≤ k + slack k := by
  rw [slack, slack, abs_of_pos pos, abs_of_pos (pos.trans_le le)]
  constructor <;> linarith

namespace ScaleFollows

theorem approximates {x : Float} {k : ℚ} (follows : ScaleFollows x k) (inRange : InRange k) :
    Approximates x k := by
  obtain ⟨finite, high⟩ := follows.high inRange
  refine ⟨finite, abs_le.mpr ⟨?_, by linarith⟩⟩
  linarith [follows.low finite]

/-- A double that is not above the one of another scale follows the lesser of both scales. -/
theorem min_of_le {m x : Float} {j k : ℚ} (first : ScaleFollows m j) (second : ScaleFollows x k)
    (below : m.isFinite = true → x.isFinite = true ∧ value x ≤ value m) :
    ScaleFollows x (min k j) := by
  have pos : 0 < min k j := lt_min second.pos first.pos
  refine ⟨pos, second.isFinite_or, fun finite => ?_, fun inRange => ?_⟩
  · linarith [second.low finite, (slack_mono pos (min_le_left k j)).1]
  · rcases min_choice k j with isK | isJ
    · rw [isK] at inRange ⊢
      exact second.high inRange
    · rw [isJ] at inRange ⊢
      obtain ⟨finiteM, high⟩ := first.high inRange
      obtain ⟨finiteX, le⟩ := below finiteM
      exact ⟨finiteX, le.trans high⟩

/-- The lesser of two scales is followed by the lesser of their doubles. -/
theorem lesser {m x : Float} {j k : ℚ} (first : ScaleFollows m j) (second : ScaleFollows x k) :
    ScaleFollows (if x < m then x else m) (if k < j then k else j) := by
  rw [← min_def_lt]
  by_cases less : x < m
  · rw [if_pos less]
    refine first.min_of_le second fun finiteM => ?_
    have finiteX := second.isFinite_or.resolve_right fun same => not_infinity_lt m (same ▸ less)
    exact ⟨finiteX, ((lt_iff_value finiteX finiteM).mp less).le⟩
  · rw [if_neg less, min_comm]
    refine second.min_of_le first fun finiteX => ?_
    have finiteM := first.isFinite_or.resolve_right fun same => less (same ▸ lt_infinity finiteX)
    exact ⟨finiteM, not_lt.mp (mt (lt_iff_value finiteX finiteM).mpr less)⟩

end ScaleFollows

/-- The least scale is followed by the least double. -/
theorem least_follows {xs : List Float} {ks : List ℚ} (follows : List.Forall₂ ScaleFollows xs ks)
    (given : ks ≠ []) : ScaleFollows (least xs) (least ks) := by
  cases follows with
  | nil => exact absurd rfl given
  | @cons x k xs ks first rest =>
    clear given
    rw [least, least]
    induction rest generalizing x k with
    | nil => exact first
    | cons second _ ih => exact ih (first.lesser second)

/-- A quotient of two numbers that are rounded once. -/
theorem abs_ratio_sub_le {k w w' l : ℚ} (kPos : 0 < k) (lPos : 0 < w)
    (near : |w' - w| ≤ w / 2 ^ 53) (near' : |l - k * w| ≤ k * w / 2 ^ 53) :
    0 < w' ∧ |l / w' - k| ≤ k / 2 ^ 51 := by
  obtain ⟨below, above⟩ := abs_le.mp near
  obtain ⟨below', above'⟩ := abs_le.mp near'
  have pos : 0 < w' := by linarith
  have product : 0 < k * w := mul_pos kPos lPos
  have low := mul_le_mul_of_nonneg_left (by linarith : w - w / 2 ^ 53 ≤ w') kPos.le
  have high := mul_le_mul_of_nonneg_left (by linarith : w' ≤ w + w / 2 ^ 53) kPos.le
  refine ⟨pos, abs_le.mpr ⟨?_, ?_⟩⟩
  · rw [neg_le_sub_iff_le_add, ← sub_le_iff_le_add, le_div_iff₀ pos]
    linarith
  · rw [sub_le_iff_le_add, div_le_iff₀ pos]
    linarith

/-- The quotient of a size and a side follows the exact one. -/
theorem scaleFollows_div {x side : Float} {n : Int} {w : ℚ} (pos : 0 < n)
    (finite : x.isFinite = true) (nearest : Nearest x n) (sidePos : 0 < w)
    (sideFinite : side.isFinite = true) (near : |value side - w| ≤ w / 2 ^ 53) :
    ScaleFollows (x / side) (n / w) := by
  have step : (0 : ℚ) < 2 ^ minExponent := by positivity
  have size : (0 : ℚ) < n := by exact_mod_cast pos
  have kPos : 0 < (n : ℚ) / w := div_pos size sidePos
  obtain ⟨_, multiple⟩ := exists_multiple_int n
  have sizeNear := nearest.abs_sub_le_of_multiple finite multiple
  rw [abs_of_pos size] at sizeNear
  have product : (n : ℚ) / w * w = n := div_mul_cancel₀ _ sidePos.ne'
  obtain ⟨valuePos, ratio⟩ := abs_ratio_sub_le kPos sidePos near (by rwa [product])
  have quotient := nearest_div finite sideFinite valuePos.ne'
  generalize (n : ℚ) / w = k at *
  obtain ⟨below, above⟩ := abs_le.mp ratio
  have ratioPos : 0 < value x / value side := by linarith
  have rounded (finite : (x / side).isFinite = true) := abs_le.mp (quotient.abs_sub_le finite)
  rw [abs_of_pos ratioPos] at rounded
  refine ⟨kPos, ?_, fun finite => ?_, fun inRange => ?_⟩
  · by_cases finite : (x / side).isFinite = true
    · exact .inl finite
    · exact .inr (quotient.eq_infinity ratioPos finite)
  · rw [slack, abs_of_pos kPos]
    linarith [(rounded finite).1]
  · have finite : (x / side).isFinite = true := by
      refine quotient.isFinite (inRange.lt ?_)
      rw [abs_of_pos kPos, abs_of_pos ratioPos]
      linarith
    refine ⟨finite, ?_⟩
    rw [slack, abs_of_pos kPos]
    linarith [(rounded finite).2]

/-! ## Sizes of a canvas -/

theorem nearest_ratio (n : Int) {den : Nat} (hd : 0 < den) :
    Nearest (ofQuotient (decide (n < 0)) n.natAbs den) (n / den) := by
  refine ⟨decide (n < 0), n.natAbs, den, hd, rfl, ?_⟩
  have absolute : ((n.natAbs : Nat) : ℚ) = |(n : ℚ)| := by rw [Nat.cast_natAbs, Int.cast_abs]
  rw [absolute, withSign]
  by_cases negative : n < 0
  · rw [if_pos (by simpa using negative), abs_of_neg (by exact_mod_cast negative), neg_div, neg_neg]
  · rw [if_neg (by simpa using negative), abs_of_nonneg (by exact_mod_cast not_lt.mp negative)]

theorem quotientBits_ne_of_isFinite {negative : Bool} {num den : Nat}
    (finite : (ofQuotient negative num den).isFinite = true) :
    quotientBits num den ≠ infinityBits := by
  intro infinite
  rw [ofQuotient, infinite] at finite
  exact not_isFinite_infinity negative finite

section

variable {n : Int} (inRange : InRange ((n : ℚ) / 2))

include inRange

/-- A whole size in range has a nearest double. -/
theorem exists_toFloat :
    ∃ x, Size.toFloat (.whole n) = .ok x ∧ x.isFinite = true ∧ Nearest x n := by
  have nearest := nearest_ratio n one_pos
  rw [Nat.cast_one, div_one] at nearest
  have finite := nearest.isFinite (inRange.lt (by
    rw [abs_div, abs_two]
    linarith [abs_nonneg (n : ℚ)]))
  refine ⟨ofInt n, ?_, finite, nearest⟩
  simp only [Size.toFloat, ofInt?, if_neg (quotientBits_ne_of_isFinite finite)]

/-- Half a whole size in range has a nearest double. -/
theorem exists_half :
    ∃ x, Size.half (.whole n) = .ok x ∧ Approximates x (n / 2) := by
  have nearest := nearest_ratio n two_pos
  rw [Nat.cast_ofNat] at nearest
  have finite := nearest.isFinite (inRange.lt (by linarith [abs_nonneg ((n : ℚ) / 2)]))
  refine ⟨_, ?_, nearest.approximates finite⟩
  simp only [Size.half, if_neg (quotientBits_ne_of_isFinite finite)]

/-- The size for a side that has a length is the nearest double. -/
theorem exists_sizeFor (length : Float) : ∃ x, sizeFor (.whole n) length = .ok x ∧
    (0 < length → x.isFinite = true ∧ Nearest x n) := by
  obtain ⟨x, converted, finite, nearest⟩ := exists_toFloat inRange
  by_cases long : 0 < length
  · exact ⟨x, by rw [sizeFor, if_pos long, converted], fun _ => ⟨finite, nearest⟩⟩
  · exact ⟨1, by rw [sizeFor, if_neg long], fun isLong => absurd isLong long⟩

end

/-! ## Fits in doubles -/

/-- Every number of a fit is within a few roundings of that of an exact fit. -/
structure Follows (f : Fit Float) (g : Fit ℚ) : Prop where
  /-- The middle of the canvas from left to right. -/
  middle_x : Approximates f.middle.x g.middle.x
  /-- The middle of the canvas from top to bottom. -/
  middle_y : Approximates f.middle.y g.middle.y
  /-- The scale. -/
  scale : Approximates f.scale g.scale
  /-- The middle of the box from left to right. -/
  center_x : Approximates f.center.x g.center.x
  /-- The middle of the box from bottom to top. -/
  center_y : Approximates f.center.y g.center.y

/-- The numbers of a fit are in the range of the doubles. -/
structure InRange (g : Fit ℚ) : Prop where
  /-- Half the width of the canvas. -/
  middle_x : Decimal.Binary64.InRange g.middle.x
  /-- Half the height of the canvas. -/
  middle_y : Decimal.Binary64.InRange g.middle.y
  /-- The scale. -/
  scale : Decimal.Binary64.InRange g.scale
  /-- The middle of the box from left to right. -/
  center_x : Decimal.Binary64.InRange g.center.x
  /-- The middle of the box from bottom to top. -/
  center_y : Decimal.Binary64.InRange g.center.y

/-- The side of a box in doubles has the sign of the exact side and is rounded once. -/
theorem side_spec {low high : Float} (finite : (high - low).isFinite = true) :
    (0 < high - low ↔ 0 < value high - value low) ∧ (0 < value high - value low →
      |value (high - low) - (value high - value low)| ≤ (value high - value low) / 2 ^ 53) := by
  obtain ⟨highFinite, lowFinite⟩ := isFinite_of_sub finite
  obtain ⟨n, multiple⟩ := exists_multiple_sub highFinite lowFinite
  have nearest := nearest_sub highFinite lowFinite
  refine ⟨(zero_lt_iff_value finite).trans (nearest.value_pos_iff finite multiple), fun pos => ?_⟩
  have near := nearest.abs_sub_le_of_multiple finite multiple
  rwa [abs_of_pos pos] at near

/-- A side that has a length has a scale, which follows the exact one, and any other has none. -/
theorem scales_side_follow {low high x : Float} {n : Int} (pos : 0 < n)
    (finite : (high - low).isFinite = true)
    (size : 0 < high - low → x.isFinite = true ∧ Nearest x n) :
    List.Forall₂ ScaleFollows (if 0 < high - low then [x / (high - low)] else [])
      (if 0 < value high - value low then [(n : ℚ) / (value high - value low)] else []) := by
  obtain ⟨sameSign, near⟩ := side_spec finite
  by_cases long : 0 < high - low
  · obtain ⟨sizeFinite, nearest⟩ := size long
    have exact := sameSign.mp long
    rw [if_pos long, if_pos exact]
    exact .cons (scaleFollows_div pos sizeFinite nearest exact finite (near exact)) .nil
  · rw [if_neg long, if_neg (mt sameSign.mpr long)]
    exact .nil

section

variable {b : Bounds Float} (widthFinite : b.width.isFinite = true)
  (heightFinite : b.height.isFinite = true) (side : 0 < b.width ∨ 0 < b.height)
  {width height : Int} (widthPos : 0 < width) (heightPos : 0 < height)

include widthFinite heightFinite side widthPos heightPos

/-- The scales of the sides that have a length follow the exact ones. -/
theorem scaleOf_follows {w h : Float} (wide : 0 < b.width → w.isFinite = true ∧ Nearest w width)
    (high : 0 < b.height → h.isFinite = true ∧ Nearest h height) :
    ScaleFollows (scaleOf w h b) (scaleOf (width : ℚ) height b.value) := by
  refine least_follows (List.rel_append (scales_side_follow widthPos widthFinite wide)
    (scales_side_follow heightPos heightFinite high)) ?_
  have wideIff : 0 < b.width ↔ 0 < b.value.width := (side_spec widthFinite).1
  have highIff : 0 < b.height ↔ 0 < b.value.height := (side_spec heightFinite).1
  rw [wideIff, highIff] at side
  rcases side with long | long
  · exact List.ne_nil_of_mem ((mem_scales _).mpr (.inl ⟨long, rfl⟩))
  · exact List.ne_nil_of_mem ((mem_scales _).mpr (.inr ⟨long, rfl⟩))

/-- The fit onto a canvas exists and follows the exact fit if that is in range. -/
theorem exists_follows (inRange : (ofBounds (width : ℚ) height b.value).InRange) :
    ∃ f, onCanvas (.whole width) (.whole height) b = .ok f ∧
      f.Follows (ofBounds (width : ℚ) height b.value) := by
  obtain ⟨maxX, minX⟩ := isFinite_of_sub widthFinite
  obtain ⟨maxY, minY⟩ := isFinite_of_sub heightFinite
  obtain ⟨w, sizeX, wide⟩ := exists_sizeFor inRange.middle_x b.width
  obtain ⟨h, sizeY, high⟩ := exists_sizeFor inRange.middle_y b.height
  obtain ⟨halfWidth, halfX, middleX⟩ := exists_half inRange.middle_x
  obtain ⟨halfHeight, halfY, middleY⟩ := exists_half inRange.middle_y
  have scale := scaleOf_follows widthFinite heightFinite side widthPos heightPos wide high
  refine ⟨⟨⟨halfWidth, halfHeight⟩, scaleOf w h b, b.center⟩, ?_, ?_⟩
  · rw [onCanvas, sizeX, sizeY, halfX, halfY]
    rfl
  · exact ⟨middleX, middleY, scale.approximates inRange.scale,
      approximates_mean minX maxX rfl inRange.center_x,
      approximates_mean minY maxY rfl inRange.center_y⟩

end

end Fit

end GrowthGrammar

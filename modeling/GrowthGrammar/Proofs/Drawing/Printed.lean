import GrowthGrammar.Drawing.Svg
import GrowthGrammar.Proofs.Decimal.Overflow
import GrowthGrammar.Proofs.Drawing.Coordinate
import GrowthGrammar.Proofs.Drawing.Fit
import GrowthGrammar.Proofs.Plane.Runs

/-!
# The printed drawing

A drawing says its fit and its vertices with four places after the point.  Main statement: the
printed transformation puts each printed vertex within `drift` of its place in exact arithmetic,
which is on the canvas (`svgOf_near_exact`).

The vertices, the scale and the centre are rounded before they are multiplied, so the drift grows
with the scale and with the sides of the box.  For ordinary drawings it is at most one unit
(`drift_le_one`).  A scale below half of the last place is printed as zero, and what is drawn
then is one point (`printedFit_apply_of_small`).
-/

namespace GrowthGrammar.Drawing

open Decimal.Binary64

/-! ## Rounding along one axis -/

/-- How far rounding can move a coordinate on a canvas of some size.  The first part comes from
four places of the middle, of the vertices and the centre, and of the scale; the second from the
digits of a double. -/
def drift (size scale side center : ℚ) : ℚ :=
  (4 + 5 * scale + side) / 40000 + (size + (1 + scale) * |center|) / 2 ^ 49

theorem least_step : (0 : ℚ) < 2 ^ minExponent ∧ (2 : ℚ) ^ minExponent ≤ 1 / 2 ^ 100 ∧
    (2 : ℚ) ^ minExponent * 2 ^ (1025 : Int) ≤ 1 / 2 ^ 40 := by
  refine ⟨by positivity, ?_, ?_⟩
  · calc (2 : ℚ) ^ minExponent ≤ 2 ^ (-100 : Int) := zpow_le_zpow_right₀ one_le_two (by decide)
      _ = 1 / 2 ^ 100 := by norm_num
  · calc (2 : ℚ) ^ minExponent * 2 ^ (1025 : Int) = 2 ^ (minExponent + 1025) :=
        (zpow_add₀ two_ne_zero _ _).symm
      _ ≤ 2 ^ (-40 : Int) := zpow_le_zpow_right₀ one_le_two (by decide)
      _ = 1 / 2 ^ 40 := by norm_num

section

variable {size s s' c t x x' side : ℚ} (sPos : 0 < s) (scale : |s' - s| ≤ 1 / 20000 + slack s)
  (center : |t + c| ≤ 1 / 20000 + slack c) (vertex : |x' - x| ≤ 1 / 20000)
  (inside : |x - c| ≤ side / 2) (along : s * side ≤ size)
  (bounded : side ≤ 2 ^ (1025 : Int))

include sPos scale center vertex inside along bounded

/-- The error of a product of rounded factors: that of the distance times the scale, and that of
the scale times the distance. -/
theorem abs_scaled_sub_le : |s' * (x' + t) - s * (x - c)| ≤
    (2 + 5 * s + side) / 40000 + (size / 2 + (1 + s) * |c|) / 2 ^ 49 := by
  obtain ⟨stepPos, stepSmall, stepSide⟩ := least_step
  rw [slack] at scale center
  rw [abs_of_pos sPos] at scale
  generalize (2 : ℚ) ^ minExponent = step at *
  have sidePos : 0 ≤ side := by linarith [abs_nonneg (x - c)]
  have cPos := abs_nonneg c
  have product := mul_nonneg sPos.le cPos
  have area := mul_nonneg sPos.le sidePos
  have stepWide : step * side ≤ 1 / 2 ^ 40 :=
    (mul_le_mul_of_nonneg_left bounded stepPos.le).trans stepSide
  clear stepSide bounded
  have distance : |(x' - x) + (t + c)| ≤ 1 / 10000 + |c| / 2 ^ 50 + 1 / 2 ^ 100 := by
    linarith [abs_add_le (x' - x) (t + c)]
  have factor : |s'| ≤ s + 1 / 10000 + s / 2 ^ 50 := by
    have := abs_add_le (s' - s) s
    rw [sub_add_cancel, abs_of_pos sPos] at this
    linarith
  have first : |s' * ((x' - x) + (t + c))| ≤
      (s + 1 / 10000 + s / 2 ^ 50) * (1 / 10000 + |c| / 2 ^ 50 + 1 / 2 ^ 100) := by
    rw [abs_mul]
    exact mul_le_mul factor distance (abs_nonneg _) (by positivity)
  have second : |(s' - s) * (x - c)| ≤ (1 / 20000 + s / 2 ^ 50 + step) * (side / 2) := by
    rw [abs_mul]
    exact mul_le_mul (by linarith) inside (abs_nonneg _) (by positivity)
  calc |s' * (x' + t) - s * (x - c)|
      = |s' * ((x' - x) + (t + c)) + (s' - s) * (x - c)| := by congr 1; ring
    _ ≤ (s + 1 / 10000 + s / 2 ^ 50) * (1 / 10000 + |c| / 2 ^ 50 + 1 / 2 ^ 100) +
          (1 / 20000 + s / 2 ^ 50 + step) * (side / 2) :=
        (abs_add_le _ _).trans (add_le_add first second)
    _ = s * ((1 + 1 / 2 ^ 50) * (1 / 10000 + 1 / 2 ^ 100)) +
          s * |c| * ((1 + 1 / 2 ^ 50) / 2 ^ 50) + 1 / 10000 * (1 / 10000 + 1 / 2 ^ 100) +
          |c| * (1 / 10000 / 2 ^ 50) + side / 40000 + s * side / 2 ^ 51 + step * side / 2 := by
        ring
    _ ≤ (2 + 5 * s + side) / 40000 + (size / 2 + (1 + s) * |c|) / 2 ^ 49 := by linarith

end

/-- What the distance and the scale leave of the drift is for the middle of the canvas. -/
theorem abs_placed_sub_le {size s c side m u u' : ℚ} (large : 1 ≤ size)
    (middle : |m - size / 2| ≤ 1 / 20000 + slack (size / 2))
    (near : |u' - u| ≤ (2 + 5 * s + side) / 40000 + (size / 2 + (1 + s) * |c|) / 2 ^ 49) :
    |m + u' - (size / 2 + u)| ≤ drift size s side c ∧
      |m - u' - (size / 2 - u)| ≤ drift size s side c := by
  obtain ⟨-, stepSmall, -⟩ := least_step
  rw [slack, abs_of_pos (by linarith : 0 < size / 2)] at middle
  rw [drift]
  obtain ⟨middleLow, middleHigh⟩ := abs_le.mp middle
  obtain ⟨low, high⟩ := abs_le.mp near
  constructor <;> rw [abs_le] <;> constructor <;> linarith

/-! ## What a drawing says -/

/-- A move, a scaling and another move, the last one first. -/
structure Transform where
  /-- The move that comes last. -/
  first : Point ℚ
  /-- The factors of the coordinates. -/
  factors : Point ℚ
  /-- The move that comes first. -/
  last : Point ℚ

/-- The place of a point. -/
def Transform.apply (t : Transform) (p : Point ℚ) : Point ℚ :=
  ⟨t.first.x + t.factors.x * (p.x + t.last.x), t.first.y + t.factors.y * (p.y + t.last.y)⟩

/-- A text says a transformation by name with two numbers. -/
def SaidPair (name text : String) (p : Point ℚ) : Prop :=
  ∃ a b : List Char, text = name ++ "(" ++ String.ofList a ++ " " ++ String.ofList b ++ ")" ∧
    said a = some p.x ∧ said b = some p.y

/-- A text says two moves and the scaling between them. -/
def Transform.SaidIn (t : Transform) (text : String) : Prop :=
  ∃ first factors last, text = first ++ " " ++ factors ++ " " ++ last ∧
    SaidPair "translate" first t.first ∧ SaidPair "scale" factors t.factors ∧
    SaidPair "translate" last t.last

/-- The coordinates of a point are written so that they say another one. -/
def SaidPoint (p : Point Float) (q : Point ℚ) : Prop :=
  said (coordinate p.x) = some q.x ∧ said (coordinate p.y) = some q.y

/-- The point whose coordinates are said for a point. -/
def printedPoint (p : Point Float) : Point ℚ := ⟨printed p.x, printed p.y⟩

theorem saidPoint_printedPoint {p : Point Float} (finite : p.IsFinite) :
    SaidPoint p (printedPoint p) :=
  ⟨said_coordinate finite.1, said_coordinate finite.2⟩

theorem saidPair_transformation (name : String) {x y : Float} (finiteX : x.isFinite = true)
    (finiteY : y.isFinite = true) :
    SaidPair name (transformation name x y) ⟨printed x, printed y⟩ :=
  ⟨coordinate x, coordinate y, rfl, said_coordinate finiteX, said_coordinate finiteY⟩

/-- A number that follows another one is written within half a unit more. -/
theorem abs_printed_sub_le_of_approximates {x : Float} {y : ℚ} (near : Approximates x y) :
    |printed x - y| ≤ 1 / 20000 + slack y :=
  (abs_sub_le _ (value x) _).trans (add_le_add (abs_printed_sub_le near.finite) near.abs_sub_le)

/-- The transformation that the text of a fit says. -/
def printedFit (f : Fit Float) : Transform where
  first := ⟨printed f.middle.x, printed f.middle.y⟩
  factors := ⟨printed f.scale, -printed f.scale⟩
  last := ⟨-printed f.center.x, -printed f.center.y⟩

section

variable {f : Fit Float} {g : Fit ℚ} (follows : f.Follows g)

include follows

theorem saidIn_fitText : (printedFit f).SaidIn (fitText f) := by
  obtain ⟨middleX, middleY, scale, centerX, centerY⟩ := follows
  refine ⟨_, _, _, rfl, saidPair_transformation "translate" middleX.finite middleY.finite, ?_, ?_⟩
  · have written := saidPair_transformation "scale" scale.finite (isFinite_neg scale.finite)
    rwa [printed_neg scale.finite] at written
  · have written := saidPair_transformation "translate" (isFinite_neg centerX.finite)
      (isFinite_neg centerY.finite)
    rwa [printed_neg centerX.finite, printed_neg centerY.finite] at written

/-- A scale that is small is written as zero, and then every point has the same place. -/
theorem printedFit_apply_of_small (pos : 0 < g.scale) (small : 20001 * g.scale ≤ 1)
    (q : Point ℚ) : (printedFit f).apply q = (printedFit f).first := by
  obtain ⟨stepPos, stepSmall, -⟩ := least_step
  have near := follows.scale.abs_sub_le
  rw [slack, abs_of_pos pos] at near
  have zero : printed f.scale = 0 := by
    refine printed_eq_zero follows.scale.finite ?_
    have := abs_add_le (value f.scale - g.scale) g.scale
    rw [sub_add_cancel, abs_of_pos pos] at this
    linarith
  simp [Transform.apply, printedFit, zero]

end

/-! ## Drawings -/

/-- A canvas with whole sizes above zero is not refused. -/
theorem checkArea_whole {width height : Int} (widthPos : 0 < width) (heightPos : 0 < height) :
    checkArea (.whole width) (.whole height) = .ok () := by
  have wide : Size.isEmpty (.whole width) = .ok false := by simp [Size.isEmpty, widthPos]
  have high : Size.isEmpty (.whole height) = .ok false := by simp [Size.isEmpty, heightPos]
  rw [checkArea, wide, high]
  rfl

/-- A whole size in the range of the doubles has few enough digits to be written. -/
theorem isWritable_whole {n : Int} (inRange : Decimal.Binary64.InRange ((n : ℚ) / 2)) :
    (Size.whole n).isWritable = true := by
  obtain ⟨x, -, finite, nearest⟩ := Fit.exists_toFloat inRange
  have bound := nearest.isFinite_iff.mp finite
  have inside : n.natAbs < overflowBound := by
    rw [← Int.cast_abs, Int.abs_eq_natAbs] at bound
    exact_mod_cast bound
  exact isWritable_of_lt (inside.trans_le <| Nat.le_mul_of_pos_left overflowBound two_pos)

section

variable {path : Path Float} {b : Bounds Float} {canvas : Canvas} {width height : Int}
  (bounded : path.bounds? = some b) (widthFinite : b.width.isFinite = true)
  (heightFinite : b.height.isFinite = true)

include bounded widthFinite heightFinite in
/-- The box of the values covers the values of the end points. -/
theorem covers_value : ∀ p ∈ path.ends, b.value.Covers p.value := by
  intro p member
  have finite := Path.isFinite_of_bounds? bounded widthFinite heightFinite
  have exact := Path.bounds?_value finite
  rw [bounded, Option.map_some] at exact
  refine Path.covers_of_bounds? exact _ ?_
  rw [Path.ends_map_value]
  exact List.mem_map_of_mem member

/-- The sides of a box of doubles have a bound. -/
theorem sub_value_le (x y : Float) : value x - value y ≤ 2 ^ (1025 : Int) := by
  have twice : (2 : ℚ) ^ (1025 : Int) = 2 ^ (1024 : Int) + 2 ^ (1024 : Int) := by
    rw [← two_mul, ← zpow_one_add₀ two_ne_zero]
    rfl
  rw [twice]
  linarith [le_abs_self (value x), neg_abs_le (value y), abs_value_lt x, abs_value_lt y]

include bounded widthFinite heightFinite in
/-- The place of a written vertex under the written fit. -/
theorem abs_printedFit_apply_sub_le {f : Fit Float} (widthPos : 0 < width) (heightPos : 0 < height)
    (follows : f.Follows (Fit.ofBounds (width : ℚ) height b.value)) {p : Point Float}
    (member : p ∈ path.ends) :
    |((printedFit f).apply (printedPoint p)).x -
        ((Fit.ofBounds (width : ℚ) height b.value).apply p.value).x| ≤
        drift width (Fit.ofBounds (width : ℚ) height b.value).scale b.value.width
          b.value.center.x ∧
      |((printedFit f).apply (printedPoint p)).y -
          ((Fit.ofBounds (width : ℚ) height b.value).apply p.value).y| ≤
        drift height (Fit.ofBounds (width : ℚ) height b.value).scale b.value.height
          b.value.center.y := by
  obtain ⟨finiteX, finiteY⟩ := Path.isFinite_of_bounds? bounded widthFinite heightFinite p member
  have covers := covers_value bounded widthFinite heightFinite p member
  have widthPos' : (0 : ℚ) < width := by exact_mod_cast widthPos
  have heightPos' : (0 : ℚ) < height := by exact_mod_cast heightPos
  have scalePos := Fit.scaleOf_pos (b := b.value) widthPos' heightPos'
  have scale := abs_printed_sub_le_of_approximates follows.scale
  have centerX := abs_printed_sub_le_of_approximates follows.center_x
  have centerY := abs_printed_sub_le_of_approximates follows.center_y
  rw [← abs_neg, neg_sub, sub_eq_neg_add] at centerX centerY
  have x := abs_scaled_sub_le scalePos scale centerX (abs_printed_sub_le finiteX)
    covers.abs_sub_center_x_le (Fit.scaleOf_mul_width_le widthPos' covers.width_nonneg)
    (sub_value_le _ _)
  have y := abs_scaled_sub_le scalePos scale centerY (abs_printed_sub_le finiteY)
    covers.abs_sub_center_y_le (Fit.scaleOf_mul_height_le heightPos' covers.height_nonneg)
    (sub_value_le _ _)
  constructor
  · have large : (1 : ℚ) ≤ width := by exact_mod_cast widthPos
    exact (abs_placed_sub_le large (abs_printed_sub_le_of_approximates follows.middle_x) x).1
  · have large : (1 : ℚ) ≤ height := by exact_mod_cast heightPos
    have placed :=
      (abs_placed_sub_le large (abs_printed_sub_le_of_approximates follows.middle_y) y).2
    have flipped : ((printedFit f).apply (printedPoint p)).y = printed f.middle.y -
        printed f.scale * (printed p.y + -printed f.center.y) := by
      simp only [Transform.apply, printedFit, printedPoint]
      ring
    rw [flipped]
    exact placed

end

/-- An ordinary drawing is moved by at most one unit: the scale is at most 4000, the sides are at
most 19000 units of the plane, and canvas and centre have no extreme sizes. -/
theorem drift_le_one {size scale side center : ℚ} (scaleLe : scale ≤ 4000)
    (sideLe : side ≤ 19000) (sizeLe : size ≤ 2 ^ 40) (centerLe : |center| ≤ 2 ^ 30) :
    drift size scale side center ≤ 1 := by
  have product := mul_le_mul (by linarith : 1 + scale ≤ 4001) centerLe (abs_nonneg _) (by norm_num)
  rw [drift]
  linarith

/-- A drawing of a path on a canvas with whole sizes, as long as the exact fit is in the range of
the doubles.  The text of the fit says a transformation, and the vertices are written so that the
transformation puts each of them near its place in exact arithmetic, which is on the canvas.  How
near depends on the scale, on the sides of the box and on its distance from the origin.  If a
unit of the canvas is too many units of the plane, the scale is written as zero, and all vertices
get one place. -/
theorem svgOf_near_exact {path : Path Float} {b : Bounds Float} {canvas : Canvas}
    {width height : Int} (bounded : path.bounds? = some b)
    (widthFinite : b.width.isFinite = true) (heightFinite : b.height.isFinite = true)
    (side : 0 < b.width ∨ 0 < b.height) (canvasWidth : canvas.width = .whole width)
    (canvasHeight : canvas.height = .whole height) (widthPos : 0 < width) (heightPos : 0 < height)
    (inRange : (Fit.ofBounds (width : ℚ) height b.value).InRange) :
    Path.bounds? (path.map Edge.value) = some b.value ∧
    ∃ text t, svgOf canvas path = .ok (svgElement canvas text path.polylines) ∧
      Transform.SaidIn t text ∧
      (∀ line ∈ path.polylines, ∀ p ∈ line, ∃ q, SaidPoint p q ∧
        let place := (Fit.ofBounds (width : ℚ) height b.value).apply p.value
        let scale := (Fit.ofBounds (width : ℚ) height b.value).scale
        |(t.apply q).x - place.x| ≤ drift width scale b.value.width b.value.center.x ∧
        |(t.apply q).y - place.y| ≤ drift height scale b.value.height b.value.center.y ∧
        (0 ≤ place.x ∧ place.x ≤ width) ∧ 0 ≤ place.y ∧ place.y ≤ height) ∧
      (20001 * (Fit.ofBounds (width : ℚ) height b.value).scale ≤ 1 →
        ∀ q, t.apply q = t.first) := by
  have finite := Path.isFinite_of_bounds? bounded widthFinite heightFinite
  have widthPos' : (0 : ℚ) < width := by exact_mod_cast widthPos
  have heightPos' : (0 : ℚ) < height := by exact_mod_cast heightPos
  obtain ⟨f, fitted, follows⟩ :=
    Fit.exists_follows widthFinite heightFinite side widthPos heightPos inRange
  refine ⟨by rw [Path.bounds?_value finite, bounded, Option.map_some], fitText f, printedFit f,
    ?_, saidIn_fitText follows, fun line drawn p member => ?_, fun small => ?_⟩
  · have writable : checkDigits (.whole width) (.whole height) = .ok () := by
      rw [checkDigits, isWritable_whole inRange.middle_x, isWritable_whole inRange.middle_y]
      rfl
    rw [svgOf, canvasWidth, canvasHeight, checkArea_whole widthPos heightPos, placement, bounded]
    simp only [fitted, writable]
    rfl
  · have isEnd := Path.mem_ends_of_mem_polylines drawn member
    have covers := covers_value bounded widthFinite heightFinite p isEnd
    obtain ⟨x, y⟩ := abs_printedFit_apply_sub_le bounded widthFinite heightFinite widthPos
      heightPos follows isEnd
    exact ⟨printedPoint p, saidPoint_printedPoint (finite p isEnd), x, y,
      Fit.apply_mem_canvas widthPos' heightPos' covers⟩
  · exact printedFit_apply_of_small follows (Fit.scaleOf_pos widthPos' heightPos') small

/-- On a canvas of 500 units, a short line is drawn within one unit of its exact place, and a
line of a hundred million units is drawn as a point in the middle. -/
theorem svgOf_near_exact_lines :
    let canvas : Canvas := ⟨.whole 500, .whole 500, "black", 1⟩
    let short : Path Float := [⟨⟨0, 0⟩, ⟨3, 4⟩⟩]
    let long : Path Float := [⟨⟨0, 0⟩, ⟨100000000, 0⟩⟩]
    (∃ text t, svgOf canvas short = .ok (svgElement canvas text short.polylines) ∧
      Transform.SaidIn t text ∧ ∀ line ∈ short.polylines, ∀ p ∈ line, ∃ q, SaidPoint p q ∧
        |(t.apply q).x - (62.5 + 125 * value p.x)| ≤ 1) ∧
    ∃ text t, svgOf canvas long = .ok (svgElement canvas text long.polylines) ∧
      Transform.SaidIn t text ∧ ∀ q, t.apply q = t.first := by
  intro canvas short long
  have canvasWidth : canvas.width = .whole 500 := rfl
  have canvasHeight : canvas.height = .whole 500 := rfl
  have three : value 3 = 3 :=
    (value_of_parts (m := 3 * 2 ^ 51) (e := -51) (by decide)).trans (by norm_num)
  have four : value 4 = 4 :=
    (value_of_parts (m := 2 ^ 52) (e := -50) (by decide)).trans (by norm_num)
  have far : value 100000000 = 100000000 :=
    (value_of_parts (m := 100000000 * 2 ^ 26) (e := -26) (by decide)).trans (by norm_num)
  have range : (10 : ℚ) ^ 9 ≤ 2 ^ (1000 : Int) :=
    calc (10 : ℚ) ^ 9 ≤ 2 ^ (30 : Int) := by norm_num
      _ ≤ 2 ^ (1000 : Int) := zpow_le_zpow_right₀ one_le_two (by decide)
  constructor
  · have fit : Fit.ofBounds ((500 : Int) : ℚ) (500 : Int) (Bounds.value ⟨0, 0, 3, 4⟩) =
        ⟨⟨250, 250⟩, 125, ⟨3 / 2, 2⟩⟩ := by
      norm_num [Fit.ofBounds, Fit.scaleOf, Fit.scales, Fit.least, Bounds.width, Bounds.height,
        Bounds.center, Bounds.value, value_zero, three, four]
    have bounded : short.bounds? = some ⟨0, 0, 3, 4⟩ := by decide +kernel
    have near := svgOf_near_exact bounded (by decide +kernel) (by decide +kernel)
      (by decide +kernel) canvasWidth canvasHeight (by decide) (by decide) (by
        rw [fit]
        constructor <;> refine le_trans ?_ range <;> norm_num)
    rw [fit] at near
    obtain ⟨-, text, t, drawn, saidIn, close, -⟩ := near
    refine ⟨text, t, drawn, saidIn, fun line isLine p member => ?_⟩
    obtain ⟨q, saidPoint, x, -⟩ := close line isLine p member
    refine ⟨q, saidPoint, ?_⟩
    have width : (Bounds.value ⟨0, 0, 3, 4⟩).width ≤ 19000 := by
      norm_num [Bounds.width, Bounds.value, value_zero, three]
    have center : |(Bounds.value ⟨0, 0, 3, 4⟩).center.x| ≤ 2 ^ 30 := by
      norm_num [Bounds.center, Bounds.value, value_zero, three, abs_of_pos]
    have small := x.trans (drift_le_one (by norm_num) width (by norm_num) center)
    have place : (Fit.apply ⟨⟨250, 250⟩, 125, ⟨3 / 2, 2⟩⟩ p.value).x = 62.5 + 125 * value p.x := by
      simp only [Fit.apply, Point.value]
      ring
    rwa [place] at small
  · have fit : Fit.ofBounds ((500 : Int) : ℚ) (500 : Int) (Bounds.value ⟨0, 0, 100000000, 0⟩) =
        ⟨⟨250, 250⟩, 1 / 200000, ⟨50000000, 0⟩⟩ := by
      norm_num [Fit.ofBounds, Fit.scaleOf, Fit.scales, Fit.least, Bounds.width, Bounds.height,
        Bounds.center, Bounds.value, value_zero, far]
    have bounded : long.bounds? = some ⟨0, 0, 100000000, 0⟩ := by decide +kernel
    have near := svgOf_near_exact bounded (by decide +kernel) (by decide +kernel)
      (by decide +kernel) canvasWidth canvasHeight (by decide) (by decide) (by
        rw [fit]
        constructor <;> refine le_trans ?_ range <;> norm_num)
    rw [fit] at near
    obtain ⟨-, text, t, drawn, saidIn, -, collapsed⟩ := near
    exact ⟨text, t, drawn, saidIn, collapsed (by norm_num)⟩

end GrowthGrammar.Drawing

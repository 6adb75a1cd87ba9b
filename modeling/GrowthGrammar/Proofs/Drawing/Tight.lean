import GrowthGrammar.Drawing.Svg
import GrowthGrammar.Proofs.Drawing.Fit
import Mathlib.Tactic.Ring

/-!
# Tight fits

The text of a fit names three transformations, of which the last one acts first (`fitText_eq`).
In exact arithmetic they act as the fit does (`actAll_steps`).

The scale of a fit is one of the quotients of a size and a side, if there is one (`scaleOf_cases`).
The box fills the canvas along this side, so its image reaches from one side of the canvas to the
opposite one, and a larger scale leaves no room for it, however it is moved.

Main statement: a fit of a path with an edge stays on the canvas and is tight (`fit_tight`).  The
program computes the same fit with other numbers (`onCanvas_real`).
-/

namespace GrowthGrammar

variable {K : Type}

namespace Drawing

/-! ## The transformations of a fit -/

/-- A transformation of the plane that a drawing names. -/
inductive Transformation (K : Type)
  /-- Move everything. -/
  | translate (shift : Point K)
  /-- Stretch everything from the origin, in each direction by a factor of its own. -/
  | scale (factors : Point K)

/-- The place where a transformation puts a point. -/
def Transformation.act [Add K] [Mul K] : Transformation K → Point K → Point K
  | .translate shift, p => ⟨shift.x + p.x, shift.y + p.y⟩
  | .scale factors, p => ⟨factors.x * p.x, factors.y * p.y⟩

/-- A transformation as a drawing writes it. -/
def Transformation.text : Transformation Float → String
  | .translate shift => transformation "translate" shift.x shift.y
  | .scale factors => transformation "scale" factors.x factors.y

/-- The place where some transformations put a point, of which the last one acts first. -/
def actAll [Add K] [Mul K] (steps : List (Transformation K)) (p : Point K) : Point K :=
  steps.foldr Transformation.act p

end Drawing

namespace Fit

open Drawing (Transformation actAll transformation fitText)

/-- The transformations that make up a fit. -/
def steps [Neg K] (f : Fit K) : List (Transformation K) :=
  [.translate f.middle, .scale ⟨f.scale, -f.scale⟩, .translate ⟨-f.center.x, -f.center.y⟩]

/-- The text of a fit names its transformations one behind the other. -/
theorem fitText_eq (f : Fit Float) :
    fitText f = " ".intercalate (f.steps.map Transformation.text) := by
  simp only [fitText, steps, List.map_cons, List.map_nil, Transformation.text]
  rfl

/-- The transformations of a fit act as the fit does. -/
theorem actAll_steps (f : Fit ℚ) (p : Point ℚ) : actAll f.steps p = f.apply p := by
  simp only [actAll, steps, List.foldr_cons, List.foldr_nil, Transformation.act, apply,
    Point.mk.injEq]
  constructor <;> ring

/-- On a canvas of doubles a program fits a box as the exact fit does, with other numbers. -/
theorem onCanvas_real (width height : Float) (b : Bounds Float) :
    onCanvas (.real width) (.real height) b = .ok (ofBounds width height b) := by
  by_cases wide : 0 < b.width <;> by_cases high : 0 < b.height <;>
    simp [onCanvas, ofBounds, sizeFor, Size.toFloat, Size.half, scaleOf, scales, wide, high,
      bind, Except.bind, pure, Except.pure]

/-! ## Touching the canvas -/

/-- A point is on a canvas. -/
def OnCanvas (width height : ℚ) (p : Point ℚ) : Prop :=
  (0 ≤ p.x ∧ p.x ≤ width) ∧ 0 ≤ p.y ∧ p.y ≤ height

section

variable {width height : ℚ} {b : Bounds ℚ}

/-- A box with a side fills the canvas along one of its sides. -/
theorem scaleOf_cases (side : 0 < b.width ∨ 0 < b.height) :
    (0 < b.width ∧ scaleOf width height b * b.width = width) ∨
      (0 < b.height ∧ scaleOf width height b * b.height = height) := by
  have given : scales width height b ≠ [] := by
    rcases side with wide | high
    · exact List.ne_nil_of_mem ((mem_scales _).mpr (.inl ⟨wide, rfl⟩))
    · exact List.ne_nil_of_mem ((mem_scales _).mpr (.inr ⟨high, rfl⟩))
  rcases (mem_scales _).mp (least_mem given) with ⟨wide, same⟩ | ⟨high, same⟩
  · exact .inl ⟨wide, by rw [scaleOf, same, div_mul_cancel₀ _ wide.ne']⟩
  · exact .inr ⟨high, by rw [scaleOf, same, div_mul_cancel₀ _ high.ne']⟩

theorem scaleOf_point (narrow : b.minX = b.maxX) (low : b.minY = b.maxY) :
    scaleOf width height b = 1 := by
  have noWidth : ¬ 0 < b.width := by rw [Bounds.width, narrow, sub_self]; exact lt_irrefl 0
  have noHeight : ¬ 0 < b.height := by rw [Bounds.height, low, sub_self]; exact lt_irrefl 0
  rw [scaleOf, scales, if_neg noWidth, if_neg noHeight]
  rfl

theorem apply_center : (ofBounds width height b).apply b.center = ⟨width / 2, height / 2⟩ := by
  simp [apply, ofBounds]

/-- A fit keeps the order from left to right and reverses the one from below. -/
theorem apply_lt_iff (widthPos : 0 < width) (heightPos : 0 < height) (p q : Point ℚ) :
    (((ofBounds width height b).apply p).x < ((ofBounds width height b).apply q).x ↔
        p.x < q.x) ∧
      (((ofBounds width height b).apply p).y < ((ofBounds width height b).apply q).y ↔
        q.y < p.y) := by
  have scalePos := scaleOf_pos (b := b) widthPos heightPos
  simp only [apply, ofBounds]
  constructor
  · rw [add_lt_add_iff_left, mul_lt_mul_iff_right₀ scalePos, sub_lt_sub_iff_right]
  · rw [sub_lt_sub_iff_left, mul_lt_mul_iff_right₀ scalePos, sub_lt_sub_iff_right]

variable {ps : List (Point ℚ)} (spans : b.Spans ps)

include spans

/-- A box that fills the canvas from left to right has points on both of these sides. -/
theorem touches_left_right (fills : scaleOf width height b * b.width = width) :
    (∃ p ∈ ps, ((ofBounds width height b).apply p).x = 0) ∧
      ∃ p ∈ ps, ((ofBounds width height b).apply p).x = width := by
  obtain ⟨p, memberP, left⟩ := spans.left
  obtain ⟨q, memberQ, right⟩ := spans.right
  rw [Bounds.width] at fills
  refine ⟨⟨p, memberP, ?_⟩, ⟨q, memberQ, ?_⟩⟩ <;>
    simp only [apply, ofBounds, Bounds.center, left, right] <;> linarith

theorem touches_top_bottom (fills : scaleOf width height b * b.height = height) :
    (∃ p ∈ ps, ((ofBounds width height b).apply p).y = 0) ∧
      ∃ p ∈ ps, ((ofBounds width height b).apply p).y = height := by
  obtain ⟨p, memberP, above⟩ := spans.above
  obtain ⟨q, memberQ, below⟩ := spans.below
  rw [Bounds.height] at fills
  refine ⟨⟨p, memberP, ?_⟩, ⟨q, memberQ, ?_⟩⟩ <;>
    simp only [apply, ofBounds, Bounds.center, above, below] <;> linarith

/-- With a larger scale some point falls off the canvas, wherever the drawing is moved. -/
theorem exists_off_canvas (side : 0 < b.width ∨ 0 < b.height) {k : ℚ}
    (larger : scaleOf width height b < k) (shift : Point ℚ) :
    ∃ p ∈ ps, ¬ OnCanvas width height (actAll [.translate shift, .scale ⟨k, -k⟩] p) := by
  by_contra fits
  push Not at fits
  simp only [OnCanvas, actAll, List.foldr_cons, List.foldr_nil, Transformation.act] at fits
  obtain ⟨p, memberP, left⟩ := spans.left
  obtain ⟨q, memberQ, right⟩ := spans.right
  obtain ⟨r, memberR, below⟩ := spans.below
  obtain ⟨s, memberS, above⟩ := spans.above
  have filled : (0 < b.width ∧ scaleOf width height b * b.width = width) ∨
      (0 < b.height ∧ scaleOf width height b * b.height = height) := scaleOf_cases side
  rcases filled with ⟨wide, fills⟩ | ⟨high, fills⟩
  · have more := mul_lt_mul_of_pos_right larger wide
    rw [fills, Bounds.width, ← left, ← right] at more
    linarith [(fits p memberP).1.1, (fits q memberQ).1.2]
  · have more := mul_lt_mul_of_pos_right larger high
    rw [fills, Bounds.height, ← below, ← above] at more
    linarith [(fits r memberR).2.2, (fits s memberS).2.1]

end

theorem exists_bounds {path : Path ℚ} (drawn : path ≠ []) : ∃ b, path.bounds? = some b := by
  cases path with
  | nil => exact absurd rfl drawn
  | cons e rest => exact ⟨_, rfl⟩

/-- The transformations of the fit of a path with an edge, onto a canvas with an area, in exact
arithmetic: every end point comes onto the canvas and the middle of the box to the middle of it, the
order from left to right is kept and the one from below is reversed.  If the box has a side, then
its image touches two opposite sides of the canvas, and no larger scale fits, however the drawing is
moved.  A box that is a point keeps its scale. -/
theorem fit_tight {path : Path ℚ} (drawn : path ≠ []) {width height : ℚ} (widthPos : 0 < width)
    (heightPos : 0 < height) :
    ∃ b, path.bounds? = some b ∧ b.Spans path.ends ∧
      let place := actAll (ofBounds width height b).steps
      (∀ p ∈ path.ends, OnCanvas width height (place p)) ∧
        place b.center = ⟨width / 2, height / 2⟩ ∧
        (∀ p q, ((place p).x < (place q).x ↔ p.x < q.x) ∧
          ((place p).y < (place q).y ↔ q.y < p.y)) ∧
        (0 < b.width ∨ 0 < b.height →
          (((∃ p ∈ path.ends, (place p).x = 0) ∧ ∃ p ∈ path.ends, (place p).x = width) ∨
            ((∃ p ∈ path.ends, (place p).y = 0) ∧ ∃ p ∈ path.ends, (place p).y = height)) ∧
          ∀ k, (ofBounds width height b).scale < k → ∀ shift : Point ℚ, ∃ p ∈ path.ends,
            ¬ OnCanvas width height (actAll [.translate shift, .scale ⟨k, -k⟩] p)) ∧
        (b.minX = b.maxX → b.minY = b.maxY → (ofBounds width height b).scale = 1) := by
  obtain ⟨b, bounded⟩ := exists_bounds drawn
  have spans := Path.spans_of_bounds? bounded
  refine ⟨b, bounded, spans, ?_⟩
  simp only [actAll_steps]
  refine ⟨fun p member => apply_mem_canvas widthPos heightPos (spans.covers p member),
    apply_center, apply_lt_iff widthPos heightPos, fun side => ⟨?_, fun k larger shift =>
      exists_off_canvas spans side larger shift⟩, scaleOf_point⟩
  rcases scaleOf_cases side with ⟨-, fills⟩ | ⟨-, fills⟩
  · exact .inl (touches_left_right spans fills)
  · exact .inr (touches_top_bottom spans fills)

/-- Two edges, four to the right and two upwards, fit onto a canvas of 100 times 80 with the scale
25 and with no larger one. -/
theorem fit_tight_of_two_edges :
    let path : Path ℚ := [⟨⟨0, 0⟩, ⟨4, 0⟩⟩, ⟨⟨4, 0⟩, ⟨4, 2⟩⟩]
    (∀ p ∈ path.ends, OnCanvas 100 80
        (actAll [.translate ⟨50, 40⟩, .scale ⟨25, -25⟩, .translate ⟨-2, -1⟩] p)) ∧
      ∀ k, 25 < k → ∀ shift : Point ℚ, ∃ p ∈ path.ends,
        ¬ OnCanvas 100 80 (actAll [.translate shift, .scale ⟨k, -k⟩] p) := by
  intro path
  have drawn : path ≠ [] := List.cons_ne_nil _ _
  have wide : (0 : ℚ) < 100 := by norm_num
  have high : (0 : ℚ) < 80 := by norm_num
  obtain ⟨b, bounded, -, inside, -, -, tight, -⟩ := fit_tight drawn wide high
  obtain rfl : (⟨0, 0, 4, 2⟩ : Bounds ℚ) = b := by
    have found : path.bounds? = some ⟨0, 0, 4, 2⟩ := by decide +kernel
    exact Option.some.inj (found.symm.trans bounded)
  have same : ofBounds (100 : ℚ) 80 ⟨0, 0, 4, 2⟩ = ⟨⟨50, 40⟩, 25, ⟨2, 1⟩⟩ := by decide +kernel
  rw [same] at inside tight
  exact ⟨inside, (tight (.inl (by norm_num [Bounds.width]))).2⟩

end Fit

end GrowthGrammar

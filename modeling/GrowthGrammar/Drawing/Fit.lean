import GrowthGrammar.Drawing.Size
import GrowthGrammar.Plane.Path

/-!
# Fitting a drawing onto a canvas

A canvas counts its lines downwards from the upper left corner.  A fit moves the
middle of a box to the origin, scales it, turns it upside down and moves it to
the middle of the canvas.  The scale is the largest at which the box fits, so the
box touches two opposite sides of the canvas.  A box that is a single point keeps
its scale.

The numbers can be of any kind; `Fit.onCanvas` is the fit of a program, which
takes the sizes of its canvas as they are given.
-/

namespace GrowthGrammar

variable {K : Type}

/-- A transformation of the plane onto a canvas. -/
structure Fit (K : Type) where
  /-- The middle of the canvas. -/
  middle : Point K
  /-- The factor of all lengths. -/
  scale : K
  /-- What is moved to the middle of the canvas. -/
  center : Point K
  deriving DecidableEq, Repr

namespace Fit

/-- The place on the canvas of a point of the plane. -/
def apply [Add K] [Sub K] [Mul K] (f : Fit K) (p : Point K) : Point K :=
  ⟨f.middle.x + f.scale * (p.x - f.center.x), f.middle.y - f.scale * (p.y - f.center.y)⟩

/-- The scale at which each side of a box that has a length fits its side of the
canvas. -/
def scales [Sub K] [Div K] [OfNat K 0] [LT K] [DecidableLT K] (width height : K)
    (b : Bounds K) : List K :=
  (if 0 < b.width then [width / b.width] else [])
    ++ (if 0 < b.height then [height / b.height] else [])

/-- The least of some numbers, the first of equals, or one. -/
def least [OfNat K 1] [LT K] [DecidableLT K] : List K → K
  | [] => 1
  | k :: rest => rest.foldl (fun m x => if x < m then x else m) k

/-- The scale at which a box fits a canvas. -/
def scaleOf [Sub K] [Div K] [OfNat K 0] [OfNat K 1] [LT K] [DecidableLT K] (width height : K)
    (b : Bounds K) : K :=
  least (scales width height b)

/-- The fit of a box onto a canvas. -/
def ofBounds [Add K] [Sub K] [Div K] [OfNat K 0] [OfNat K 1] [OfNat K 2] [LT K] [DecidableLT K]
    (width height : K) (b : Bounds K) : Fit K where
  middle := ⟨width / 2, height / 2⟩
  scale := scaleOf width height b
  center := b.center

/-! ## Canvases of a given size -/

/-- A size for a side of the given length.  A side without length is not scaled,
so its size need not be a double. -/
def sizeFor (size : Size) (length : Float) : Except Error Float :=
  if 0 < length then size.toFloat else .ok 1

/-- The fit of a box onto a canvas. -/
def onCanvas (width height : Size) (b : Bounds Float) : Except Error (Fit Float) := do
  let scale := scaleOf (← sizeFor width b.width) (← sizeFor height b.height) b
  return ⟨⟨← width.half, ← height.half⟩, scale, b.center⟩

end Fit

end GrowthGrammar

import GrowthGrammar.Plane.Path

/-!
# Limits of a plot

A plot shows the box of a path with a margin on every side: a twentieth of the
longer side, or of one if both sides are shorter.  Limits that are too close
together for doubles to tell apart are moved away from each other, and limits
have to be finite.  A path without edges has the unit square.
-/

namespace GrowthGrammar.Drawing

/-- The least and the greatest value that an axis shows. -/
structure Limits where
  /-- The least value. -/
  low : Float
  /-- The greatest value. -/
  high : Float

/-- The parts of a plot that follow from its path. -/
structure Axes where
  /-- The values from left to right. -/
  horizontal : Limits
  /-- The values from below upwards. -/
  vertical : Limits

/-- The title of a plot that is given none. -/
def usualTitle : String := "L-System Turtle Path"

/-- The title of a plot that is given a datum as its title. -/
def titleOf : Option Datum → Except Error String
  | none => .ok usualTitle
  | some .null => .ok ""
  | some d => d.written

/-- The greatest of some numbers, the first of equals. -/
def greatest (x : Float) (rest : List Float) : Float :=
  rest.foldl (fun m y => if m < y then y else m) x

/-- The margin around a box. -/
def margin (b : Bounds Float) : Float :=
  0.05 * greatest b.width [b.height, 1]

/-- Limits of different values: a twentieth of each value is added if the
difference is within the rounding of the values. -/
def Limits.widened (l : Limits) : Limits :=
  if l.high - l.low ≤ greatest l.low.abs [l.high.abs] * 1e-15 then
    ⟨l.low - 0.05 * l.low.abs, l.high + 0.05 * l.high.abs⟩
  else l

/-- The limits of an axis from the ends of a box and a margin. -/
def limitsOf (low high margin : Float) : Except Error Limits :=
  let l : Limits := ⟨low - margin, high + margin⟩
  if l.low.isFinite && l.high.isFinite then .ok l.widened
  else .error (.value .axisLimits)

/-- The limits around a path. -/
def axes (path : Path Float) : Except Error Axes :=
  match path.bounds? with
  | none => .ok ⟨⟨0, 1⟩, ⟨0, 1⟩⟩
  | some b => do
    let horizontal ← limitsOf b.minX b.maxX (margin b)
    return ⟨horizontal, ← limitsOf b.minY b.maxY (margin b)⟩

end GrowthGrammar.Drawing

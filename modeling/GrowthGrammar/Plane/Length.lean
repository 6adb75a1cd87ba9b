import GrowthGrammar.Error
import GrowthGrammar.Plane.Basic

/-!
# Lengths and angles

Lengths of vectors are measured with a ruler, which may err in the last digit.
One ruler rounds the exact length once, and the programs here run with it, but
nothing else is said of it: what holds of walks and drawings holds with every
ruler.  Angles are in degrees, counter-clockwise from the direction to the right.

A vector shorter than `tolerance` has no direction.  A turn by an infinite angle
is not defined.
-/

namespace GrowthGrammar

open Decimal (Binary64.hypot)

/-- Below this, lengths are taken for zero and points for one. -/
def tolerance : Float := 1e-9

/-- Half the circumference of the unit circle. -/
def halfTurn : Float := 3.141592653589793

/-- An angle in degrees as a length on the unit circle. -/
def radians (degrees : Float) : Float := degrees * (halfTurn / 180)

/-- A length on the unit circle as an angle in degrees. -/
def degrees (radians : Float) : Float := radians * (180 / halfTurn)

/-- The turn by an angle in degrees. -/
def Turn.by? (angle : Float) : Except Error (Turn Float) :=
  let theta := radians angle
  if theta.isInf then .error (.value .infiniteAngle) else .ok ⟨theta.cos, theta.sin⟩

/-- The turn by a finite angle in degrees. -/
def Turn.by (angle : Float) : Turn Float :=
  ⟨(radians angle).cos, (radians angle).sin⟩

/-- A way to measure the lengths of vectors. -/
class Ruler where
  /-- The measured length of the vector with the given components. -/
  hypot : Float → Float → Float

/-- The ruler that rounds the exact length once. -/
instance Ruler.rounded : Ruler := ⟨Binary64.hypot⟩

namespace Vec

/-- The length of a vector. -/
def norm [Ruler] (v : Vec Float) : Float := Ruler.hypot v.dx v.dy

/-- The vector of length one in the same direction. -/
def unit [Ruler] (v : Vec Float) : Except Error (Vec Float) :=
  let n := v.norm
  if n < tolerance then .error (.value .zeroLength) else .ok (v.divide n)

/-- The direction of a vector. -/
def angle (v : Vec Float) : Float := degrees (Float.atan2 v.dy v.dx)

/-- The vector turned by an angle. -/
def rotate (v : Vec Float) (angle : Float) : Except Error (Vec Float) :=
  (Turn.by? angle).map v.turned

/-- The vector of a direction and a length. -/
def ofAngle (angle length : Float) : Except Error (Vec Float) :=
  (Turn.by? angle).map fun t => ⟨length * t.cos, length * t.sin⟩

/-- Both components are finite. -/
def isFinite (v : Vec Float) : Bool := v.dx.isFinite && v.dy.isFinite

/-- A vector as a message shows it. -/
def shown (v : Vec Float) : String :=
  "Vector(dx=" ++ Decimal.exact v.dx ++ ", dy=" ++ Decimal.exact v.dy ++ ")"

/-- The double that a datum gives as a factor. -/
def factorOfDatum : Datum → Except Error Float
  | .real x => .ok x
  | .bool b => .ok (if b then 1 else 0)
  | .int n =>
    match Decimal.Binary64.ofInt? n with
    | some x => .ok x
    | none => .error .overflow
  | _ => .error .wrongType

/-- A multiple of a vector by a datum. -/
def scaleBy (v : Vec Float) (k : Datum) : Except Error (Vec Float) :=
  (factorOfDatum k).map v.scale

/-- A fraction of a vector by a datum. -/
def divideBy (v : Vec Float) (k : Datum) : Except Error (Vec Float) := do
  let k ← factorOfDatum k
  if k == 0 then .error .zeroDivision else .ok (v.divide k)

end Vec

namespace Point

/-- The distance of two points. -/
def distance [Ruler] (p q : Point Float) : Float := (p.minus q).norm

/-- Both coordinates are finite. -/
def isFinite (p : Point Float) : Bool := p.x.isFinite && p.y.isFinite

/-- A point as text. -/
def text (p : Point Float) : String :=
  "(" ++ Decimal.exact p.x ++ "," ++ Decimal.exact p.y ++ ")"

end Point

end GrowthGrammar

import GrowthGrammar.Error

/-!
# Sizes of a canvas

A size is a whole number or a double, and a truth value counts as one or zero.
It keeps its form, since it is written into the drawing as it was given.  What is
no number can be named as a size too, but nothing can be done with it.
-/

namespace GrowthGrammar

/-- The length of a side of a canvas. -/
inductive Size
  /-- A whole number. -/
  | whole (n : Int)
  /-- A truth value. -/
  | truth (b : Bool)
  /-- A double. -/
  | real (x : Float)
  /-- Anything else. -/
  | other (d : Datum)

namespace Size

/-- The size that a datum names. -/
def ofDatum : Datum → Size
  | .int n => .whole n
  | .bool b => .truth b
  | .real x => .real x
  | d => .other d

/-- A size as it is written. -/
def text : Size → String
  | .whole n => toString n
  | .truth b => (Datum.bool b).plain
  | .real x => Decimal.exact x
  | .other d => d.plain

/-- All whole numbers in a size can be written. -/
def isWritable : Size → Bool
  | .whole n => Decimal.isWritable n
  | .other d => d.isWritable
  | _ => true

/-- The size is zero or less. -/
def isEmpty : Size → Except Error Bool
  | .whole n => .ok (decide (n ≤ 0))
  | .truth b => .ok (!b)
  | .real x => .ok (decide (x ≤ 0))
  | .other _ => .error .wrongType

/-- The double nearest to a size, which must be finite if the size is whole. -/
def toFloat : Size → Except Error Float
  | .whole n =>
    match Decimal.Binary64.ofInt? n with
    | some x => .ok x
    | none => .error .overflow
  | .truth b => .ok (if b then 1 else 0)
  | .real x => .ok x
  | .other _ => .error .wrongType

/-- The double nearest to half a size, which must be finite if the size is
whole. -/
def half : Size → Except Error Float
  | .whole n =>
    if Decimal.Binary64.quotientBits n.natAbs 2 = Decimal.Binary64.infinityBits then
      .error .overflow
    else .ok (Decimal.Binary64.ofQuotient (decide (n < 0)) n.natAbs 2)
  | .truth b => .ok (if b then 0.5 else 0)
  | .real x => .ok (x / 2)
  | .other _ => .error .wrongType

end Size

end GrowthGrammar

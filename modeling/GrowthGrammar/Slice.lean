/-!
# Slices and positions

A position may count from the end: -1 is the last place.  A slice takes the
places from `start` up to but not including `stop`, `stride` apart.  A bound
beyond an end is the end, and the bounds that are not given are the ends in the
direction of the stride.
-/

namespace GrowthGrammar

/-- Which places of a sequence to take. -/
structure Slice where
  /-- The first place. -/
  start : Option Int
  /-- The end, which is not taken. -/
  stop : Option Int
  /-- The distance between places, one if not given. -/
  stride : Option Int

namespace Slice

/-- A position counted from the start, between the given ends. -/
def clamp (size low high position : Int) : Int :=
  max low (min high (if position < 0 then position + size else position))

/-- The place a position means in a sequence of the given size. -/
def place? (size : Nat) (position : Int) : Option Nat :=
  let p := if position < 0 then position + size else position
  if 0 ≤ p && p < size then some p.toNat else none

/-- The member at a position. -/
def member? {α : Type} (xs : List α) (position : Int) : Option α :=
  (place? xs.length position).bind (xs[·]?)

/-- At most `fuel` places from `p` on, while they are before `stop`. -/
def placesFrom (stop stride : Int) : Nat → Int → List Nat
  | 0, _ => []
  | fuel + 1, p =>
    if (0 < stride && p < stop) || (stride < 0 && stop < p) then
      p.toNat :: placesFrom stop stride fuel (p + stride)
    else []

/-- The places of a sequence of the given size, nothing if the slice does not
move. -/
def places? (s : Slice) (size : Nat) : Option (List Nat) :=
  let stride := s.stride.getD 1
  if stride = 0 then none
  else if 0 < stride then
    let start := clamp size 0 size (s.start.getD 0)
    let stop := match s.stop with
      | some p => clamp size 0 size p
      | none => size
    some (placesFrom stop stride size start)
  else
    let start := match s.start with
      | some p => clamp size (-1) (size - 1) p
      | none => size - 1
    let stop := match s.stop with
      | some p => clamp size (-1) (size - 1) p
      | none => -1
    some (placesFrom stop stride size start)

/-- The members at the places of a slice. -/
def members? {α : Type} (s : Slice) (xs : List α) : Option (List α) :=
  let members := xs.toArray
  (s.places? xs.length).map fun places => places.filterMap (members[·]?)

/-! ## Tests -/

example : (Slice.mk (some 3) (some 0) (some (-2))).members? [0, 1, 2, 3, 4] = some [3, 1] := by
  decide
example : (Slice.mk none (some (-1)) none).members? [0, 1, 2] = some [0, 1] := by decide
example : (Slice.mk none none (some (-1))).members? [0, 1, 2] = some [2, 1, 0] := by decide

end Slice

end GrowthGrammar

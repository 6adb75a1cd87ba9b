/-!
# Ranges of characters

A class of characters is given by the ranges of its code points.
-/

namespace GrowthGrammar.Text

/-- The code point is in one of some ranges, both ends of which belong to them. -/
def isWithin (ranges : List (Nat × Nat)) (n : Nat) : Bool :=
  ranges.any fun (low, high) => low ≤ n && n ≤ high

/-! ## Tests -/

example : isWithin [(0x30, 0x39), (0x61, 0x66)] 'f'.toNat = true := by decide
example : isWithin [(0x30, 0x39), (0x61, 0x66)] 'g'.toNat = false := by decide

end GrowthGrammar.Text

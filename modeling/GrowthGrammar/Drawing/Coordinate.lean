import GrowthGrammar.Decimal.Numeral

/-!
# Coordinates as text

A coordinate of a drawing is written with at most four places: the four-place
decimal without the zeros at its end, and without the point if nothing is left
behind it.  Zero has no sign.
-/

namespace GrowthGrammar.Drawing

/-- The number of places of a coordinate. -/
def places : Nat := 4

/-- A text without the copies of a character at its end. -/
def dropTrailing (c : Char) (cs : List Char) : List Char :=
  (cs.reverse.dropWhile (· == c)).reverse

/-- A decimal with a point, without what does not change its value. -/
def trimDecimal (cs : List Char) : List Char :=
  let text := dropTrailing '.' (dropTrailing '0' cs)
  if text.isEmpty || text == ['-', '0'] then ['0'] else text

/-- The text of a coordinate. -/
def coordinate (x : Float) : List Char :=
  trimDecimal (Decimal.fixed places x)

/-- The text of a coordinate. -/
def coordinateText (x : Float) : String :=
  String.ofList (coordinate x)

/-! ## Tests -/

example : trimDecimal "10.0500".toList = "10.05".toList := by decide
example : trimDecimal "100.0000".toList = "100".toList := by decide
example : trimDecimal "-0.0000".toList = "0".toList := by decide

end GrowthGrammar.Drawing

/-!
# Halves of characters

Outside, a text may be written in units of sixteen bits, and a character beyond
the first 65536 code points takes two of them, a high half and a low half.  A
half may also stand alone.  It is then a place of the text like any other, it
has no visible form, and it cannot be written to a file as UTF-8.  So the places
of a text are code points, and all of them but the halves are characters.

A text is kept as a list of characters.  A half is kept as the `mark` and a
character of its own, the mark as two marks, and any other code point as itself
(`kept`).  The mark is the last code point, which is no character of any script.
What is kept for one code point never begins what is kept for another, so
`codePoints` finds the code points of a text again.
-/

namespace GrowthGrammar.Text

/-- The unit is the first half of a character. -/
def isHighHalf (u : Nat) : Bool := 0xd800 ≤ u && u < 0xdc00

/-- The unit is the second half of a character. -/
def isLowHalf (u : Nat) : Bool := 0xdc00 ≤ u && u < 0xe000

/-- The code point is half a character. -/
def isHalf (n : Nat) : Bool := 0xd800 ≤ n && n < 0xe000

/-- The half keeps a byte.  Where a text comes from bytes, a byte from 128 on that
is no part of a character is kept as the low half `0xdc00` and its value. -/
def holdsByte (n : Nat) : Bool := 0xdc80 ≤ n && n < 0xdd00

/-! ## How a code point is kept -/

/-- The character in front of what keeps a half. -/
def mark : Char := Char.ofNat 0x10ffff

/-- The distance from halves to the characters that keep them. -/
def halfShift : Nat := 0x100000

/-- The characters that keep a code point. -/
def kept (n : Nat) : List Char :=
  if isHalf n then [mark, Char.ofNat (halfShift + n)]
  else if n == mark.toNat then [mark, mark]
  else [Char.ofNat n]

/-- The text with some code points. -/
def ofCodePoints (ns : List Nat) : List Char := ns.flatMap kept

/-- The text with some characters. -/
def ofCharacters (cs : List Char) : List Char := ofCodePoints (cs.map Char.toNat)

/-- The code points of a text. -/
def codePoints : List Char → List Nat
  | [] => []
  | [c] => [c.toNat]
  | c :: d :: cs =>
    if c == mark then (if d == mark then mark.toNat else d.toNat - halfShift) :: codePoints cs
    else c.toNat :: codePoints (d :: cs)

/-- The code points of a text, each as a text of its own. -/
def places (text : String) : List String :=
  (codePoints text.toList).map fun n => String.ofList (kept n)

/-- Some character is a half that stands alone. -/
def hasHalf (text : List Char) : Bool := (codePoints text).any isHalf

/-- Some half stands alone and does not keep a byte. -/
def hasLooseHalf (text : List Char) : Bool :=
  (codePoints text).any fun n => isHalf n && !holdsByte n

/-- Some code points come before others in the order of texts, or are the same. -/
def inOrder : List Nat → List Nat → Bool
  | [], _ => true
  | _ :: _, [] => false
  | m :: ms, n :: ns => if m == n then inOrder ms ns else Nat.blt m n

/-! ## Units -/

/-- The code points of some units, the halves of one character joined. -/
def joinUnits : List Nat → List Nat
  | [] => []
  | [u] => [u]
  | u :: v :: rest =>
    if isHighHalf u && isLowHalf v then
      (0x10000 + (u - 0xd800) * 0x400 + (v - 0xdc00)) :: joinUnits rest
    else u :: joinUnits (v :: rest)

/-- The units of a code point. -/
def unitsOf (n : Nat) : List Nat :=
  if n < 0x10000 then [n]
  else [0xd800 + (n - 0x10000) / 0x400, 0xdc00 + (n - 0x10000) % 0x400]

/-! ## Tests -/

example : joinUnits [0xd83c, 0xdf31] = ['🌱'.toNat] := by decide
example : (joinUnits [0xdf31, 0xd83c]).flatMap unitsOf = [0xdf31, 0xd83c] := by decide
example : unitsOf '🌱'.toNat = [0xd83c, 0xdf31] := by decide
example : codePoints (ofCodePoints [0xdf31, 0x10ffff, 0x10df31]) = [0xdf31, 0x10ffff, 0x10df31] := by
  decide
example : inOrder [0xd800, 1] [0xe000] = true := by decide
example : hasHalf "é".toList = false := by decide

end GrowthGrammar.Text

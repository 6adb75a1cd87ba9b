/-!
# Blanks and the tokens between them

A text is read as the list of its characters.  `isBlank` is the class of the
characters that separate tokens.  It is wider than the ASCII one: it holds the
separators of files, groups, records and units, the next-line character and
every space of general punctuation, but not the zero-width ones.

`tokens` cuts a text at its blanks and drops the empty pieces, and `trim` drops
the blanks at both ends.  The separators of records cut tokens, but a number may
not stand among them: `isSpace` is the class without these, and `trimSpaces`
drops the spaces at both ends.
-/

namespace GrowthGrammar.Text

/-- The characters that separate tokens. -/
def isBlank (c : Char) : Bool :=
  let n := c.toNat
  (0x9 ≤ n && n ≤ 0xd) || (0x1c ≤ n && n ≤ 0x20) || n == 0x85 || n == 0xa0 || n == 0x1680
    || (0x2000 ≤ n && n ≤ 0x200a) || n == 0x2028 || n == 0x2029 || n == 0x202f || n == 0x205f
    || n == 0x3000

/-- The tokens of a text whose characters so far, newest first, are `current`. -/
def tokensFrom (current : List Char) : List Char → List (List Char)
  | [] => if current.isEmpty then [] else [current.reverse]
  | c :: cs =>
    if isBlank c then
      if current.isEmpty then tokensFrom [] cs else current.reverse :: tokensFrom [] cs
    else tokensFrom (c :: current) cs

/-- The pieces of a text between blanks, none of them empty. -/
def tokens (text : List Char) : List (List Char) :=
  tokensFrom [] text

/-- A text without the blanks at its start. -/
def trimStart (text : List Char) : List Char :=
  text.dropWhile isBlank

/-- A text without the blanks at its end. -/
def trimEnd (text : List Char) : List Char :=
  (text.reverse.dropWhile isBlank).reverse

/-- A text without the blanks at either end. -/
def trim (text : List Char) : List Char :=
  trimEnd (trimStart text)

/-- The blanks that may stand around a number. -/
def isSpace (c : Char) : Bool :=
  isBlank c && !(0x1c ≤ c.toNat && c.toNat ≤ 0x1f)

/-- A text without the spaces at either end. -/
def trimSpaces (text : List Char) : List Char :=
  ((text.dropWhile isSpace).reverse.dropWhile isSpace).reverse

/-- Some character that is not a blank occurs. -/
def isNonBlank (text : List Char) : Bool :=
  text.any fun c => !isBlank c

/-! ## Tests -/

example : tokens "F  X\tF".toList = [['F'], ['X'], ['F']] := by decide
example : tokens " \n ".toList = [] := by decide
example : trim "  a b ".toList = "a b".toList := by decide
example : trimSpaces " \x1c5 ".toList = "\x1c5".toList := by decide

end GrowthGrammar.Text

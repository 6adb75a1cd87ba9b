/-!
# Lines

`lines` cuts a text at its line breaks.  A carriage return followed by a line
feed is one break.  A break at the very end opens no further line, so the empty
text has no line at all.
-/

namespace GrowthGrammar.Text

/-- The characters that end a line. -/
def isLineBreak (c : Char) : Bool :=
  let n := c.toNat
  (0xa ≤ n && n ≤ 0xd) || (0x1c ≤ n && n ≤ 0x1e) || n == 0x85 || n == 0x2028 || n == 0x2029

/-- The lines of a text whose unfinished line, newest character first, is
`current`.  `afterReturn` says that the last character was a carriage return. -/
def linesFrom (current : List Char) (afterReturn : Bool) : List Char → List (List Char)
  | [] => if current.isEmpty then [] else [current.reverse]
  | c :: cs =>
    if afterReturn && c == '\n' then linesFrom current false cs
    else if isLineBreak c then current.reverse :: linesFrom [] (c == '\r') cs
    else linesFrom (c :: current) false cs

/-- The lines of a text, without their breaks. -/
def lines (text : List Char) : List (List Char) :=
  linesFrom [] false text

/-- Every line break written as a carriage return, alone or before a line feed,
written as a line feed. -/
def unifyBreaks : List Char → List Char
  | [] => []
  | c :: cs =>
    if c == '\r' then
      match cs with
      | '\n' :: rest => '\n' :: unifyBreaks rest
      | rest => '\n' :: unifyBreaks rest
    else c :: unifyBreaks cs

/-! ## Tests -/

example : lines "a\r\nb\n\nc\n".toList = [['a'], ['b'], [], ['c']] := by decide
example : lines "".toList = [] := by decide
example : unifyBreaks "a\r\r\nb".toList = "a\n\nb".toList := by decide

end GrowthGrammar.Text

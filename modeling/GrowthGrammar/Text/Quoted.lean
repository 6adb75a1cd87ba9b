import GrowthGrammar.Text.Halves
import GrowthGrammar.Text.Printable

/-!
# Quoted text

A message shows a text between quotes, so that its ends and its hidden
characters can be seen.  The quotes are single, unless the text has a single
quote and no double one.  The backslash and the chosen quote are escaped, line
feeds, returns and tabs have escapes of one letter, and any other character
without a visible form is written by its code point in lower case hexadecimal,
in two, four or eight digits.
-/

namespace GrowthGrammar.Text

/-- The `width` lowest hexadecimal digits of a number. -/
def hexDigits (width : Nat) (n : Nat) : List Char :=
  match width with
  | 0 => []
  | width + 1 => hexDigits width (n / 16) ++ [Nat.digitChar (n % 16)]

/-- A code point without a visible form, in the shortest escape that holds it. -/
def escapeCode (n : Nat) : List Char :=
  if n < 0x100 then '\\' :: 'x' :: hexDigits 2 n
  else if n < 0x10000 then '\\' :: 'u' :: hexDigits 4 n
  else '\\' :: 'U' :: hexDigits 8 n

/-- One character between the given quotes. -/
def escapeChar (quote : Char) (c : Char) : List Char :=
  if c == quote || c == '\\' then ['\\', c]
  else if c == '\n' then ['\\', 'n']
  else if c == '\r' then ['\\', 'r']
  else if c == '\t' then ['\\', 't']
  else if isPrintable c then [c]
  else escapeCode c.toNat

/-- One code point between the given quotes. -/
def escapeCodePoint (quote : Char) (n : Nat) : List Char :=
  if isHalf n then escapeCode n else escapeChar quote (Char.ofNat n)

/-- The quote a text is shown in. -/
def quoteFor (text : List Char) : Char :=
  if text.contains '\'' && !text.contains '"' then '"' else '\''

/-- A text between quotes. -/
def quoted (text : String) : String :=
  let quote := quoteFor text.toList
  String.ofList (quote :: (codePoints text.toList).flatMap (escapeCodePoint quote) ++ [quote])

end GrowthGrammar.Text

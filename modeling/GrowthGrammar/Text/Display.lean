import GrowthGrammar.Text.Columns
import GrowthGrammar.Text.Emoji

/-!
# Text on a terminal

A terminal shows a line with a label in front of a text.  Before the text is
shown it is changed a little:

* The name of an emoji between colons becomes the emoji.  It may end in `-text` or
  `-emoji`, which asks for that form of it.
* A backslash in front of a bracket is dropped, and one that ends the text alone
  is doubled.
* Bells and the characters that move the cursor back, to the start of the line or
  more than a line down are dropped.
* A tab goes on to the next of the columns 8, 16, 24, …

A piece in brackets that begins with a small letter or one of the signs `#`, `/`
and `@` could be an instruction for the terminal.  Such a `marked` piece is shown
with the backslashes in front of it as it stands, and no name of an emoji goes
across its ends.

A text that is not protected like this gives its instructions, which are not shown
(`reported`).  One that begins with `/` ends a style, the last one if it names none,
and the style must have been begun (`hasStrayEnd`).

A terminal writes texts in an encoding, which may not have every code point.  It
shows a text whole or, if a code point is missing, not at all (`Terminal.canShow`).
-/

namespace GrowthGrammar.Text

/-! ## Marked pieces -/

/-- The character begins a marked piece. -/
def opensMark (c : Char) : Bool :=
  ('a' ≤ c && c ≤ 'z') || c == '#' || c == '/' || c == '@'

/-- A marked piece at the front, whose opening bracket has been read, and what
follows it. -/
def marked? (cs : List Char) : Option (List Char × List Char) :=
  let inside := cs.takeWhile fun c => c != '[' && c != ']'
  match cs.dropWhile fun c => c != '[' && c != ']' with
  | ']' :: rest => if inside.head?.any opensMark then some ('[' :: inside ++ [']'], rest) else none
  | _ => none

/-- The pieces of a text, the marked ones and the backslashes in front of them
apart.  `current` is the piece so far, the newest character first, and at most
`fuel` characters and pieces are read. -/
def piecesFrom (fuel : Nat) (current : List Char) (cs : List Char) : List (List Char) :=
  match fuel, cs with
  | 0, _ => [current.reverse]
  | _, [] => [current.reverse]
  | fuel + 1, c :: cs =>
    match if c == '[' then marked? cs else none with
    | some (piece, rest) =>
      let slashes := current.takeWhile (· == '\\')
      (current.drop slashes.length).reverse :: slashes :: piece :: piecesFrom fuel [] rest
    | none => piecesFrom fuel (c :: current) cs

/-- The pieces of a text. -/
def pieces (cs : List Char) : List (List Char) :=
  piecesFrom cs.length [] cs

/-! ## Changes to a piece -/

/-- A piece without the backslashes in front of brackets. -/
def dropSlashes : List Char → List Char
  | '\\' :: '[' :: cs => '[' :: dropSlashes cs
  | c :: cs => c :: dropSlashes cs
  | [] => []

/-- The sign that asks for a form of an emoji, and the name without the request. -/
def splitVariant (name : List Char) : List Char × List Char :=
  if "-text".toList.isSuffixOf name then (name.take (name.length - 5), ['\ufe0e'])
  else if "-emoji".toList.isSuffixOf name then (name.take (name.length - 6), ['\ufe0f'])
  else (name, [])

/-- What the name between two colons stands for, or the name itself between
them. -/
def namedEmoji (name : List Char) : List Char :=
  let (plain, sign) := splitVariant name
  match emoji? plain with
  | some cs => cs ++ sign
  | none => ':' :: name ++ [':']

/-- A piece with its names of emoji replaced, of which at most `fuel` characters
and names are read. -/
def replaceEmoji (fuel : Nat) (cs : List Char) : List Char :=
  match fuel, cs with
  | 0, cs => cs
  | _, [] => []
  | fuel + 1, c :: cs =>
    if c == ':' then
      match cs.dropWhile fun d => d != ':' && !isBlank d with
      | ':' :: rest =>
        namedEmoji (cs.takeWhile fun d => d != ':' && !isBlank d) ++ replaceEmoji fuel rest
      | _ => c :: replaceEmoji fuel cs
    else c :: replaceEmoji fuel cs

/-- A piece as it is shown. -/
def shownPiece (cs : List Char) : List Char :=
  let cs := dropSlashes cs
  replaceEmoji cs.length cs

/-! ## Instructions -/

/-- The instructions of a text that so many backslashes stand in front of.  An odd
number of them protects a marked piece.  At most `fuel` characters and pieces are
read. -/
def instructionsFrom (fuel slashes : Nat) (cs : List Char) : List (List Char) :=
  match fuel, cs with
  | 0, _ => []
  | _, [] => []
  | fuel + 1, c :: cs =>
    match if c == '[' then marked? cs else none with
    | some (piece, rest) =>
      let later := instructionsFrom fuel 0 rest
      if slashes % 2 = 0 then (piece.drop 1).dropLast :: later else later
    | none => instructionsFrom fuel (if c == '\\' then slashes + 1 else 0) cs

/-- Styles that have a short name. -/
def shortStyles : List (String × String) := [
  ("d", "dim"), ("b", "bold"), ("i", "italic"), ("u", "underline"), ("r", "reverse"),
  ("c", "conceal"), ("s", "strike"), ("uu", "underline2"), ("o", "overline")]

/-- The one name of a style. -/
def styleName (name : List Char) : String :=
  let name := String.ofList ((trim name).map lower)
  ((shortStyles.find? fun s => s.1 == name).map Prod.snd).getD name

/-- Some instruction ends a style that is not among those begun, the last one of
them first. -/
def endsStray (begun : List String) : List (List Char) → Bool
  | [] => false
  | instruction :: rest =>
    match instruction.takeWhile (· != '=') with
    | '/' :: name =>
      match begun, (trim name).isEmpty with
      | [], _ => true
      | _ :: before, true => endsStray before rest
      | begun, false =>
        if begun.contains (styleName name) then endsStray (begun.erase (styleName name)) rest
        else true
    | name => endsStray (styleName name :: begun) rest

/-- The text ends a style that it has not begun. -/
def hasStrayEnd (text : String) : Bool :=
  let cs := text.toList
  endsStray [] (instructionsFrom cs.length 0 cs)

/-! ## Lines -/

/-- A text whose last character is a backslash after another character, with that
backslash doubled. -/
def doubleLast (cs : List Char) : List Char :=
  match cs.reverse with
  | '\\' :: '\\' :: _ => cs
  | '\\' :: _ => cs ++ ['\\']
  | _ => cs

/-- The terminal drops the character. -/
def isDropped (c : Char) : Bool :=
  let n := c.toNat
  n == 0x7 || n == 0x8 || (0xb ≤ n && n ≤ 0xd)

/-- The distance of the columns that tabs go to. -/
def tabWidth : Nat := 8

/-- A text with spaces for its tabs.  `column` columns are taken before the piece that
the last tab or line break begins, and `piece` is that piece so far, the newest
character first.  A tab is measured as the space that ends its piece. -/
def expandTabs (column : Nat) (piece : List Char) : List Char → List Char
  | [] => piece.reverse
  | c :: cs =>
    if c == '\t' then
      let whole := (' ' :: piece).reverse
      let reached := column + width whole
      let gap := (tabWidth - reached % tabWidth) % tabWidth
      whole ++ List.replicate gap ' ' ++ expandTabs (reached + gap) [] cs
    else if c == '\n' then (c :: piece).reverse ++ expandTabs 0 [] cs
    else expandTabs column (c :: piece) cs

/-- What a terminal shows of a text behind a label. -/
def displayed (label text : String) : String :=
  let shown := (pieces (doubleLast text.toList)).flatMap shownPiece
  String.ofList (expandTabs 0 [] (label.toList ++ ' ' :: shown.filter fun c => !isDropped c))

/-- What is shown of the pieces of a text that is not protected.  Of the backslashes
in front of a marked piece every second one is, and the piece if they are odd in
number. -/
def shownUnprotected : List (List Char) → List Char
  | plain :: slashes :: piece :: rest =>
    shownPiece plain ++ slashes.take (slashes.length / 2)
      ++ (if slashes.length % 2 = 0 then [] else shownPiece piece) ++ shownUnprotected rest
  | last => last.flatMap shownPiece

/-- What a terminal shows of a text that is not protected. -/
def reported (text : String) : String :=
  String.ofList ((shownUnprotected (pieces text.toList)).filter fun c => !isDropped c)

/-! ## Terminals -/

/-- A terminal. -/
structure Terminal where
  /-- Its encoding has the code point. -/
  has : Nat → Bool

namespace Terminal

/-- The terminal whose encoding has everything. -/
def all : Terminal := ⟨fun _ => true⟩

/-- The terminal whose encoding is UTF-8, which has no halves of characters. -/
def utf8 : Terminal := ⟨fun n => !isHalf n⟩

/-- The text can be shown. -/
def canShow (t : Terminal) (text : String) : Bool := (codePoints text.toList).all t.has

end Terminal

/-! ## Tests -/

example : pieces "a\\[b] [C]".toList = ["a".toList, ['\\'], "[b]".toList, " [C]".toList] := by
  decide
example : reported "a\\[b][c]d" = "a[b]d" := by decide
example : dropSlashes "\\\\[C]".toList = "\\[C]".toList := by decide
example : hasStrayEnd "a[b]c[/bold][/]" = true := by decide
example : hasStrayEnd "a[b]c[/]" = false := by decide
example : hasStrayEnd "\\[/a]" = false := by decide
example : splitVariant "bug-text".toList = ("bug".toList, ['\ufe0e']) := by decide
example : expandTabs 0 [] "ab\tc".toList = "ab      c".toList := by decide

end GrowthGrammar.Text

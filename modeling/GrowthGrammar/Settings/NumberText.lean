import GrowthGrammar.Decimal.Reader

/-!
# Numbers in the text of a setting

A setting may be given as text.  Such text has the digits `0` to `9` only, and
the spaces around it are dropped.

A whole number may begin with a sign and then with zeros, may have underscores
inside it and may end with a point and zeros.  The zeros and underscores at its
front are dropped first, so a minus sign may also follow them, if there is none
before them.  What is left has no further zeros at its front, and at most
`maxPlaces` digits and signs.

A number is read as it stands.  If that fails, it is read once more without its
underscores.
-/

namespace GrowthGrammar.Settings

open GrowthGrammar.Decimal

/-- Why a text writes no whole number. -/
inductive WholeFault
  /-- It has another shape. -/
  | shape
  /-- It has too many digits. -/
  | size
  deriving DecidableEq, Repr

/-- The most digits of a whole number, its sign counted as one of them. -/
def maxPlaces : Nat := maxDigits + 1

/-- The digits that are not zero. -/
def isLead (c : Char) : Bool := '1' ≤ c && c ≤ '9'

/-- What is left of a whole number behind a zero.  `last` is the zero or
underscore before the rest; it stays if nothing or a fraction follows. -/
def afterZeros (last : Char) : List Char → Option (List Char)
  | [] => some [last]
  | c :: cs =>
    if c == '0' || c == '_' then afterZeros c cs
    else if isLead c || c == '-' then some (c :: cs)
    else if c == '.' then some (last :: c :: cs)
    else none

/-- A whole number without the zeros at its front. -/
def dropZeros : List Char → Option (List Char)
  | [] => none
  | c :: cs =>
    if c == '0' then afterZeros c cs
    else if isLead c then some (c :: cs)
    else none

/-- A whole number without a fraction of zeros at its end. -/
def dropFraction (cs : List Char) : List Char :=
  let fraction := (cs.dropWhile (· != '.')).drop 1
  if !fraction.isEmpty && fraction.all (· == '0') then cs.takeWhile (· != '.') else cs

/-- A text without the underscores inside it, none if one is at its end or next
to another. -/
def joinParts (afterUnderscore : Bool) : List Char → Option (List Char)
  | [] => if afterUnderscore then none else some []
  | c :: cs =>
    if c == '_' then if afterUnderscore then none else joinParts true cs
    else (joinParts false cs).map (c :: ·)

/-- A text without its underscores, if each stands between two other
characters. -/
def dropUnderscores (cs : List Char) : Option (List Char) :=
  joinParts true cs

/-- The whole number that digits write, behind a minus sign if there is one. -/
def readDigitRun (cs : List Char) : Except WholeFault Int :=
  let (negative, digits) :=
    match cs with
    | '-' :: rest => (true, rest)
    | _ => (false, cs)
  let run := digits.takeWhile Char.isDigit
  if run.head? == some '0' then if digits == ['0'] then .ok 0 else .error .shape
  else if maxPlaces < run.length + (cs.length - digits.length) then .error .size
  else if run.isEmpty || run.length < digits.length then .error .shape
  else
    let n : Int := natOfDigits run
    .ok (if negative then -n else n)

/-- The whole number that a text writes. -/
def readWhole (text : List Char) : Except WholeFault Int :=
  let (negative, rest) := splitSign (Text.trimSpaces text)
  match dropZeros rest with
  | none => .error .shape
  | some cs =>
    let cs := dropFraction cs
    let cs := (dropUnderscores cs).getD cs
    readDigitRun (if negative then '-' :: cs else cs)

/-- The number that a text writes. -/
def readNumber (text : List Char) : Option Float :=
  match readPlain (Text.trimSpaces text) with
  | some n => some n.toFloat
  | none => ((dropUnderscores text).bind readPlain).map Numeral.toFloat

/-! ## Tests -/

example : readWhole " +0__7.00 ".toList = .ok 7 := by rfl
example : readWhole "00_-1".toList = .ok (-1) := by rfl
example : readWhole "0.".toList = .error .shape := by rfl
example : readWhole "3.0_0".toList = .error .shape := by rfl
example : readWhole "-0__0".toList = .ok 0 := by rfl
example : readWhole "0-0".toList = .ok 0 := by rfl
example : readWhole "0-00".toList = .error .shape := by rfl
example : readWhole "+-3".toList = .error .shape := by rfl

end GrowthGrammar.Settings

import GrowthGrammar.Decimal.Binary64
import GrowthGrammar.Text.Blank
import GrowthGrammar.Text.DecimalDigit

/-!
# Numbers read from text

A number may stand between spaces, and its digits may be of any script.  Single
underscores between two digits are dropped.  What is left is a sign and either
digits with an optional point and exponent, or a word for infinity or for no
number, in any case.  A whole number has digits only.
-/

namespace GrowthGrammar.Decimal

open GrowthGrammar.Text

/-- A number as it is written. -/
inductive Numeral
  /-- The word for no number. -/
  | undefined
  /-- A word for infinity. -/
  | infinite (negative : Bool)
  /-- The value `± digits · 10 ^ exponent`. -/
  | decimal (negative : Bool) (digits : Nat) (exponent : Int)
  deriving DecidableEq, Repr

/-- The double nearest to a number. -/
def Numeral.toFloat : Numeral → Float
  | .undefined => Binary64.undefined
  | .infinite negative => Binary64.ofMagnitude negative Binary64.infinityBits
  | .decimal negative digits exponent => Binary64.ofDecimal negative digits exponent

/-- The first character is a digit. -/
def startsWithDigit : List Char → Bool
  | c :: _ => c.isDigit
  | [] => false

/-- Drop the underscores that stand alone between two digits.  Any other one is
refused. -/
def joinDigits (afterDigit : Bool) : List Char → Option (List Char)
  | [] => some []
  | c :: cs =>
    if c == '_' then
      if afterDigit && startsWithDigit cs then joinDigits false cs else none
    else (joinDigits c.isDigit cs).map (c :: ·)

/-- The number that some digits write. -/
def natOfDigits (ds : List Char) : Nat :=
  ds.foldl (fun n c => n * 10 + (c.toNat - 0x30)) 0

/-- Cut off the sign, if there is one. -/
def splitSign : List Char → Bool × List Char
  | '-' :: cs => (true, cs)
  | '+' :: cs => (false, cs)
  | cs => (false, cs)

/-- Digits and nothing else. -/
def readDigits (cs : List Char) : Option Nat :=
  if cs.isEmpty || !cs.all Char.isDigit then none else some (natOfDigits cs)

/-- A sign and digits and nothing else. -/
def readSigned (cs : List Char) : Option Int :=
  let (negative, ds) := splitSign cs
  (readDigits ds).map fun n => if negative then -(n : Int) else n

/-- What follows the digits: nothing, or an exponent. -/
def readExponent : List Char → Option Int
  | [] => some 0
  | c :: cs => if c == 'e' || c == 'E' then readSigned cs else none

/-- Digits with an optional point among them, and an exponent. -/
def readDecimal (negative : Bool) (cs : List Char) : Option Numeral :=
  let whole := cs.takeWhile Char.isDigit
  let rest := cs.dropWhile Char.isDigit
  let (fraction, rest) :=
    match rest with
    | '.' :: after => (after.takeWhile Char.isDigit, after.dropWhile Char.isDigit)
    | _ => ([], rest)
  if whole.isEmpty && fraction.isEmpty then none
  else
    (readExponent rest).map fun e =>
      .decimal negative (natOfDigits (whole ++ fraction)) (e - fraction.length)

/-- A number without spaces or underscores. -/
def readPlain (cs : List Char) : Option Numeral :=
  let (negative, rest) := splitSign cs
  let word := rest.map Char.toLower
  if word = ['i', 'n', 'f'] || word = ['i', 'n', 'f', 'i', 'n', 'i', 't', 'y'] then
    some (.infinite negative)
  else if word = ['n', 'a', 'n'] then some .undefined
  else readDecimal negative rest

/-- The number a text writes, if it writes one. -/
def readNumeral (text : List Char) : Option Numeral :=
  (joinDigits false ((trimSpaces text).map plainDigit)).bind readPlain

/-- The double a text writes, if it writes a number. -/
def readReal (text : List Char) : Option Float :=
  (readNumeral text).map Numeral.toFloat

/-- The most digits a whole number may have where it is read or written. -/
def maxDigits : Nat := 4300

/-- The whole number has few enough digits to be written. -/
def isWritable (n : Int) : Bool := n.natAbs < Nat.pow 10 maxDigits

/-- The whole number a text writes, if it writes one of a readable length. -/
def readInt (text : List Char) : Option Int :=
  (joinDigits false ((trimSpaces text).map plainDigit)).bind fun cs =>
    if (splitSign cs).2.length ≤ maxDigits then readSigned cs else none

/-! ## Tests -/

example : readNumeral " -1_0.5e3 ".toList = some (.decimal true 105 2) := by decide
example : readNumeral "Infinity".toList = some (.infinite false) := by decide
example : readNumeral "1__0".toList = none := by decide
example : readNumeral "e5".toList = none := by decide
example : readInt "+007".toList = some 7 := by decide

end GrowthGrammar.Decimal

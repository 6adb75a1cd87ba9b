import GrowthGrammar.Datum
import GrowthGrammar.Decimal.Reader

/-!
# Data as JSON text

`Datum.ofJson` reads a JSON document and `Datum.toJson` writes one, with four
spaces for each level.  A number is whole if it has neither a fraction nor an
exponent.  Beside the standard the words `NaN`, `Infinity` and `-Infinity` stand
for the doubles that are not finite.  A field given twice keeps its first place
and its last value.

The reader works on the characters left and takes fuel from their number, since
every value and every separator consumes at least one.  It goes down a limited
number of levels and reads whole numbers of a limited number of digits; of
several faults of a text the first one counts.
-/

namespace GrowthGrammar.Datum

open GrowthGrammar.Decimal

/-- Why a text is refused. -/
inductive JsonFault
  /-- It is no document. -/
  | shape
  /-- It has too many levels. -/
  | depth
  /-- A whole number has too many digits. -/
  | digits (count : Nat)
  deriving DecidableEq, Repr

/-- The most levels of a document. -/
def maxLevels : Nat := 985

/-! ## Reading strings -/

/-- The characters between the parts of a document. -/
def isJsonSpace (c : Char) : Bool :=
  c == ' ' || c == '\t' || c == '\n' || c == '\r'

/-- What is left after the space at the front. -/
def skipSpace (cs : List Char) : List Char :=
  cs.dropWhile isJsonSpace

/-- The value of a hexadecimal digit. -/
def hexValue? (c : Char) : Option Nat :=
  if c.isDigit then some (c.toNat - 0x30)
  else if 'a' ≤ c && c ≤ 'f' then some (c.toNat - 0x57)
  else if 'A' ≤ c && c ≤ 'F' then some (c.toNat - 0x37)
  else none

/-- The number that four hexadecimal digits write. -/
def hexFour? (a b c d : Char) : Option Nat :=
  match hexValue? a, hexValue? b, hexValue? c, hexValue? d with
  | some a, some b, some c, some d => some (((a * 16 + b) * 16 + c) * 16 + d)
  | _, _, _, _ => none

/-- The character that a one-letter escape stands for. -/
def escapeValue? (c : Char) : Option Nat :=
  if c == '"' || c == '\\' || c == '/' then some c.toNat
  else if c == 'b' then some 8
  else if c == 'f' then some 12
  else if c == 'n' then some 10
  else if c == 'r' then some 13
  else if c == 't' then some 9
  else none

/-- The code units of a string up to its closing quote, and what follows it. -/
def readUnits : List Char → Option (List Nat × List Char)
  | [] => none
  | '"' :: rest => some ([], rest)
  | '\\' :: 'u' :: a :: b :: c :: d :: rest =>
    match hexFour? a b c d, readUnits rest with
    | some u, some (us, left) => some (u :: us, left)
    | _, _ => none
  | '\\' :: c :: rest =>
    match escapeValue? c, readUnits rest with
    | some u, some (us, left) => some (u :: us, left)
    | _, _ => none
  | c :: rest =>
    if c.toNat < 0x20 then none
    else (readUnits rest).map fun (us, left) => (c.toNat :: us, left)

/-- A string whose opening quote has been read, and what follows it. -/
def readString (cs : List Char) : Except JsonFault (String × List Char) :=
  match readUnits cs with
  | none => .error .shape
  | some (us, left) => .ok (String.ofList (Text.ofCodePoints (Text.joinUnits us)), left)

/-! ## Reading numbers -/

/-- A whole part: one zero, or digits that do not begin with one. -/
def splitWhole (cs : List Char) : Option (List Char × List Char) :=
  match cs with
  | '0' :: rest => some (['0'], rest)
  | _ =>
    let ds := cs.takeWhile Char.isDigit
    if ds.isEmpty then none else some (ds, cs.dropWhile Char.isDigit)

/-- A point and digits, if both are there. -/
def splitFraction (cs : List Char) : List Char × List Char :=
  match cs with
  | '.' :: rest =>
    let ds := rest.takeWhile Char.isDigit
    if ds.isEmpty then ([], cs) else (ds, rest.dropWhile Char.isDigit)
  | _ => ([], cs)

/-- An exponent with its digits, if they are there. -/
def splitExponent (cs : List Char) : Option Int × List Char :=
  match cs with
  | c :: rest =>
    if c == 'e' || c == 'E' then
      let (negative, after) := splitSign rest
      let ds := after.takeWhile Char.isDigit
      if ds.isEmpty then (none, cs)
      else
        let n : Int := natOfDigits ds
        (some (if negative then -n else n), after.dropWhile Char.isDigit)
    else (none, cs)
  | [] => (none, cs)

/-- A number without its sign, and what follows it. -/
def readUnsigned (negative : Bool) (cs : List Char) : Except JsonFault (Datum × List Char) :=
  match splitWhole cs with
  | none => .error .shape
  | some (whole, rest) =>
    let (fraction, rest) := splitFraction rest
    let (exponent, rest) := splitExponent rest
    if !fraction.isEmpty || exponent.isSome then
      .ok (.real (Binary64.ofDecimal negative (natOfDigits (whole ++ fraction))
        (exponent.getD 0 - fraction.length)), rest)
    else if maxDigits < whole.length then .error (.digits whole.length)
    else
      let n : Int := natOfDigits whole
      .ok (.int (if negative then -n else n), rest)

/-! ## Reading values -/

/-- What is left after a word at the front. -/
def dropWord (word : String) (cs : List Char) : Option (List Char) :=
  if word.toList.isPrefixOf cs then some (cs.drop word.length) else none

/-- The words that are values of their own. -/
def wordValues : List (String × Datum) :=
  [("null", .null), ("true", .bool true), ("false", .bool false),
    ("NaN", .real Binary64.undefined), ("Infinity", .real Binary64.infinity),
    ("-Infinity", .real (Binary64.ofMagnitude true Binary64.infinityBits))]

/-- A word or a number, and what follows it. -/
def readScalar (cs : List Char) : Except JsonFault (Datum × List Char) :=
  match wordValues.findSome? fun (word, d) => (dropWord word cs).map (d, ·) with
  | some found => .ok found
  | none =>
    match cs with
    | '-' :: rest => readUnsigned true rest
    | _ => readUnsigned false cs

mutual

/-- A value with at most so many levels, and what follows it. -/
def readValue : Nat → Nat → List Char → Except JsonFault (Datum × List Char)
  | 0, _, _ => .error .shape
  | fuel + 1, levels, cs =>
    match skipSpace cs with
    | '"' :: rest => (readString rest).map fun (s, left) => (.text s, left)
    | '[' :: rest =>
      match levels with
      | 0 => .error .depth
      | levels + 1 =>
        match skipSpace rest with
        | ']' :: left => .ok (.list [], left)
        | _ => (readItems fuel levels rest).map fun (items, left) => (.list items, left)
    | '\x7b' :: rest =>
      match levels with
      | 0 => .error .depth
      | levels + 1 =>
        match skipSpace rest with
        | '\x7d' :: left => .ok (.record [], left)
        | _ =>
          (readFields fuel levels [] rest).map fun (fields, left) => (.record fields, left)
    | cs => readScalar cs

/-- The members of a list up to its bracket, and what follows it. -/
def readItems : Nat → Nat → List Char → Except JsonFault (List Datum × List Char)
  | 0, _, _ => .error .shape
  | fuel + 1, levels, cs => do
    let (d, rest) ← readValue fuel levels cs
    match skipSpace rest with
    | ']' :: left => return ([d], left)
    | ',' :: rest =>
      let (more, left) ← readItems fuel levels rest
      return (d :: more, left)
    | _ => throw .shape

/-- The fields of a record up to its brace, after those read before, and what
follows it. -/
def readFields :
    Nat → Nat → List (String × Datum) → List Char →
      Except JsonFault (List (String × Datum) × List Char)
  | 0, _, _, _ => .error .shape
  | fuel + 1, levels, before, cs =>
    match skipSpace cs with
    | '"' :: rest => do
      let (name, rest) ← readString rest
      match skipSpace rest with
      | ':' :: rest =>
        let (d, rest) ← readValue fuel levels rest
        match skipSpace rest with
        | '\x7d' :: left => return (setField name d before, left)
        | ',' :: rest => readFields fuel levels (setField name d before) rest
        | _ => throw .shape
      | _ => throw .shape
    | _ => .error .shape

end

/-- The value of a JSON document, or the first fault of the text. -/
def ofJson (text : List Char) : Except JsonFault Datum := do
  let (d, rest) ← readValue (2 * text.length + 2) maxLevels text
  if (skipSpace rest).isEmpty then return d else throw .shape

/-! ## Writing -/

/-- A code unit as an escape of four hexadecimal digits. -/
def unitEscape (u : Nat) : List Char :=
  '\\' :: 'u' :: Text.hexDigits 4 u

/-- A code point inside a string.  Only printable ASCII stands for itself. -/
def jsonCodePoint (n : Nat) : List Char :=
  if n == '"'.toNat || n == '\\'.toNat then ['\\', Char.ofNat n]
  else if n == 10 then ['\\', 'n']
  else if n == 13 then ['\\', 'r']
  else if n == 9 then ['\\', 't']
  else if n == 12 then ['\\', 'f']
  else if n == 8 then ['\\', 'b']
  else if 0x20 ≤ n && n ≤ 0x7e then [Char.ofNat n]
  else (Text.unitsOf n).flatMap unitEscape

/-- A string in quotes. -/
def jsonString (s : String) : String :=
  String.ofList ('"' :: (Text.codePoints s.toList).flatMap jsonCodePoint ++ ['"'])

/-- A double, the ones that are not finite as words. -/
def jsonReal (x : Float) : String :=
  if x.isNaN then "NaN"
  else if x.isInf then (if Binary64.isNegative x then "-Infinity" else "Infinity")
  else exact x

/-- A new line at a level of nesting. -/
def newLine (level : Nat) : String :=
  String.ofList ('\n' :: List.replicate (4 * level) ' ')

mutual

/-- A value at a level of nesting. -/
def writeValue (level : Nat) : Datum → String
  | .null => "null"
  | .bool true => "true"
  | .bool false => "false"
  | .int n => toString n
  | .real x => jsonReal x
  | .text s => jsonString s
  | .list items =>
    if items.isEmpty then "[]"
    else "[" ++ ",".intercalate (writeItems (level + 1) items) ++ newLine level ++ "]"
  | .record fields =>
    if fields.isEmpty then "\x7b\x7d"
    else "\x7b" ++ ",".intercalate (writeFields (level + 1) fields) ++ newLine level ++ "\x7d"

/-- The members of a list, each on a line of its own. -/
def writeItems (level : Nat) : List Datum → List String
  | [] => []
  | d :: rest => (newLine level ++ writeValue level d) :: writeItems level rest

/-- The fields of a record, each on a line of its own. -/
def writeFields (level : Nat) : List (String × Datum) → List String
  | [] => []
  | (name, d) :: rest =>
    (newLine level ++ jsonString name ++ ": " ++ writeValue level d) :: writeFields level rest

end

/-- The JSON document of a value. -/
def toJson (d : Datum) : String :=
  writeValue 0 d

end GrowthGrammar.Datum

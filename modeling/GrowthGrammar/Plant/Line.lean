import GrowthGrammar.Error

/-!
# Lines of a plant

A plant is written line by line.  A number sign starts a comment, and the blanks
around what is left do not count.  A line that begins with `initial:` gives the
initial word.  Of the others, one with an equals sign and without an arrow is a
setting, and any other line is a rule.

A setting is one of a few keys and a number.  The number of passes and the seed
are whole.
-/

namespace GrowthGrammar

/-- What a line of a plant is. -/
inductive PlantLine
  /-- Nothing but a comment. -/
  | blank
  /-- The initial word. -/
  | initial (word : String)
  /-- A key and its value. -/
  | setting (key value : String)
  /-- The text of a rule. -/
  | rule (text : String)
  deriving DecidableEq, Repr

namespace PlantLine

/-- The start of a comment. -/
def commentMark : Char := '#'

/-- The beginning of the line of the initial word. -/
def initialMark : List Char := "initial:".toList

/-- A line without its comment and the blanks around the rest. -/
def content (line : List Char) : List Char :=
  Text.trim (line.takeWhile (· != commentMark))

/-- The text before the first equals sign and the text after it. -/
def splitEquals (cs : List Char) : Option (List Char × List Char) :=
  if cs.contains '=' then some (cs.takeWhile (· != '='), (cs.dropWhile (· != '=')).drop 1)
  else none

/-- A text without the blanks at either end. -/
def trimmed (cs : List Char) : String := String.ofList (Text.trim cs)

/-- What the content of a line is. -/
def ofContent (cs : List Char) : PlantLine :=
  if cs.isEmpty then .blank
  else if initialMark.isPrefixOf cs then .initial (trimmed (cs.drop initialMark.length))
  else
    match splitEquals cs, Name.splitArrow cs with
    | some (key, value), none => .setting (trimmed key) (trimmed value)
    | _, _ => .rule (String.ofList cs)

/-- What a line is. -/
def ofText (line : List Char) : PlantLine := ofContent (content line)

/-! ## Tests -/

example : ofText "n = 7 # passes".toList = .setting "n" "7" := by decide
example : ofText "initial: X = Y".toList = .initial "X = Y" := by decide
example : ofText "X -> = F".toList = .rule "X -> = F" := by decide

end PlantLine

/-- A setting of a plant. -/
inductive PlantSetting
  /-- The number of passes. -/
  | iterations (n : Int)
  /-- The angle of a turn. -/
  | delta (x : Float)
  /-- The length of a step. -/
  | step (x : Float)
  /-- The seed of the draws. -/
  | seed (n : Int)

namespace PlantSetting

/-- A whole number as the value of a key. -/
def wholeOf (key value : String) : Except PlantFault Int :=
  match Decimal.readInt value.toList with
  | some n => .ok n
  | none => .error (.notWhole key value)

/-- A number as the value of a key. -/
def numberOf (key value : String) : Except PlantFault Float :=
  match Decimal.readReal value.toList with
  | some x => .ok x
  | none => .error (.notNumber key value)

/-- The setting of a key and a value. -/
def read (key value : String) : Except PlantFault PlantSetting :=
  if key == "n" || key == "N" then (wholeOf key value).map .iterations
  else if key == "d" || key == "D" || key == "delta" then (numberOf key value).map .delta
  else if key == "step" then (numberOf key value).map .step
  else if key == "seed" then (wholeOf key value).map .seed
  else .error (.unknownSetting key)

end PlantSetting

end GrowthGrammar

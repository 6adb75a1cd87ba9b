import GrowthGrammar.Datum
import GrowthGrammar.Decimal.Reader

/-!
# Names of symbols

A name is a text that can stand as one token of a rule without being taken for
anything else.  So it is not empty, has no blank and no parenthesis, holds no
arrow, is not one of the two marks that set off a context, and does not read as a
number, since a number in front of a successor is a weight.

`Name.fault?` gives the first reason, in this order, why a text is no name.
-/

namespace GrowthGrammar

/-- Why a datum is no name. -/
inductive NameFault
  /-- It is no text. -/
  | notText (kind : String)
  /-- It is the empty text. -/
  | empty
  /-- It holds a blank. -/
  | blank (name : String)
  /-- It holds a parenthesis. -/
  | parenthesis (name : String)
  /-- It holds the arrow of a rule. -/
  | arrow (name : String)
  /-- It is a mark that sets off a context. -/
  | mark (name : String)
  /-- It reads as a number. -/
  | number (name : String)
  deriving DecidableEq, Repr

/-- The wording of a fault. -/
def NameFault.message : NameFault → String
  | .notText kind => "symbol names must be strings, not " ++ kind
  | .empty => "symbol names cannot be empty"
  | .blank name => "symbol name " ++ Text.quoted name ++ " contains whitespace"
  | .parenthesis name => "symbol name " ++ Text.quoted name ++ " contains parentheses"
  | .arrow name => "symbol name " ++ Text.quoted name ++ " contains the reserved '->'"
  | .mark name => Text.quoted name ++ " marks a context and cannot be a symbol"
  | .number name => "symbol name " ++ Text.quoted name ++ " is a number"

namespace Name

/-- The mark after a left context. -/
def leftMark : String := "<"

/-- The mark before a right context. -/
def rightMark : String := ">"

/-- What stands before the first arrow of a text and what stands after it. -/
def splitArrow : List Char → Option (List Char × List Char)
  | [] => none
  | c :: cs =>
    match c, cs with
    | '-', '>' :: rest => some ([], rest)
    | _, _ => (splitArrow cs).map fun (before, after) => (c :: before, after)

/-- The first reason why a text is no name, if there is one. -/
def fault? (name : String) : Option NameFault :=
  let cs := name.toList
  if cs.isEmpty then some .empty
  else if cs.any Text.isBlank then some (.blank name)
  else if cs.any fun c => c == '(' || c == ')' then some (.parenthesis name)
  else if (splitArrow cs).isSome then some (.arrow name)
  else if name == leftMark || name == rightMark then some (.mark name)
  else if (Decimal.readNumeral cs).isSome then some (.number name)
  else none

/-- The text is a name. -/
def IsValid (name : String) : Prop := fault? name = none

instance (name : String) : Decidable (IsValid name) :=
  inferInstanceAs (Decidable (fault? name = none))

/-- The text, if it is a name. -/
def check (name : String) : Except NameFault String :=
  match fault? name with
  | some fault => .error fault
  | none => .ok name

/-- The text of a datum, if it is a name. -/
def ofDatum : Datum → Except NameFault String
  | .text name => check name
  | d => .error (.notText d.kindName)

/-- Check some names in order, up to the first that is none. -/
def checkAll : List String → Except NameFault Unit
  | [] => .ok ()
  | name :: rest =>
    match fault? name with
    | some fault => .error fault
    | none => checkAll rest

end Name

end GrowthGrammar

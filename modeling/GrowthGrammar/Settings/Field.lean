import GrowthGrammar.Datum
import GrowthGrammar.Settings.Issue
import GrowthGrammar.Settings.NumberText

/-!
# Fields of settings

A field takes a datum and gives a value or a flaw.  The readers are lenient where
the meaning is plain: a whole number may come as a truth value, as a double
without fraction or as text, and a number may come as any of these.  A text that
is read, and not only kept, must be one outside as well: a half of a character
that stands alone is refused.

`Checked` is a value or all the issues found on the way to it, and `both` goes on
after an issue, so that every wrong field is reported.
-/

namespace GrowthGrammar.Settings

/-! ## Readers -/

/-- A double without fraction is taken for a whole number below this bound. -/
def wholeBound : Nat := Nat.pow 2 63

/-- The characters of a text without halves of characters. -/
def characters (s : String) : Except Flaw (List Char) :=
  if Text.hasHalf s.toList then .error .textUnits else .ok s.toList

/-- A whole number. -/
def whole : Datum → Except Flaw Int
  | .int n => .ok n
  | .bool b => .ok (if b then 1 else 0)
  | .real x =>
    if !x.isFinite then .error .notFinite
    else
      match Decimal.Binary64.toInt? x with
      | some n => if n.natAbs < wholeBound then .ok n else .error .wholeSize
      | none => .error .fraction
  | .text s => do
    match readWhole (← characters s) with
    | .ok n => return n
    | .error .size => throw .wholeSize
    | .error .shape => throw .wholeText
  | _ => .error .wholeKind

/-- A double, finite or not. -/
def number : Datum → Except Flaw Float
  | .real x => .ok x
  | .int n =>
    match Decimal.Binary64.ofInt? n with
    | some x => .ok x
    | none => .error .numberKind
  | .bool b => .ok (if b then 1 else 0)
  | .text s => do
    match readNumber (← characters s) with
    | some x => return x
    | none => throw .numberText
  | _ => .error .numberKind

/-- A text. -/
def text : Datum → Except Flaw String
  | .text s => .ok s
  | _ => .error .textKind

/-- One of some values, by its word. -/
def choice {ε α : Type} (read : Datum → Except ε α) (d : Datum) : Except Flaw α :=
  match read d, d with
  | .ok a, _ => .ok a
  | .error _, .text s => (characters s).bind fun _ => .error .choice
  | .error _, _ => .error .choice

/-- The value itself, if it is finite. -/
def finite (x : Float) : Except Flaw Float :=
  if x.isFinite then .ok x else .error .notFinite

/-- The number itself, if it is not below zero. -/
def natural (n : Int) : Except Flaw Nat :=
  if n < 0 then .error .belowLeast else .ok n.toNat

/-- The number itself, if it is above zero. -/
def positiveWhole (n : Int) : Except Flaw Int :=
  if 0 < n then .ok n else .error .notAbove

/-- The number itself, if it is above zero. -/
def positive (x : Float) : Except Flaw Float :=
  if 0 < x then .ok x else .error .notAbove

/-- The number itself, if it is not below zero. -/
def nonNegative (x : Float) : Except Flaw Float :=
  if 0 ≤ x then .ok x else .error .belowLeast

/-- A reader that takes the missing value for nothing. -/
def optional {α : Type} (read : Datum → Except Flaw α) : Datum → Except Flaw (Option α)
  | .null => .ok none
  | d => (read d).map some

/-! ## Records of fields -/

/-- A value, or all the issues found. -/
abbrev Checked (α : Type) := Except (List Issue) α

/-- The outcome of a field with a name. -/
def placed {α : Type} (name : String) (outcome : Except Flaw α) : Checked α :=
  outcome.mapError fun flaw => [⟨[name], flaw⟩]

/-- The field of a name, or its default if it is not given. -/
def field {α : Type} (fields : List (String × Datum)) (name : String) (default : α)
    (read : Datum → Except Flaw α) : Checked α :=
  match Datum.getField? name fields with
  | none => .ok default
  | some d => placed name (read d)

/-- Two values, or the issues of both. -/
def both {α β : Type} (first : Checked α) (second : Checked β) : Checked (α × β) :=
  match first, second with
  | .ok a, .ok b => .ok (a, b)
  | .error issues, .ok _ => .error issues
  | .ok _, .error issues => .error issues
  | .error issues, .error more => .error (issues ++ more)

end GrowthGrammar.Settings

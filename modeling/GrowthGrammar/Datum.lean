import GrowthGrammar.Datum.Fields
import GrowthGrammar.Decimal.Numeral
import GrowthGrammar.Decimal.Reader
import GrowthGrammar.Text.Quoted

/-!
# Loosely typed data

Settings, weights and documents arrive as data whose kind is only known when it
is looked at.  A `Datum` is such a value.  Whole numbers of any size and doubles
are different kinds, and a record keeps its fields in the order they came in.

`shown` is the form a datum takes inside a message, `plain` the one it takes
alone, and `kindName` is the word a message uses for its kind.  A datum has neither
form if a whole number in it has too many digits (`isWritable`).
-/

namespace GrowthGrammar

/-- A value whose kind is only known when it is looked at. -/
inductive Datum
  /-- No value. -/
  | null
  /-- A truth value. -/
  | bool (b : Bool)
  /-- A whole number of any size. -/
  | int (n : Int)
  /-- A double. -/
  | real (x : Float)
  /-- A text. -/
  | text (s : String)
  /-- Some values in order. -/
  | list (items : List Datum)
  /-- Some named values in order. -/
  | record (fields : List (String × Datum))
  deriving Inhabited

namespace Datum

/-- The word for the kind of a datum. -/
def kindName : Datum → String
  | .null => "NoneType"
  | .bool _ => "bool"
  | .int _ => "int"
  | .real _ => "float"
  | .text _ => "str"
  | .list _ => "list"
  | .record _ => "dict"

/-! ## Data of one form -/

mutual

/-- The two data are of one kind and have one form. -/
def alike : Datum → Datum → Bool
  | .null, .null => true
  | .bool a, .bool b => a == b
  | .int m, .int n => m == n
  | .real x, .real y => x == y
  | .text s, .text t => s == t
  | .list xs, .list ys => alikeItems xs ys
  | .record xs, .record ys => alikeFields xs ys
  | _, _ => false

/-- The members of the two lists are alike one by one. -/
def alikeItems : List Datum → List Datum → Bool
  | [], [] => true
  | a :: as, b :: bs => alike a b && alikeItems as bs
  | _, _ => false

/-- The fields of the two records are alike one by one. -/
def alikeFields : List (String × Datum) → List (String × Datum) → Bool
  | [], [] => true
  | (m, a) :: as, (n, b) :: bs => m == n && alike a b && alikeFields as bs
  | _, _ => false

end

instance : BEq Datum := ⟨alike⟩

/-! ## Fields -/

/-- The field of a record. -/
def get? (name : String) : Datum → Option Datum
  | .record fields => getField? name fields
  | _ => none

/-! ## Data as text -/

mutual

/-- A datum as a message shows it. -/
def shown : Datum → String
  | .null => "None"
  | .bool true => "True"
  | .bool false => "False"
  | .int n => toString n
  | .real x => Decimal.exact x
  | .text s => Text.quoted s
  | .list items => "[" ++ ", ".intercalate (shownItems items) ++ "]"
  | .record fields => "\x7b" ++ ", ".intercalate (shownFields fields) ++ "\x7d"

/-- The members of a list as a message shows them. -/
def shownItems : List Datum → List String
  | [] => []
  | d :: rest => shown d :: shownItems rest

/-- The fields of a record as a message shows them. -/
def shownFields : List (String × Datum) → List String
  | [] => []
  | (name, d) :: rest => (Text.quoted name ++ ": " ++ shown d) :: shownFields rest

end

/-- A datum as it is written alone: a text has no quotes around it. -/
def plain : Datum → String
  | .text s => s
  | d => d.shown

mutual

/-- All whole numbers in a datum can be written. -/
def isWritable : Datum → Bool
  | .int n => Decimal.isWritable n
  | .list items => areWritable items
  | .record fields => haveWritable fields
  | _ => true

/-- All whole numbers in some data can be written. -/
def areWritable : List Datum → Bool
  | [] => true
  | d :: rest => isWritable d && areWritable rest

/-- All whole numbers in some fields can be written. -/
def haveWritable : List (String × Datum) → Bool
  | [] => true
  | (_, d) :: rest => isWritable d && haveWritable rest

end

end Datum

end GrowthGrammar

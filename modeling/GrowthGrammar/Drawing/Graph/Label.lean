import GrowthGrammar.Error

/-!
# Labels

A node of a document is told apart by its label, which may be any datum that has
an identity: a record has none, nor has a list that holds one.  Numbers of one
value are one label, whatever their kind, and the missing value is no label.

Among several links between the same nodes a key takes the place of the label.
-/

namespace GrowthGrammar

namespace Graph

mutual

/-- The form of a label that equal labels share: numbers of one value are
equal, whatever their kind. -/
def identity : Datum → Datum
  | .bool b => .int (if b then 1 else 0)
  | .real x =>
    match Decimal.Binary64.toInt? x with
    | some n => .int n
    | none => .real x
  | .list items => .list (identities items)
  | d => d

/-- The forms of some labels. -/
def identities : List Datum → List Datum
  | [] => []
  | d :: rest => identity d :: identities rest

end

/-- The two labels are equal. -/
def sameLabel (a b : Datum) : Bool := identity a == identity b

mutual

/-- The datum has an identity: it holds no record. -/
def hasIdentity : Datum → Bool
  | .record _ => false
  | .list items => haveIdentity items
  | _ => true

/-- All of the data have an identity. -/
def haveIdentity : List Datum → Bool
  | [] => true
  | d :: rest => hasIdentity d && haveIdentity rest

end

/-- A datum as the label of a node. -/
def labelOfDatum (d : Datum) : Except Error Datum :=
  if !hasIdentity d then .error .wrongType
  else if d == .null then .error (.value .noLabel)
  else .ok d

/-- A datum as the label of an end of a link.  It holds no list in a list. -/
def endOfDatum (d : Datum) : Except Error Datum :=
  match d with
  | .list items =>
    if items.any fun item => item matches .list _ then .error .wrongType else labelOfDatum d
  | _ => labelOfDatum d

/-- A datum as the key of a link, which is none if it is missing.  It is no
list. -/
def keyOfDatum : Datum → Except Error (Option Datum)
  | .null => .ok none
  | .list _ | .record _ => .error .wrongType
  | d => .ok (some d)

end Graph

end GrowthGrammar

import GrowthGrammar.Datum
import GrowthGrammar.Decimal.Binary64

/-!
# Equality of data

Two data are the same if they have one value.  Numbers and truth values are
compared by what they are worth, whatever their kind is: `1`, `1.0` and true are
the same.  Records are the same if they have the same fields in any order.

A datum is a key if something can be found under it: lists and records are not.
-/

namespace GrowthGrammar.Datum

/-- The whole number that a datum is worth. -/
def whole? : Datum → Option Int
  | .int n => some n
  | .bool b => some (if b then 1 else 0)
  | .real x => Decimal.Binary64.toInt? x
  | _ => none

/-- The two data are worth one whole number. -/
def sameWhole (a b : Datum) : Bool :=
  match a.whole?, b.whole? with
  | some m, some n => m == n
  | _, _ => false

mutual

/-- The two data have one value. -/
def same : Datum → Datum → Bool
  | .null, .null => true
  | .text s, .text t => s == t
  | .real x, .real y => x == y
  | .list xs, .list ys => sameItems xs ys
  | .record xs, .record ys => xs.length == ys.length && sameFields xs ys
  | a, b => sameWhole a b

/-- The two lists have the same members in the same order. -/
def sameItems : List Datum → List Datum → Bool
  | [], [] => true
  | a :: as, b :: bs => same a b && sameItems as bs
  | _, _ => false

/-- Every field of the first record is in the second. -/
def sameFields : List (String × Datum) → List (String × Datum) → Bool
  | [], _ => true
  | (name, a) :: rest, fields =>
    (match getField? name fields with
      | some b => same a b
      | none => false) && sameFields rest fields

end

/-- Something can be found under the datum. -/
def isKey : Datum → Bool
  | .list _ => false
  | .record _ => false
  | _ => true

/-! ## Tests -/

example : same (.bool true) (.int 1) = true := by decide
example : same (.record [("a", .null), ("b", .int 2)]) (.record [("b", .int 2), ("a", .null)])
    = true := by decide
example : same (.list [.int 1]) (.list [.int 1, .int 2]) = false := by decide

end GrowthGrammar.Datum

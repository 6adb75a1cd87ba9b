import GrowthGrammar.Draft
import GrowthGrammar.Plane.Path

/-!
# Fingerprints

A fingerprint is a number that equal values share.  That of a whole number or of
a finite double is its residue modulo the prime `2 ^ 61 - 1`, with the sign of
the value, so numbers of one value have one fingerprint whatever their kind; a
residue of -1 counts as -2.  A double that is no number has no fingerprint.

Fingerprints of different kinds differ, except that the empty text has the one of
zero.  A symbol has that of its code, and what is no key has none.  The
fingerprints of a draft and of a path are those of their parts and their
coordinates.
-/

namespace GrowthGrammar.Fingerprint

/-- The modulus of fingerprints. -/
def modulus : Nat := Nat.pow 2 61 - 1

/-- A residue with a sign. -/
def signed (negative : Bool) (residue : Nat) : Int :=
  let n : Int := if negative then -(residue : Int) else residue
  if n == -1 then -2 else n

/-- The fingerprint of a whole number. -/
def ofInt (n : Int) : Int :=
  signed (decide (n < 0)) (n.natAbs % modulus)

/-- The fingerprint of an infinite double without its sign. -/
def infinite : Nat := 314159

/-- A power of two modulo the modulus.  Two has the order 61. -/
def powerOfTwo (exponent : Int) : Nat := Nat.pow 2 (exponent % 61).toNat

/-- The fingerprint of a double. -/
def ofFloat (x : Float) : Option Int :=
  match Decimal.Binary64.decode x with
  | some d => some (signed d.negative (d.mantissa * powerOfTwo d.exponent % modulus))
  | none => if x.isNaN then none else some (signed (Decimal.Binary64.isNegative x) infinite)

/-- The fingerprints of a path, if all its coordinates have one. -/
def ofPath (path : Path Float) : Option (List Int) :=
  (path.flatMap Edge.coordinates).mapM ofFloat

/-- A fingerprint and the kind of value it is of. -/
inductive Mark
  /-- That of no value. -/
  | nothing
  /-- That of a number. -/
  | number (residue : Int)
  /-- That of a text. -/
  | text (s : String)
  /-- That of a symbol. -/
  | symbol (residue : Int)
  deriving DecidableEq, Repr

/-- The fingerprint of a datum, if that is no undefined number. -/
def ofDatum : Datum → Except Error (Option Mark)
  | .null => .ok (some .nothing)
  | .bool b => .ok (some (.number (if b then 1 else 0)))
  | .int n => .ok (some (.number (ofInt n)))
  | .real x => .ok ((ofFloat x).map .number)
  | .text s => .ok (some (if s.isEmpty then .number 0 else .text s))
  | .list _ => .error .wrongType
  | .record _ => .error .wrongType

/-- The fingerprint of a part. -/
def ofPart : Part → Except Error (Option Mark)
  | .symbol s => .ok (some (.symbol (ofInt s.code)))
  | .datum d => ofDatum d

/-- The fingerprints of a draft, if all its parts have one. -/
def ofDraft (d : Draft) : Except Error (Option (List Mark)) := do
  return (← d.mapM ofPart).mapM id

/-- The two fingerprints are there and are one. -/
def agree {α : Type} [BEq α] (a b : Option α) : Bool :=
  match a, b with
  | some x, some y => x == y
  | _, _ => false

/-! ## Tests -/

example : ofInt (-1) = ofInt (-2) := by decide
example : ofInt (Nat.pow 2 61) = ofInt 1 := by decide

end GrowthGrammar.Fingerprint

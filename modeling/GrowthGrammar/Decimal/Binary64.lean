import GrowthGrammar.Decimal.Rounding

/-!
# Doubles as exact numbers

A finite double is `± mantissa · 2 ^ exponent`.  `decode` reads the three parts
off the bits, and `ofQuotient` goes back: it is the double nearest to a quotient
of natural numbers, even on a tie, and infinite from half a step above the
largest one.  What is computed exactly, such as the length of a vector or a
number read from text, is rounded here and nowhere else.
-/

namespace GrowthGrammar.Decimal

/-- The exact value `± mantissa · 2 ^ exponent`. -/
structure Dyadic where
  /-- The sign bit. -/
  negative : Bool
  /-- The digits in base two. -/
  mantissa : Nat
  /-- The exponent of the lowest of them. -/
  exponent : Int
  deriving DecidableEq, Repr

/-- The numerator of the absolute value. -/
def Dyadic.num (d : Dyadic) : Nat := d.mantissa * Nat.pow 2 d.exponent.toNat

/-- The denominator of the absolute value. -/
def Dyadic.den (d : Dyadic) : Nat := Nat.pow 2 (-d.exponent).toNat

namespace Binary64

/-- The exponent of the smallest positive double. -/
def minExponent : Int := -1074

/-- The bits of positive infinity. -/
def infinityBits : Nat := 0x7ff0000000000000

/-- Positive infinity. -/
def infinity : Float := Float.ofBits 0x7ff0000000000000

/-- A value that is no number. -/
def undefined : Float := Float.ofBits 0x7ff8000000000000

/-- The parts of a finite double, nothing for the others. -/
def decode (x : Float) : Option Dyadic :=
  let bits := x.toBits.toNat
  let negative := decide (Nat.pow 2 63 ≤ bits)
  let biased : Nat := bits / Nat.pow 2 52 % Nat.pow 2 11
  let fraction : Nat := bits % Nat.pow 2 52
  if biased = 2047 then none
  else if biased = 0 then some ⟨negative, fraction, minExponent⟩
  else some ⟨negative, Nat.pow 2 52 + fraction, (biased : Int) - 1075⟩

/-- The sign bit of a double. -/
def isNegative (x : Float) : Bool :=
  decide (Nat.pow 2 63 ≤ x.toBits.toNat)

/-- The double with the given bits of absolute value and sign. -/
def ofMagnitude (negative : Bool) (bits : Nat) : Float :=
  Float.ofBits (UInt64.ofNat (if negative then Nat.pow 2 63 + bits else bits))

/-- The whole part of the base two logarithm of `num / den`, for a positive
quotient. -/
def binaryExponent (num den : Nat) : Int :=
  let guess : Int := (num.log2 : Int) - den.log2
  if num * Nat.pow 2 (-guess).toNat < den * Nat.pow 2 guess.toNat then guess - 1 else guess

/-- The bits of the double nearest to `num / den`.  The significand is rounded
to 53 binary digits, or to a multiple of the smallest double. -/
def quotientBits (num den : Nat) : Nat :=
  if num = 0 then 0
  else
    let q := max (binaryExponent num den - 52) minExponent
    let m := roundDiv (num * Nat.pow 2 (-q).toNat) (den * Nat.pow 2 q.toNat)
    min ((q - minExponent).toNat * Nat.pow 2 52 + m) infinityBits

/-- The double nearest to `± num / den`. -/
def ofQuotient (negative : Bool) (num den : Nat) : Float :=
  ofMagnitude negative (quotientBits num den)

/-- The double nearest to a whole number. -/
def ofInt (n : Int) : Float :=
  ofQuotient (decide (n < 0)) n.natAbs 1

/-- The double nearest to a whole number, if that is finite. -/
def ofInt? (n : Int) : Option Float :=
  if quotientBits n.natAbs 1 = infinityBits then none else some (ofInt n)

/-- The double nearest to `± digits · 10 ^ exponent`.  A value beyond every
double on either side is not written out. -/
def ofDecimal (negative : Bool) (digits : Nat) (exponent : Int) : Float :=
  let leading := exponent + digitCount digits
  if digits = 0 || leading < -400 then ofMagnitude negative 0
  else if 400 < leading then ofMagnitude negative infinityBits
  else ofQuotient negative (digits * Nat.pow 10 exponent.toNat) (Nat.pow 10 (-exponent).toNat)

/-- The exact whole value of a double, if it has one. -/
def toInt? (x : Float) : Option Int :=
  match decode x with
  | none => none
  | some d =>
    if d.num % d.den = 0 then
      let n : Int := d.num / d.den
      some (if d.negative then -n else n)
    else none

/-! ## Lengths -/

/-- The bits of the double nearest to `√(a² + b²) · 2 ^ exponent`.  The root is
taken with at least 55 binary digits, and one more digit stands for what is cut
off, so that rounding it rounds the root itself. -/
def rootBits (a b : Nat) (exponent : Int) : Nat :=
  let square := a * a + b * b
  if square = 0 then 0
  else
    let shift := (110 - square.log2 + 1) / 2
    let scaled := square * Nat.pow 4 shift
    let root := isqrt scaled
    let sticky := if root * root = scaled then 2 * root else 2 * root + 1
    let q := exponent - shift - 1
    quotientBits (sticky * Nat.pow 2 q.toNat) (Nat.pow 2 (-q).toNat)

/-- The length of the vector with the given components, rounded once.  It is
infinite if a component is, even beside a component that is no number. -/
def hypot (x y : Float) : Float :=
  if x.isInf || y.isInf then infinity
  else
    match decode x, decode y with
    | some a, some b =>
      let q := min a.exponent b.exponent
      ofMagnitude false
        (rootBits (a.mantissa * Nat.pow 2 (a.exponent - q).toNat)
          (b.mantissa * Nat.pow 2 (b.exponent - q).toNat) q)
    | _, _ => undefined

end Binary64

end GrowthGrammar.Decimal

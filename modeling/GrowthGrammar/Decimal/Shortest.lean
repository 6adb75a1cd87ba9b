import GrowthGrammar.Decimal.Binary64

/-!
# The shortest decimal of a double

The numbers that read back as a double are an interval around it, from half a
step below to half a step above, with its ends if the mantissa is even.  The
step below a power of two is half as long.  `shortest` takes the coarsest
decimal grid that has a point in the interval, and of its points the nearest to
the double, the even one of two.

All the numbers involved are quotients with one denominator, so every
comparison is one of natural numbers.
-/

namespace GrowthGrammar.Decimal

/-- The value `digits · 10 ^ exponent`. -/
structure Scientific where
  /-- The digits, as a number. -/
  digits : Nat
  /-- The exponent of the last of them. -/
  exponent : Int
  deriving DecidableEq, Repr

/-- The same value without zeros at the end of its digits. -/
def Scientific.dropZeros (fuel : Nat) (s : Scientific) : Scientific :=
  match fuel with
  | 0 => s
  | fuel + 1 =>
    if s.digits ≠ 0 ∧ s.digits % 10 = 0 then
      Scientific.dropZeros fuel ⟨s.digits / 10, s.exponent + 1⟩
    else s

/-- The same value in its shortest form. -/
def Scientific.normal (s : Scientific) : Scientific :=
  s.dropZeros (digitCount s.digits)

/-- The numbers that read back as a positive double, in quarters of its step. -/
structure ReadBack where
  /-- The lower end. -/
  low : Nat
  /-- The double itself. -/
  middle : Nat
  /-- The upper end. -/
  high : Nat
  /-- The ends belong to it. -/
  closed : Bool
  /-- The exponent of a quarter of the step. -/
  exponent : Int

/-- The interval of a double with a positive mantissa. -/
def ReadBack.of (d : Dyadic) : ReadBack where
  low :=
    if d.mantissa = Nat.pow 2 52 ∧ d.exponent ≠ Binary64.minExponent then 4 * d.mantissa - 1
    else 4 * d.mantissa - 2
  middle := 4 * d.mantissa
  high := 4 * d.mantissa + 2
  closed := d.mantissa % 2 = 0
  exponent := d.exponent - 2

/-- The point of the grid of multiples of `10 ^ k` that is in the interval and
nearest to its middle, if there is one. -/
def ReadBack.gridPoint? (r : ReadBack) (k : Int) : Option Nat :=
  let scale := Nat.pow 2 r.exponent.toNat * Nat.pow 10 (-k).toNat
  let unit := Nat.pow 2 (-r.exponent).toNat * Nat.pow 10 k.toNat
  let inside (point : Nat) : Bool :=
    if r.closed then r.low * scale ≤ point && point ≤ r.high * scale
    else r.low * scale < point && point < r.high * scale
  let below := r.middle * scale / unit
  let nearest := roundDiv (r.middle * scale) unit
  if inside (nearest * unit) then some nearest
  else if inside (below * unit) then some below
  else if inside ((below + 1) * unit) then some (below + 1)
  else none

/-- The first grid with a point in the interval, from exponent `k` down. -/
def ReadBack.search (r : ReadBack) : Nat → Int → Scientific
  | 0, k => ⟨0, k⟩
  | fuel + 1, k =>
    match r.gridPoint? k with
    | some point => ⟨point, k⟩
    | none => r.search fuel (k - 1)

/-- The shortest decimal that reads back as the absolute value of a double.
Seventeen digits always do, and one more covers a value that rounds up to the
next power of ten. -/
def shortest (d : Dyadic) : Scientific :=
  if d.mantissa = 0 then ⟨0, 0⟩
  else ((ReadBack.of d).search 18 (leadingExponent d.num d.den)).normal

/-- The decimal with at most `count` digits that is nearest to the absolute value
of a double. -/
def significant (count : Nat) (d : Dyadic) : Scientific :=
  if d.mantissa = 0 then ⟨0, 0⟩
  else
    let k := leadingExponent d.num d.den - count + 1
    Scientific.normal
      ⟨roundDiv (d.num * Nat.pow 10 (-k).toNat) (d.den * Nat.pow 10 k.toNat), k⟩

/-! ## Tests -/

example : shortest ⟨false, 1, -1074⟩ = ⟨5, -324⟩ := by decide +kernel
example : shortest ⟨false, 5404319552844595, -54⟩ = ⟨3, -1⟩ := by decide +kernel
example : shortest ⟨false, Nat.pow 2 52, 0⟩ = ⟨4503599627370496, 0⟩ := by decide +kernel
example : significant 3 ⟨false, Nat.pow 2 52 + Nat.pow 2 50, 0⟩ = ⟨563, 13⟩ := by decide +kernel

end GrowthGrammar.Decimal

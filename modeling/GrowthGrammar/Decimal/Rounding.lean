/-!
# Rounding a quotient

Every number this library prints or reads is rounded once, from an exact
quotient of natural numbers.  `roundDiv` takes the nearest whole number, and of
two equally near ones the even one.

`isqrt` is the whole part of a square root.
-/

namespace GrowthGrammar.Decimal

/-- The whole number nearest to `num / den`, the even one of two. -/
def roundDiv (num den : Nat) : Nat :=
  let whole := num / den
  let twice := 2 * (num % den)
  if twice < den then whole
  else if den < twice then whole + 1
  else whole + whole % 2

/-- A step of Newton's method for the square root of `n`, taken while it goes
down and at most `fuel` times. -/
def isqrtFrom (n : Nat) : Nat → Nat → Nat
  | 0, guess => guess
  | fuel + 1, guess =>
    let next := (guess + n / guess) / 2
    if next < guess then isqrtFrom n fuel next else guess

/-- The whole part of the square root of `n`. -/
def isqrt (n : Nat) : Nat :=
  if n = 0 then 0 else isqrtFrom n (n.log2 + 2) (Nat.pow 2 (n.log2 / 2 + 1))

/-- The number of decimal digits of `n`, one for zero. -/
def digitCount (n : Nat) : Nat :=
  (Nat.toDigits 10 n).length

/-- The digits of `n` in base ten, the highest first. -/
def decimalDigits (n : Nat) : List Char :=
  Nat.toDigits 10 n

/-- The exponent of the highest decimal digit of `num / den`, for a positive
quotient: the power of ten that is at most the quotient and more than a tenth of
it. -/
def leadingExponent (num den : Nat) : Int :=
  let guess : Int := (digitCount num : Int) - digitCount den
  if num * Nat.pow 10 (-guess).toNat < den * Nat.pow 10 guess.toNat then guess - 1 else guess

/-! ## Tests -/

example : roundDiv 5 2 = 2 ∧ roundDiv 7 2 = 4 ∧ roundDiv 8 3 = 3 := by decide
example : isqrt 0 = 0 ∧ isqrt 15 = 3 ∧ isqrt 16 = 4 ∧ isqrt 1000001 = 1000 := by decide

end GrowthGrammar.Decimal

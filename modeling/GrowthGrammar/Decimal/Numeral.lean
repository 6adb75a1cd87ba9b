import GrowthGrammar.Decimal.Shortest

/-!
# Written numbers

A decimal is written with a point among its digits while its leading exponent is
in the range its style allows, and with an exponent otherwise.  `exact` is the
form in which every double reads back: its shortest decimal, whole numbers with
`.0`, exponents outside -4 … 15.  `general` keeps a number of digits, and
`fixed` a number of places after the point.
-/

namespace GrowthGrammar.Decimal

/-- How a decimal is written. -/
structure Style where
  /-- The first leading exponent written without an exponent part. -/
  plainFrom : Int
  /-- The first one after these written with an exponent part again. -/
  plainBelow : Int
  /-- Whole numbers are written with a point and one zero. -/
  wholeWithPoint : Bool

/-- The style in which a double reads back: `0.0001`, `1e-05`, `1e+16`, `5.0`. -/
def Style.exact : Style := ⟨-4, 16, true⟩

/-- The style of a number cut to `count` digits: `5`, `1e+10`. -/
def Style.general (count : Nat) : Style := ⟨-4, count, false⟩

/-- `n` zeros. -/
def zeros (n : Nat) : List Char := List.replicate n '0'

/-- An exponent part: a sign and at least two digits. -/
def exponentPart (e : Int) : List Char :=
  let ds := decimalDigits e.natAbs
  'e' :: (if e < 0 then '-' else '+') :: (zeros (2 - ds.length) ++ ds)

/-- Digits whose first `point` are before the point. -/
def placePoint (style : Style) (ds : List Char) (point : Int) : List Char :=
  if point ≤ 0 then '0' :: '.' :: (zeros (-point).toNat ++ ds)
  else if (ds.length : Int) ≤ point then
    ds ++ zeros (point.toNat - ds.length) ++ (if style.wholeWithPoint then ['.', '0'] else [])
  else ds.take point.toNat ++ '.' :: ds.drop point.toNat

/-- A decimal with one digit before the point and an exponent part. -/
def withExponent (ds : List Char) (leading : Int) : List Char :=
  match ds with
  | [d] => d :: exponentPart leading
  | d :: rest => d :: '.' :: (rest ++ exponentPart leading)
  | [] => exponentPart leading

/-- A decimal without its sign. -/
def Scientific.write (style : Style) (s : Scientific) : List Char :=
  let ds := decimalDigits s.digits
  let leading := s.exponent + ds.length - 1
  if s.digits = 0 then placePoint style ds 1
  else if style.plainFrom ≤ leading && leading < style.plainBelow then
    placePoint style ds (leading + 1)
  else withExponent ds leading

/-- A double that is not finite, in words. -/
def notFinite (x : Float) : String :=
  if x.isNaN then "nan" else if Binary64.isNegative x then "-inf" else "inf"

/-- A sign in front of a text. -/
def signed (negative : Bool) (text : List Char) : List Char :=
  if negative then '-' :: text else text

/-- The shortest text that reads back as the double. -/
def exact (x : Float) : String :=
  match Binary64.decode x with
  | none => notFinite x
  | some d => String.ofList (signed d.negative ((shortest d).write Style.exact))

/-- The double with at most `count` digits, zero without a sign. -/
def general (count : Nat) (x : Float) : String :=
  match Binary64.decode x with
  | none => notFinite x
  | some d =>
    String.ofList
      (signed (d.negative && d.mantissa != 0) ((significant count d).write (Style.general count)))

/-- A number of units of `10 ^ -places`, with exactly that many places. -/
def fixedUnits (places units : Nat) : List Char :=
  let ds := decimalDigits units
  let padded := zeros (places + 1 - ds.length) ++ ds
  padded.take (padded.length - places) ++ '.' :: padded.drop (padded.length - places)

/-- The absolute value of a double in units of `10 ^ -places`, rounded. -/
def unitsOf (places : Nat) (d : Dyadic) : Nat :=
  roundDiv (d.num * Nat.pow 10 places) d.den

/-- The double with `places` places after the point. -/
def fixed (places : Nat) (x : Float) : List Char :=
  match Binary64.decode x with
  | none => (notFinite x).toList
  | some d => signed d.negative (fixedUnits places (unitsOf places d))

/-- A double rounded to a multiple of `10 ^ -places`, nothing if that is beyond
every double.  More places than any double has change nothing. -/
def roundTo (places : Int) (x : Float) : Option Float :=
  match Binary64.decode x with
  | none => some x
  | some d =>
    let places := max (-400) (min places 1100)
    let num := d.num * Nat.pow 10 places.toNat
    let den := d.den * Nat.pow 10 (-places).toNat
    let units := roundDiv num den
    let bits := Binary64.quotientBits (units * Nat.pow 10 (-places).toNat) (Nat.pow 10 places.toNat)
    if bits = Binary64.infinityBits then none else some (Binary64.ofMagnitude d.negative bits)

end GrowthGrammar.Decimal

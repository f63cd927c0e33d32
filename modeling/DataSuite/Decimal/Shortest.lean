import DataSuite.Decimal.Binary64

/-!
# The shortest text of a double

A finite double is written with the fewest digits that read back as the same
double, and of these with the digits nearest to its value.  The digits are found
on the coarsest decimal grid that has a point among the numbers which round to
the double.
-/

namespace DataSuite
namespace Decimal

/-- The numbers that round to a magnitude, in quarters of the least magnitude. -/
structure Neighbourhood where
  /-- The magnitude itself. -/
  centre : Nat
  /-- The lower end. -/
  least : Nat
  /-- The upper end. -/
  greatest : Nat
  /-- Whether the ends round to the magnitude too. -/
  closed : Bool

/-- The neighbourhood of a finite magnitude.  The gap below a power of two is half
the gap above it. -/
def neighbourhood (magnitude : Nat) : Neighbourhood :=
  let exponent := magnitude / Nat.pow 2 52
  let step := Nat.pow 2 (exponent - 1)
  let centre := 4 * Binary64.units magnitude
  let below := if magnitude % Nat.pow 2 52 = 0 && 1 < exponent then step else 2 * step
  ⟨centre, centre - below, centre + 2 * step, magnitude % 2 == 0⟩

/-- Whether a quotient lies in a neighbourhood. -/
def Neighbourhood.contains (around : Neighbourhood) (numerator denominator : Nat) : Bool :=
  if around.closed then
    around.least * denominator ≤ numerator && numerator ≤ around.greatest * denominator
  else
    around.least * denominator < numerator && numerator < around.greatest * denominator

/-- The point nearest to the centre on the grid of multiples of a power of ten, if one
lies in the neighbourhood. -/
def Neighbourhood.gridPoint? (around : Neighbourhood) (exponent : Int) : Option Nat :=
  let quarters := 4 * Binary64.unitsInOne
  let width := if 0 ≤ exponent then quarters * Nat.pow 10 exponent.toNat else quarters
  let scale := if 0 ≤ exponent then 1 else Nat.pow 10 (-exponent).toNat
  let lower := around.centre * scale / width
  let lowerIn := 0 < lower && around.contains (lower * width) scale
  let upperIn := around.contains ((lower + 1) * width) scale
  let rest := 2 * (around.centre * scale % width)
  if lowerIn && upperIn then
    some (if rest < width || (rest == width && lower % 2 == 0) then lower else lower + 1)
  else if lowerIn then some lower
  else if upperIn then some (lower + 1)
  else none

/-- The first of a number of ever finer grids that has a point in the neighbourhood, with
that point. -/
def Neighbourhood.search (around : Neighbourhood) : Nat → Int → Nat × Int
  | 0, exponent => (0, exponent)
  | grids + 1, exponent =>
      match around.gridPoint? exponent with
      | some point => (point, exponent)
      | none => around.search grids (exponent - 1)

/-- Coefficient and power of ten of the shortest decimal number that rounds to a finite
magnitude other than zero. -/
def shortest (magnitude : Nat) : Nat × Int :=
  let order := ((Nat.log2 (Binary64.units magnitude) : Int) - 1074) * 30103 / 100000
  (neighbourhood magnitude).search 24 (order + 2)

/-- Where positional notation ends: the least and the greatest power of ten of a first
digit that is still written without an exponent. -/
structure PositionalRange where
  /-- The least power written positionally. -/
  least : Int
  /-- The greatest power written positionally. -/
  greatest : Int

/-- A row of zeros. -/
def zeros (count : Int) : List Char :=
  List.replicate count.toNat '0'

/-- A coefficient times a power of ten in positional notation, with at least one digit on
each side of the point. -/
def positional (digits : List Char) (exponent : Int) : List Char :=
  let point := digits.length + exponent
  if 0 ≤ exponent then digits ++ zeros exponent ++ ['.', '0']
  else if 0 < point then digits.take point.toNat ++ '.' :: digits.drop point.toNat
  else '0' :: '.' :: zeros (-point) ++ digits

/-- A coefficient with the point behind its first digit, and the power of ten of that digit
with its sign. -/
def withExponent (digits : List Char) (power : Int) : List Char :=
  let mantissa :=
    match digits with
    | first :: second :: rest => first :: '.' :: second :: rest
    | short => short
  mantissa ++ 'e' :: (if power < 0 then '-' else '+') :: Nat.toDigits 10 power.natAbs

/-- The text of a finite magnitude. -/
def magnitudeText (form : PositionalRange) (magnitude : Nat) : List Char :=
  if magnitude = 0 then ['0', '.', '0']
  else
    let (coefficient, exponent) := shortest magnitude
    let digits := Nat.toDigits 10 coefficient
    let power := digits.length - 1 + exponent
    if form.least ≤ power && power ≤ form.greatest then positional digits exponent
    else withExponent digits power

/-- The text of a finite double. -/
def doubleText (form : PositionalRange) (number : Binary64) : String :=
  let text := magnitudeText form number.magnitude
  String.ofList (if number.negative then '-' :: text else text)

end Decimal
end DataSuite

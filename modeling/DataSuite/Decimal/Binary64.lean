/-!
# Double-precision numbers

A number in the binary interchange format of 64 bits is a sign and a magnitude of
63 bits.  The bits of a magnitude are ordered as the magnitudes are, so the order
of all numbers needs only one integer key.  Finite magnitudes are whole multiples
of the least one; every operation is computed exactly on these multiples and then
rounded to the nearest magnitude, ties to even.
-/

namespace DataSuite

/-- A double-precision number: its sign and the bits of its magnitude. -/
structure Binary64 where
  /-- Whether the sign is minus. -/
  negative : Bool
  /-- The bits below the sign. -/
  magnitude : Nat
  magnitude_lt : magnitude < Nat.pow 2 63
deriving DecidableEq

namespace Binary64

/-- The magnitude of infinity; greater magnitudes are not numbers. -/
def infinity : Nat :=
  2047 * Nat.pow 2 52

/-- The magnitude of the value that is not a number. -/
def undefinedMagnitude : Nat :=
  infinity + Nat.pow 2 51

/-- A number from its sign and the low bits of its magnitude. -/
def ofMagnitude (negative : Bool) (magnitude : Nat) : Binary64 :=
  ⟨negative, magnitude % Nat.pow 2 63, Nat.mod_lt _ (by decide)⟩

@[simp] theorem negative_ofMagnitude (negative : Bool) (magnitude : Nat) :
    (ofMagnitude negative magnitude).negative = negative := rfl

/-- Whether a number is neither infinite nor undefined. -/
def isFinite (number : Binary64) : Bool :=
  number.magnitude < infinity

/-- Whether a number is undefined. -/
def isUndefined (number : Binary64) : Bool :=
  infinity < number.magnitude

/-- The key that orders all numbers: negative numbers by falling magnitude, then
the others by rising magnitude, so that minus zero stands right below zero. -/
def orderKey (number : Binary64) : Int :=
  if number.negative then -1 - (number.magnitude : Int) else number.magnitude

/-- Equality as numbers: the two zeros are equal and what is undefined equals
nothing. -/
def equal (left right : Binary64) : Bool :=
  !left.isUndefined && !right.isUndefined &&
    (left == right || (left.magnitude == 0 && right.magnitude == 0))

/-- A finite magnitude as a multiple of the least one. -/
def units (magnitude : Nat) : Nat :=
  let exponent := magnitude / Nat.pow 2 52
  let fraction := magnitude % Nat.pow 2 52
  if exponent = 0 then fraction else (Nat.pow 2 52 + fraction) * Nat.pow 2 (exponent - 1)

/-- How many of the least magnitude make one. -/
def unitsInOne : Nat :=
  Nat.pow 2 1074

/-- A quotient rounded to the nearest natural number, ties to even. -/
def roundedQuotient (numerator denominator : Nat) : Nat :=
  let quotient := numerator / denominator
  let twice := 2 * (numerator % denominator)
  if denominator < twice || (twice == denominator && quotient % 2 == 1) then quotient + 1
  else quotient

/-- The magnitude nearest to a quotient.  The quotient is expressed in units and cut
to 53 bits; the bits that are cut away are counted in the exponent. -/
def nearest (numerator denominator : Nat) : Nat :=
  let inUnits := numerator * unitsInOne
  let excess := Nat.log2 (inUnits / denominator) - 52
  min infinity (excess * Nat.pow 2 52 + roundedQuotient inUnits (denominator * Nat.pow 2 excess))

/-- The magnitude nearest to a power of ten. -/
def powerOfTen (exponent : Nat) : Nat :=
  nearest (Nat.pow 10 exponent) 1

/-- The magnitude nearest to the product of two finite magnitudes. -/
def product (left right : Nat) : Nat :=
  nearest (units left * units right) (unitsInOne * unitsInOne)

/-- The magnitude nearest to the quotient of two finite magnitudes. -/
def quotient (left right : Nat) : Nat :=
  nearest (units left) (units right)

/-- The double nearest to an integer. -/
def ofInt (number : Int) : Binary64 :=
  ofMagnitude (number < 0) (nearest number.natAbs 1)

end Binary64
end DataSuite

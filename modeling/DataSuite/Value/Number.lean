import DataSuite.Decimal.Shortest

/-!
# Numbers in values

A number is an integer or a finite double; `1` and `1.0` are different numbers that
agree.  Two integers within 64 signed bits are compared exactly, and every other
pair as doubles.
-/

namespace DataSuite

/-- An integer or a finite double. -/
inductive Number where
  /-- A number written without point and exponent. -/
  | integer (value : Int)
  /-- Any other number. -/
  | double (value : Binary64) (finite : value.isFinite = true)
deriving DecidableEq

namespace Number

/-- Doubles are written positionally from a hundred-thousandth up to sixteen digits. -/
def positions : Decimal.PositionalRange :=
  ⟨-5, 15⟩

/-- The text of a number. -/
def toText : Number → String
  | integer value => toString value
  | double value _ => Decimal.doubleText positions value

/-- The double nearest to a number. -/
def toDouble : Number → Binary64
  | integer value => Binary64.ofInt value
  | double value _ => value

/-- The integer that a number is, if it has 64 signed bits. -/
def word? : Number → Option Int
  | integer value =>
      if -(Nat.pow 2 63 : Int) ≤ value ∧ value < Nat.pow 2 63 then some value else none
  | double _ _ => none

/-- Whether two numbers agree. -/
def agree (left right : Number) : Bool :=
  match left.word?, right.word? with
  | some leftWord, some rightWord => leftWord == rightWord
  | _, _ => left.toDouble.equal right.toDouble

end Number
end DataSuite

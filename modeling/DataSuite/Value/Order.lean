import DataSuite.Decimal.Numeral
import DataSuite.Value.Text

/-!
# The order of values

Values are ordered by their kind, then by their numbers if both have one, then by whether
they are texts, then by their text.  A text that reads as a number counts as a number, so
that numbers and numeric texts are sorted together and stand before other texts.
-/

namespace DataSuite
namespace Value

/-- The double that a value denotes: a number itself, and a text that reads as one. -/
def numeric? : Value → Option Binary64
  | .number value => some value.toDouble
  | .text value => Decimal.numeric? value
  | _ => none

/-- The kinds of values in their order. -/
def rank : Value → Nat
  | .null => 0
  | .boolean _ => 1
  | .number _ => 2
  | .text value => if (Decimal.numeric? value).isSome then 2 else 3
  | .list _ => 4
  | .object _ => 5

/-- The order of the numbers of two values, of which one that has none decides nothing. -/
def compareNumbers : Option Binary64 → Option Binary64 → Ordering
  | some left, some right => Ord.compare left.orderKey right.orderKey
  | _, _ => .eq

/-- The order of two values. -/
def compare (left right : Value) : Ordering :=
  (Ord.compare left.rank right.rank).then <|
    (compareNumbers left.numeric? right.numeric?).then <|
      (Ord.compare left.isText right.isText).then <|
        Ord.compare left.plainText right.plainText

end Value
end DataSuite

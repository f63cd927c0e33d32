import DataSuite.Decimal.Numeral
import DataSuite.Mismatch
import DataSuite.Value.Agreement

/-!
# Differences between rows

Two lists of rows are compared row by row.  Literal rows agree when they have the same
columns, in any order, with values that agree.  Rows of a table agree when they have
the headers as their columns, in order, with the same texts or equal numbers.
-/

namespace DataSuite
namespace Row

/-- How a row differs from an expected one in one of the columns expected. -/
def cellDifference? (number : Nat) (actual : Row) (column : String) (expected : Value) :
    Option Difference :=
  match actual.get? column with
  | none => some (.missingColumn number column)
  | some value =>
      if value.agree expected then none
      else some (.cell number column expected.toText value.toText)

/-- How a row differs from an expected one: first in the columns expected, then in the other
columns. -/
def literalDifferences (number : Nat) (actual expected : Row) : List Difference :=
  expected.cells.filterMap (fun cell => cellDifference? number actual cell.1 cell.2) ++
    (actual.columns.filter fun column => !expected.has column).map (.extraColumn number)

/-- Whether two texts are the same or denote equal numbers. -/
def textsEqual (left right : String) : Bool :=
  left == right ||
    match Decimal.numeric? left, Decimal.numeric? right with
    | some leftNumber, some rightNumber => leftNumber.equal rightNumber
    | _, _ => false

/-- The text of a value in a table, or none where there is no value. -/
def cellTextOf (value : Option Value) : String :=
  value.elim "" Value.cellText

/-- How a row differs from an expected one in the text of a column. -/
def textDifference? (number : Nat) (actual : Row) (column : String) (expected : Value) :
    Option Difference :=
  let actualText := cellTextOf (actual.get? column)
  let expectedText := expected.cellText
  if textsEqual actualText expectedText then none
  else some (.cell number column (Text.quoted expectedText) (Text.quoted actualText))

/-- How a row differs from a row of a table: in its columns, or else in its texts. -/
def tableDifferences (headers : List String) (number : Nat) (actual expected : Row) :
    List Difference :=
  if actual.columns = headers then
    expected.cells.filterMap fun cell => textDifference? number actual cell.1 cell.2
  else [.columnOrder number headers actual.columns]

/-- The differences between rows of equal number, counted from a number on. -/
def differencesFrom (compare : Nat → Row → Row → List Difference) (number : Nat) :
    List Row → List Row → List Difference
  | actual :: actualRest, expected :: expectedRest =>
      compare number actual expected ++
        differencesFrom compare (number + 1) actualRest expectedRest
  | _, _ => []

/-- The differences between two lists of rows, or only their number where that differs. -/
def differences (compare : Nat → Row → Row → List Difference) (actual expected : List Row) :
    List Difference :=
  if actual.length = expected.length then differencesFrom compare 1 actual expected
  else [.rowCount expected.length actual.length]

/-- Whether rows have no differences. -/
def checkWith (compare : Nat → Row → Row → List Difference) (actual expected : List Row) :
    Except Mismatch Unit :=
  match differences compare actual expected with
  | [] => .ok ()
  | found => .error (.rows found expected actual)

/-- Whether rows agree with literal rows in their order. -/
def checkLiteral (actual expected : List Row) : Except Mismatch Unit :=
  checkWith literalDifferences actual expected

/-- Whether rows agree with the rows of a table in their order. -/
def checkTable (headers : List String) (actual expected : List Row) : Except Mismatch Unit :=
  checkWith (tableDifferences headers) actual expected

end Row
end DataSuite

import DataSuite.Mismatch
import DataSuite.Value.Order

/-!
# The order of rows

Rows are ordered by the values in some key columns and then by all their columns in the
order of names.  A row without a key column stands before those that have it.  Sorting
asks that each key column is in some row.
-/

namespace DataSuite
namespace Row

/-- The order of two values that may be absent. -/
def compareCells : Option Value → Option Value → Ordering
  | some left, some right => left.compare right
  | some _, none => .gt
  | none, some _ => .lt
  | none, none => .eq

/-- The order of two rows in some key columns. -/
def compareIn (left right : Row) : List String → Ordering
  | [] => .eq
  | key :: rest =>
      (compareCells (left.get? key) (right.get? key)).then (compareIn left right rest)

/-- The cells of a row in the order of their columns. -/
def sortedCells (row : Row) : List (String × Value) :=
  row.cells.mergeSort fun left right => (compare left.1 right.1).isLE

/-- The order of two lists of cells: by column, then by value, and a list that ends first
comes first. -/
def compareAll : List (String × Value) → List (String × Value) → Ordering
  | [], [] => .eq
  | [], _ :: _ => .lt
  | _ :: _, [] => .gt
  | (leftColumn, left) :: leftRest, (rightColumn, right) :: rightRest =>
      (compare leftColumn rightColumn).then <|
        (left.compare right).then (compareAll leftRest rightRest)

/-- The order of two rows by some key columns. -/
def compareBy (keys : List String) (left right : Row) : Ordering :=
  (compareIn left right keys).then (compareAll left.sortedCells right.sortedCells)

/-- The first key column that no row has. -/
def unknownKey? (keys : List String) (rows : List Row) : Option String :=
  keys.find? fun key => !rows.any (·.has key)

/-- Rows in the order of some key columns.  Each of them has to be in some row, unless there
are no rows. -/
def sortBy (keys : List String) (rows : List Row) : Except Mismatch (List Row) :=
  match rows, unknownKey? keys rows with
  | first :: _, some key => .error (.unknownColumn key first.columns)
  | _, _ => .ok (rows.mergeSort fun left right => (compareBy keys left right).isLE)

end Row
end DataSuite

import DataSuite.Mismatch

/-!
# The shape of rows

Rows are projected to some columns, freed from others, and turned into texts.
-/

namespace DataSuite
namespace Row

/-- The cells of a row in the given columns. -/
def cellsIn (row : Row) : List String → Except Mismatch (List (String × Value))
  | [] => .ok []
  | column :: rest =>
      match row.get? column with
      | none => .error (.unknownColumn column row.columns)
      | some value => (row.cellsIn rest).map ((column, value) :: ·)

/-- A row reduced to the given columns, in their order.  The row has to have them all. -/
def project (columns : List String) (row : Row) : Except Mismatch Row :=
  (row.cellsIn columns).map ofPairs

/-- Rows reduced to the given columns. -/
def projectAll (columns : List String) (rows : List Row) : Except Mismatch (List Row) :=
  rows.mapM (project columns)

/-- A row without some columns. -/
def exclude (without : List String) (row : Row) : Row :=
  row.keep fun column => !without.contains column

/-- A row with the text of each value as in a table. -/
def asText (row : Row) : Row :=
  row.mapValues fun value => .text value.cellText

end Row
end DataSuite

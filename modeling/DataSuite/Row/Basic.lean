import DataSuite.Value.Text

/-!
# Rows

A row gives each of its columns a value; its columns are distinct and stand in an
order.
-/

namespace DataSuite

/-- Distinct columns with their values. -/
structure Row where
  /-- The columns with their values in order. -/
  cells : Members
  /-- No column stands there twice. -/
  distinct : cells.names.Nodup

namespace Row

/-- The row of some pairs; a column that is repeated keeps its place and takes the later
value. -/
def ofPairs (pairs : List (String × Value)) : Row :=
  ⟨Members.ofPairs pairs, Members.nodup_names_ofPairs pairs⟩

/-- The columns of a row. -/
def columns (row : Row) : List String :=
  row.cells.names

/-- The value in a column. -/
def get? (row : Row) (column : String) : Option Value :=
  row.cells.get? column

/-- Whether a row has a column. -/
def has (row : Row) (column : String) : Bool :=
  (row.get? column).isSome

/-- The cells whose columns pass a test. -/
def keep (test : String → Bool) (row : Row) : Row where
  cells := row.cells.filter fun cell => test cell.1
  distinct := by
    have sublist :
        List.Sublist ((row.cells.filter fun cell => test cell.1).map Prod.fst)
          (row.cells.map Prod.fst) :=
      List.filter_sublist.map Prod.fst
    exact row.distinct.sublist sublist

/-- The row with each value changed. -/
def mapValues (change : Value → Value) (row : Row) : Row where
  cells := row.cells.map fun cell => (cell.1, change cell.2)
  distinct := by
    have distinct := row.distinct
    simpa [Members.names, Function.comp_def] using distinct

/-- The row as a value. -/
def toValue (row : Row) : Value :=
  .object row.cells

/-- The text of rows. -/
def textOf (rows : List Row) : String :=
  (Value.list (rows.map toValue)).toText

@[simp] theorem columns_mapValues (change : Value → Value) (row : Row) :
    (row.mapValues change).columns = row.columns := by
  simp [columns, mapValues, Members.names, Function.comp_def]

end Row
end DataSuite

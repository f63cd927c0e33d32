import DataSuite.Fault

/-!
# Expectations

An expectation says of one result that it has no rows, that it equals literal rows or
the table in a file, or that a plan never reads a whole table.  Before the comparison
rows may be reduced to some columns, freed from others and sorted.
-/

namespace DataSuite

/-- What rows are compared with. -/
inductive Expected where
  | rows (rows : List Row)
  | table (path : String)

/-- What rows are compared with and how they are prepared. -/
structure Comparison where
  /-- What they are compared with. -/
  equalTo : Expected
  /-- The columns to which they are reduced. -/
  columns : Option (List String)
  /-- The columns from which they are freed. -/
  without : Option (List String)
  /-- The columns by which both sides are sorted. -/
  orderBy : Option (List String)

/-- What is expected of one result. -/
inductive Expectation where
  /-- There are no rows. -/
  | nothing
  /-- The rows equal the table in a file. -/
  | table (path : String)
  /-- The plan never reads a whole table. -/
  | noFullScan (table : String)
  /-- The rows compare as told. -/
  | comparison (comparison : Comparison)

namespace Expectation

/-- The path of a text that refers to a table, which may begin with an at sign. -/
def tablePath? (base : Option String) (text : String) : Option String :=
  let path := Text.trim ((Text.afterPrefix? "@" text).getD text)
  if Path.extension path = "csv" then some (Path.resolve base path) else none

/-- The row that a value describes. -/
def row (value : Value) : Except CaseFault Row :=
  match value with
  | .object members => .ok (Row.ofPairs members)
  | _ => .error (.notRow value)

/-- What a value gives to compare with. -/
def expected (base : Option String) (value : Value) : Except CaseFault Expected :=
  match value with
  | .list items => (items.mapM row).map .rows
  | .text text =>
      match tablePath? base text with
      | some path => .ok (.table path)
      | none => .error (.notRowsOrTable value)
  | _ => .error (.notRowsOrTable value)

/-- The column that a value names. -/
def column (key : String) (value : Value) : Except CaseFault String :=
  match value with
  | .text text => .ok (Text.trim text)
  | _ => .error (.notColumn key value)

/-- The columns that a value names: one or a list of them, or none where it is absent. -/
def columns (key : String) (value : Option Value) : Except CaseFault (Option (List String)) :=
  match value with
  | none => .ok none
  | some .null => .ok none
  | some (.text text) => .ok (some [Text.trim text])
  | some (.list items) => (items.mapM (column key)).map some
  | some other => .error (.notColumns key other)

/-- The expectation about full scans that a value describes. -/
def fullScan (value : Value) : Except CaseFault Expectation :=
  match value with
  | .text text =>
      let table := Text.trim text
      if table = "" then .error (.noTableName value) else .ok (.noFullScan table)
  | _ => .error (.noTableName value)

/-- The expectation that members describe which say what to compare with. -/
def comparing (base : Option String) (members : Members) (equalTo : Value) :
    Except CaseFault Expectation := do
  let equalTo ← expected base equalTo
  let shown ← columns "columns" (members.get? "columns")
  let without ← columns "without" (members.get? "without")
  let orderBy ← columns "orderBy" (members.get? "orderBy")
  return .comparison ⟨equalTo, shown, without, orderBy⟩

/-- The expectation that a value describes. -/
def ofValue (base : Option String) (value : Value) : Except CaseFault Expectation :=
  match value with
  | .null => .ok .nothing
  | .text text =>
      match tablePath? base text with
      | some path => .ok (.table path)
      | none => .error (.notTable value)
  | .object [] => .ok .nothing
  | .object members =>
      match Members.get? members "noFullscan" with
      | some hint => fullScan hint
      | none =>
          match Members.get? members "equalTo" with
          | some equalTo => comparing base members equalTo
          | none => .error (.noEqualTo value)
  | _ => .error (.notExpectation value)

/-- Whether an expectation can only hold of a step that yields rows. -/
def demandsRows : Expectation → Bool
  | nothing => false
  | table _ => true
  | noFullScan _ => true
  | comparison wanted =>
      match wanted.equalTo with
      | .rows expected => !expected.isEmpty
      | .table _ => true

/-- A comparison demands no rows if and only if it is one with no rows. -/
theorem demandsRows_comparison_eq_false_iff
    {wanted : Comparison} :
    (comparison wanted).demandsRows = false ↔ wanted.equalTo = .rows [] := by
  cases compared : wanted.equalTo <;> simp [demandsRows, compared]

end Expectation
end DataSuite

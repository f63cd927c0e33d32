import DataSuite.Expectation
import DataSuite.Failure
import DataSuite.ResultSet
import DataSuite.Row.Difference
import DataSuite.Row.Order
import DataSuite.Row.Shape

/-!
# Verification

A result is held against an expectation.  Rows are reshaped first; if they are to be
sorted, both sides are sorted before they are compared place by place.
-/

namespace DataSuite

/-- Rows reduced to some columns and then freed from others. -/
def Comparison.reshape (comparison : Comparison) (rows : List Row) :
    Except Mismatch (List Row) :=
  let projected :=
    match comparison.columns with
    | some columns => Row.projectAll columns rows
    | none => .ok rows
  projected.map fun rows =>
    match comparison.without with
    | some without => rows.map (Row.exclude without)
    | none => rows

/-- Rows in the order of some key columns, if there are any. -/
def sortedBy (keys : Option (List String)) (rows : List Row) : Except Mismatch (List Row) :=
  match keys with
  | some keys => Row.sortBy keys rows
  | none => .ok rows

/-- Whether rows agree with literal rows after both are sorted. -/
def checkRows (keys : Option (List String)) (actual expected : List Row) :
    Except Mismatch Unit := do
  let actual ← sortedBy keys actual
  let expected ← sortedBy keys expected
  Row.checkLiteral actual expected

/-- The rows of a table. -/
def Csv.Table.toRows (table : Csv.Table) : List Row :=
  table.rows.map fun cells => Row.ofPairs (table.headers.zip (cells.map Value.text))

/-- Whether rows agree with a table after both are sorted. -/
def checkTable (keys : Option (List String)) (actual : List Row) (table : Csv.Table) :
    Except Mismatch Unit := do
  let actual ← sortedBy keys (actual.map Row.asText)
  let expected ← sortedBy keys table.toRows
  Row.checkTable table.headers actual expected

/-- Whether a plan never reads a whole table. -/
def checkNoFullScan (plan : Plan) (table : String) : Except Mismatch Unit :=
  match plan.filter (PlanStep.scans table) with
  | [] => .ok ()
  | scans => .error (.fullScan table (scans.map PlanStep.detail) (plan.map PlanStep.detail))

/-- The table in a file. -/
def loadTable (files : FileTree) (path : String) : Except Failure Csv.Table :=
  match files.read path with
  | .error cause => .error (.file path cause)
  | .ok bytes => (Csv.Table.ofBytes bytes).mapError fun fault => .content path (.table fault)

/-- Whether a result is as a comparison tells. -/
def Comparison.verify (files : FileTree) (comparison : Comparison) (rows : List Row) :
    Except Failure Unit := do
  let rows ← (comparison.reshape rows).mapError .assertion
  match comparison.equalTo with
  | .rows expected => (checkRows comparison.orderBy rows expected).mapError .assertion
  | .table path =>
      let table ← loadTable files path
      (checkTable comparison.orderBy rows table).mapError .assertion

/-- Whether a result is as expected, where its place is not empty or no rows are demanded. -/
def Expectation.judge (files : FileTree) (actual : ResultSet) :
    Expectation → Except Failure Unit
  | .nothing =>
      if actual.isEmpty then .ok () else .error (.assertion (.notEmpty actual.toRows))
  | .noFullScan name =>
      match actual with
      | .plan steps => (checkNoFullScan steps name).mapError .assertion
      | _ => .error (.ofCase (.planNeeded name))
  | .table path => do
      let wanted ← loadTable files path
      (checkTable none actual.toRows wanted).mapError .assertion
  | .comparison wanted => wanted.verify files actual.toRows

/-- Whether a result is as expected. -/
def Expectation.verify (files : FileTree) (actual : ResultSet) (expectation : Expectation) :
    Except Failure Unit :=
  match actual with
  | .empty =>
      if expectation.demandsRows then .error (.ofCase .emptySlot)
      else expectation.judge files .empty
  | _ => expectation.judge files actual

end DataSuite

import DataSuite.Path
import DataSuite.Text.Blank
import DataSuite.Value.Text

/-!
# Directives

A directive is one step of a suite: a query or a plan, written out or kept in a file, or
the load of a file into a table.  A reference to a file begins with an at sign; its path
is resolved against a base.
-/

namespace DataSuite

/-- One step of a suite. -/
inductive Directive where
  /-- A query that is written out. -/
  | inlineQuery (text : String)
  /-- The queries in a file. -/
  | fileQuery (path : String)
  /-- The load of a file into a table. -/
  | fileLoad (path table : String)
  /-- The plan of a query that is written out. -/
  | inlinePlan (text : String)
  /-- The plans of the queries in a file. -/
  | filePlan (path : String)
deriving DecidableEq

/-- Why a value is no directive. -/
inductive DirectiveFault where
  /-- The value has another shape. -/
  | shape (value : Value)
  /-- The file cannot be used in this way. -/
  | reference (text : String)
  /-- A file of queries cannot be loaded into a table. -/
  | queriesIntoTable (text : String)

/-- The description of a fault. -/
def DirectiveFault.message : DirectiveFault → String
  | .shape value => value.toText
  | .reference text => text
  | .queriesIntoTable text => text ++ " (a query file cannot be loaded into a table)"

namespace Directive

/-- What stands between the file and the table of a load. -/
def into : String :=
  " into "

/-- The directive of a text that refers to a file; the part behind its at sign is given
too. -/
def ofReference (base : Option String) (text reference : String) :
    Except DirectiveFault Directive :=
  match Text.cut? into reference with
  | some (target, table) =>
      let path := Text.trim target
      let table := Text.trim table
      let extension := Path.extension path
      if extension = "csv" ∧ table ≠ "" then .ok (.fileLoad (Path.resolve base path) table)
      else if extension = "sql" then .error (.queriesIntoTable text)
      else .error (.reference text)
  | none =>
      let path := Text.trim reference
      if Path.extension path = "sql" then .ok (.fileQuery (Path.resolve base path))
      else .error (.reference text)

/-- The directive of a text. -/
def ofText (base : Option String) (text : String) : Except DirectiveFault Directive :=
  match Text.afterPrefix? "@" text with
  | none => .ok (.inlineQuery text)
  | some reference => ofReference base text reference

/-- The directive of a plan. -/
def ofPlan (base : Option String) (plan : String) : Directive :=
  match Text.afterPrefix? "@" plan with
  | none => .inlinePlan plan
  | some file => .filePlan (Path.resolve base (Text.trim file))

/-- The directive that a value describes. -/
def ofValue (base : Option String) (value : Value) : Except DirectiveFault Directive :=
  match value with
  | .text text => ofText base text
  | .object members =>
      match Members.get? members "plan" with
      | some (.text plan) => .ok (ofPlan base plan)
      | _ => .error (.shape value)
  | _ => .error (.shape value)

/-- A directive in one line, as it is shown. -/
def display : Directive → String
  | inlineQuery text => Text.joined " " (Text.words text)
  | fileQuery path => "@" ++ path
  | fileLoad path table => "@" ++ path ++ into ++ table
  | inlinePlan text => "plan: " ++ Text.trim text
  | filePlan path => "plan: @" ++ path

/-- Whether a directive always has exactly one result, where a load has the empty one. -/
def hasOneResult : Directive → Bool
  | fileQuery _ => false
  | filePlan _ => false
  | _ => true

/-- Whether a directive loads a file into a table. -/
def isLoad : Directive → Bool
  | fileLoad _ _ => true
  | _ => false

theorem isLoad_iff
    {directive : Directive} :
    directive.isLoad = true ↔ ∃ path table, directive = .fileLoad path table := by
  cases directive <;> simp [isLoad]

end Directive
end DataSuite

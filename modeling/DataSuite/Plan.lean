import DataSuite.Row.Basic
import DataSuite.Text.Blank

/-!
# Query plans

A plan is a list of steps, each described by a line of words.  The first word tells how a
step reads its table; a step that scans reads all of the table, or all of the index, that
it names.
-/

namespace DataSuite

/-- How a step of a plan reads. -/
inductive Access where
  /-- It reads every row of a table or every entry of an index. -/
  | fullScan
  /-- It looks rows up. -/
  | search
  /-- It does something else. -/
  | other
deriving DecidableEq

/-- The name of an access. -/
def Access.name : Access → String
  | fullScan => "fullscan"
  | search => "search"
  | other => "other"

/-- A step of a plan. -/
structure PlanStep where
  id : Int
  /-- The number of the step around it. -/
  parent : Int
  /-- The line that describes it. -/
  detail : String
  /-- How it reads. -/
  access : Access
  /-- The table that it names. -/
  table : Option String
  /-- The index that it names. -/
  index : Option String
deriving DecidableEq

/-- The steps of a plan. -/
abbrev Plan :=
  List PlanStep

namespace PlanStep

/-- How a step reads, told from its words. -/
def accessOf : List String → Access
  | [] => .other
  | first :: _ =>
      if Text.equalIgnoringCase first "SCAN" then .fullScan
      else if Text.equalIgnoringCase first "SEARCH" then .search
      else .other

/-- The table of a step that reads: the first word behind the first one that is not just the
word for a table. -/
def tableOf (words : List String) : Option String :=
  match accessOf words with
  | .other => none
  | _ => (words.drop 1).find? fun word => !Text.equalIgnoringCase word "TABLE"

/-- The word behind the first word for an index. -/
def indexOf : List String → Option String
  | [] => none
  | word :: rest => if Text.equalIgnoringCase word "INDEX" then rest.head? else indexOf rest

/-- The step that a line describes. -/
def ofDetail (id parent : Int) (detail : String) : PlanStep :=
  let words := Text.words detail
  { id := id
    parent := parent
    detail := detail
    access := accessOf words
    table := tableOf words
    index := indexOf words }

/-- Whether a name is the given one without the blanks around it, ignoring case. -/
def isNamed (hint : String) (name : Option String) : Bool :=
  name.any fun name => Text.equalIgnoringCase name (Text.trim hint)

/-- Whether a step reads the whole of a table or index. -/
def scans (hint : String) (step : PlanStep) : Bool :=
  step.access == .fullScan && (isNamed hint step.table || isNamed hint step.index)

/-- A step as a row. -/
def toRow (step : PlanStep) : Row :=
  .ofPairs
    [ ("id", .number (.integer step.id)),
      ("parent", .number (.integer step.parent)),
      ("detail", .text step.detail) ]

end PlanStep
end DataSuite

import DataSuite.Directive
import DataSuite.Mismatch
import DataSuite.Phase

/-!
# Faults in suites

A fault is found in what a suite says, before a backend is asked.  A fault in a test case
belongs to that case; a fault in the suite itself refuses the suite.
-/

namespace DataSuite

/-- The kind of a value and the value itself if it is a scalar. -/
def Value.kind : Value → String
  | .null => "null"
  | .boolean value => if value then "boolean `true`" else "boolean `false`"
  | .number (.integer value) => "integer `" ++ toString value ++ "`"
  | .number (.double value finite) =>
      "floating point `" ++ (Number.double value finite).toText ++ "`"
  | .text value => "string " ++ Text.quoted value
  | .list _ => "sequence"
  | .object _ => "map"

/-- What is wrong with a test case. -/
inductive CaseFault where
  /-- The value is neither a list nor an object. -/
  | notCase (value : Value)
  /-- The title is neither a text nor an object of texts. -/
  | title
  | tooShort (length : Nat)
  | tooLong (length : Nat)
  /-- Nothing is executed. -/
  | noAct
  /-- A text is no reference to a table. -/
  | notTable (value : Value)
  | noTableName (value : Value)
  | noEqualTo (value : Value)
  /-- An expected row is no object. -/
  | notRow (value : Value)
  /-- There are neither rows nor a table to compare with. -/
  | notRowsOrTable (value : Value)
  /-- An element of a list of columns is no text. -/
  | notColumn (key : String) (value : Value)
  /-- There is no list of columns. -/
  | notColumns (key : String) (value : Value)
  /-- The value is no expectation. -/
  | notExpectation (value : Value)
  /-- Rows are expected of a step without results. -/
  | emptySlot
  /-- Rows are expected of the loads at some places. -/
  | rowsAfterLoad (places : List Nat)
  /-- Only a plan can be checked for full scans of a table. -/
  | planNeeded (table : String)

/-- The description of a fault. -/
def CaseFault.message (language : Language) : CaseFault → String
  | notCase value => "invalid type: " ++ value.kind ++ ", expected struct RawTest"
  | title => "data did not match any variant of untagged enum Title"
  | tooShort length =>
      "invalid length " ++ toString length ++ ", expected struct RawTest with 4 elements"
  | tooLong length =>
      "invalid length " ++ toString length ++ ", expected fewer elements in array"
  | noAct => "act is required"
  | notTable value => "expected a .csv reference, got " ++ value.toText
  | noTableName value => "noFullscan needs a table name, got " ++ value.toText
  | noEqualTo value => "missing equalTo in " ++ value.toText
  | notRow value => "equalTo rows must be objects, got " ++ value.toText
  | notRowsOrTable value =>
      "equalTo must be a record list or a .csv file, got " ++ value.toText
  | notColumn key value => key ++ " entries must be column names, got " ++ value.toText
  | notColumns key value => key ++ " must be a list of column names, got " ++ value.toText
  | notExpectation value => "unsupported expectation " ++ value.toText
  | emptySlot => Message.emptySlot.text language
  | rowsAfterLoad places =>
      (Message.rowsAfterLoad (Text.joined ", " (places.map toString))).text language
  | planNeeded table => (Message.planNeeded table).text language

/-- What is wrong with a suite. -/
inductive SuiteFault where
  /-- The value is neither a list of tests nor an object. -/
  | notSuite (value : Value)
  | testsNotList (value : Value)
  /-- An operation does not fit the phase of the run. -/
  | wrongPhase (expected actual : Phase)

/-- The description of a fault. -/
def SuiteFault.message (language : Language) : SuiteFault → String
  | notSuite value =>
      "expected a list of tests or a suite mapping, got " ++ value.toText
  | testsNotList value => "invalid type: " ++ value.kind ++ ", expected a sequence"
  | wrongPhase expected actual =>
      (Message.wrongPhase expected.name actual.name).text language

/-- What is wrong with a specification. -/
inductive Fault where
  /-- A file has no known format. -/
  | format (path : String)
  /-- A value is no directive. -/
  | execution (fault : DirectiveFault)
  /-- A test case is malformed. -/
  | testCase (fault : CaseFault)
  /-- A suite is malformed. -/
  | suite (fault : SuiteFault)

/-- The description of a fault behind that of its kind. -/
def Fault.message (language : Language) : Fault → String
  | format path => "unsupported file format: " ++ path
  | execution fault => "unsupported execution: " ++ fault.message
  | testCase fault => "invalid testcase: " ++ fault.message language
  | suite fault => "invalid suite: " ++ fault.message language

end DataSuite

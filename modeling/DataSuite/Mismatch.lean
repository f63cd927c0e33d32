import DataSuite.Catalogue.Message
import DataSuite.Row.Basic

/-!
# Mismatches

A mismatch tells why a result is not as expected.  Where rows are compared it holds every
difference; a report lists the first twenty and counts the others.
-/

namespace DataSuite

/-- A place in which two lists of rows differ.  Rows are counted from one. -/
inductive Difference where
  | rowCount (expected actual : Nat)
  /-- The text of a cell. -/
  | cell (row : Nat) (column expected actual : String)
  /-- A column that is not there. -/
  | missingColumn (row : Nat) (column : String)
  /-- A column that should not be there. -/
  | extraColumn (row : Nat) (column : String)
  /-- The columns or their order. -/
  | columnOrder (row : Nat) (expected actual : List String)
deriving DecidableEq

/-- The message that reports a difference. -/
def Difference.message : Difference → Message
  | .rowCount expected actual => .rowCount expected actual
  | .cell row column expected actual => .cell row column expected actual
  | .missingColumn row column => .missingColumn row column
  | .extraColumn row column => .extraColumn row column
  | .columnOrder row expected actual =>
      .columnOrder row (Text.joined ", " expected) (Text.joined ", " actual)

/-- Why a result is not as expected. -/
inductive Mismatch where
  | unknownColumn (column : String) (available : List String)
  /-- The rows differ. -/
  | rows (differences : List Difference) (expected actual : List Row)
  /-- There are rows where none are expected. -/
  | notEmpty (actual : List Row)
  /-- A plan reads a whole table in some of its steps. -/
  | fullScan (table : String) (scans steps : List String)

namespace Mismatch

/-- The greatest number of differences that are listed. -/
def listed : Nat :=
  20

/-- The lines that report differences. -/
def lines (language : Language) (differences : List Difference) : List String :=
  let first := (differences.take listed).map fun difference => difference.message.text language
  if listed < differences.length then
    first ++ [(Message.moreDifferences (differences.length - listed)).text language]
  else first

/-- The message that reports a mismatch. -/
def message (language : Language) : Mismatch → String
  | unknownColumn column available =>
      (Message.unknownColumn column (Text.joined ", " available)).text language
  | rows differences _ _ => Text.joined "\n" (lines language differences)
  | notEmpty _ => Message.rowsUnexpected.text language
  | fullScan table scans _ => (Message.fullScan table (Text.joined "; " scans)).text language

/-- What was expected and what was found, where both can be shown. -/
def sides? (language : Language) : Mismatch → Option (String × String)
  | unknownColumn _ _ => none
  | rows _ expected actual => some (Row.textOf expected, Row.textOf actual)
  | notEmpty actual => some ("[]", Row.textOf actual)
  | fullScan table _ steps =>
      some ((Message.noFullScan table).text language, Text.joined "; " steps)

/-- The message with what was expected and what was found below it. -/
def display (language : Language) (mismatch : Mismatch) : String :=
  match mismatch.sides? language with
  | none => mismatch.message language
  | some (expected, actual) =>
      mismatch.message language ++ "\n  expected: " ++ expected ++ "\n  actual:   " ++ actual

end Mismatch
end DataSuite

import DataSuite.Csv.Table
import DataSuite.Fault
import DataSuite.FileTree

/-!
# Failures

Whatever can go wrong is one of five things: a fault in a specification, a step that the
backend refuses, a result that is not as expected, a file that cannot be read, and a file
that cannot be understood.
-/

namespace DataSuite

/-- A step that a backend can refuse. -/
inductive Step where
  | directive (directive : Directive)
  /-- Connecting to the backend. -/
  | connect
  /-- Giving the connection back. -/
  | release
deriving DecidableEq

/-- The name of a step. -/
def Step.display (language : Language) : Step → String
  | directive executed => executed.display
  | connect => Message.connecting.text language
  | release => Message.releasing.text language

/-- Why a file cannot be understood. -/
inductive Unreadable where
  /-- It is no document. -/
  | document
  /-- It is no table. -/
  | table (fault : Csv.Fault)
deriving DecidableEq

/-- The description of a file that cannot be understood. -/
def Unreadable.message : Unreadable → String
  | document => "malformed document"
  | table fault => fault.message

/-- What has gone wrong. -/
inductive Failure where
  /-- A fault in a specification. -/
  | specification (fault : Fault)
  /-- A step that was refused, with the causes, the outermost first. -/
  | execution (step : Step) (causes : List String)
  /-- A result that is not as expected. -/
  | assertion (mismatch : Mismatch)
  /-- A file that cannot be read. -/
  | file (path : String) (cause : ReadFailure)
  /-- A file that cannot be understood. -/
  | content (path : String) (cause : Unreadable)

/-- The kinds of failures. -/
inductive FailureKind where
  /-- What was asked for makes no sense. -/
  | specification
  /-- The backend has refused a step. -/
  | execution
  /-- A result is not as expected. -/
  | assertion
deriving DecidableEq

namespace Failure

/-- The kind of a failure. -/
def kind : Failure → FailureKind
  | specification _ => .specification
  | execution _ _ => .execution
  | assertion _ => .assertion
  | file _ _ => .specification
  | content _ _ => .specification

/-- The causes of a refused step in one line. -/
def chain (causes : List String) : String :=
  Text.joined ": " causes

/-- The description of a failure. -/
def display (language : Language) : Failure → String
  | specification fault => fault.message language
  | execution step causes => step.display language ++ " failed: " ++ chain causes
  | assertion mismatch => mismatch.display language
  | file path cause => "cannot read " ++ path ++ ": " ++ cause.message
  | content path cause => "cannot parse " ++ path ++ ": " ++ cause.message

/-- The failure of a malformed test case. -/
def ofCase (fault : CaseFault) : Failure :=
  .specification (.testCase fault)

end Failure
end DataSuite

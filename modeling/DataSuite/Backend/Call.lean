import DataSuite.Plan
import DataSuite.Process

/-!
# Calls of a backend

A backend executes queries, explains them, and loads files into tables.  Each call has
its own kind of answer; it may also be refused with a chain of causes.
-/

namespace DataSuite

/-- A call of a backend. -/
inductive Call where
  | query (text : String)
  | queryFile (path : String)
  /-- Load a file into a table. -/
  | load (path table : String)
  /-- Explain a query. -/
  | plan (text : String)
  /-- Explain the queries in a file. -/
  | planFile (path : String)
deriving DecidableEq

namespace Call

/-- A call in one line. -/
def line : Call → String
  | query text => "query " ++ text
  | queryFile path => "query_from_file " ++ path
  | load path table => "load_from_csv " ++ path ++ " " ++ table
  | plan text => "query_plan " ++ text
  | planFile path => "query_plan_from_file " ++ path

/-- What a call is answered with: rows or a plan, or one of them for each query in a file. -/
def Answer : Call → Type
  | query _ => List Row
  | queryFile _ => List (List Row)
  | load _ _ => Unit
  | plan _ => Plan
  | planFile _ => List Plan

/-- The reply to a call: an answer, or the causes of a refusal with the outermost first. -/
abbrev Reply (call : Call) : Type :=
  Except (List String) call.Answer

end Call

/-- A process that calls a backend. -/
abbrev Calls (α : Type) :=
  Process Call Call.Reply α

/-- A backend in its states. -/
abbrev Backend (σ : Type) :=
  Answerer Call Call.Reply σ

end DataSuite

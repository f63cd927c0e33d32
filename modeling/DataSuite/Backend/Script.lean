import DataSuite.Backend.Call

/-!
# Scripted backends

A script lists the answers of a backend.  Its answer to a call depends on nothing but
the call; what is not listed has no rows, no batches or an empty plan.
-/

namespace DataSuite

/-- The answers of a backend. -/
structure Script where
  /-- The rows of queries. -/
  rows : List (String × List Row)
  /-- The rows of the queries in files. -/
  files : List (String × List (List Row))
  /-- The plans of queries. -/
  plans : List (String × Plan)
  /-- The plans of the queries in files. -/
  planFiles : List (String × List Plan)
  /-- The causes with which calls are refused. -/
  refused : List (String × List String)

namespace Script

/-- The answer to a call that is not refused. -/
def accept (script : Script) : (call : Call) → call.Answer
  | .query text => (script.rows.lookup text).getD []
  | .queryFile path => (script.files.lookup path).getD []
  | .load _ _ => ()
  | .plan text => (script.plans.lookup text).getD []
  | .planFile path => (script.planFiles.lookup path).getD []

/-- The reply to a call. -/
def reply (script : Script) (call : Call) : call.Reply :=
  match script.refused.lookup call.line with
  | some causes => .error causes
  | none => .ok (script.accept call)

/-- The backend that answers from a script and has no state. -/
def backend (script : Script) : Backend Unit :=
  fun call state => (script.reply call, state)

end Script
end DataSuite

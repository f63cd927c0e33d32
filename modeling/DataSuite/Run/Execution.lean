import DataSuite.Backend.Call
import DataSuite.Failure
import DataSuite.ResultSet

/-!
# Executing directives

A directive is executed by one call, which its kind names and which has its own text, path
and table.  A query or plan that is written out has one result, a file one for each query
in it, and a load none.
-/

namespace DataSuite

/-- The call that executes a directive. -/
def Directive.call : Directive → Call
  | inlineQuery text => .query text
  | fileQuery path => .queryFile path
  | fileLoad path table => .load path table
  | inlinePlan text => .plan text
  | filePlan path => .planFile path

/-- The results that an answer to a call holds. -/
def Call.results : (call : Call) → call.Answer → List ResultSet
  | query _, rows => [.rows rows]
  | queryFile _, batches => batches.map .rows
  | load _ _, _ => []
  | plan _, steps => [.plan steps]
  | planFile _, batches => batches.map .plan

namespace Directive

/-- The results of a directive, or the refusal of its call. -/
def resultsOf (directive : Directive) (reply : directive.call.Reply) :
    Except Failure (List ResultSet) :=
  match reply with
  | .error causes => .error (.execution (.directive directive) causes)
  | .ok answer => .ok (directive.call.results answer)

/-- Execute a directive. -/
def execute (language : Language) (directive : Directive) :
    Calls (Except Failure (List ResultSet)) := do
  Process.say .debug ((Message.executing directive.display).text language)
  let reply ← Process.request directive.call
  match directive.resultsOf reply with
  | .error failure => return .error failure
  | .ok results => do
      Process.say .debug ((Message.executed results.length).text language)
      return .ok results

/-- Execute directives up to the first one that is refused. -/
def executeAll (language : Language) : List Directive → Calls (Except Failure Unit)
  | [] => return .ok ()
  | directive :: rest => do
      match ← directive.execute language with
      | .error failure => return .error failure
      | .ok _ => executeAll language rest

/-- The places that the results of a directive take: at least one, which stays empty where
there is no result. -/
def places (results : List ResultSet) : List ResultSet :=
  if results.isEmpty then [.empty] else results

/-- Execute directives up to the first one that is refused, and collect their results. -/
def collectAll (language : Language) :
    List Directive → Calls (Except Failure (List ResultSet))
  | [] => return .ok []
  | directive :: rest => do
      match ← directive.execute language with
      | .error failure => return .error failure
      | .ok results => do
          match ← collectAll language rest with
          | .error failure => return .error failure
          | .ok later => return .ok (places results ++ later)

end Directive
end DataSuite

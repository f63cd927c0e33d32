import DataSuite.Run.Execution
import DataSuite.Run.Settings
import DataSuite.Suite.Check
import DataSuite.Verification

/-!
# Running a case

A case that is malformed, or in which rows are expected of a load, is not executed at all.
Any other case arranges, acts and then holds each result against its expectation; whatever
fails is collected.
-/

namespace DataSuite

namespace Steps

/-- The failures of results that are held against expectations, where the places are counted
on from a number. -/
def failuresFrom (language : Language) (files : FileTree) (place : Nat) :
    List ResultSet → List Expectation → List CaseFailure
  | actual :: results, expectation :: expectations =>
      let later := failuresFrom language files (place + 1) results expectations
      match expectation.verify files actual with
      | .ok () => later
      | .error failure => ⟨some place, failure.display language⟩ :: later
  | _, _ => []

/-- The failures of all results. -/
def failures (language : Language) (files : FileTree) (steps : Steps)
    (results : List ResultSet) : List CaseFailure :=
  if results.length = steps.expect.length then
    failuresFrom language files 0 results steps.expect
  else [countFailure language steps.expect.length results.length]

/-- Arrange and then act. -/
def execute (language : Language) (steps : Steps) :
    Calls (Except Failure (List ResultSet)) := do
  match ← Directive.executeAll language steps.arrange with
  | .error failure => return .error failure
  | .ok () => Directive.collectAll language steps.act

end Steps

/-- The result of a case that ended early. -/
def CaseResult.ended (language : Language) (title : String) (expectations : Nat)
    (failure : Failure) : CaseResult :=
  ⟨title, [], some (failure.display language), expectations, false⟩

/-- The result of a case whose results have been judged. -/
def CaseResult.judged (title : String) (expectations : Nat) (failures : List CaseFailure) :
    CaseResult :=
  ⟨title, failures, none, expectations, failures.isEmpty⟩

/-- Run the steps of a case with a title. -/
def Steps.run (language : Language) (files : FileTree) (title : String) (steps : Steps) :
    Calls CaseResult := do
  let expectations := steps.expect.length
  match steps.misplaced with
  | first :: rest =>
      let fault := CaseFault.rowsAfterLoad (first :: rest)
      return .ended language title expectations (.ofCase fault)
  | [] =>
      match ← steps.execute language with
      | .error failure => return .ended language title expectations failure
      | .ok results =>
          return .judged title expectations (steps.failures language files results)

/-- Run a case with a title. -/
def TestCase.run (language : Language) (files : FileTree) (title : String)
    (test : TestCase) : Calls CaseResult :=
  match test.steps with
  | .error fault => return .ended language title 0 (.specification fault)
  | .ok steps => steps.run language files title

end DataSuite

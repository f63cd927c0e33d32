import DataSuite.Suite.Basic
import DataSuite.Summary

/-!
# Checking suites

A suite can be checked without a backend.  Where each directive of a case has exactly one
result, the number of results is known in advance, and so is the place of each load,
which yields no rows.
-/

namespace DataSuite

namespace Steps

/-- Whether the number of results is known in advance. -/
def hasKnownResults (steps : Steps) : Bool :=
  steps.act.all Directive.hasOneResult

/-- Whether rows are expected of a load. -/
def expectsRowsOfLoad (directive : Directive) (expectation : Expectation) : Bool :=
  directive.isLoad && expectation.demandsRows

/-- The places, counted on from a number, at which rows are expected of loads. -/
def misplacedFrom (place : Nat) : List Directive → List Expectation → List Nat
  | directive :: directives, expectation :: expectations =>
      let later := misplacedFrom (place + 1) directives expectations
      if expectsRowsOfLoad directive expectation then place :: later else later
  | _, _ => []

/-- The places at which rows are expected of loads, where this is known in advance. -/
def misplaced (steps : Steps) : List Nat :=
  if steps.hasKnownResults && steps.act.length == steps.expect.length then
    misplacedFrom 0 steps.act steps.expect
  else []

/-- The failure of a case with another number of results than expectations. -/
def countFailure (language : Language) (expected actual : Nat) : CaseFailure :=
  ⟨none, (Message.countMismatch expected actual).text language⟩

/-- What is certain to fail. -/
def certainFailures (language : Language) (steps : Steps) : List CaseFailure :=
  if steps.hasKnownResults && steps.act.length != steps.expect.length then
    [countFailure language steps.expect.length steps.act.length]
  else
    steps.misplaced.map fun place => ⟨some place, (Fault.testCase .emptySlot).message language⟩

end Steps

/-- The result of checking a case with a title. -/
def TestCase.check (language : Language) (title : String) (test : TestCase) : CaseResult :=
  match test.steps with
  | .error fault => ⟨title, [], some (fault.message language), 0, false⟩
  | .ok steps =>
      let failures := steps.certainFailures language
      ⟨title, failures, none, steps.expect.length, failures.isEmpty⟩

/-- The summary of checking a suite, with messages in one language and titles in another. -/
def Suite.check (language titles : Language) (suite : Suite) : Summary :=
  .ofCases suite.name (suite.tests.map fun test => test.check language (test.title.resolve titles))

end DataSuite

/-!
# Summaries

A summary collects the results of cases and counts them and their expectations.  A case
that ends before its comparisons fails all its expectations.
-/

namespace DataSuite

/-- Why a case has failed. -/
structure CaseFailure where
  /-- The place of the expectation that does not hold, or none if it is the case as a whole. -/
  place : Option Nat
  message : String
deriving DecidableEq

/-- The result of a case. -/
structure CaseResult where
  title : String
  /-- What has failed. -/
  failures : List CaseFailure
  /-- What has ended the case early. -/
  error : Option String
  expectations : Nat
  passed : Bool
deriving DecidableEq

namespace CaseResult

/-- Whether a case has ended before its comparisons. -/
def endedEarly (result : CaseResult) : Bool :=
  result.error.isSome || result.failures.any fun failure => failure.place.isNone

/-- The number of expectations that failed, which a caller may state too high. -/
def failedCount (result : CaseResult) : Nat :=
  if result.endedEarly then result.expectations else result.failures.length

end CaseResult

/-- The results of cases with their counts. -/
structure Summary where
  name : String
  total : Nat
  passed : Nat
  failed : Nat
  cases : List CaseResult
  totalExpectations : Nat
  /-- The number of expectations that hold. -/
  passedExpectations : Nat
  /-- The number of expectations that do not hold. -/
  failedExpectations : Nat
deriving DecidableEq

namespace Summary

/-- A summary of no cases. -/
def empty (name : String) : Summary :=
  ⟨name, 0, 0, 0, [], 0, 0, 0⟩

/-- Add the result of a case. -/
def push (summary : Summary) (result : CaseResult) : Summary :=
  { summary with
    total := summary.total + 1
    passed := if result.passed then summary.passed + 1 else summary.passed
    failed := if result.passed then summary.failed else summary.failed + 1
    cases := summary.cases ++ [result]
    totalExpectations := summary.totalExpectations + result.expectations
    passedExpectations :=
      summary.passedExpectations + (result.expectations - result.failedCount)
    failedExpectations :=
      summary.failedExpectations + min result.failedCount result.expectations }

/-- The summary of results in order. -/
def ofCases (name : String) (results : List CaseResult) : Summary :=
  results.foldl push (empty name)

/-- Add the cases of another summary. -/
def absorb (summary other : Summary) : Summary :=
  { summary with
    total := summary.total + other.total
    passed := summary.passed + other.passed
    failed := summary.failed + other.failed
    cases := summary.cases ++ other.cases
    totalExpectations := summary.totalExpectations + other.totalExpectations
    passedExpectations := summary.passedExpectations + other.passedExpectations
    failedExpectations := summary.failedExpectations + other.failedExpectations }

end Summary
end DataSuite

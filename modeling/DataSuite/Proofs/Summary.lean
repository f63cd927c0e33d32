import DataSuite.Summary
import Mathlib.Algebra.GroupWithZero.Nat
import Mathlib.Data.List.Forall2

/-!
# Summaries of cases

A summary keeps the results that it is made of, in their order.  Its counts depend on the
verdicts alone: results that differ in nothing but their wording are counted alike.

Adding a case and adding the cases of another summary both keep the counts those of the cases.
So it does not matter how a summary has been put together: its cases and their order decide it.
-/

namespace DataSuite

namespace CaseResult

/-- Whether two results differ in nothing but their title and the wording of what has gone
wrong. -/
structure SameVerdict (first second : CaseResult) : Prop where
  passed : first.passed = second.passed
  expectations : first.expectations = second.expectations
  /-- Either both cases have ended early or none has. -/
  error : first.error.isSome = second.error.isSome
  /-- The same expectations do not hold, in the same order. -/
  places : first.failures.map CaseFailure.place = second.failures.map CaseFailure.place

theorem SameVerdict.failedCount_eq
    {first second : CaseResult}
    (same : first.SameVerdict second) :
    first.failedCount = second.failedCount := by
  have noPlace :
      (first.failures.any fun failure => failure.place.isNone) =
        second.failures.any fun failure => failure.place.isNone := by
    have mapped := congrArg (List.any · Option.isNone) same.places
    simpa only [List.any_map, Function.comp_def] using mapped
  have length : first.failures.length = second.failures.length := by
    have mapped := congrArg List.length same.places
    simpa only [List.length_map] using mapped
  unfold failedCount endedEarly
  rw [same.error, noPlace, same.expectations, length]

end CaseResult

namespace Summary

/-- Whether two summaries differ in nothing but the wording of their cases. -/
structure SameVerdicts (first second : Summary) : Prop where
  name : first.name = second.name
  total : first.total = second.total
  passed : first.passed = second.passed
  failed : first.failed = second.failed
  totalExpectations : first.totalExpectations = second.totalExpectations
  passedExpectations : first.passedExpectations = second.passedExpectations
  failedExpectations : first.failedExpectations = second.failedExpectations
  /-- The cases have the same verdicts, one by one. -/
  cases : List.Forall₂ CaseResult.SameVerdict first.cases second.cases

theorem SameVerdicts.push
    {first second : Summary}
    {result result' : CaseResult}
    (same : first.SameVerdicts second)
    (sameResult : result.SameVerdict result') :
    (first.push result).SameVerdicts (second.push result') where
  name := same.name
  total := congrArg (· + 1) same.total
  passed := by
    simp only [Summary.push, sameResult.passed, same.passed]
  failed := by
    simp only [Summary.push, sameResult.passed, same.failed]
  totalExpectations := by
    simp only [Summary.push, same.totalExpectations, sameResult.expectations]
  passedExpectations := by
    simp only [Summary.push, same.passedExpectations, sameResult.expectations,
      sameResult.failedCount_eq]
  failedExpectations := by
    simp only [Summary.push, same.failedExpectations, sameResult.expectations,
      sameResult.failedCount_eq]
  cases := List.rel_append same.cases (.cons sameResult .nil)

/-- Whether all cases have passed. -/
def AllPassed (summary : Summary) : Prop :=
  ∀ result ∈ summary.cases, result.passed = true

instance : DecidablePred AllPassed := fun summary =>
  inferInstanceAs (Decidable (∀ result ∈ summary.cases, result.passed = true))

/-- The wording does not matter for whether all cases have passed. -/
theorem SameVerdicts.allPassed_iff
    {first second : Summary}
    (same : first.SameVerdicts second) :
    first.AllPassed ↔ second.AllPassed := by
  have samePassed : first.cases.map CaseResult.passed = second.cases.map CaseResult.passed := by
    have passed := same.cases.imp fun _ _ sameVerdict => sameVerdict.passed
    rw [← List.forall₂_eq_eq_eq, List.forall₂_map_left_iff, List.forall₂_map_right_iff]
    exact passed
  have inList (summary : Summary) :
      summary.AllPassed ↔ ∀ passed ∈ summary.cases.map CaseResult.passed, passed = true := by
    rw [List.forall_mem_map]
    rfl
  rw [inList first, inList second, samePassed]

/-- Results with the same verdicts are summed up alike. -/
theorem SameVerdicts.ofCases
    {results results' : List CaseResult}
    (name : String)
    (sameResults : List.Forall₂ CaseResult.SameVerdict results results') :
    (ofCases name results).SameVerdicts (ofCases name results') :=
  List.rel_foldl (fun _ _ same _ _ sameResult => same.push sameResult)
    ⟨rfl, rfl, rfl, rfl, rfl, rfl, rfl, .nil⟩ sameResults

end Summary

namespace CaseResult

/-- The number of expectations that are counted as passed. -/
def countedPassed (result : CaseResult) : Nat :=
  result.expectations - result.failedCount

/-- The number of expectations that are counted as failed, of which there are never more than
expectations. -/
def countedFailed (result : CaseResult) : Nat :=
  min result.failedCount result.expectations

/-- Each expectation is counted once. -/
theorem countedPassed_add_countedFailed (result : CaseResult) :
    result.countedPassed + result.countedFailed = result.expectations := by
  unfold countedPassed countedFailed
  omega

end CaseResult

namespace Summary

/-- The summary whose counts are those of its cases. -/
def tally (name : String) (results : List CaseResult) : Summary where
  name := name
  total := results.length
  passed := results.countP CaseResult.passed
  failed := results.countP fun result => !result.passed
  cases := results
  totalExpectations := (results.map CaseResult.expectations).sum
  passedExpectations := (results.map CaseResult.countedPassed).sum
  failedExpectations := (results.map CaseResult.countedFailed).sum

@[simp] theorem push_tally
    (name : String)
    (results : List CaseResult)
    (result : CaseResult) :
    (tally name results).push result = tally name (results ++ [result]) := by
  cases verdict : result.passed <;>
    simp [tally, push, verdict, CaseResult.countedPassed, CaseResult.countedFailed]

@[simp] theorem absorb_tally
    (name other : String)
    (results more : List CaseResult) :
    (tally name results).absorb (tally other more) = tally name (results ++ more) := by
  simp [tally, absorb]

theorem foldl_push_tally
    (name : String)
    (results more : List CaseResult) :
    more.foldl push (tally name results) = tally name (results ++ more) := by
  induction more generalizing results with
  | nil => simp
  | cons result rest inductionHypothesis => simp [inductionHypothesis]

/-- Adding cases one by one counts them. -/
theorem ofCases_eq_tally
    (name : String)
    (results : List CaseResult) :
    ofCases name results = tally name results :=
  foldl_push_tally name [] results

@[simp] theorem cases_ofCases
    (name : String)
    (results : List CaseResult) :
    (ofCases name results).cases = results := by
  rw [ofCases_eq_tally]
  rfl

@[simp] theorem total_ofCases
    (name : String)
    (results : List CaseResult) :
    (ofCases name results).total = results.length := by
  rw [ofCases_eq_tally]
  rfl

/-- Cases are counted as failed if and only if one of them has not passed. -/
theorem failed_tally_pos_iff
    {name : String}
    {results : List CaseResult} :
    0 < (tally name results).failed ↔ ¬ ∀ result ∈ results, result.passed = true := by
  simp [tally, List.countP_pos_iff]

/-- Each case is counted as passed or as failed. -/
theorem total_tally
    (name : String)
    (results : List CaseResult) :
    (tally name results).total = (tally name results).passed + (tally name results).failed := by
  simpa [tally] using results.length_eq_countP_add_countP CaseResult.passed

/-- Each expectation is counted as passed or as failed. -/
theorem totalExpectations_tally
    (name : String)
    (results : List CaseResult) :
    (tally name results).totalExpectations =
      (tally name results).passedExpectations + (tally name results).failedExpectations := by
  induction results with
  | nil => rfl
  | cons result rest inductionHypothesis =>
      have counted := result.countedPassed_add_countedFailed
      simp only [tally, List.map_cons, List.sum_cons] at inductionHypothesis ⊢
      omega

/-- How a summary is put together. -/
inductive Assembly where
  /-- There are no cases yet. -/
  | empty (name : String)
  /-- The result of a case is added. -/
  | push (earlier : Assembly) (result : CaseResult)
  /-- The cases of another summary are added. -/
  | absorb (earlier other : Assembly)

namespace Assembly

/-- The summary that has been put together. -/
def summary : Assembly → Summary
  | empty name => .empty name
  | push earlier result => earlier.summary.push result
  | absorb earlier other => earlier.summary.absorb other.summary

/-- The name under which it has been begun. -/
def name : Assembly → String
  | empty name => name
  | push earlier _ => earlier.name
  | absorb earlier _ => earlier.name

/-- The results that have been added, in order. -/
def results : Assembly → List CaseResult
  | empty _ => []
  | push earlier result => earlier.results ++ [result]
  | absorb earlier other => earlier.results ++ other.results

/-- Whatever has been added in between, the counts are those of the cases. -/
theorem summary_eq_tally (assembly : Assembly) :
    assembly.summary = tally assembly.name assembly.results := by
  induction assembly with
  | empty name => rfl
  | push earlier result inductionHypothesis =>
      simp [summary, name, results, inductionHypothesis]
  | absorb earlier other inductionHypothesis otherHypothesis =>
      simp [summary, name, results, inductionHypothesis, otherHypothesis]

/-- However a summary has been put together, it is the one that adding its cases one by one
gives, and its counts add up. -/
theorem summary_adds_up (assembly : Assembly) :
    let summary := assembly.summary
    summary = ofCases assembly.name assembly.results ∧
      summary.cases = assembly.results ∧
      summary.total = summary.passed + summary.failed ∧
      summary.total = assembly.results.length ∧
      summary.passed = assembly.results.countP CaseResult.passed ∧
      summary.totalExpectations = summary.passedExpectations + summary.failedExpectations ∧
      summary.totalExpectations = (assembly.results.map CaseResult.expectations).sum := by
  intro summary
  have counted : summary = tally assembly.name assembly.results := assembly.summary_eq_tally
  rw [counted, ofCases_eq_tally]
  exact ⟨rfl, rfl, total_tally _ _, rfl, rfl, totalExpectations_tally _ _, rfl⟩

end Assembly

end Summary
end DataSuite

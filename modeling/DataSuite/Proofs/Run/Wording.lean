import DataSuite.Proofs.Process
import DataSuite.Proofs.Run.Verdicts
import DataSuite.Proofs.Summary
import DataSuite.Run.Phases

/-!
# Languages and verdicts

The language of messages and the locale of titles decide on wordings only.  Two sessions that
differ in nothing else go side by side: they ask the same and end alike, with summaries whose
cases have the same verdicts one by one.
-/

namespace DataSuite

variable {α β σ : Type}

/-- Whether two results are both successes, with related values, or the same failure. -/
inductive SameEnd (related : α → β → Prop) : Except Failure α → Except Failure β → Prop where
  /-- Both are successes. -/
  | ok {value : α} {value' : β} (alike : related value value') :
      SameEnd related (.ok value) (.ok value')
  /-- Both are the same failure. -/
  | error (failure : Failure) : SameEnd related (.error failure) (.error failure)

/-- Whether two operations end alike and lead to the same phase. -/
structure SamePhased (related : α → β → Prop) (first : Phased α) (second : Phased β) : Prop where
  ended : SameEnd related first.1 second.1
  phase : first.2 = second.2

/-- What is reported of a failure. -/
structure Report where
  kind : FailureKind
  /-- The failure in the words of a language. -/
  text : String

/-- What is reported of a result in a language. -/
def reported (language : Language) (result : Except Failure α) : Except Report α :=
  result.mapError fun failure => ⟨failure.kind, failure.display language⟩

/-- Whether two results are reported as the same success, or as failures of the same kind. -/
inductive SameReport : Except Report α → Except Report α → Prop where
  /-- Both are the same success. -/
  | ok (value : α) : SameReport (.ok value) (.ok value)
  /-- Both are failures of the same kind. -/
  | error (kind : FailureKind) (text text' : String) :
      SameReport (.error ⟨kind, text⟩) (.error ⟨kind, text'⟩)

theorem sameReport_reported
    (language language' : Language)
    (result : Except Failure α) :
    SameReport (reported language result) (reported language' result) := by
  cases result with
  | error failure => exact .error failure.kind _ _
  | ok value => exact .ok value

section Steps

variable (language language' : Language)

namespace Directive

theorem alike_execute (directive : Directive) :
    Process.Alike Eq (directive.execute language) (directive.execute language') := by
  refine .tell rfl (.ask _ fun reply => ?_)
  cases reply with
  | error causes => exact .done rfl
  | ok answer => exact .tell rfl (.done rfl)

theorem alike_executeAll (directives : List Directive) :
    Process.Alike Eq (executeAll language directives) (executeAll language' directives) := by
  induction directives with
  | nil => exact .done rfl
  | cons directive rest inductionHypothesis =>
      apply (alike_execute language language' directive).andThen
      rintro result _ rfl
      cases result with
      | error failure => exact .done rfl
      | ok results => exact inductionHypothesis

theorem alike_collectAll (directives : List Directive) :
    Process.Alike Eq (collectAll language directives) (collectAll language' directives) := by
  induction directives with
  | nil => exact .done rfl
  | cons directive rest inductionHypothesis =>
      apply (alike_execute language language' directive).andThen
      rintro result _ rfl
      cases result with
      | error failure => exact .done rfl
      | ok results =>
          apply inductionHypothesis.andThen
          rintro result _ rfl
          cases result <;> exact .done rfl

end Directive

namespace Steps

theorem alike_execute (steps : Steps) :
    Process.Alike Eq (steps.execute language) (steps.execute language') := by
  apply (Directive.alike_executeAll language language' steps.arrange).andThen
  rintro result _ rfl
  cases result with
  | error failure => exact .done rfl
  | ok _ => exact Directive.alike_collectAll language language' steps.act

theorem places_failuresFrom
    (files : FileTree)
    (place : Nat)
    (results : List ResultSet)
    (expectations : List Expectation) :
    (failuresFrom language files place results expectations).map CaseFailure.place =
      (failuresFrom language' files place results expectations).map CaseFailure.place := by
  rw [failuresFrom_eq, failuresFrom_eq, List.map_filterMap, List.map_filterMap]
  refine List.filterMap_congr fun pair _ => ?_
  unfold failureAt?
  cases pair.1.2.verify files pair.1.1 <;> rfl

/-- The same expectations do not hold in both languages. -/
theorem places_failures
    (files : FileTree)
    (steps : Steps)
    (results : List ResultSet) :
    (steps.failures language files results).map CaseFailure.place =
      (steps.failures language' files results).map CaseFailure.place := by
  unfold failures
  split
  · exact places_failuresFrom language language' files 0 results steps.expect
  · simp only [countFailure, List.map_cons, List.map_nil]

theorem places_certainFailures (steps : Steps) :
    (steps.certainFailures language).map CaseFailure.place =
      (steps.certainFailures language').map CaseFailure.place := by
  unfold certainFailures
  split
  · simp only [countFailure, List.map_cons, List.map_nil]
  · simp only [List.map_map, Function.comp_def]

end Steps
end Steps

namespace CaseResult

theorem sameVerdict_ended
    (language language' : Language)
    (title title' : String)
    (expectations : Nat)
    (failure : Failure) :
    (ended language title expectations failure).SameVerdict
      (ended language' title' expectations failure) :=
  ⟨rfl, rfl, rfl, rfl⟩

theorem sameVerdict_judged
    (title title' : String)
    (expectations : Nat)
    {failures failures' : List CaseFailure}
    (places : failures.map CaseFailure.place = failures'.map CaseFailure.place) :
    (judged title expectations failures).SameVerdict (judged title' expectations failures') where
  passed := by
    have empty := congrArg List.isEmpty places
    rwa [List.isEmpty_map, List.isEmpty_map] at empty
  expectations := rfl
  error := rfl
  places := places

end CaseResult

namespace TestCase

/-- Checking a case gives the same verdict in both languages and under both titles. -/
theorem sameVerdict_check
    (language language' : Language)
    (title title' : String)
    (test : TestCase) :
    (test.check language title).SameVerdict (test.check language' title') := by
  unfold check
  cases test.steps with
  | error fault => exact ⟨rfl, rfl, rfl, rfl⟩
  | ok steps =>
      exact CaseResult.sameVerdict_judged title title' steps.expect.length
        (steps.places_certainFailures language language')

theorem alike_run
    (language language' : Language)
    (files : FileTree)
    (title title' : String)
    (test : TestCase) :
    Process.Alike CaseResult.SameVerdict (test.run language files title)
      (test.run language' files title') := by
  unfold run
  cases test.steps with
  | error fault => exact .done (CaseResult.sameVerdict_ended language language' title title' 0 _)
  | ok steps =>
      simp only
      unfold Steps.run
      cases steps.misplaced with
      | cons first rest => exact .done (CaseResult.sameVerdict_ended _ _ _ _ _ _)
      | nil =>
          apply (steps.alike_execute language language').andThen
          rintro result _ rfl
          cases result with
          | error failure => exact .done (CaseResult.sameVerdict_ended _ _ _ _ _ failure)
          | ok results =>
              exact .done (CaseResult.sameVerdict_judged _ _ _
                (steps.places_failures language language' files results))

end TestCase

theorem Suite.sameVerdicts_check
    (language language' titles titles' : Language)
    (suite : Suite) :
    (suite.check language titles).SameVerdicts (suite.check language' titles') := by
  refine .ofCases suite.name ?_
  rw [List.forall₂_map_left_iff, List.forall₂_map_right_iff, List.forall₂_same]
  exact fun test _ => test.sameVerdict_check language language' _ _

namespace Session

/-- The session with messages in a language and titles in a locale. -/
def speaking (session : Session) (language : Language) (locale : String) : Session :=
  { session with language, settings := { session.settings with locale } }

section Speaking

variable (session : Session) (language language' : Language) (locale locale' : String)

theorem alike_runCase (test : TestCase) :
    Process.Alike CaseResult.SameVerdict ((session.speaking language locale).runCase test)
      ((session.speaking language' locale').runCase test) := by
  apply (test.alike_run language language' session.files _ _).andThen
  intro result result' same
  refine .tell ?_ (.done same)
  unfold caseEntry
  rw [same.passed]
  split <;> rfl

theorem alike_runCases (tests : List TestCase) :
    Process.Alike (List.Forall₂ CaseResult.SameVerdict)
      ((session.speaking language locale).runCases tests)
      ((session.speaking language' locale').runCases tests) := by
  induction tests with
  | nil => exact .done .nil
  | cons test rest inductionHypothesis =>
      apply (session.alike_runCase language language' locale locale' test).andThen
      intro result result' same
      apply inductionHypothesis.andThen
      intro results results' others
      exact .done (.cons same others)

theorem alike_runTests (phase : Phase) :
    Process.Alike (SamePhased Summary.SameVerdicts)
      ((session.speaking language locale).runTests phase)
      ((session.speaking language' locale').runTests phase) := by
  cases phase with
  | uninitialized => exact .done ⟨.error _, rfl⟩
  | done => exact .done ⟨.error _, rfl⟩
  | aborted => exact .done ⟨.error _, rfl⟩
  | installed =>
      have runsAll :
          Process.Alike Summary.SameVerdicts (session.speaking language locale).runAll
            (session.speaking language' locale').runAll := by
        apply (session.alike_runCases language language' locale locale' session.suite.tests).andThen
        intro results results' same
        exact .tell rfl (.done (.ofCases session.suite.name same))
      apply runsAll.andThen
      intro summary summary' same
      exact .done ⟨.ok same, rfl⟩

theorem alike_install (phase : Phase) :
    Process.Alike (SamePhased Eq) ((session.speaking language locale).install phase)
      ((session.speaking language' locale').install phase) := by
  cases phase with
  | installed => exact .done ⟨.error _, rfl⟩
  | done => exact .done ⟨.error _, rfl⟩
  | aborted => exact .done ⟨.error _, rfl⟩
  | uninitialized =>
      refine .tell rfl ?_
      apply (Directive.alike_executeAll language language' session.suite.installations).andThen
      rintro result _ rfl
      cases result with
      | error failure => exact .tell rfl (.done ⟨.error failure, rfl⟩)
      | ok _ => exact .done ⟨.ok rfl, rfl⟩

theorem alike_teardown (phase : Phase) :
    Process.Alike (SamePhased Eq) ((session.speaking language locale).teardown phase)
      ((session.speaking language' locale').teardown phase) := by
  have cleans (phase : Phase) :
      Process.Alike (SamePhased Eq)
        (do return (← (session.speaking language locale).cleanUp, phase) : Calls (Phased Unit))
        (do return (← (session.speaking language' locale').cleanUp, phase)) := by
    refine .tell rfl ?_
    apply (Directive.alike_executeAll language language' session.suite.cleanups).andThen
    rintro result _ rfl
    cases result with
    | error failure => exact .done ⟨.error failure, rfl⟩
    | ok _ => exact .done ⟨.ok rfl, rfl⟩
  cases phase with
  | uninitialized => exact .done ⟨.error _, rfl⟩
  | installed => exact cleans .installed
  | done => exact cleans .done
  | aborted => exact cleans .aborted

theorem alike_finish
    {summary summary' : Summary}
    (same : summary.SameVerdicts summary')
    (phase : Phase) :
    Process.Alike (SamePhased Summary.SameVerdicts)
      ((session.speaking language locale).finish summary phase)
      ((session.speaking language' locale').finish summary' phase) := by
  unfold finish
  change Process.Alike _ (if !session.settings.cleanups then _ else _)
    (if !session.settings.cleanups then _ else _)
  cases session.settings.cleanups with
  | false => exact .done ⟨.ok same, rfl⟩
  | true =>
      apply (session.alike_teardown language language' locale locale' phase).andThen
      rintro ⟨_, phase⟩ ⟨_, _⟩ ⟨ended, rfl⟩
      cases ended with
      | ok _ => exact .done ⟨.ok same, rfl⟩
      | error failure => exact .tell rfl (.done ⟨.error failure, rfl⟩)

/-- A run does the same in both languages and locales, but for wordings. -/
theorem alike_run (phase : Phase) :
    Process.Alike (SamePhased Summary.SameVerdicts)
      ((session.speaking language locale).run phase)
      ((session.speaking language' locale').run phase) := by
  apply (session.alike_install language language' locale locale' phase).andThen
  rintro ⟨_, phase⟩ ⟨_, _⟩ ⟨ended, rfl⟩
  cases ended with
  | error failure => exact .done ⟨.error failure, rfl⟩
  | ok _ =>
      apply (session.alike_runTests language language' locale locale' phase).andThen
      rintro ⟨_, phase⟩ ⟨_, _⟩ ⟨ended, rfl⟩
      cases ended with
      | error failure => exact .done ⟨.error failure, rfl⟩
      | ok same => exact session.alike_finish language language' locale locale' same phase

/-- Neither the language of messages nor the locale of titles changes a verdict.  A run makes the
same calls and ends with summaries of the same verdicts or with the same failure; checking a
suite gives the same verdicts; and each check of a result succeeds in both languages or fails
in both with the same kind of failure. -/
theorem verdicts_in_any_language
    (backend : Backend σ)
    (state : σ)
    (phase : Phase) :
    let ran := ((session.speaking language locale).run phase).run backend state
    let ran' := ((session.speaking language' locale').run phase).run backend state
    ran.asked = ran'.asked ∧ Process.SameRun (SamePhased Summary.SameVerdicts) ran ran' ∧
      (session.suite.check language (.ofLocale locale)).SameVerdicts
        (session.suite.check language' (.ofLocale locale')) ∧
      (∀ files actual (expectation : Expectation),
        SameReport (reported language (expectation.verify files actual))
          (reported language' (expectation.verify files actual))) ∧
      (∀ actual expected,
        SameReport (reported language ((Row.checkLiteral actual expected).mapError .assertion))
          (reported language' ((Row.checkLiteral actual expected).mapError .assertion))) ∧
      (∀ headers actual expected,
        SameReport
          (reported language ((Row.checkTable headers actual expected).mapError .assertion))
          (reported language' ((Row.checkTable headers actual expected).mapError .assertion))) ∧
      (∀ keys rows,
        SameReport (reported language ((Row.sortBy keys rows).mapError .assertion))
          (reported language' ((Row.sortBy keys rows).mapError .assertion))) ∧
      (∀ columns rows,
        SameReport (reported language ((Row.projectAll columns rows).mapError .assertion))
          (reported language' ((Row.projectAll columns rows).mapError .assertion))) ∧
      ∀ plan table,
        SameReport (reported language ((checkNoFullScan plan table).mapError .assertion))
          (reported language' ((checkNoFullScan plan table).mapError .assertion)) := by
  intro ran ran'
  have same : Process.SameRun (SamePhased Summary.SameVerdicts) ran ran' :=
    (session.alike_run language language' locale locale' phase).run backend state
  exact ⟨same.asked_eq, same, session.suite.sameVerdicts_check language language' _ _,
    fun _ _ _ => sameReport_reported _ _ _, fun _ _ => sameReport_reported _ _ _,
    fun _ _ _ => sameReport_reported _ _ _, fun _ _ => sameReport_reported _ _ _,
    fun _ _ => sameReport_reported _ _ _, fun _ _ => sameReport_reported _ _ _⟩

end Speaking
end Session
end DataSuite

import DataSuite.Backend.Script
import DataSuite.Proofs.Fallible
import DataSuite.Proofs.Process
import DataSuite.Proofs.Run.Cases

/-!
# What checking a suite foresees

Where each directive of a case has exactly one result, as many results are judged as there are
directives, whatever the backend answers.  So a case that checking finds at fault never passes
when it is run, and a fault that is certain before anything is executed keeps the case from
being executed at all.
-/

namespace DataSuite

variable {σ : Type}

namespace Directive

/-- A directive that has one result takes one place. -/
theorem length_places
    {directive : Directive}
    (one : directive.hasOneResult = true)
    (answer : directive.call.Answer) :
    (places (directive.call.results answer)).length = 1 := by
  cases directive with
  | inlineQuery text => rfl
  | fileLoad path table => rfl
  | inlinePlan text => rfl
  | fileQuery path => cases one
  | filePlan path => cases one

theorem ends_execute
    (language : Language)
    (directive : Directive) :
    (directive.execute language).Ends
      (IfOk fun results => ∃ answer, results = directive.call.results answer) := by
  intro reply
  cases reply with
  | error causes => trivial
  | ok answer => exact ⟨answer, rfl⟩

/-- Directives that have one result each take as many places as there are directives. -/
theorem ends_collectAll
    (language : Language)
    (directives : List Directive) :
    (collectAll language directives).Ends
      (IfOk fun results =>
        directives.all hasOneResult = true → results.length = directives.length) := by
  induction directives with
  | nil => exact fun _ => rfl
  | cons directive rest inductionHypothesis =>
      apply (ends_execute language directive).andThen
      intro result executed
      cases result with
      | error failure => trivial
      | ok first =>
          obtain ⟨answer, rfl⟩ := executed
          apply inductionHypothesis.andThen
          intro result collected
          cases result with
          | error failure => trivial
          | ok later =>
              intro known
              rw [List.all_cons, Bool.and_eq_true] at known
              rw [List.length_append, length_places known.1, collected known.2,
                List.length_cons, Nat.add_comm]

end Directive

namespace Steps

theorem ends_execute
    (language : Language)
    (steps : Steps) :
    (steps.execute language).Ends
      (IfOk fun results =>
        steps.hasKnownResults = true → results.length = steps.act.length) := by
  have arranges : (Directive.executeAll language steps.arrange).Ends fun _ => True := by
    generalize steps.arrange = directives
    induction directives with
    | nil => trivial
    | cons directive rest inductionHypothesis =>
        apply (Directive.ends_execute language directive).andThen
        intro result _
        cases result with
        | error failure => trivial
        | ok results => exact inductionHypothesis
  apply arranges.andThen
  intro result _
  cases result with
  | error failure => trivial
  | ok _ => exact Directive.ends_collectAll language steps.act

/-- A case in which rows are expected of loads ends before anything is executed. -/
theorem run_of_misplaced
    (language : Language)
    (files : FileTree)
    (title : String)
    {steps : Steps}
    (misplaced : steps.misplaced ≠ []) :
    steps.run language files title =
      .done (.ended language title steps.expect.length
        (.ofCase (.rowsAfterLoad steps.misplaced))) := by
  unfold run
  cases places : steps.misplaced with
  | nil => exact absurd places misplaced
  | cons first rest => rfl

/-- What becomes of a case whose steps are executed. -/
theorem ends_run
    (language : Language)
    (files : FileTree)
    (title : String)
    {steps : Steps}
    (executed : steps.misplaced = []) :
    (steps.run language files title).Ends fun result =>
      result.title = title ∧ result.expectations = steps.expect.length ∧
        (steps.hasKnownResults = true → steps.act.length ≠ steps.expect.length →
          result.passed = false) := by
  unfold run
  rw [executed]
  apply (ends_execute language steps).andThen
  intro result ended
  cases result with
  | error failure => exact ⟨rfl, rfl, fun _ _ => rfl⟩
  | ok results =>
      refine ⟨rfl, rfl, fun known differ => ?_⟩
      have miscounted : results.length ≠ steps.expect.length := ended known ▸ differ
      change (steps.failures language files results).isEmpty = false
      rw [failures, if_neg miscounted]
      rfl

/-- Where no rows are expected of loads, only the number of results is certain to be wrong. -/
theorem mem_certainFailures
    {language : Language}
    {steps : Steps}
    (executed : steps.misplaced = [])
    {failure : CaseFailure}
    (certain : failure ∈ steps.certainFailures language) :
    failure.place = none ∧ steps.hasKnownResults = true ∧
      steps.act.length ≠ steps.expect.length := by
  unfold certainFailures at certain
  split at certain
  · rename_i miscounted
    rw [Bool.and_eq_true, bne_iff_ne] at miscounted
    obtain rfl := List.mem_singleton.mp certain
    exact ⟨rfl, miscounted⟩
  · rw [executed] at certain
    cases certain

end Steps

/-- Whether the run of a case bears out what checking the case has told. -/
structure TestCase.Foretold (test : TestCase) (foreseen : CaseResult) (ran : CaseOutcome σ) :
    Prop where
  title : ran.value.title = foreseen.title
  expectations : ran.value.expectations = foreseen.expectations
  /-- What is not passed when it is checked is not passed when it is run. -/
  not_passed : foreseen.passed = false → ran.value.passed = false
  /-- A case with an error or with a failure at some place is not executed. -/
  not_executed :
    foreseen.error.isSome = true ∨
        (∃ failure ∈ foreseen.failures, failure.place.isSome = true) →
      ran.asked = [] ∧ ran.value.error.isSome = true ∧ ran.value.failures = []
  /-- A malformed case has the same error both times. -/
  malformed : ∀ fault, test.steps = .error fault →
    ∃ text, foreseen.error = some text ∧ ran.value.error = some text

namespace Session

/-- Whatever the backend answers, the run of a case bears out what checking it has told. -/
theorem foretold_runCase
    (session : Session)
    (test : TestCase)
    (backend : Backend σ)
    (state : σ) :
    test.Foretold (test.check session.language (session.titleOf test))
      ((session.runCase test).run backend state) := by
  obtain ⟨title, steps⟩ := test
  cases steps with
  | error fault =>
      exact ⟨rfl, rfl, fun _ => rfl, fun _ => ⟨rfl, rfl, rfl⟩, fun _ _ => ⟨_, rfl, rfl⟩⟩
  | ok steps =>
      by_cases executed : steps.misplaced = []
      · have ended :=
          (Steps.ends_run session.language session.files (session.titleOf ⟨title, .ok steps⟩)
            executed).value backend state
        have sameResult := session.value_runCase ⟨title, .ok steps⟩ backend state
        unfold TestCase.run at sameResult
        rw [← sameResult] at ended
        obtain ⟨sameTitle, sameExpectations, miscounted⟩ := ended
        refine ⟨sameTitle, sameExpectations, fun notPassed => ?_, ?_, fun _ => nofun⟩
        · obtain ⟨failure, certain⟩ :=
            List.exists_mem_of_ne_nil _ (List.isEmpty_eq_false_iff.mp notPassed)
          obtain ⟨-, known, differ⟩ := Steps.mem_certainFailures executed certain
          exact miscounted known differ
        · rintro (error | ⟨failure, certain, placed⟩)
          · cases error
          · rw [(Steps.mem_certainFailures executed certain).1] at placed
            cases placed
      · unfold runCase TestCase.run
        simp only [Steps.run_of_misplaced _ _ _ executed]
        exact ⟨rfl, rfl, fun _ => rfl, fun _ => ⟨rfl, rfl, rfl⟩, fun _ => nofun⟩

/-- Checking a suite foresees its run: once the suite is installed, running its cases reports as
many of them as checking, in the same order, and each run bears out what checking has told,
whatever the backend answers.  The runs of the cases are all that is reported and asked. -/
theorem check_foresees_tested
    (session : Session)
    (backend : Backend σ)
    (state : σ)
    (installs : (session.installed backend state).value.1 = .ok ()) :
    let checked := session.suite.check session.language (.ofLocale session.settings.locale)
    let outcomes := session.outcomes backend state
    ∃ summary, (session.tested backend state).value = (.ok summary, .done) ∧
      summary.cases = outcomes.map Process.Outcome.value ∧
      (session.tested backend state).asked = outcomes.flatMap Process.Outcome.asked ∧
      summary.total = checked.total ∧ summary.cases.length = checked.cases.length ∧
      ∀ (place : Nat) (test : TestCase), session.suite.tests[place]? = some test →
        ∃ foreseen ran, checked.cases[place]? = some foreseen ∧ outcomes[place]? = some ran ∧
          test.Foretold foreseen ran := by
  intro checked outcomes
  have checkedCases : checked.cases = session.suite.tests.map fun test =>
      test.check session.language (session.titleOf test) :=
    Summary.cases_ofCases _ _
  have sameLength : outcomes.length = session.suite.tests.length :=
    session.length_caseOutcomes backend _ session.suite.tests
  refine ⟨_, value_tested installs, Summary.cases_ofCases _ _, asked_tested installs, ?_, ?_, ?_⟩
  · unfold checked Suite.check
    rw [Summary.total_ofCases, Summary.total_ofCases, List.length_map, List.length_map]
    exact sameLength
  · rw [Summary.cases_ofCases, checkedCases, List.length_map, List.length_map]
    exact sameLength
  · intro place test found
    obtain ⟨state', ran⟩ : ∃ state', outcomes[place]? =
        some ((session.runCase test).run backend state') :=
      session.exists_state_of_getElem? backend found
    refine ⟨_, _, ?_, ran, session.foretold_runCase test backend state'⟩
    rw [checkedCases, List.getElem?_map, found]
    rfl

/-- A session with a case that expects a row of a load. -/
def expectingLoadedRow : Session where
  suite :=
    { name := "seed"
      installations := [.inlineQuery "create table t(id int)"]
      cleanups := []
      tests :=
        [{ title := .localized [("en", "Load"), ("ja", "読み込み")]
           steps := .ok
            { arrange := [.inlineQuery "delete from t"]
              act := [.fileLoad "seed.csv" "t"]
              expect :=
                [.comparison
                  ⟨.rows [.ofPairs [("id", .number (.integer 1))]], none, none, none⟩] } }] }
  settings := ⟨"ja_JP.UTF-8", false⟩
  language := .english
  files := .empty

/-- A case that expects a row of a load fails without a call, under its title in the locale. -/
theorem check_foresees_loadedRow :
    let backend := Script.backend ⟨[], [], [], [], []⟩
    let tested := expectingLoadedRow.tested backend ()
    (expectingLoadedRow.installed backend ()).value.1 = .ok () ∧
      ∃ summary result, tested.value = (.ok summary, .done) ∧ summary.cases = [result] ∧
        tested.asked = [] ∧ result.title = "読み込み" ∧ result.expectations = 1 ∧
        result.passed = false ∧ result.error.isSome = true ∧ result.failures = [] := by
  intro backend tested
  have installs : (expectingLoadedRow.installed backend ()).value.1 = .ok () := rfl
  obtain ⟨summary, ended, cases, asked, -, -, foretold⟩ :=
    check_foresees_tested expectingLoadedRow backend () installs
  obtain ⟨foreseen, ran, checked, outcome, bears⟩ := foretold 0 _ rfl
  obtain rfl := Option.some.inj checked
  obtain rfl := Option.some.inj outcome
  have certain := bears.not_executed (.inr ⟨_, .head _, rfl⟩)
  refine ⟨installs, summary, _, ended, cases, ?_, bears.title, bears.expectations,
    bears.not_passed rfl, certain.2.1, certain.2.2⟩
  rw [asked]
  exact (List.append_nil _).trans certain.1

end Session
end DataSuite

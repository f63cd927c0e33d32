import DataSuite.Proofs.Process
import DataSuite.Proofs.Run.Trace
import DataSuite.Proofs.Summary

/-!
# The runs of cases

Once its suite is installed, a session runs the cases one after the other, each on the backend
as the cases before it have left it.  The results of these runs are summed up, and their calls
are all that is asked.
-/

namespace DataSuite

variable {σ α β : Type}

/-- How the run of a case ends. -/
abbrev CaseOutcome (σ : Type) :=
  Process.Outcome Call σ CaseResult

namespace Session

/-- The result of a case is not changed by what is told about it. -/
theorem value_runCase
    (session : Session)
    (test : TestCase)
    (backend : Backend σ)
    (state : σ) :
    ((session.runCase test).run backend state).value =
      ((test.run session.language session.files (session.titleOf test)).run backend
        state).value := by
  unfold runCase
  simp only [bind, Process.value_andThen]
  rfl

/-- The runs of cases one after the other, each on the backend as the earlier ones have left
it. -/
def caseOutcomes (session : Session) (backend : Backend σ) :
    σ → List TestCase → List (CaseOutcome σ)
  | _, [] => []
  | state, test :: rest =>
      let outcome := (session.runCase test).run backend state
      outcome :: caseOutcomes session backend outcome.state rest

@[simp] theorem length_caseOutcomes
    (session : Session)
    (backend : Backend σ)
    (state : σ)
    (tests : List TestCase) :
    (session.caseOutcomes backend state tests).length = tests.length := by
  induction tests generalizing state with
  | nil => rfl
  | cons test rest inductionHypothesis => exact congrArg Nat.succ (inductionHypothesis _)

/-- The run that stands at the place of a case is a run of that case. -/
theorem exists_state_of_getElem?
    (session : Session)
    (backend : Backend σ)
    {state : σ}
    {tests : List TestCase}
    {place : Nat}
    {test : TestCase}
    (found : tests[place]? = some test) :
    ∃ state', (session.caseOutcomes backend state tests)[place]? =
      some ((session.runCase test).run backend state') := by
  induction tests generalizing place state with
  | nil => cases found
  | cons first rest inductionHypothesis =>
      cases place with
      | zero =>
          obtain rfl := Option.some.inj found
          exact ⟨state, rfl⟩
      | succ place => exact inductionHypothesis found

/-- Where the run of a case has one result in every state, so have the runs of all cases. -/
theorem map_value_caseOutcomes
    {session : Session}
    {backend : Backend σ}
    {result : TestCase → CaseResult}
    (runs : ∀ test state, ((session.runCase test).run backend state).value = result test)
    (state : σ)
    (tests : List TestCase) :
    (session.caseOutcomes backend state tests).map Process.Outcome.value = tests.map result := by
  induction tests generalizing state with
  | nil => rfl
  | cons test rest inductionHypothesis =>
      exact congrArg₂ List.cons (runs test state) (inductionHypothesis _)

theorem value_runCases
    (session : Session)
    (backend : Backend σ)
    (state : σ)
    (tests : List TestCase) :
    ((session.runCases tests).run backend state).value =
      (session.caseOutcomes backend state tests).map Process.Outcome.value := by
  induction tests generalizing state with
  | nil => rfl
  | cons test rest inductionHypothesis =>
      unfold runCases
      simp only [bind, Process.value_andThen, inductionHypothesis]
      rfl

theorem asked_runCases
    (session : Session)
    (backend : Backend σ)
    (state : σ)
    (tests : List TestCase) :
    ((session.runCases tests).run backend state).asked =
      (session.caseOutcomes backend state tests).flatMap Process.Outcome.asked := by
  induction tests generalizing state with
  | nil => rfl
  | cons test rest inductionHypothesis =>
      unfold runCases
      simp only [bind, Process.asked_andThen, inductionHypothesis]
      exact congrArg (_ ++ ·) (List.append_nil _)

/-- The results of all cases are summed up, whatever the state of the backend. -/
theorem value_runTests
    (session : Session)
    (backend : Backend σ)
    (state : σ) :
    ((session.runTests .installed).run backend state).value =
      (.ok (.ofCases session.suite.name
        ((session.caseOutcomes backend state session.suite.tests).map Process.Outcome.value)),
        .done) := by
  rw [← value_runCases]
  unfold runTests runAll
  simp only [bind, Process.value_andThen]
  rfl

/-- How the installation of the suite ends. -/
def installed (session : Session) (backend : Backend σ) (state : σ) :
    Process.Outcome Call σ (Phased Unit) :=
  (session.install .uninitialized).run backend state

/-- How the run of the cases ends behind the installation of the suite. -/
def tested (session : Session) (backend : Backend σ) (state : σ) :
    Process.Outcome Call σ (Phased Summary) :=
  (session.runTests (session.installed backend state).value.2).run backend
    (session.installed backend state).state

/-- The runs of all cases behind the installation of the suite. -/
def outcomes (session : Session) (backend : Backend σ) (state : σ) : List (CaseOutcome σ) :=
  session.caseOutcomes backend (session.installed backend state).state session.suite.tests

section Installed

variable {session : Session} {backend : Backend σ} {state : σ}

/-- An installation that succeeds leads to the phase in which cases are run. -/
theorem phase_of_installed
    (installs : (session.installed backend state).value.1 = .ok ()) :
    (session.installed backend state).value.2 = .installed := by
  obtain ⟨executed, phase⟩ := (@performs_install _ backend state session).value_ends
  have succeeded := executed.isOk_eq
  change Except.isOk (session.installed backend state).value.1 = _ at succeeded
  rw [installs] at succeeded
  change (session.installed backend state).value.2 = _ at phase
  rw [phase, ← succeeded]
  rfl

/-- The results of all cases are summed up. -/
theorem value_tested
    (installs : (session.installed backend state).value.1 = .ok ()) :
    (session.tested backend state).value =
      (.ok (.ofCases session.suite.name
        ((session.outcomes backend state).map Process.Outcome.value)), .done) := by
  unfold tested
  rw [phase_of_installed installs]
  exact session.value_runTests backend _

/-- All that is asked is asked by the cases. -/
theorem asked_tested
    (installs : (session.installed backend state).value.1 = .ok ()) :
    (session.tested backend state).asked =
      (session.outcomes backend state).flatMap Process.Outcome.asked := by
  unfold tested outcomes
  rw [phase_of_installed installs, ← asked_runCases]
  unfold runTests runAll
  simp only [bind, Process.asked_andThen]
  exact (List.append_nil _).trans (List.append_nil _)

end Installed

end Session
end DataSuite

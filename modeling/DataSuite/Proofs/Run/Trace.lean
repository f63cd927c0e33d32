import DataSuite.Proofs.Run.Course
import DataSuite.Run.Phases

/-!
# The calls of a run

Each operation of a run takes a course that its declared calls alone determine: an
installation and a cleanup attempt their directives, and a case attempts those that arrange
and act, or none at all if it is malformed or expects rows of a load.  A run as a whole
installs, goes through all cases whatever becomes of each, and cleans up if that is set.
-/

namespace DataSuite

variable {σ α β : Type} {backend : Backend σ} {state : σ}

/-- Whether a result comes of directives that have all been executed, or of one that has been
refused. -/
inductive Executed : Except Failure α → Bool → Prop where
  /-- All have been executed. -/
  | all (value : α) : Executed (.ok value) true
  /-- One has been refused. -/
  | refused (step : Step) (causes : List String) : Executed (.error (.execution step causes)) false

theorem Executed.isOk_eq
    {result : Except Failure α}
    {succeeds : Bool}
    (executed : Executed result succeeds) :
    result.isOk = succeeds := by
  cases executed <;> rfl

theorem Executed.map
    {result : Except Failure α}
    {succeeds : Bool}
    (executed : Executed result succeeds)
    (change : α → β) :
    Executed (result.map change) succeeds := by
  cases executed with
  | all value => exact .all (change value)
  | refused step causes => exact .refused step causes

/-- Whether a process that executes directives takes a course and succeeds if the course
does. -/
abbrev Takes
    (backend : Backend σ)
    (state : σ)
    (process : Calls (Except Failure α))
    (course : Course σ) : Prop :=
  Goes backend state process course fun result => Executed result course.succeeded

theorem Takes.succeed (value : α) : Takes backend state (.done (.ok value)) ⟨[], state⟩ :=
  .done (.all value)

/-- A process that goes on only after a success takes one course after the other. -/
theorem Takes.andThen
    {process : Calls (Except Failure α)}
    {next : Except Failure α → Calls (Except Failure β)}
    {first : Course σ}
    {second : σ → Course σ}
    (takes : Takes backend state process first)
    (stops : ∀ failure, next (.error failure) = .done (.error failure))
    (goesOn : ∀ value, Takes backend first.state (next (.ok value)) (second first.state)) :
    Takes backend state (Process.andThen next process) (first.andThen second) := by
  cases ended : first.succeeded with
  | false =>
      rw [Course.andThen_of_not_succeeded ended]
      apply Goes.andThen_silent takes
      intro result executed
      rw [ended] at executed
      cases executed with
      | refused step causes =>
          rw [stops, ended]
          exact .done (.refused step causes)
  | true =>
      rw [Course.andThen_of_succeeded ended]
      apply Goes.andThen takes
      intro result executed
      rw [ended] at executed
      cases executed with
      | all value =>
          rw [Course.succeeded_append, ended, Bool.true_and]
          exact goesOn value

namespace Directive

theorem takes_execute
    (language : Language)
    (directive : Directive) :
    Takes backend state (directive.execute language) (backend.single state directive.call) := by
  unfold execute
  constructor
  · simp only [bind, Process.say, Process.request, Process.andThen, Calls.course, Calls.made,
      Process.run, Backend.single]
    cases (backend directive.call state).1 with
    | error causes => rfl
    | ok answer => rfl
  · simp only [bind, Process.say, Process.request, Process.andThen, Process.run,
      Backend.succeeded_single]
    cases (backend directive.call state).1 with
    | error causes => exact .refused _ causes
    | ok answer => exact .all _

/-- Directives are executed as their calls are attempted. -/
theorem takes_executeAll
    (language : Language)
    (directives : List Directive) :
    Takes backend state (executeAll language directives)
      (backend.attempt state (directives.map call)) := by
  induction directives generalizing state with
  | nil => exact .succeed ()
  | cons directive rest inductionHypothesis =>
      exact Takes.andThen (takes_execute language directive) (fun _ => rfl)
        fun _ => inductionHypothesis

/-- Directives whose results are collected are executed in the same way. -/
theorem takes_collectAll
    (language : Language)
    (directives : List Directive) :
    Takes backend state (collectAll language directives)
      (backend.attempt state (directives.map call)) := by
  induction directives generalizing state with
  | nil => exact .succeed []
  | cons directive rest inductionHypothesis =>
      apply Takes.andThen (takes_execute language directive)
      · intro failure
        rfl
      · intro results
        rw [← Course.andThen_nothing (backend.attempt _ (rest.map call))]
        exact Takes.andThen inductionHypothesis (fun _ => rfl) fun later =>
          .succeed (places results ++ later)

end Directive

/-- The calls that a case declares, first those that arrange it and then those that act: none
if it is malformed or if rows are expected of a load. -/
def TestCase.calls (test : TestCase) : List Call :=
  match test.steps with
  | .error _ => []
  | .ok steps =>
      if steps.misplaced.isEmpty then (steps.arrange ++ steps.act).map Directive.call else []

theorem Steps.takes_execute
    (language : Language)
    (steps : Steps) :
    Takes backend state (steps.execute language)
      (backend.attempt state ((steps.arrange ++ steps.act).map Directive.call)) := by
  rw [List.map_append, Backend.attempt_append]
  exact Takes.andThen (Directive.takes_executeAll language steps.arrange) (fun _ => rfl)
    fun _ => Directive.takes_collectAll language steps.act

/-- A case attempts its calls. -/
theorem TestCase.goes_run
    (language : Language)
    (files : FileTree)
    (title : String)
    (test : TestCase) :
    Goes backend state (test.run language files title) (backend.attempt state test.calls)
      fun _ => True := by
  unfold run calls
  cases test.steps with
  | error fault => exact .done trivial
  | ok steps =>
      simp only
      unfold Steps.run
      cases steps.misplaced with
      | cons first rest => exact .done trivial
      | nil =>
          rw [if_pos List.isEmpty_nil]
          apply Goes.andThen_silent (Steps.takes_execute language steps)
          intro result _
          cases result <;> exact .done trivial

namespace Session

/-- The calls that install the suite. -/
def installationCalls (session : Session) : List Call :=
  session.suite.installations.map Directive.call

/-- The calls that clean up behind the suite. -/
def cleanupCalls (session : Session) : List Call :=
  session.suite.cleanups.map Directive.call

theorem goes_runCase
    (session : Session)
    (test : TestCase) :
    Goes backend state (session.runCase test) (backend.attempt state test.calls)
      fun _ => True :=
  Goes.andThen_silent (test.goes_run session.language session.files _) fun _ _ =>
    .tell (.done trivial) _

/-- Each case attempts its calls, whatever has become of the cases before it. -/
theorem goes_runCases
    (session : Session)
    (tests : List TestCase) :
    Goes backend state (session.runCases tests)
      (backend.attemptEach state (tests.map TestCase.calls)) fun _ => True := by
  induction tests generalizing state with
  | nil => exact .done trivial
  | cons test rest inductionHypothesis =>
      exact Goes.andThen (session.goes_runCase test) fun _ _ =>
        Goes.andThen_silent inductionHypothesis fun _ _ => .done trivial

/-- Whether a process takes a course and ends in a phase, with a success or with the refusal of
a directive. -/
abbrev Performs
    (backend : Backend σ)
    (state : σ)
    (process : Calls (Phased α))
    (course : Course σ)
    (succeeds : Bool)
    (phase : Phase) : Prop :=
  Goes backend state process course fun ended => Executed ended.1 succeeds ∧ ended.2 = phase

/-- The phase to which an installation leads. -/
def phaseAfter (succeeded : Bool) : Phase :=
  if succeeded then .installed else .aborted

theorem performs_install (session : Session) :
    let installed := backend.attempt state session.installationCalls
    Performs backend state (session.install .uninitialized) installed installed.succeeded
      (phaseAfter installed.succeeded) := by
  intro installed
  refine .tell (Goes.andThen_silent
    (Directive.takes_executeAll session.language session.suite.installations)
    fun result executed => ?_) _
  change Executed result installed.succeeded at executed
  revert executed
  cases installed.succeeded with
  | false =>
      rintro (_ | ⟨step, causes⟩)
      exact .tell (.done ⟨.refused step causes, rfl⟩) _
  | true =>
      rintro ⟨value⟩
      exact .done ⟨.all _, rfl⟩

theorem performs_runTests (session : Session) :
    Performs backend state (session.runTests .installed)
      (backend.attemptEach state (session.suite.tests.map TestCase.calls)) true .done := by
  have runsAll :
      Goes backend state session.runAll
        (backend.attemptEach state (session.suite.tests.map TestCase.calls)) fun _ => True :=
    Goes.andThen_silent (session.goes_runCases session.suite.tests) fun _ _ =>
      .tell (.done trivial) _
  exact Goes.andThen_silent runsAll fun summary _ => .done ⟨.all summary, rfl⟩

theorem performs_teardown
    (session : Session)
    {phase : Phase}
    (attempted : phase ≠ .uninitialized) :
    let cleaned := backend.attempt state session.cleanupCalls
    Performs backend state (session.teardown phase) cleaned cleaned.succeeded phase := by
  intro cleaned
  have cleans : Takes backend state session.cleanUp cleaned :=
    .tell (Directive.takes_executeAll session.language session.suite.cleanups) _
  have goes :
      Performs backend state
        (Process.andThen (fun result => .done (result, phase)) session.cleanUp) cleaned
        cleaned.succeeded phase :=
    Goes.andThen_silent cleans fun _ executed => .done ⟨executed, rfl⟩
  cases phase with
  | uninitialized => exact absurd rfl attempted
  | installed => exact goes
  | done => exact goes
  | aborted => exact goes

/-- The calls that clean up behind a run, if that is set. -/
def finalCalls (session : Session) : List Call :=
  if session.settings.cleanups then session.cleanupCalls else []

theorem performs_finish
    (session : Session)
    (summary : Summary)
    {phase : Phase}
    (attempted : phase ≠ .uninitialized) :
    let cleaned := backend.attempt state session.finalCalls
    Performs backend state (session.finish summary phase) cleaned cleaned.succeeded phase := by
  intro cleaned
  unfold finish
  cases set : session.settings.cleanups with
  | false =>
      have nothing : cleaned = ⟨[], state⟩ := by
        unfold cleaned finalCalls
        rw [set]
        rfl
      rw [nothing]
      exact .done ⟨.all summary, rfl⟩
  | true =>
      have cleanup : cleaned = backend.attempt state session.cleanupCalls := by
        unfold cleaned finalCalls
        rw [set]
        rfl
      rw [cleanup]
      apply Goes.andThen_silent (session.performs_teardown attempted)
      intro ended holds
      obtain ⟨result, phaseEnded⟩ := ended
      obtain ⟨executed, rfl⟩ := holds
      revert executed
      cases (backend.attempt state session.cleanupCalls).succeeded with
      | false =>
          rintro (_ | ⟨step, causes⟩)
          exact .tell (.done ⟨.refused step causes, rfl⟩) _
      | true =>
          rintro ⟨value⟩
          exact .done ⟨.all summary, rfl⟩

/-- A run installs; after a success it goes through all cases and cleans up. -/
theorem performs_run (session : Session) :
    let installed := backend.attempt state session.installationCalls
    let tested := backend.attemptEach installed.state (session.suite.tests.map TestCase.calls)
    let cleaned := backend.attempt tested.state session.finalCalls
    Performs backend state (session.run .uninitialized)
      (if installed.succeeded then installed.append (tested.append cleaned) else installed)
      (installed.succeeded && cleaned.succeeded)
      (if installed.succeeded then .done else .aborted) := by
  intro installed tested cleaned
  have installs : Performs backend state (session.install .uninitialized) installed
      installed.succeeded (phaseAfter installed.succeeded) :=
    session.performs_install
  cases ended : installed.succeeded with
  | false =>
      rw [ended] at installs
      apply Goes.andThen_silent installs
      intro result holds
      obtain ⟨result, phase⟩ := result
      obtain ⟨_ | ⟨step, causes⟩, rfl⟩ := holds
      exact .done ⟨.refused step causes, rfl⟩
  | true =>
      rw [ended] at installs
      apply Goes.andThen installs
      intro result holds
      obtain ⟨result, phase⟩ := result
      obtain ⟨⟨value⟩, rfl⟩ := holds
      apply Goes.andThen session.performs_runTests
      intro result holds
      obtain ⟨result, phase⟩ := result
      obtain ⟨⟨summary⟩, rfl⟩ := holds
      exact session.performs_finish summary Phase.noConfusion

/-- The calls of a whole run in order, and when it fails.  The installations come first; if
they have all succeeded, each case follows, and at last the cleanups if they are set.  The
call of a directive is the one that its kind names. -/
theorem run_calls
    (session : Session)
    (backend : Backend σ)
    (state : σ) :
    let outcome := (session.run .uninitialized).run backend state
    let installed := backend.attempt state session.installationCalls
    let tested := backend.attemptEach installed.state (session.suite.tests.map TestCase.calls)
    let cleaned := backend.attempt tested.state session.finalCalls
    outcome.asked =
        installed.calls ++ (if installed.succeeded then tested.calls ++ cleaned.calls else []) ∧
      outcome.value.1.isOk = (installed.succeeded && cleaned.succeeded) ∧
      (∀ text, (Directive.inlineQuery text).call = .query text) ∧
      (∀ path, (Directive.fileQuery path).call = .queryFile path) ∧
      (∀ path table, (Directive.fileLoad path table).call = .load path table) ∧
      (∀ text, (Directive.inlinePlan text).call = .plan text) ∧
      ∀ path, (Directive.filePlan path).call = .planFile path := by
  intro outcome installed tested cleaned
  have performs := @performs_run _ backend state session
  refine ⟨?_, performs.value_ends.1.isOk_eq, fun _ => rfl, fun _ => rfl, fun _ _ => rfl, fun _ => rfl,
    fun _ => rfl⟩
  rw [Calls.asked_run, performs.course_eq]
  change (if installed.succeeded then installed.append (tested.append cleaned)
    else installed).calls = _
  split
  · rw [Course.calls_append, Course.calls_append]
  · exact (List.append_nil _).symm

end Session
end DataSuite

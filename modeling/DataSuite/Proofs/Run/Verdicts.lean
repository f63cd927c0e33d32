import DataSuite.Backend.Script
import DataSuite.Proofs.Places
import DataSuite.Proofs.Run.Foresight

/-!
# Verdicts on cases

The directives that act fill slots, and the kind of a directive and the answer to its call tell
which ones: a query or plan that is written out fills one, a file one for each query in it, and a
load, or a file that has none, leaves one empty.  Where all directives of a case succeed, the case
passes if and only if there is one expectation for each slot, which holds; its failures are those of
the slots in their order, or a single one if the numbers differ.  A run counts as passed exactly the
expectations that have been compared with a slot and hold, and counts each expectation of a
well-formed case once.
-/

namespace DataSuite

variable {σ : Type}

/-! ## What fills slots -/

namespace ResultSet

variable {α : Type}

/-- The slot of what is written out: it has the answer, and stays empty if there is none. -/
def slotOf (result : α → ResultSet) : Except (List String) α → List ResultSet
  | .ok answer => [result answer]
  | .error _ => [.empty]

/-- The slots of a file: each answer has one, and one stays empty if there are none. -/
def slotsOf (result : α → ResultSet) : Except (List String) (List α) → List ResultSet
  | .ok (first :: rest) => result first :: rest.map result
  | _ => [.empty]

end ResultSet

namespace Directive

/-- The slots that a directive fills in a state of a backend.  A query that is written out fills one
with its rows, and a plan one with its steps; a file fills one for each query in it; a load leaves
one empty. -/
def filledIn (backend : Backend σ) (state : σ) : Directive → List ResultSet
  | inlineQuery text => ResultSet.slotOf .rows (backend (.query text) state).1
  | fileQuery path => ResultSet.slotsOf .rows (backend (.queryFile path) state).1
  | fileLoad _ _ => [.empty]
  | inlinePlan text => ResultSet.slotOf .plan (backend (.plan text) state).1
  | filePlan path => ResultSet.slotsOf .plan (backend (.planFile path) state).1

/-- The slots that directives fill one after the other. -/
def filled (backend : Backend σ) : σ → List Directive → List ResultSet
  | _, [] => []
  | state, directive :: rest =>
      directive.filledIn backend state ++ filled backend (backend directive.call state).2 rest

end Directive

/-! ## Slots of directives -/

namespace Directive

/-- The results of a directive in a state of a backend, none if its call is refused. -/
def resultsIn (backend : Backend σ) (state : σ) (directive : Directive) : List ResultSet :=
  match (backend directive.call state).1 with
  | .error _ => []
  | .ok answer => directive.call.results answer

/-- The slots of the results of directives one after the other. -/
def slots (backend : Backend σ) : σ → List Directive → List ResultSet
  | _, [] => []
  | state, directive :: rest =>
      places (directive.resultsIn backend state) ++
        slots backend (backend directive.call state).2 rest

/-- The answers to the queries in a file take the slots of the file. -/
theorem places_map
    {α : Type}
    (result : α → ResultSet)
    (answer : List α) :
    places (answer.map result) = ResultSet.slotsOf result (.ok answer) := by
  cases answer <;> rfl

/-- The results of a directive take the slots that its kind fills. -/
theorem places_resultsIn
    (backend : Backend σ)
    (state : σ)
    (directive : Directive) :
    places (directive.resultsIn backend state) = directive.filledIn backend state := by
  unfold resultsIn
  -- The type of an answer depends on the call, so the reply is put into the slots of each kind.
  cases replied : (backend directive.call state).1 with
  | error causes =>
      cases directive with
      | inlineQuery text => exact (congrArg (ResultSet.slotOf .rows) replied).symm
      | fileQuery path => exact (congrArg (ResultSet.slotsOf .rows) replied).symm
      | fileLoad path table => rfl
      | inlinePlan text => exact (congrArg (ResultSet.slotOf .plan) replied).symm
      | filePlan path => exact (congrArg (ResultSet.slotsOf .plan) replied).symm
  | ok answer =>
      cases directive with
      | inlineQuery text => exact (congrArg (ResultSet.slotOf .rows) replied).symm
      | fileQuery path =>
          exact (places_map .rows answer).trans (congrArg (ResultSet.slotsOf .rows) replied).symm
      | fileLoad path table => rfl
      | inlinePlan text => exact (congrArg (ResultSet.slotOf .plan) replied).symm
      | filePlan path =>
          exact (places_map .plan answer).trans (congrArg (ResultSet.slotsOf .plan) replied).symm

theorem slots_eq_filled
    (backend : Backend σ)
    (state : σ)
    (directives : List Directive) :
    slots backend state directives = filled backend state directives := by
  induction directives generalizing state with
  | nil => rfl
  | cons directive rest inductionHypothesis =>
      rw [slots, filled, places_resultsIn, inductionHypothesis]

theorem goes_execute
    (language : Language)
    {directive : Directive}
    {backend : Backend σ}
    {state : σ}
    (accepted : (backend directive.call state).1.isOk = true) :
    Goes backend state (directive.execute language) (backend.single state directive.call)
      fun result => result = .ok (directive.resultsIn backend state) := by
  refine ⟨(takes_execute language directive).course_eq, ?_⟩
  unfold execute resultsIn
  simp only [bind, Process.say, Process.request, Process.andThen, Process.run]
  cases replied : (backend directive.call state).1 with
  | error causes =>
      rw [replied] at accepted
      cases accepted
  | ok answer => rfl

/-- Directives that all succeed fill their slots. -/
theorem goes_collectAll
    (language : Language)
    {backend : Backend σ}
    {state : σ}
    {directives : List Directive}
    (succeed : (backend.attempt state (directives.map call)).succeeded = true) :
    Goes backend state (collectAll language directives)
      (backend.attempt state (directives.map call))
      fun result => result = .ok (slots backend state directives) := by
  induction directives generalizing state with
  | nil => exact .done rfl
  | cons directive rest inductionHypothesis =>
      rw [List.map_cons, Backend.attempt] at succeed ⊢
      rw [Course.succeeded_andThen, Bool.and_eq_true] at succeed
      obtain ⟨accepted, succeedLater⟩ := succeed
      rw [Course.andThen_of_succeeded accepted]
      apply Goes.andThen (goes_execute language (backend.succeeded_single _ _ ▸ accepted))
      rintro _ rfl
      apply Goes.andThen_silent (inductionHypothesis succeedLater)
      rintro _ rfl
      exact .done rfl

end Directive

/-! ## Slots of cases -/

namespace Steps

/-- Whether all directives that arrange and act succeed. -/
def Succeed (backend : Backend σ) (state : σ) (steps : Steps) : Prop :=
  (backend.attempt state ((steps.arrange ++ steps.act).map Directive.call)).succeeded = true

instance (backend : Backend σ) (state : σ) : DecidablePred (Succeed backend state) := fun _ =>
  inferInstanceAs (Decidable (_ = true))

/-- The slots of a case, which are filled once it is arranged. -/
def filled (backend : Backend σ) (state : σ) (steps : Steps) : List ResultSet :=
  Directive.filled backend (backend.attempt state (steps.arrange.map Directive.call)).state
    steps.act

/-- The slots of the results of a case. -/
def slots (backend : Backend σ) (state : σ) (steps : Steps) : List ResultSet :=
  Directive.slots backend (backend.attempt state (steps.arrange.map Directive.call)).state
    steps.act

theorem slots_eq_filled
    (backend : Backend σ)
    (state : σ)
    (steps : Steps) :
    steps.slots backend state = steps.filled backend state :=
  Directive.slots_eq_filled backend _ steps.act

section Executed

variable (language : Language) {backend : Backend σ} {state : σ} {steps : Steps}

/-- A case whose directives all succeed fills its slots. -/
theorem goes_execute (succeed : steps.Succeed backend state) :
    Goes backend state (steps.execute language)
      (backend.attempt state ((steps.arrange ++ steps.act).map Directive.call))
      fun result => result = .ok (steps.slots backend state) := by
  rw [Succeed, List.map_append, Backend.attempt_append, Course.succeeded_andThen,
    Bool.and_eq_true] at succeed
  obtain ⟨arranged, acted⟩ := succeed
  rw [List.map_append, Backend.attempt_append, Course.andThen_of_succeeded arranged]
  apply Goes.andThen (Directive.takes_executeAll language steps.arrange)
  intro result executed
  rw [arranged] at executed
  cases executed with
  | all _ => exact Directive.goes_collectAll language acted

/-- A case whose directives all succeed is judged by its slots. -/
theorem value_run_of_succeed
    (files : FileTree)
    (title : String)
    (executed : steps.misplaced = [])
    (succeed : steps.Succeed backend state) :
    ((steps.run language files title).run backend state).value =
      .judged title steps.expect.length
        (steps.failures language files (steps.slots backend state)) := by
  have goes := goes_execute language succeed
  unfold run
  rw [executed]
  change ((Process.andThen _ (steps.execute language)).run backend state).value = _
  rw [Process.value_andThen, goes.value_ends]
  rfl

/-- A case of which a directive is refused ends early. -/
theorem value_run_of_not_succeed
    (files : FileTree)
    (title : String)
    (executed : steps.misplaced = [])
    (refused : ¬ steps.Succeed backend state) :
    ∃ failure, ((steps.run language files title).run backend state).value =
      .ended language title steps.expect.length failure := by
  have taken := (@takes_execute _ backend state language steps).value_ends
  rw [eq_false_of_ne_true refused] at taken
  unfold run
  rw [executed]
  change ∃ failure,
    ((Process.andThen _ (steps.execute language)).run backend state).value = _
  rw [Process.value_andThen]
  revert taken
  cases ((steps.execute language).run backend state).value with
  | ok results => rintro ⟨⟩
  | error failure => exact fun _ => ⟨failure, rfl⟩

end Executed

/-! ## Failures of slots -/

section Failures

variable (language : Language) (files : FileTree)

/-- The failure of a slot in which an expectation does not hold. -/
def failureAt? (pair : (ResultSet × Expectation) × Nat) : Option CaseFailure :=
  match pair.1.2.verify files pair.1.1 with
  | .ok () => none
  | .error cause => some ⟨some pair.2, cause.display language⟩

theorem failureAt?_eq_some_iff
    {actual : ResultSet}
    {expectation : Expectation}
    {place : Nat}
    {failure : CaseFailure} :
    failureAt? language files ((actual, expectation), place) = some failure ↔
      ∃ cause, expectation.verify files actual = .error cause ∧
        failure = ⟨some place, cause.display language⟩ := by
  unfold failureAt?
  cases expectation.verify files actual with
  | ok _ => simp
  | error cause => simp [eq_comm]

/-- Each slot is judged by itself. -/
theorem failuresFrom_eq
    (place : Nat)
    (results : List ResultSet)
    (expectations : List Expectation) :
    failuresFrom language files place results expectations =
      (numberedPairs place results expectations).filterMap (failureAt? language files) := by
  induction results generalizing place expectations with
  | nil => rfl
  | cons actual later inductionHypothesis =>
      cases expectations with
      | nil => rfl
      | cons expectation others =>
          unfold failuresFrom
          rw [inductionHypothesis, numberedPairs_cons_cons, List.filterMap_cons, failureAt?]
          cases expectation.verify files actual <;> rfl

/-- As many slots fail as expectations do not hold. -/
theorem length_failuresFrom
    (place : Nat)
    (results : List ResultSet)
    (expectations : List Expectation) :
    (failuresFrom language files place results expectations).length =
      (results.zip expectations).countP fun pair => !(pair.2.verify files pair.1).isOk := by
  rw [failuresFrom_eq, List.length_filterMap_eq_countP, ← map_fst_numberedPairs place,
    List.countP_map]
  apply List.countP_congr
  intro pair _
  unfold failureAt?
  rw [Function.comp_apply]
  cases pair.1.2.verify files pair.1.1 <;> simp [Except.isOk, Except.toBool]

end Failures

end Steps

/-- Whether a failure is that of an earlier expectation than another one. -/
def CaseFailure.Precedes (first second : CaseFailure) : Prop :=
  ∃ place place', first.place = some place ∧ second.place = some place' ∧ place < place'

/-- Whether the result of a case tells how slots and expectations fit together. -/
structure CaseResult.Judges
    (language : Language)
    (files : FileTree)
    (slots : List ResultSet)
    (expectations : List Expectation)
    (result : CaseResult) : Prop where
  /-- The case has not ended early. -/
  error : result.error = none
  /-- It passes if and only if there is one expectation for each slot, which holds. -/
  passed_iff : result.passed = true ↔
    List.Forall₂ (fun slot expectation => expectation.verify files slot = .ok ()) slots
      expectations
  /-- If the numbers differ, this is all that is told. -/
  miscounted : slots.length ≠ expectations.length →
    result.failures = [⟨none, (Message.countMismatch expectations.length slots.length).text
      language⟩]
  /-- Else the failures stand in the order of their places. -/
  rising : slots.length = expectations.length →
    result.failures.Pairwise CaseFailure.Precedes
  /-- There is one for each expectation that does not hold, with the text of the reason. -/
  mem_failures_iff : slots.length = expectations.length → ∀ failure,
    failure ∈ result.failures ↔
      ∃ place slot expectation cause, slots[place]? = some slot ∧
        expectations[place]? = some expectation ∧ expectation.verify files slot = .error cause ∧
          failure = ⟨some place, cause.display language⟩

namespace Steps

section Judged

variable (language : Language) (files : FileTree) {steps : Steps} {slots : List ResultSet}

theorem failures_eq_nil_iff :
    steps.failures language files slots = [] ↔
      List.Forall₂ (fun slot expectation => expectation.verify files slot = .ok ()) slots
        steps.expect := by
  unfold failures
  rw [List.forall₂_iff_zip]
  split
  · rename_i sameLength
    have holds (pair : ResultSet × Expectation) :
        ¬ (!(pair.2.verify files pair.1).isOk) = true ↔ pair.2.verify files pair.1 = .ok () := by
      cases pair.2.verify files pair.1 <;> simp [Except.isOk, Except.toBool]
    rw [← List.length_eq_zero_iff, length_failuresFrom, List.countP_eq_zero]
    simp only [holds]
    exact ⟨fun all => ⟨sameLength, all _⟩, fun all pair => all.2⟩
  · rename_i otherLength
    exact iff_of_false (List.cons_ne_nil _ _) fun agreeing => otherLength agreeing.1

theorem mem_failures_iff
    (sameLength : slots.length = steps.expect.length)
    {failure : CaseFailure} :
    failure ∈ steps.failures language files slots ↔
      ∃ place slot expectation cause, slots[place]? = some slot ∧
        steps.expect[place]? = some expectation ∧ expectation.verify files slot = .error cause ∧
          failure = ⟨some place, cause.display language⟩ := by
  rw [failures, if_pos sameLength, failuresFrom_eq, List.mem_filterMap]
  simp only [mem_numberedPairs_iff]
  constructor
  · rintro ⟨_, ⟨place, slot, expectation, foundSlot, foundExpectation, rfl⟩, fails⟩
    obtain ⟨cause, refuted, rfl⟩ := (failureAt?_eq_some_iff language files).mp fails
    rw [Nat.zero_add]
    exact ⟨place, slot, expectation, cause, foundSlot, foundExpectation, refuted, rfl⟩
  · rintro ⟨place, slot, expectation, cause, foundSlot, foundExpectation, fails, rfl⟩
    refine ⟨_, ⟨place, slot, expectation, foundSlot, foundExpectation, rfl⟩, ?_⟩
    rw [Nat.zero_add]
    exact (failureAt?_eq_some_iff language files).mpr ⟨cause, fails, rfl⟩

theorem pairwise_failures (sameLength : slots.length = steps.expect.length) :
    (steps.failures language files slots).Pairwise CaseFailure.Precedes := by
  rw [failures, if_pos sameLength, failuresFrom_eq, List.pairwise_filterMap]
  refine (pairwise_numberedPairs 0 slots steps.expect).imp ?_
  intro earlier later rises failure found failure' foundLater
  obtain ⟨_, -, rfl⟩ := (failureAt?_eq_some_iff language files).mp found
  obtain ⟨_, -, rfl⟩ := (failureAt?_eq_some_iff language files).mp foundLater
  exact ⟨_, _, rfl, rfl, rises⟩

theorem judges_judged (title : String) :
    (CaseResult.judged title steps.expect.length
      (steps.failures language files slots)).Judges language files slots steps.expect where
  error := rfl
  passed_iff := List.isEmpty_iff.trans (failures_eq_nil_iff language files)
  miscounted otherLength := if_neg otherLength
  rising := pairwise_failures language files
  mem_failures_iff sameLength _ := mem_failures_iff language files sameLength

end Judged

/-! ## Counts -/

/-- The slots of a case that are compared, each with its expectation: none unless the case is
executed, its directives succeed, and there is one expectation for each slot. -/
def compared (backend : Backend σ) (state : σ) (steps : Steps) :
    List (ResultSet × Expectation) :=
  if steps.misplaced = [] ∧ steps.Succeed backend state ∧
      (steps.filled backend state).length = steps.expect.length then
    (steps.filled backend state).zip steps.expect
  else []

end Steps

namespace CaseResult

/-- A case that has ended early has no expectation counted as passed. -/
theorem countedPassed_of_endedEarly
    {result : CaseResult}
    (early : result.endedEarly = true) :
    result.countedPassed = 0 := by
  rw [countedPassed, failedCount, if_pos early, Nat.sub_self]

end CaseResult

namespace Steps

/-- Of a case whose slots are compared, those expectations are counted as passed that hold. -/
theorem countedPassed_judged
    (language : Language)
    (files : FileTree)
    (title : String)
    {steps : Steps}
    {slots : List ResultSet}
    (sameLength : slots.length = steps.expect.length) :
    (CaseResult.judged title steps.expect.length
        (steps.failures language files slots)).countedPassed =
      (slots.zip steps.expect).countP fun pair => (pair.2.verify files pair.1).isOk := by
  have placed :
      (CaseResult.judged title steps.expect.length
        (steps.failures language files slots)).endedEarly = false := by
    refine List.any_eq_false.mpr fun failure member => ?_
    obtain ⟨_, _, _, _, -, -, -, rfl⟩ := (mem_failures_iff language files sameLength).mp member
    exact Bool.false_ne_true
  have length : (slots.zip steps.expect).length = steps.expect.length := by
    rw [List.length_zip, sameLength, Nat.min_self]
  have split := (slots.zip steps.expect).length_eq_countP_add_countP
    fun pair => (pair.2.verify files pair.1).isOk
  have failed : (steps.failures language files slots).length =
      (slots.zip steps.expect).countP fun pair => !(pair.2.verify files pair.1).isOk := by
    rw [failures, if_pos sameLength, length_failuresFrom]
  rw [CaseResult.countedPassed, CaseResult.failedCount, placed]
  change steps.expect.length - (steps.failures language files slots).length = _
  simp only [Bool.not_eq_true, Bool.decide_eq_false] at split
  omega

/-- The expectations of a case that are counted as passed are those that are compared and hold. -/
theorem countedPassed_run
    (language : Language)
    (files : FileTree)
    (title : String)
    (steps : Steps)
    (backend : Backend σ)
    (state : σ) :
    ((steps.run language files title).run backend state).value.countedPassed =
      (steps.compared backend state).countP fun pair => (pair.2.verify files pair.1).isOk := by
  unfold compared
  by_cases executed : steps.misplaced = []
  · by_cases succeed : steps.Succeed backend state
    · rw [value_run_of_succeed language files title executed succeed, slots_eq_filled]
      by_cases sameLength : (steps.filled backend state).length = steps.expect.length
      · rw [if_pos ⟨executed, succeed, sameLength⟩]
        exact countedPassed_judged language files title sameLength
      · rw [if_neg fun all => sameLength all.2.2, failures, if_neg sameLength]
        exact CaseResult.countedPassed_of_endedEarly rfl
    · obtain ⟨failure, ended⟩ := value_run_of_not_succeed language files title executed succeed
      rw [if_neg fun all => succeed all.2.1, ended]
      exact CaseResult.countedPassed_of_endedEarly rfl
  · rw [if_neg fun all => executed all.1, run_of_misplaced language files title executed]
    exact CaseResult.countedPassed_of_endedEarly rfl

end Steps

namespace TestCase

/-- The number of expectations of a case, none if it is malformed. -/
def expectationCount (test : TestCase) : Nat :=
  match test.steps with
  | .error _ => 0
  | .ok steps => steps.expect.length

/-- The slots of a case that are compared, each with its expectation. -/
def compared (backend : Backend σ) (state : σ) (test : TestCase) :
    List (ResultSet × Expectation) :=
  match test.steps with
  | .error _ => []
  | .ok steps => steps.compared backend state

theorem expectations_check
    (language : Language)
    (title : String)
    (test : TestCase) :
    (test.check language title).expectations = test.expectationCount := by
  unfold check expectationCount
  cases test.steps <;> rfl

theorem countedPassed_run
    (language : Language)
    (files : FileTree)
    (title : String)
    (test : TestCase)
    (backend : Backend σ)
    (state : σ) :
    ((test.run language files title).run backend state).value.countedPassed =
      (test.compared backend state).countP fun pair => (pair.2.verify files pair.1).isOk := by
  unfold run compared
  cases test.steps with
  | error fault => exact CaseResult.countedPassed_of_endedEarly rfl
  | ok steps => exact steps.countedPassed_run language files title backend state

end TestCase

namespace Backend

/-- Cases that are run one after the other, each with the state in which the calls of those before
it have left the backend. -/
def casesFrom (backend : Backend σ) : σ → List TestCase → List (TestCase × σ)
  | _, [] => []
  | state, test :: rest =>
      (test, state) :: casesFrom backend (backend.attempt state test.calls).state rest

theorem map_fst_casesFrom
    (backend : Backend σ)
    (state : σ)
    (tests : List TestCase) :
    (backend.casesFrom state tests).map Prod.fst = tests := by
  induction tests generalizing state with
  | nil => rfl
  | cons test rest inductionHypothesis => exact congrArg (test :: ·) (inductionHypothesis _)

end Backend

/-! ## Sessions -/

namespace Session

theorem caseOutcomes_eq
    (session : Session)
    (backend : Backend σ)
    (state : σ)
    (tests : List TestCase) :
    session.caseOutcomes backend state tests =
      (backend.casesFrom state tests).map fun started =>
        (session.runCase started.1).run backend started.2 := by
  induction tests generalizing state with
  | nil => rfl
  | cons test rest inductionHypothesis =>
      have left : ((session.runCase test).run backend state).state =
          (backend.attempt state test.calls).state :=
        congrArg Course.state (session.goes_runCase test).course_eq
      unfold caseOutcomes Backend.casesFrom
      rw [List.map_cons, ← inductionHypothesis, ← left]

/-- A case that is well formed, expects no rows of a load and of which all directives succeed is
judged by its slots, and no slot is compared if there are more or fewer of them than expectations.
Over all cases, as many expectations are counted as passed as slots have been compared with
success, and all expectations of well-formed cases are counted. -/
theorem judges_and_counts
    (session : Session)
    (backend : Backend σ)
    (state : σ) :
    (∀ (test : TestCase) (steps : Steps) (state : σ), test.steps = .ok steps →
      steps.misplaced = [] → steps.Succeed backend state →
        ((session.runCase test).run backend state).value.Judges session.language session.files
            (steps.filled backend state) steps.expect ∧
          ((steps.filled backend state).length ≠ steps.expect.length →
            test.compared backend state = [])) ∧
      ∃ summary, ((session.runTests .installed).run backend state).value = (.ok summary, .done) ∧
        let started := backend.casesFrom state session.suite.tests
        let compared := started.flatMap fun case => case.1.compared backend case.2
        summary.cases =
            started.map (fun case => ((session.runCase case.1).run backend case.2).value) ∧
          summary.passedExpectations =
            compared.countP (fun pair => (pair.2.verify session.files pair.1).isOk) ∧
          summary.passedExpectations + summary.failedExpectations =
            (session.suite.tests.map TestCase.expectationCount).sum := by
  constructor
  · intro test steps state wellFormed executed succeed
    constructor
    · rw [value_runCase, TestCase.run, wellFormed]
      dsimp only
      rw [Steps.value_run_of_succeed session.language session.files _ executed succeed,
        Steps.slots_eq_filled]
      exact Steps.judges_judged session.language session.files _
    · intro otherLength
      rw [TestCase.compared, wellFormed]
      exact if_neg fun all => otherLength all.2.2
  · refine ⟨_, session.value_runTests backend state, ?_, ?_, ?_⟩
    all_goals rw [Summary.ofCases_eq_tally, caseOutcomes_eq, List.map_map]
    · rfl
    · change (List.map CaseResult.countedPassed _).sum = _
      rw [List.countP_flatMap, List.map_map]
      congr 1
      refine List.map_congr_left fun started _ => ?_
      rw [Function.comp_apply, Function.comp_apply, value_runCase]
      exact TestCase.countedPassed_run session.language session.files _ started.1 backend _
    · have counted : session.suite.tests.map TestCase.expectationCount =
          (backend.casesFrom state session.suite.tests).map
            (TestCase.expectationCount ∘ Prod.fst) := by
        rw [← List.map_map, backend.map_fst_casesFrom]
      rw [← Summary.totalExpectations_tally, counted]
      change (List.map CaseResult.expectations _).sum = _
      rw [List.map_map]
      congr 1
      refine List.map_congr_left fun started _ => ?_
      exact (session.foretold_runCase started.1 backend started.2).expectations.trans
        (TestCase.expectations_check session.language _ started.1)

/-- The steps of a case with directives of every kind: a query, a file of two queries, a load, a
plan, and a file that has no plans. -/
def everyKind : Steps where
  arrange := [.inlineQuery "delete from t"]
  act :=
    [ .inlineQuery "select id from t", .fileQuery "queries.sql", .fileLoad "seed.csv" "t",
      .inlinePlan "select * from t", .filePlan "none.sql" ]
  expect :=
    [ .nothing,
      .comparison ⟨.rows [.ofPairs [("id", .number (.integer 1))]], none, none, none⟩,
      .nothing, .nothing, .noFullScan "t", .nothing ]

/-- A session with this case behind a malformed one. -/
def behindActless : Session where
  suite :=
    { name := "slots"
      installations := []
      cleanups := []
      tests := [⟨.text "#1", .error (.testCase .noAct)⟩, ⟨.text "#2", .ok everyKind⟩] }
  settings := ⟨"en", false⟩
  language := .english
  files := .empty

/-- The case fills six slots, of which the rows of the query and the steps of the plan are not as
expected. -/
theorem judges_and_counts_everyKind :
    let row := Row.ofPairs [("id", .number (.integer 1))]
    let scan := PlanStep.ofDetail 1 0 "SCAN t"
    let backend := Script.backend
      ⟨[("select id from t", [row])], [("queries.sql", [[row], []])],
        [("select * from t", [scan])], [], []⟩
    everyKind.misplaced = [] ∧ everyKind.Succeed backend () ∧
      everyKind.filled backend () =
        [.rows [row], .rows [row], .rows [], .empty, .plan [scan], .empty] ∧
      ∃ summary malformed result,
        ((behindActless.runTests .installed).run backend ()).value = (.ok summary, .done) ∧
          summary.cases = [malformed, result] ∧ result.error = none ∧ result.passed = false ∧
          result.failures.map CaseFailure.place = [some 0, some 4] ∧
          summary.passedExpectations = 4 ∧
          summary.passedExpectations + summary.failedExpectations = 6 := by
  intro row scan backend
  have executed : everyKind.misplaced = [] := rfl
  have succeed : everyKind.Succeed backend () := rfl
  obtain ⟨judged, summary, ended, cases, passed, total⟩ :=
    judges_and_counts behindActless backend ()
  obtain ⟨judges, -⟩ := judged ⟨.text "#2", .ok everyKind⟩ _ () rfl executed succeed
  have both : summary.cases = [_, ((behindActless.runCase
      ⟨.text "#2", .ok everyKind⟩).run backend ()).value] := cases
  refine ⟨executed, succeed, rfl, summary, _, _, ended, both, judges.error, ?_, rfl,
    passed.trans rfl, total⟩
  refine Bool.eq_false_iff.mpr fun holds => ?_
  cases judges.passed_iff.mp holds with
  | cons first _ => cases first

end Session
end DataSuite

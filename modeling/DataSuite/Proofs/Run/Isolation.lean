import DataSuite.Backend.Script
import DataSuite.Proofs.Process
import DataSuite.Proofs.Run.Cases

/-!
# Cases do not influence each other

A case leaves nothing behind that a later one reads but the state of the backend.  Where the
answer to a call depends on nothing but the call, the result of a case is therefore the same
whatever cases stand before and behind it.
-/

namespace DataSuite

variable {σ : Type}

namespace Session

/-- The session with other cases. -/
def withTests (session : Session) (tests : List TestCase) : Session :=
  { session with suite := { session.suite with tests := tests } }

/-- The result of a case where each call has one reply. -/
def resultUnder (session : Session) (replyTo : (call : Call) → call.Reply) (test : TestCase) :
    CaseResult :=
  (session.runCase test).valueUnder replyTo

/-- Whatever the cases of a suite are, the results are those of each case by itself. -/
theorem tested_withTests
    {session : Session}
    {backend : Backend σ}
    {replyTo : (call : Call) → call.Reply}
    (replies : ∀ call state, (backend call state).1 = replyTo call)
    {state : σ}
    (installs : (session.installed backend state).value.1 = .ok ())
    (tests : List TestCase) :
    ∃ summary, ((session.withTests tests).tested backend state).value = (.ok summary, .done) ∧
      summary.cases = tests.map (session.resultUnder replyTo) := by
  have installsToo : ((session.withTests tests).installed backend state).value.1 = .ok () :=
    installs
  refine ⟨_, value_tested installsToo, ?_⟩
  rw [Summary.cases_ofCases]
  refine map_value_caseOutcomes (fun test state => ?_) _ tests
  -- Running a case looks at the settings, the language and the files, not at the other cases.
  change ((session.runCase test).run backend state).value = _
  exact Process.value_run_eq_valueUnder replies state (session.runCase test)

/-- Where the answer to a call depends on the call alone, the result of a case is the one that it
has as the only case of the suite, whatever cases the suite has: there is one result for each of
them, in their order. -/
theorem tested_cases_eq_alone
    (session : Session)
    (backend : Backend σ)
    (replyTo : (call : Call) → call.Reply)
    (replies : ∀ call state, (backend call state).1 = replyTo call)
    (state : σ)
    (installs : (session.installed backend state).value.1 = .ok ()) :
    ∃ alone : TestCase → CaseResult,
      (∀ test, ∃ summary,
        ((session.withTests [test]).tested backend state).value = (.ok summary, .done) ∧
          summary.cases = [alone test]) ∧
      ∀ tests, ∃ summary,
        ((session.withTests tests).tested backend state).value = (.ok summary, .done) ∧
          summary.cases = tests.map alone :=
  ⟨session.resultUnder replyTo, fun test => tested_withTests replies installs [test],
    tested_withTests replies installs⟩

/-- A case without an act. -/
def actless : TestCase :=
  ⟨.text "#1", .error (.testCase .noAct)⟩

/-- A case that selects and expects no rows. -/
def selecting : TestCase :=
  ⟨.text "select", .ok ⟨[], [.inlineQuery "select 1"], [.nothing]⟩⟩

/-- A session in which both cases stand. -/
def actlessFirst : Session where
  suite :=
    { name := "pair"
      installations := [.inlineQuery "create table t(id int)"]
      cleanups := []
      tests := [actless, selecting] }
  settings := ⟨"en", false⟩
  language := .english
  files := .empty

/-- The case that selects has behind a malformed one the result that it has alone. -/
theorem tested_cases_behind_actless :
    let script : Script := ⟨[], [], [], [], []⟩
    (actlessFirst.installed script.backend ()).value.1 = .ok () ∧
      ∃ single both malformed selected,
        ((actlessFirst.withTests [selecting]).tested script.backend ()).value =
          (.ok single, .done) ∧
        (actlessFirst.tested script.backend ()).value = (.ok both, .done) ∧
        single.cases = [selected] ∧ both.cases = [malformed, selected] := by
  intro script
  have installs : (actlessFirst.installed script.backend ()).value.1 = .ok () := rfl
  obtain ⟨alone, single, all⟩ :=
    tested_cases_eq_alone actlessFirst script.backend script.reply (fun _ _ => rfl) () installs
  obtain ⟨one, oneEnds, oneCases⟩ := single selecting
  obtain ⟨both, bothEnd, bothCases⟩ := all [actless, selecting]
  exact ⟨installs, one, both, alone actless, alone selecting, oneEnds, bothEnd, oneCases,
    bothCases⟩

end Session
end DataSuite

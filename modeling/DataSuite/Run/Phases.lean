import DataSuite.Run.Case

/-!
# The phases of a run

A session installs its suite, runs the cases and tears down.  Each operation starts in a
phase and leads to one; an operation that does not fit its phase is refused, asks nothing
and changes nothing.
-/

namespace DataSuite

/-- What an operation yields and the phase that it leads to. -/
abbrev Phased (α : Type) :=
  Except Failure α × Phase

/-- The refusal of an operation that does not fit a phase. -/
def Failure.wrongPhase (expected actual : Phase) : Failure :=
  .specification (.suite (.wrongPhase expected actual))

namespace Session

/-- Execute the installations. -/
def installAll (session : Session) : Calls (Phased Unit) := do
  let suite := session.suite
  Process.say .info
    ((Message.installing suite.name suite.installations.length).text session.language)
  match ← Directive.executeAll session.language suite.installations with
  | .ok () => return (.ok (), .installed)
  | .error failure => do
      let error := failure.display session.language
      Process.say .warning ((Message.installationFailed error).text session.language)
      return (.error failure, .aborted)

/-- Install the suite, which has to be the first operation. -/
def install (session : Session) (phase : Phase) : Calls (Phased Unit) :=
  match phase with
  | .uninitialized => session.installAll
  | _ => return (.error (.wrongPhase .uninitialized phase), phase)

/-- What is told about the result of a case. -/
def caseEntry (session : Session) (result : CaseResult) : LogEntry :=
  if result.passed then ⟨.debug, (Message.casePassed result.title).text session.language⟩
  else ⟨.warning, (Message.caseFailed result.title).text session.language⟩

/-- Run a case and tell how it went. -/
def runCase (session : Session) (test : TestCase) : Calls CaseResult := do
  let result ← test.run session.language session.files (session.titleOf test)
  let entry := session.caseEntry result
  Process.say entry.level entry.text
  return result

/-- Run cases one after the other. -/
def runCases (session : Session) : List TestCase → Calls (List CaseResult)
  | [] => return []
  | test :: rest => do
      let result ← session.runCase test
      let results ← runCases session rest
      return result :: results

/-- Run all cases and sum up. -/
def runAll (session : Session) : Calls Summary := do
  let results ← session.runCases session.suite.tests
  let summary := Summary.ofCases session.suite.name results
  Process.say .info
    ((Message.suiteFinished summary.name summary.passed summary.failed).text session.language)
  return summary

/-- Run the cases once the suite is installed. -/
def runTests (session : Session) (phase : Phase) : Calls (Phased Summary) :=
  match phase with
  | .installed => do
      let summary ← session.runAll
      return (.ok summary, .done)
  | _ => return (.error (.wrongPhase .installed phase), phase)

/-- Execute the cleanups. -/
def cleanUp (session : Session) : Calls (Except Failure Unit) := do
  let suite := session.suite
  Process.say .info ((Message.cleaningUp suite.name suite.cleanups.length).text session.language)
  Directive.executeAll session.language suite.cleanups

/-- Tear down, which an installation has to precede; the phase stays. -/
def teardown (session : Session) (phase : Phase) : Calls (Phased Unit) :=
  match phase with
  | .uninitialized => return (.error (.wrongPhase .installed phase), phase)
  | _ => do
      let result ← session.cleanUp
      return (result, phase)

/-- Clean up behind a run if that is set, and tell what fails. -/
def finish (session : Session) (summary : Summary) (phase : Phase) :
    Calls (Phased Summary) := do
  if !session.settings.cleanups then return (.ok summary, phase)
  match ← session.teardown phase with
  | (.ok (), phase) => return (.ok summary, phase)
  | (.error failure, phase) => do
      let error := failure.display session.language
      Process.say .warning ((Message.cleanupFailed error).text session.language)
      return (.error failure, phase)

/-- Install, run all cases, and clean up if that is set. -/
def run (session : Session) (phase : Phase) : Calls (Phased Summary) := do
  match ← session.install phase with
  | (.error failure, phase) => return (.error failure, phase)
  | (.ok (), phase) => do
      match ← session.runTests phase with
      | (.error failure, phase) => return (.error failure, phase)
      | (.ok summary, phase) => session.finish summary phase

end Session
end DataSuite

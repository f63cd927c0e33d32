import DataSuite.Proofs.Run.Trace

/-!
# The history of a session

The operations of a session are written once more so that each piece of work announces what
it is for and each call carries that purpose.  What is announced is not asked of the backend:
without it the operations are those of the session itself.  A run of such a process leaves a
history of what has begun and which calls have been made for it.
-/

namespace DataSuite

/-! ## Deeds and their purposes -/

/-- What calls are made for. -/
inductive Purpose where
  /-- To install the suite. -/
  | installation
  /-- To run the case at a place. -/
  | case (place : Nat)
  /-- To clean up. -/
  | cleanup
deriving DecidableEq

/-- What a session intends: to begin some work, or to make a call for it. -/
inductive Intent where
  /-- Some work begins. -/
  | start (purpose : Purpose)
  /-- A call is made. -/
  | call (purpose : Purpose) (call : Call)

/-- The reply to an intent; to begin some work needs none. -/
def Intent.Reply : Intent → Type
  | start _ => Unit
  | call _ made => made.Reply

/-- A process whose calls carry their purpose. -/
abbrev Labelled (α : Type) :=
  Process Intent Intent.Reply α

/-- What has been done. -/
inductive Deed where
  /-- Some work has begun. -/
  | begun (purpose : Purpose)
  /-- A call has been made for it and has succeeded or not. -/
  | made (purpose : Purpose) (call : Call) (succeeded : Bool)
deriving DecidableEq

namespace Deed

/-- What something has been done for. -/
def purpose : Deed → Purpose
  | begun purpose => purpose
  | made purpose _ _ => purpose

/-- The call that has been made. -/
def call? : Deed → Option Call
  | begun _ => none
  | made _ call _ => some call

/-- The deeds of some work that has begun and made calls. -/
def work (purpose : Purpose) (calls : List (Call × Bool)) : List Deed :=
  begun purpose :: calls.map fun call => made purpose call.1 call.2

theorem purpose_of_mem_work
    {purpose : Purpose}
    {calls : List (Call × Bool)}
    {deed : Deed}
    (member : deed ∈ work purpose calls) :
    deed.purpose = purpose := by
  rcases List.mem_cons.mp member with rfl | member
  · rfl
  · obtain ⟨call, -, rfl⟩ := List.mem_map.mp member
    rfl

end Deed

/-! ## Labelled processes -/

namespace Labelled

variable {σ α β : Type}

/-- The process without its labels. -/
def erase : Labelled α → Calls α
  | .done value => .done value
  | .tell entry rest => .tell entry (erase rest)
  | .ask (.start _) rest => erase (rest ())
  | .ask (.call _ call) rest => .ask call fun reply => erase (rest reply)

/-- What a process does. -/
def deeds (backend : Backend σ) : σ → Labelled α → List Deed
  | _, .done _ => []
  | state, .tell _ rest => deeds backend state rest
  | state, .ask (.start purpose) rest => .begun purpose :: deeds backend state (rest ())
  | state, .ask (.call purpose call) rest =>
      let replied := backend call state
      .made purpose call replied.1.isOk :: deeds backend replied.2 (rest replied.1)

/-- A process all of whose calls have one purpose. -/
def label (purpose : Purpose) : Calls α → Labelled α
  | .done value => .done value
  | .tell entry rest => .tell entry (label purpose rest)
  | .ask call rest => .ask (.call purpose call) fun reply => label purpose (rest reply)

/-- A process that is announced and whose calls all have one purpose. -/
def announced (purpose : Purpose) (process : Calls α) : Labelled α :=
  .ask (.start purpose) fun _ => label purpose process

@[simp] theorem erase_label (purpose : Purpose) (process : Calls α) :
    erase (label purpose process) = process := by
  induction process with
  | done value => rfl
  | tell entry rest inductionHypothesis => exact congrArg (Process.tell entry) inductionHypothesis
  | ask call rest inductionHypothesis =>
      exact congrArg (Process.ask call) (funext inductionHypothesis)

@[simp] theorem erase_announced (purpose : Purpose) (process : Calls α) :
    erase (announced purpose process) = process :=
  erase_label purpose process

/-- Labels are erased from a process and from what follows it. -/
theorem erase_andThen
    (process : Labelled α)
    (next : α → Labelled β) :
    erase (process.andThen next) = (erase process).andThen fun value => erase (next value) := by
  induction process with
  | done value => rfl
  | tell entry rest inductionHypothesis => exact congrArg (Process.tell entry) inductionHypothesis
  | ask intent rest inductionHypothesis =>
      cases intent with
      | start purpose => exact inductionHypothesis ()
      | call purpose call => exact congrArg (Process.ask call) (funext inductionHypothesis)

theorem erase_andThen_eq
    {process : Labelled α}
    {next : α → Labelled β}
    {original : Calls α}
    {originalNext : α → Calls β}
    (erased : erase process = original)
    (erasedNext : ∀ value, erase (next value) = originalNext value) :
    erase (process.andThen next) = original.andThen originalNext := by
  rw [erase_andThen, erased]
  exact congrArg (Process.andThen · original) (funext erasedNext)

theorem deeds_andThen
    (backend : Backend σ)
    (state : σ)
    (process : Labelled α)
    (next : α → Labelled β) :
    deeds backend state (process.andThen next) =
      deeds backend state process ++
        deeds backend ((erase process).run backend state).state
          (next ((erase process).run backend state).value) := by
  induction process generalizing state with
  | done value => rfl
  | tell entry rest inductionHypothesis => exact inductionHypothesis state
  | ask intent rest inductionHypothesis =>
      cases intent with
      | start purpose => exact congrArg (Deed.begun purpose :: ·) (inductionHypothesis () state)
      | call purpose call =>
          exact congrArg (_ :: ·) (inductionHypothesis _ (backend call state).2)

theorem deeds_andThen_silent
    {backend : Backend σ}
    {state : σ}
    {process : Labelled α}
    {next : α → Labelled β}
    (silent : ∀ value state, deeds backend state (next value) = []) :
    deeds backend state (process.andThen next) = deeds backend state process := by
  rw [deeds_andThen, silent, List.append_nil]

theorem deeds_label
    (backend : Backend σ)
    (state : σ)
    (purpose : Purpose)
    (process : Calls α) :
    deeds backend state (label purpose process) =
      (Calls.course backend state process).made.map fun call => .made purpose call.1 call.2 := by
  unfold Calls.course
  induction process generalizing state with
  | done value => rfl
  | tell entry rest inductionHypothesis => exact inductionHypothesis state
  | ask call rest inductionHypothesis =>
      exact congrArg (_ :: ·) (inductionHypothesis _ (backend call state).2)

/-- What is announced does the work of the process. -/
theorem deeds_announced
    (backend : Backend σ)
    (state : σ)
    (purpose : Purpose)
    (process : Calls α) :
    deeds backend state (announced purpose process) =
      Deed.work purpose (Calls.course backend state process).made :=
  congrArg (Deed.begun purpose :: ·) (deeds_label backend state purpose process)

/-- The calls in the history of a process are those that it asks without its labels. -/
theorem asked_run_erase
    (backend : Backend σ)
    (state : σ)
    (process : Labelled α) :
    ((erase process).run backend state).asked =
      (deeds backend state process).filterMap Deed.call? := by
  rw [Calls.asked_run]
  unfold Calls.course Course.calls
  induction process generalizing state with
  | done value => rfl
  | tell entry rest inductionHypothesis => exact inductionHypothesis state
  | ask intent rest inductionHypothesis =>
      cases intent with
      | start purpose => exact inductionHypothesis () state
      | call purpose call =>
          exact congrArg (call :: ·) (inductionHypothesis _ (backend call state).2)

end Labelled

/-! ## Operations -/

/-- What can be asked of a session. -/
inductive Operation where
  /-- Install the suite. -/
  | install
  /-- Run the cases. -/
  | runTests
  /-- Tear down. -/
  | teardown
  /-- All of these. -/
  | run
deriving DecidableEq

/-- What an operation yields, where only some operations yield a summary. -/
def Phased.yielding (summary : α → Option Summary) (ended : Phased α) :
    Phased (Option Summary) :=
  (ended.1.map summary, ended.2)

namespace Session

/-- Perform an operation in a phase. -/
def perform (session : Session) (operation : Operation) (phase : Phase) :
    Calls (Phased (Option Summary)) :=
  match operation with
  | .install => do return Phased.yielding (fun _ => none) (← session.install phase)
  | .runTests => do return Phased.yielding some (← session.runTests phase)
  | .teardown => do return Phased.yielding (fun _ => none) (← session.teardown phase)
  | .run => do return Phased.yielding some (← session.run phase)

/-- Perform operations one after the other, from a phase on, and end in a phase. -/
def performAll (session : Session) : List Operation → Phase → Calls Phase
  | [], phase => return phase
  | operation :: rest, phase => do
      let ended ← session.perform operation phase
      performAll session rest ended.2

/-! ## Labelled operations -/

/-- Install the suite under its label. -/
def installLabelled (session : Session) (phase : Phase) : Labelled (Phased Unit) :=
  match phase with
  | .uninitialized => .announced .installation session.installAll
  | _ => return (.error (.wrongPhase .uninitialized phase), phase)

/-- Run cases, each under the label of its place. -/
def runCasesLabelled (session : Session) : Nat → List TestCase → Labelled (List CaseResult)
  | _, [] => return []
  | place, test :: rest => do
      let result ← Labelled.announced (.case place) (session.runCase test)
      let results ← runCasesLabelled session (place + 1) rest
      return result :: results

/-- Run all cases under their labels and sum up. -/
def runAllLabelled (session : Session) : Labelled Summary := do
  let results ← session.runCasesLabelled 0 session.suite.tests
  let summary := Summary.ofCases session.suite.name results
  Process.say .info
    ((Message.suiteFinished summary.name summary.passed summary.failed).text session.language)
  return summary

/-- Run the cases under their labels once the suite is installed. -/
def runTestsLabelled (session : Session) (phase : Phase) : Labelled (Phased Summary) :=
  match phase with
  | .installed => do
      let summary ← session.runAllLabelled
      return (.ok summary, .done)
  | _ => return (.error (.wrongPhase .installed phase), phase)

/-- Tear down under its label. -/
def teardownLabelled (session : Session) (phase : Phase) : Labelled (Phased Unit) :=
  match phase with
  | .uninitialized => return (.error (.wrongPhase .installed phase), phase)
  | _ => do
      let result ← Labelled.announced .cleanup session.cleanUp
      return (result, phase)

/-- Clean up behind a run under its label. -/
def finishLabelled (session : Session) (summary : Summary) (phase : Phase) :
    Labelled (Phased Summary) := do
  if !session.settings.cleanups then return (.ok summary, phase)
  match ← session.teardownLabelled phase with
  | (.ok (), phase) => return (.ok summary, phase)
  | (.error failure, phase) => do
      let error := failure.display session.language
      Process.say .warning ((Message.cleanupFailed error).text session.language)
      return (.error failure, phase)

/-- Install, run all cases and clean up under their labels. -/
def runLabelled (session : Session) (phase : Phase) : Labelled (Phased Summary) := do
  match ← session.installLabelled phase with
  | (.error failure, phase) => return (.error failure, phase)
  | (.ok (), phase) => do
      match ← session.runTestsLabelled phase with
      | (.error failure, phase) => return (.error failure, phase)
      | (.ok summary, phase) => session.finishLabelled summary phase

/-- Perform an operation under its labels. -/
def performLabelled (session : Session) (operation : Operation) (phase : Phase) :
    Labelled (Phased (Option Summary)) :=
  match operation with
  | .install => do return Phased.yielding (fun _ => none) (← session.installLabelled phase)
  | .runTests => do return Phased.yielding some (← session.runTestsLabelled phase)
  | .teardown => do return Phased.yielding (fun _ => none) (← session.teardownLabelled phase)
  | .run => do return Phased.yielding some (← session.runLabelled phase)

/-- Perform operations one after the other under their labels. -/
def performAllLabelled (session : Session) : List Operation → Phase → Labelled Phase
  | [], phase => return phase
  | operation :: rest, phase => do
      let ended ← session.performLabelled operation phase
      performAllLabelled session rest ended.2

theorem erase_installLabelled (session : Session) (phase : Phase) :
    (session.installLabelled phase).erase = session.install phase := by
  cases phase with
  | uninitialized => exact Labelled.erase_announced _ _
  | installed => rfl
  | done => rfl
  | aborted => rfl

theorem erase_runCasesLabelled
    (session : Session)
    (place : Nat)
    (tests : List TestCase) :
    (session.runCasesLabelled place tests).erase = session.runCases tests := by
  induction tests generalizing place with
  | nil => rfl
  | cons test rest inductionHypothesis =>
      exact Labelled.erase_andThen_eq (Labelled.erase_announced _ _) fun _ =>
        Labelled.erase_andThen_eq (inductionHypothesis (place + 1)) fun _ => rfl

theorem erase_runAllLabelled (session : Session) :
    session.runAllLabelled.erase = session.runAll :=
  Labelled.erase_andThen_eq (session.erase_runCasesLabelled 0 _) fun _ => rfl

theorem erase_runTestsLabelled (session : Session) (phase : Phase) :
    (session.runTestsLabelled phase).erase = session.runTests phase := by
  cases phase with
  | uninitialized => rfl
  | installed => exact Labelled.erase_andThen_eq session.erase_runAllLabelled fun _ => rfl
  | done => rfl
  | aborted => rfl

theorem erase_teardownLabelled (session : Session) (phase : Phase) :
    (session.teardownLabelled phase).erase = session.teardown phase := by
  have cleans (phase : Phase) :
      (do let result ← Labelled.announced .cleanup session.cleanUp
          return (result, phase) : Labelled (Phased Unit)).erase =
        do let result ← session.cleanUp
           return (result, phase) :=
    Labelled.erase_andThen_eq (Labelled.erase_announced _ _) fun _ => rfl
  cases phase with
  | uninitialized => rfl
  | installed => exact cleans .installed
  | done => exact cleans .done
  | aborted => exact cleans .aborted

theorem erase_finishLabelled
    (session : Session)
    (summary : Summary)
    (phase : Phase) :
    (session.finishLabelled summary phase).erase = session.finish summary phase := by
  unfold finishLabelled finish
  cases session.settings.cleanups with
  | false => rfl
  | true =>
      apply Labelled.erase_andThen_eq (session.erase_teardownLabelled phase)
      intro ended
      rcases ended with ⟨_ | _, _⟩ <;> rfl

theorem erase_runLabelled (session : Session) (phase : Phase) :
    (session.runLabelled phase).erase = session.run phase := by
  apply Labelled.erase_andThen_eq (session.erase_installLabelled phase)
  intro ended
  rcases ended with ⟨_ | _, phase⟩
  · rfl
  · apply Labelled.erase_andThen_eq (session.erase_runTestsLabelled phase)
    intro ended
    rcases ended with ⟨_ | summary, phase⟩
    · rfl
    · exact session.erase_finishLabelled summary phase

/-- Without their labels the operations are those of the session. -/
theorem erase_performLabelled
    (session : Session)
    (operation : Operation)
    (phase : Phase) :
    (session.performLabelled operation phase).erase = session.perform operation phase := by
  cases operation with
  | install => exact Labelled.erase_andThen_eq (session.erase_installLabelled phase) fun _ => rfl
  | runTests =>
      exact Labelled.erase_andThen_eq (session.erase_runTestsLabelled phase) fun _ => rfl
  | teardown =>
      exact Labelled.erase_andThen_eq (session.erase_teardownLabelled phase) fun _ => rfl
  | run => exact Labelled.erase_andThen_eq (session.erase_runLabelled phase) fun _ => rfl

theorem erase_performAllLabelled
    (session : Session)
    (operations : List Operation)
    (phase : Phase) :
    (session.performAllLabelled operations phase).erase = session.performAll operations phase := by
  induction operations generalizing phase with
  | nil => rfl
  | cons operation rest inductionHypothesis =>
      exact Labelled.erase_andThen_eq (session.erase_performLabelled operation phase) fun ended =>
        inductionHypothesis ended.2

end Session
end DataSuite

import DataSuite.Backend.Script
import DataSuite.Run.Phases

/-!
# Running suites on connections

A suite is run on a connection of its own, which is made before the run and given back
after it, however the run ends.  Several suites are run side by side; what one of them
does reaches none of the others.
-/

namespace DataSuite

/-- What is asked of a connection. -/
inductive ConnectionCall where
  | connect
  | backend (call : Call)
  | release
deriving DecidableEq

namespace ConnectionCall

/-- The reply to what is asked of a connection. -/
def Reply : ConnectionCall → Type
  | connect => Except (List String) Unit
  | backend call => call.Reply
  | release => Except (List String) Unit

/-- The call of the backend, if it is one. -/
def call? : ConnectionCall → Option Call
  | backend call => some call
  | _ => none

end ConnectionCall

/-- A process that works on a connection. -/
abbrev Connected (α : Type) :=
  Process ConnectionCall ConnectionCall.Reply α

/-- The process that calls a backend through a connection. -/
def Process.onConnection {α : Type} : Calls α → Connected α
  | .done value => .done value
  | .tell entry next => .tell entry next.onConnection
  | .ask call next => .ask (.backend call) fun reply => (next reply).onConnection

/-- A connection in its states. -/
abbrev Connection (σ : Type) :=
  Answerer ConnectionCall ConnectionCall.Reply σ

namespace Session

/-- Give a connection back and pass on the result of a run. -/
def release (result : Except Failure Summary) : Connected (Except Failure Summary) := do
  match ← Process.request ConnectionCall.release with
  | .error causes => return .error (.execution .release causes)
  | .ok () => return result

/-- Run a suite on a connection. -/
def runConnected (session : Session) : Connected (Except Failure Summary) := do
  match ← Process.request ConnectionCall.connect with
  | .error causes => return .error (.execution .connect causes)
  | .ok () => do
      let result ← (session.run .uninitialized).onConnection
      release result.1

end Session

/-- A connection that answers from scripts. -/
structure ScriptedConnection where
  /-- The answers of the backend. -/
  script : Script
  /-- The causes with which connecting is refused. -/
  connectRefused : Option (List String)
  /-- The causes with which giving back is refused. -/
  releaseRefused : Option (List String)

namespace ScriptedConnection

/-- A refusal where there are causes for one. -/
def refuse : Option (List String) → Except (List String) Unit
  | some causes => .error causes
  | none => .ok ()

/-- The reply to what is asked of a connection. -/
def reply (connection : ScriptedConnection) : (call : ConnectionCall) → call.Reply
  | .connect => refuse connection.connectRefused
  | .backend call => connection.script.reply call
  | .release => refuse connection.releaseRefused

/-- The connection that answers from scripts and has no state. -/
def answerer (connection : ScriptedConnection) : Connection Unit :=
  fun call state => (connection.reply call, state)

end ScriptedConnection

/-- A suite to be run on a connection. -/
structure SuiteTask (σ : Type) where
  session : Session
  connection : Connection σ
  state : σ

/-- How the run of a suite on its connection ends. -/
def SuiteTask.run {σ : Type} (task : SuiteTask σ) :
    Process.Outcome ConnectionCall σ (Except Failure Summary) :=
  task.session.runConnected.run task.connection task.state

/-- How the runs of suites end, in the order of the suites. -/
def runSuites {σ : Type} (tasks : List (SuiteTask σ)) :
    List (Process.Outcome ConnectionCall σ (Except Failure Summary)) :=
  tasks.map SuiteTask.run

end DataSuite

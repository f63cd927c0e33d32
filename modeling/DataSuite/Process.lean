import DataSuite.Log

/-!
# Processes

A process asks operations one after the other and may go on with the reply to each of
them.  It is a tree that branches at every reply, so it says what is done
whatever the replies are.  The tree is finite along every path: each process ends.

Running a process against something that answers gives its value and its history, the
list of all that it has asked and told.
-/

namespace DataSuite

/-- A process that asks operations and ends with a value. -/
inductive Process (Operation : Type) (Reply : Operation → Type) (α : Type) where
  /-- The end. -/
  | done (value : α)
  /-- Something is told. -/
  | tell (entry : LogEntry) (next : Process Operation Reply α)
  /-- An operation is asked, and its reply is awaited. -/
  | ask (operation : Operation) (next : Reply operation → Process Operation Reply α)

/-- What happens while a process runs. -/
inductive Event (Operation : Type) where
  /-- An operation is asked. -/
  | asked (operation : Operation)
  /-- Something is told. -/
  | told (entry : LogEntry)
deriving DecidableEq

/-- Something that answers operations and may change with each of them. -/
abbrev Answerer (Operation : Type) (Reply : Operation → Type) (σ : Type) :=
  (operation : Operation) → σ → Reply operation × σ

namespace Process

variable {Operation : Type} {Reply : Operation → Type} {α β : Type} {σ : Type}

/-- A process and what follows from its value. -/
def andThen (next : α → Process Operation Reply β) :
    Process Operation Reply α → Process Operation Reply β
  | done value => next value
  | tell entry rest => tell entry (andThen next rest)
  | ask operation rest => ask operation fun reply => andThen next (rest reply)

instance : Monad (Process Operation Reply) where
  pure := done
  bind process next := andThen next process

/-- Tell something. -/
def say (level : Level) (text : String) : Process Operation Reply Unit :=
  tell ⟨level, text⟩ (done ())

/-- Ask one operation. -/
def request (operation : Operation) : Process Operation Reply (Reply operation) :=
  ask operation done

/-- How a run of a process ends. -/
structure Outcome (Operation : Type) (σ : Type) (α : Type) where
  /-- The value of the process. -/
  value : α
  /-- What has become of the answerer. -/
  state : σ
  /-- What has happened. -/
  events : List (Event Operation)

/-- The operations that have been asked, in order. -/
def Outcome.asked (outcome : Outcome Operation σ α) : List Operation :=
  outcome.events.filterMap fun
    | .asked operation => some operation
    | .told _ => none

/-- The entries that have been told, in order. -/
def Outcome.told (outcome : Outcome Operation σ α) : List LogEntry :=
  outcome.events.filterMap fun
    | .asked _ => none
    | .told entry => some entry

/-- Run a process against an answerer in some state. -/
def run (answer : Answerer Operation Reply σ) :
    σ → Process Operation Reply α → Outcome Operation σ α
  | state, done value => ⟨value, state, []⟩
  | state, tell entry rest =>
      let outcome := run answer state rest
      { outcome with events := .told entry :: outcome.events }
  | state, ask operation rest =>
      let replied := answer operation state
      let outcome := run answer replied.2 (rest replied.1)
      { outcome with events := .asked operation :: outcome.events }

@[simp] theorem andThen_done
    (next : α → Process Operation Reply β)
    (value : α) :
    andThen next (done value) = next value := rfl

@[simp] theorem run_done
    (answer : Answerer Operation Reply σ)
    (state : σ)
    (value : α) :
    run answer state (done value) = ⟨value, state, []⟩ := rfl

/-- A run of two processes is a run of the first one and then of what follows from it. -/
theorem run_andThen
    (answer : Answerer Operation Reply σ)
    (state : σ)
    (process : Process Operation Reply α)
    (next : α → Process Operation Reply β) :
    run answer state (andThen next process) =
      let first := run answer state process
      let second := run answer first.state (next first.value)
      ⟨second.value, second.state, first.events ++ second.events⟩ := by
  induction process generalizing state with
  | done value => rfl
  | tell entry rest inductionHypothesis =>
      simp [andThen, run, inductionHypothesis]
  | ask operation rest inductionHypothesis =>
      simp [andThen, run, inductionHypothesis]

end Process
end DataSuite

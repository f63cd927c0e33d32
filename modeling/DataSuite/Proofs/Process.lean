import DataSuite.Process
import Mathlib.Data.List.Forall2

/-!
# Processes under all replies

What a process does is said here of its tree, so that it holds against everything that
answers.  A process may end with values of one kind whatever is replied; two processes may go
side by side, asking the same and ending with related values; and if every operation has one
reply, a process has one value, whatever has been asked before.
-/

namespace DataSuite
namespace Process

variable {Operation : Type} {Reply : Operation → Type} {α β γ δ σ : Type}

theorem value_andThen
    (answer : Answerer Operation Reply σ)
    (state : σ)
    (process : Process Operation Reply α)
    (next : α → Process Operation Reply β) :
    ((process.andThen next).run answer state).value =
      ((next (process.run answer state).value).run answer
        (process.run answer state).state).value := by
  rw [run_andThen]

/-- What two processes ask one after the other. -/
theorem asked_andThen
    (answer : Answerer Operation Reply σ)
    (state : σ)
    (process : Process Operation Reply α)
    (next : α → Process Operation Reply β) :
    ((process.andThen next).run answer state).asked =
      (process.run answer state).asked ++
        ((next (process.run answer state).value).run answer
          (process.run answer state).state).asked := by
  rw [run_andThen]
  exact List.filterMap_append

/-- Whether a process ends with such a value, whatever is replied. -/
def Ends (ends : α → Prop) : Process Operation Reply α → Prop
  | done value => ends value
  | tell _ rest => Ends ends rest
  | ask _ rest => ∀ reply, Ends ends (rest reply)

theorem Ends.andThen
    {process : Process Operation Reply α}
    {next : α → Process Operation Reply β}
    {ends : α → Prop}
    {endsLater : β → Prop}
    (first : process.Ends ends)
    (goesOn : ∀ value, ends value → (next value).Ends endsLater) :
    (process.andThen next).Ends endsLater := by
  induction process with
  | done value => exact goesOn value first
  | tell entry rest inductionHypothesis => exact inductionHypothesis first
  | ask operation rest inductionHypothesis =>
      exact fun reply => inductionHypothesis reply (first reply)

theorem Ends.value
    {process : Process Operation Reply α}
    {ends : α → Prop}
    (holds : process.Ends ends)
    (answer : Answerer Operation Reply σ)
    (state : σ) :
    ends (process.run answer state).value := by
  induction process generalizing state with
  | done value => exact holds
  | tell entry rest inductionHypothesis => exact inductionHypothesis holds state
  | ask operation rest inductionHypothesis =>
      exact inductionHypothesis _ (holds (answer operation state).1) _

/-- Whether two processes ask the same operations and end with related values, whatever is
replied.  What they tell may be worded in different ways but is of the same level. -/
inductive Alike (related : α → β → Prop) :
    Process Operation Reply α → Process Operation Reply β → Prop where
  /-- Both end. -/
  | done {value : α} {value' : β} (ended : related value value') :
      Alike related (.done value) (.done value')
  /-- Both tell something. -/
  | tell {entry entry' : LogEntry} {rest : Process Operation Reply α}
      {rest' : Process Operation Reply β} (level : entry.level = entry'.level)
      (later : Alike related rest rest') : Alike related (.tell entry rest) (.tell entry' rest')
  /-- Both ask the same. -/
  | ask (operation : Operation) {rest : Reply operation → Process Operation Reply α}
      {rest' : Reply operation → Process Operation Reply β}
      (later : ∀ reply, Alike related (rest reply) (rest' reply)) :
      Alike related (.ask operation rest) (.ask operation rest')

/-- Processes that go side by side may go on in different ways from related values. -/
theorem Alike.andThen
    {process : Process Operation Reply α}
    {process' : Process Operation Reply β}
    {next : α → Process Operation Reply γ}
    {next' : β → Process Operation Reply δ}
    {related : α → β → Prop}
    {relatedLater : γ → δ → Prop}
    (alike : Alike related process process')
    (goesOn : ∀ value value', related value value' →
      Alike relatedLater (next value) (next' value')) :
    Alike relatedLater (process.andThen next) (process'.andThen next') := by
  induction alike with
  | done ended => exact goesOn _ _ ended
  | tell level _ inductionHypothesis => exact .tell level inductionHypothesis
  | ask operation _ inductionHypothesis => exact .ask operation inductionHypothesis

/-- Whether two events are the same but for the wording of what is told. -/
inductive SameEvent : Event Operation → Event Operation → Prop where
  /-- The same operation is asked. -/
  | asked (operation : Operation) : SameEvent (.asked operation) (.asked operation)
  /-- Something is told at the same level. -/
  | told {entry entry' : LogEntry} (level : entry.level = entry'.level) :
      SameEvent (.told entry) (.told entry')

/-- Whether two runs differ in nothing but the wording of what is told and in their values,
which are related. -/
structure SameRun (related : α → β → Prop) (first : Outcome Operation σ α)
    (second : Outcome Operation σ β) : Prop where
  value : related first.value second.value
  state : first.state = second.state
  events : List.Forall₂ SameEvent first.events second.events

/-- The same is asked in both runs. -/
theorem SameRun.asked_eq
    {related : α → β → Prop}
    {first : Outcome Operation σ α}
    {second : Outcome Operation σ β}
    (same : SameRun related first second) :
    first.asked = second.asked := by
  obtain ⟨_, _, firstEvents⟩ := first
  obtain ⟨_, _, secondEvents⟩ := second
  have events : List.Forall₂ SameEvent firstEvents secondEvents := same.events
  clear same
  unfold Outcome.asked
  induction events with
  | nil => rfl
  | cons event _ inductionHypothesis =>
      cases event with
      | asked operation => exact congrArg (operation :: ·) inductionHypothesis
      | told level => exact inductionHypothesis

/-- Processes that go side by side have the same runs. -/
theorem Alike.run
    {process : Process Operation Reply α}
    {process' : Process Operation Reply β}
    {related : α → β → Prop}
    (alike : Alike related process process')
    (answer : Answerer Operation Reply σ)
    (state : σ) :
    SameRun related (process.run answer state) (process'.run answer state) := by
  induction alike generalizing state with
  | done ended => exact ⟨ended, rfl, .nil⟩
  | tell level _ inductionHypothesis =>
      obtain ⟨value, later, events⟩ := inductionHypothesis state
      exact ⟨value, later, .cons (.told level) events⟩
  | ask operation _ inductionHypothesis =>
      obtain ⟨value, later, events⟩ :=
        inductionHypothesis (answer operation state).1 (answer operation state).2
      exact ⟨value, later, .cons (.asked operation) events⟩

/-- The value of a process where each operation has one reply. -/
def valueUnder (replyTo : (operation : Operation) → Reply operation) :
    Process Operation Reply α → α
  | done value => value
  | tell _ rest => valueUnder replyTo rest
  | ask operation rest => valueUnder replyTo (rest (replyTo operation))

/-- Where each operation has one reply in every state, a process has one value. -/
theorem value_run_eq_valueUnder
    {answer : Answerer Operation Reply σ}
    {replyTo : (operation : Operation) → Reply operation}
    (replies : ∀ operation state, (answer operation state).1 = replyTo operation)
    (state : σ)
    (process : Process Operation Reply α) :
    (process.run answer state).value = process.valueUnder replyTo := by
  induction process generalizing state with
  | done value => rfl
  | tell entry rest inductionHypothesis => exact inductionHypothesis state
  | ask operation rest inductionHypothesis =>
      rw [valueUnder, ← replies operation state]
      exact inductionHypothesis _ _

end Process
end DataSuite

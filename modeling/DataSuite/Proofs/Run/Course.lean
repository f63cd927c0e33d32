import DataSuite.Backend.Call
import DataSuite.Proofs.Process
import Mathlib.Data.List.Basic

/-!
# Courses of calls

Calls are attempted in order up to the first one that the backend refuses.  What has been
made of them is then a prefix in which all calls but the last one have succeeded, and it is
all of them if the last one has succeeded too.

A process that calls a backend leaves such a course behind as well: the calls that it has
made, each with its success, and the state in which the backend is left.
-/

namespace DataSuite

/-- The calls that have been made, each with its success, and the state of the backend
afterwards. -/
structure Course (σ : Type) where
  /-- The calls with their success. -/
  made : List (Call × Bool)
  /-- What has become of the backend. -/
  state : σ

namespace Course

variable {σ : Type}

/-- The calls that have been made. -/
def calls (course : Course σ) : List Call :=
  course.made.map Prod.fst

/-- Whether all calls have succeeded. -/
def succeeded (course : Course σ) : Bool :=
  course.made.all Prod.snd

/-- A course that goes on as another one. -/
def append (first second : Course σ) : Course σ :=
  ⟨first.made ++ second.made, second.state⟩

/-- A course that goes on if it has succeeded. -/
def andThen (first : Course σ) (next : σ → Course σ) : Course σ :=
  if first.succeeded then first.append (next first.state) else first

@[simp] theorem append_nothing (course : Course σ) :
    course.append ⟨[], course.state⟩ = course := by
  unfold append
  rw [List.append_nil]

@[simp] theorem calls_append (first second : Course σ) :
    (first.append second).calls = first.calls ++ second.calls :=
  List.map_append

@[simp] theorem succeeded_append (first second : Course σ) :
    (first.append second).succeeded = (first.succeeded && second.succeeded) :=
  List.all_append

theorem append_assoc (first second third : Course σ) :
    (first.append second).append third = first.append (second.append third) := by
  unfold append
  rw [List.append_assoc]

theorem andThen_of_succeeded
    {first : Course σ}
    (succeeded : first.succeeded = true)
    (next : σ → Course σ) :
    first.andThen next = first.append (next first.state) :=
  if_pos succeeded

theorem andThen_of_not_succeeded
    {first : Course σ}
    (failed : first.succeeded = false)
    (next : σ → Course σ) :
    first.andThen next = first := by
  unfold andThen
  rw [failed]
  rfl

theorem succeeded_andThen
    (first : Course σ)
    (next : σ → Course σ) :
    (first.andThen next).succeeded = (first.succeeded && (next first.state).succeeded) := by
  cases ended : first.succeeded with
  | false => rw [andThen_of_not_succeeded ended, ended, Bool.false_and]
  | true => rw [andThen_of_succeeded ended, succeeded_append, ended]

@[simp] theorem andThen_nothing (course : Course σ) :
    (course.andThen fun state => ⟨[], state⟩) = course := by
  unfold andThen
  rw [append_nothing, ite_self]

theorem andThen_assoc
    (first : Course σ)
    (next later : σ → Course σ) :
    (first.andThen next).andThen later =
      first.andThen fun state => (next state).andThen later := by
  cases ended : first.succeeded with
  | false => rw [andThen_of_not_succeeded ended, andThen_of_not_succeeded ended,
      andThen_of_not_succeeded ended]
  | true =>
      rw [andThen_of_succeeded ended, andThen_of_succeeded ended]
      cases endedAgain : (next first.state).succeeded with
      | false =>
          rw [andThen_of_not_succeeded endedAgain, andThen_of_not_succeeded]
          rw [succeeded_append, ended, endedAgain]
          rfl
      | true =>
          rw [andThen_of_succeeded endedAgain, andThen_of_succeeded, append_assoc]
          · rfl
          · rw [succeeded_append, ended, endedAgain]
            rfl

end Course

/-- What has been made of some calls in order, up to the first one that is refused. -/
structure InOrder (declared : List Call) (made : List (Call × Bool)) : Prop where
  /-- The calls are the first ones declared. -/
  calls_prefix : made.map Prod.fst <+: declared
  /-- All but the last have succeeded. -/
  earlier : ∀ call ∈ made.dropLast, call.2 = true
  /-- If the last one has succeeded too, all have been made. -/
  complete : made.all Prod.snd = true → made.map Prod.fst = declared

theorem InOrder.nil : InOrder [] [] :=
  ⟨List.prefix_refl _, by simp, fun _ => rfl⟩

theorem InOrder.refused
    (call : Call)
    (rest : List Call) :
    InOrder (call :: rest) [(call, false)] :=
  ⟨⟨rest, rfl⟩, by simp, by simp⟩

theorem InOrder.cons
    {declared : List Call}
    {made : List (Call × Bool)}
    (inOrder : InOrder declared made)
    (call : Call) :
    InOrder (call :: declared) ((call, true) :: made) := by
  refine ⟨(List.prefix_cons_inj _).mpr inOrder.calls_prefix, ?_, ?_⟩
  · intro other member
    cases made with
    | nil => cases member
    | cons first rest =>
        rcases List.mem_cons.mp member with rfl | member
        · rfl
        · exact inOrder.earlier other member
  · intro all
    rw [List.all_cons, Bool.true_and] at all
    exact congrArg (call :: ·) (inOrder.complete all)

namespace Backend

variable {σ : Type}

/-- Make one call. -/
def single (backend : Backend σ) (state : σ) (call : Call) : Course σ :=
  ⟨[(call, (backend call state).1.isOk)], (backend call state).2⟩

/-- Make calls in order up to the first one that is refused. -/
def attempt (backend : Backend σ) (state : σ) : List Call → Course σ
  | [] => ⟨[], state⟩
  | call :: rest => (backend.single state call).andThen fun next => attempt backend next rest

/-- Attempt one list of calls after the other, each up to its own first refusal. -/
def attemptEach (backend : Backend σ) (state : σ) : List (List Call) → Course σ
  | [] => ⟨[], state⟩
  | calls :: rest =>
      let first := backend.attempt state calls
      first.append (attemptEach backend first.state rest)

@[simp] theorem succeeded_single
    (backend : Backend σ)
    (state : σ)
    (call : Call) :
    (backend.single state call).succeeded = (backend call state).1.isOk :=
  Bool.and_true _

theorem attempt_inOrder
    (backend : Backend σ)
    (state : σ)
    (calls : List Call) :
    InOrder calls (backend.attempt state calls).made := by
  induction calls generalizing state with
  | nil => exact .nil
  | cons call rest inductionHypothesis =>
      unfold attempt Course.andThen
      rw [succeeded_single]
      unfold single
      cases (backend call state).1.isOk with
      | true => exact (inductionHypothesis _).cons call
      | false => exact .refused call rest

/-- Calls after others are made if and only if those have succeeded. -/
theorem attempt_append
    (backend : Backend σ)
    (state : σ)
    (first second : List Call) :
    backend.attempt state (first ++ second) =
      (backend.attempt state first).andThen fun next => backend.attempt next second := by
  induction first generalizing state with
  | nil => rfl
  | cons call rest inductionHypothesis =>
      rw [List.cons_append, attempt, attempt, Course.andThen_assoc]
      simp only [inductionHypothesis]

end Backend

namespace Calls

variable {σ α β : Type}

/-- The calls that a process makes, each with its success. -/
def made (backend : Backend σ) : σ → Calls α → List (Call × Bool)
  | _, .done _ => []
  | state, .tell _ rest => made backend state rest
  | state, .ask call rest =>
      let replied := backend call state
      (call, replied.1.isOk) :: made backend replied.2 (rest replied.1)

/-- The course that a process takes. -/
def course (backend : Backend σ) (state : σ) (process : Calls α) : Course σ :=
  ⟨made backend state process, (process.run backend state).state⟩

/-- The calls that a process makes are those that its run has asked. -/
theorem asked_run
    (backend : Backend σ)
    (state : σ)
    (process : Calls α) :
    (process.run backend state).asked = (course backend state process).calls := by
  unfold Process.Outcome.asked course Course.calls
  induction process generalizing state with
  | done value => rfl
  | tell entry rest inductionHypothesis => exact inductionHypothesis state
  | ask call rest inductionHypothesis =>
      exact congrArg (call :: ·) (inductionHypothesis _ (backend call state).2)

/-- The course of two processes is that of the first one and then that of what follows from
its value. -/
theorem course_andThen
    (backend : Backend σ)
    (state : σ)
    (process : Calls α)
    (next : α → Calls β) :
    course backend state (process.andThen next) =
      (course backend state process).append
        (course backend (process.run backend state).state
          (next (process.run backend state).value)) := by
  unfold course Course.append
  rw [Process.run_andThen]
  congr 1
  induction process generalizing state with
  | done value => rfl
  | tell entry rest inductionHypothesis => exact inductionHypothesis state
  | ask call rest inductionHypothesis =>
      exact congrArg (_ :: ·) (inductionHypothesis _ (backend call state).2)

end Calls

/-- Whether a process takes a course and ends with such a value. -/
structure Goes
    {σ α : Type}
    (backend : Backend σ)
    (state : σ)
    (process : Calls α)
    (course : Course σ)
    (ends : α → Prop) : Prop where
  /-- The process makes the calls of the course. -/
  course_eq : Calls.course backend state process = course
  /-- The process ends with such a value. -/
  value_ends : ends (process.run backend state).value

namespace Goes

variable {σ α β : Type} {backend : Backend σ} {state : σ} {process : Calls α}
variable {first second : Course σ} {ends : α → Prop} {endsLater : β → Prop}

theorem done
    {value : α}
    (holds : ends value) :
    Goes backend state (.done value) ⟨[], state⟩ ends :=
  ⟨rfl, holds⟩

theorem tell
    (goes : Goes backend state process first ends)
    (entry : LogEntry) :
    Goes backend state (.tell entry process) first ends :=
  ⟨goes.course_eq, goes.value_ends⟩

/-- A process that goes on takes one course after the other. -/
theorem andThen
    {next : α → Calls β}
    (goes : Goes backend state process first ends)
    (goesOn : ∀ value, ends value → Goes backend first.state (next value) second endsLater) :
    Goes backend state (process.andThen next) (first.append second) endsLater := by
  obtain ⟨rfl, holds⟩ := goes
  obtain ⟨courseAfter, holdsAfter⟩ := goesOn _ holds
  constructor
  · rw [Calls.course_andThen, ← courseAfter]
    rfl
  · rw [Process.value_andThen]
    exact holdsAfter

/-- A process that goes on without any calls stays on its course. -/
theorem andThen_silent
    {next : α → Calls β}
    (goes : Goes backend state process first ends)
    (goesOn : ∀ value, ends value →
      Goes backend first.state (next value) ⟨[], first.state⟩ endsLater) :
    Goes backend state (process.andThen next) first endsLater := by
  rw [← first.append_nothing]
  exact goes.andThen goesOn

end Goes
end DataSuite

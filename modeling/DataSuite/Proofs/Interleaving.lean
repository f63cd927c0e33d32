import DataSuite.Process
import Mathlib.Data.List.Perm.Basic
import Mathlib.Data.Set.List
import Mathlib.Logic.Hydra
import Mathlib.Logic.Relation

/-!
# Processes side by side

Several processes go on side by side, one event at a time and in any order.  Something answers
each of them at its place and may change with every operation of any of them.  Where the
replies at a place are as if nothing had been asked at the other places, each process has the
run that it has alone, whatever the order is; and in every order all processes end.
-/

namespace DataSuite

variable {Operation : Type} {Reply : Operation → Type} {α σ : Type}

/-! ## Answerers -/

/-- What has become of an answerer after some events. -/
def Answerer.after (answer : Answerer Operation Reply σ) : σ → List (Event Operation) → σ
  | state, [] => state
  | state, .asked operation :: later => after answer (answer operation state).2 later
  | state, .told _ :: later => after answer state later

theorem Answerer.after_append
    (answer : Answerer Operation Reply σ)
    (state : σ)
    (earlier later : List (Event Operation)) :
    answer.after state (earlier ++ later) = answer.after (answer.after state earlier) later := by
  induction earlier generalizing state with
  | nil => rfl
  | cons event rest inductionHypothesis =>
      cases event with
      | asked operation => exact inductionHypothesis _
      | told entry => exact inductionHypothesis state

/-- Whether the reply to each operation is the same in two states. -/
def Answerer.AlikeIn (answer : Answerer Operation Reply σ) (state state' : σ) : Prop :=
  ∀ operation, (answer operation state).1 = (answer operation state').1

/-- Answerers at several places with a state each. -/
def Answerer.apart (answer : Nat → Answerer Operation Reply σ) (place : Nat) :
    Answerer Operation Reply (Nat → σ) :=
  fun operation states =>
    let replied := answer place operation (states place)
    (replied.1, Function.update states place replied.2)

theorem Answerer.after_apart
    (answer : Nat → Answerer Operation Reply σ)
    (place : Nat)
    (states : Nat → σ)
    (events : List (Event Operation)) :
    (apart answer place).after states events place = (answer place).after (states place) events := by
  induction events generalizing states with
  | nil => rfl
  | cons event rest inductionHypothesis =>
      cases event with
      | asked operation =>
          simp only [after, inductionHypothesis]
          simp [apart]
      | told entry => exact inductionHypothesis states

theorem Answerer.after_apart_of_ne
    (answer : Nat → Answerer Operation Reply σ)
    {place other : Nat}
    (different : other ≠ place)
    (states : Nat → σ)
    (events : List (Event Operation)) :
    (apart answer place).after states events other = states other := by
  induction events generalizing states with
  | nil => rfl
  | cons event rest inductionHypothesis =>
      cases event with
      | asked operation =>
          simp only [after, inductionHypothesis]
          simp [apart, different]
      | told entry => exact inductionHypothesis states

/-- The operations among events. -/
def Event.operations (events : List (Event Operation)) : List Operation :=
  events.filterMap fun
    | .asked operation => some operation
    | .told _ => none

/-! ## Processes under way -/

namespace Process

/-- Whether a process goes on by an event from one state of what answers to another one. -/
inductive GoesOn (answer : Answerer Operation Reply σ) : Process Operation Reply α → σ →
    Event Operation → Process Operation Reply α → σ → Prop where
  | tell {state : σ} (entry : LogEntry) (rest : Process Operation Reply α) :
      GoesOn answer (.tell entry rest) state (.told entry) rest state
  | ask {state : σ} (operation : Operation) (rest : Reply operation → Process Operation Reply α) :
      GoesOn answer (.ask operation rest) state (.asked operation)
        (rest (answer operation state).1) (answer operation state).2

/-- An outcome behind what has already happened. -/
def Outcome.behind (earlier : List (Event Operation)) (outcome : Outcome Operation σ α) :
    Outcome Operation σ α :=
  { outcome with events := earlier ++ outcome.events }

theorem Outcome.behind_append
    (earlier later : List (Event Operation))
    (outcome : Outcome Operation σ α) :
    outcome.behind (earlier ++ later) = (outcome.behind later).behind earlier := by
  simp [behind]

@[simp] theorem Outcome.value_behind
    (earlier : List (Event Operation))
    (outcome : Outcome Operation σ α) :
    (outcome.behind earlier).value = outcome.value := rfl

theorem Outcome.asked_behind
    (earlier : List (Event Operation))
    (outcome : Outcome Operation σ α) :
    (outcome.behind earlier).asked = Event.operations earlier ++ outcome.asked :=
  List.filterMap_append

/-- A process that goes on from one state does so from each state with the same replies, and
then the rest of its run remains to be done. -/
theorem GoesOn.run_eq
    {answer : Answerer Operation Reply σ}
    {process rest : Process Operation Reply α}
    {state later alone : σ}
    {event : Event Operation}
    (goesOn : GoesOn answer process state event rest later)
    (alike : answer.AlikeIn state alone) :
    process.run answer alone =
      (rest.run answer (answer.after alone [event])).behind [event] := by
  cases goesOn with
  | tell entry rest => rfl
  | ask operation rest =>
      rw [alike operation]
      rfl

theorem GoesOn.after_eq
    {answer : Answerer Operation Reply σ}
    {process rest : Process Operation Reply α}
    {state later : σ}
    {event : Event Operation}
    (goesOn : GoesOn answer process state event rest later) :
    answer.after state [event] = later := by
  cases goesOn with
  | tell entry rest => rfl
  | ask operation rest => rfl

/-- Whether a process is what may be left of another one after its next event. -/
inductive Follows : Process Operation Reply α → Process Operation Reply α → Prop where
  | tell (entry : LogEntry) (rest : Process Operation Reply α) : Follows rest (.tell entry rest)
  | ask (operation : Operation) (rest : Reply operation → Process Operation Reply α)
      (reply : Reply operation) : Follows (rest reply) (.ask operation rest)

theorem GoesOn.follows
    {answer : Answerer Operation Reply σ}
    {process rest : Process Operation Reply α}
    {state later : σ}
    {event : Event Operation}
    (goesOn : GoesOn answer process state event rest later) :
    Follows rest process := by
  cases goesOn with
  | tell entry rest => exact .tell entry rest
  | ask operation rest => exact .ask operation rest _

theorem follows_wellFounded :
    WellFounded (Follows : Process Operation Reply α → Process Operation Reply α → Prop) := by
  constructor
  intro process
  induction process with
  | done value => exact .intro _ nofun
  | tell entry rest inductionHypothesis =>
      refine .intro _ ?_
      rintro _ ⟨⟩
      exact inductionHypothesis
  | ask operation rest inductionHypothesis =>
      refine .intro _ ?_
      rintro _ (_ | ⟨_, _, reply⟩)
      exact inductionHypothesis reply

/-! ## Pools of processes -/

/-- Processes that go on side by side. -/
structure Pool (Operation : Type) (Reply : Operation → Type) (σ α : Type) where
  /-- What is left of each process. -/
  processes : List (Process Operation Reply α)
  /-- What has become of what answers. -/
  state : σ
  /-- What has happened, and to the process at which place. -/
  history : List (Nat × Event Operation)

namespace Pool

/-- What has happened to the process at a place. -/
def eventsAt (pool : Pool Operation Reply σ α) (place : Nat) : List (Event Operation) :=
  (pool.history.filter (·.1 = place)).map (·.2)

/-- What the process at a place has asked. -/
def askedAt (pool : Pool Operation Reply σ α) (place : Nat) : List Operation :=
  Event.operations (pool.eventsAt place)

/-- Whether all processes have ended, with such values. -/
def Ended (pool : Pool Operation Reply σ α) (values : List α) : Prop :=
  pool.processes = values.map .done

/-- What becomes of a pool when the process at a place goes on. -/
def advance (pool : Pool Operation Reply σ α) (place : Nat) (event : Event Operation)
    (rest : Process Operation Reply α) (later : σ) : Pool Operation Reply σ α :=
  ⟨pool.processes.set place rest, later, pool.history ++ [(place, event)]⟩

@[simp] theorem advance_state
    (pool : Pool Operation Reply σ α)
    (place : Nat)
    (event : Event Operation)
    (rest : Process Operation Reply α)
    (later : σ) :
    (pool.advance place event rest later).state = later := rfl

@[simp] theorem eventsAt_advance
    (pool : Pool Operation Reply σ α)
    (place : Nat)
    (event : Event Operation)
    (rest : Process Operation Reply α)
    (later : σ) :
    (pool.advance place event rest later).eventsAt place = pool.eventsAt place ++ [event] := by
  simp [eventsAt, advance]

theorem eventsAt_advance_of_ne
    (pool : Pool Operation Reply σ α)
    {place other : Nat}
    (apart : other ≠ place)
    (event : Event Operation)
    (rest : Process Operation Reply α)
    (later : σ) :
    (pool.advance place event rest later).eventsAt other = pool.eventsAt other := by
  simp [eventsAt, advance, apart.symm]

/-- One of the processes goes on. -/
inductive Step (answer : Nat → Answerer Operation Reply σ) :
    Pool Operation Reply σ α → Pool Operation Reply σ α → Prop where
  | intro {pool : Pool Operation Reply σ α} {place : Nat}
      {process rest : Process Operation Reply α} {event : Event Operation} {later : σ}
      (atPlace : pool.processes[place]? = some process)
      (goesOn : GoesOn (answer place) process pool.state event rest later) :
      Step answer pool (pool.advance place event rest later)

/-- Whether processes that start in a state may become a pool, in some order of their steps. -/
def Reaches (answer : Nat → Answerer Operation Reply σ)
    (processes : List (Process Operation Reply α)) (state : σ) :
    Pool Operation Reply σ α → Prop :=
  Relation.ReflTransGen (Step answer) ⟨processes, state, []⟩

/-- Whether the replies at each place are as if nothing had been asked at other places, whatever
the order of the steps has been. -/
def Independent (answer : Nat → Answerer Operation Reply σ)
    (processes : List (Process Operation Reply α)) (state : σ) : Prop :=
  ∀ pool, Reaches answer processes state pool → ∀ place,
    (answer place).AlikeIn pool.state ((answer place).after state (pool.eventsAt place))

/-! ## Every pool ends -/

section Order

/-- An item that is replaced in a list changes places with the one that replaces it. -/
theorem set_concat_perm
    {β : Type}
    {items : List β}
    {place : Nat}
    (bound : place < items.length)
    (item : β) :
    (items.set place item ++ [items[place]]).Perm (items ++ [item]) :=
  calc (items.set place item ++ [items[place]]).Perm (items[place] :: items.set place item) :=
        List.perm_append_singleton _ _
    _ |>.Perm (items[place] :: item :: items.eraseIdx place) :=
        (List.set_perm_cons_eraseIdx bound item).cons _
    _ |>.Perm (item :: items[place] :: items.eraseIdx place) := .swap _ _ _
    _ |>.Perm (item :: items) := (List.getElem_cons_eraseIdx_perm bound).cons _
    _ |>.Perm (items ++ [item]) := (List.perm_append_singleton _ _).symm

/-- In every order the processes come to an end: a step replaces one process by what follows. -/
theorem step_wellFounded (answer : Nat → Answerer Operation Reply σ) :
    WellFounded fun later earlier : Pool Operation Reply σ α => Step answer earlier later := by
  -- The order of the processes is of no account, so the pool is seen as a multiset of them.
  refine Subrelation.wf ?_ (InvImage.wf
    (fun pool : Pool Operation Reply σ α => Multiset.ofList pool.processes)
    follows_wellFounded.cutExpand)
  intro later earlier step
  cases step with
  | @intro place process rest event state atPlace goesOn =>
      obtain ⟨bound, rfl⟩ := List.getElem?_eq_some_iff.mp atPlace
      refine ⟨{rest}, earlier.processes[place], by simpa using goesOn.follows, ?_⟩
      exact Multiset.coe_eq_coe.mpr (set_concat_perm bound rest)

/-- Either all processes have ended or one of them can go on. -/
theorem ended_or_step
    (answer : Nat → Answerer Operation Reply σ)
    (pool : Pool Operation Reply σ α) :
    (∃ values, pool.Ended values) ∨ ∃ later, Step answer pool later := by
  by_cases ended : ∀ process ∈ pool.processes, process ∈ Set.range done
  · have lifted : pool.processes ∈ Set.range (List.map (@done Operation Reply α)) := by
      rw [Set.range_list_map]
      exact ended
    obtain ⟨values, same⟩ := lifted
    exact .inl ⟨values, same.symm⟩
  · push Not at ended
    obtain ⟨process, member, unended⟩ := ended
    obtain ⟨place, atPlace⟩ := List.getElem?_of_mem member
    right
    cases process with
    | done value => exact absurd ⟨value, rfl⟩ unended
    | tell entry rest => exact ⟨_, .intro atPlace (.tell entry rest)⟩
    | ask operation rest => exact ⟨_, .intro atPlace (.ask operation rest)⟩

/-- From every pool all processes can be brought to their end. -/
theorem exists_ended
    (answer : Nat → Answerer Operation Reply σ)
    (pool : Pool Operation Reply σ α) :
    ∃ last values, Relation.ReflTransGen (Step answer) pool last ∧ last.Ended values := by
  induction pool using (step_wellFounded answer).induction with
  | _ pool inductionHypothesis =>
      rcases ended_or_step answer pool with ⟨values, ended⟩ | ⟨later, step⟩
      · exact ⟨pool, values, .refl, ended⟩
      · obtain ⟨last, values, steps, ended⟩ := inductionHypothesis later step
        exact ⟨last, values, .head step steps, ended⟩

end Order

/-! ## Each process as if alone -/

section Isolation

variable {answer : Nat → Answerer Operation Reply σ}
  {processes : List (Process Operation Reply α)} {state : σ}
  {pool later : Pool Operation Reply σ α}

/-- Whether each process has gone on as it does alone, so that its run is what has happened at its
place and then the run of what is left. -/
structure AsAlone (answer : Nat → Answerer Operation Reply σ)
    (processes : List (Process Operation Reply α)) (state : σ)
    (pool : Pool Operation Reply σ α) : Prop where
  length : pool.processes.length = processes.length
  run_eq : ∀ (place : Nat) (process rest : Process Operation Reply α),
    processes[place]? = some process → pool.processes[place]? = some rest →
      process.run (answer place) state =
        (rest.run (answer place) ((answer place).after state (pool.eventsAt place))).behind
          (pool.eventsAt place)

theorem asAlone_start : AsAlone answer processes state ⟨processes, state, []⟩ where
  length := rfl
  run_eq place process rest atPlace atPlace' := by
    obtain rfl : process = rest := Option.some.inj (atPlace.symm.trans atPlace')
    rfl

theorem AsAlone.step
    (asAlone : AsAlone answer processes state pool)
    (alike : ∀ place,
      (answer place).AlikeIn pool.state ((answer place).after state (pool.eventsAt place)))
    (step : Step answer pool later) :
    AsAlone answer processes state later := by
  cases step with
  | @intro place process rest event state' atPlace goesOn =>
      refine ⟨by simpa [advance] using asAlone.length, ?_⟩
      intro other whole left wholeAt leftAt
      -- Only the process that has gone on is another one; its event moves from its run to the
      -- history, in the state that it has alone.
      by_cases same : other = place
      · subst same
        obtain ⟨bound, -⟩ := List.getElem?_eq_some_iff.mp atPlace
        obtain rfl : rest = left := by simpa [advance, bound] using leftAt
        rw [asAlone.run_eq other whole process wholeAt atPlace, goesOn.run_eq (alike other),
          eventsAt_advance, Outcome.behind_append, Answerer.after_append]
      · have leftBefore : pool.processes[other]? = some left := by
          simpa [advance, Ne.symm same] using leftAt
        rw [eventsAt_advance_of_ne pool same]
        exact asAlone.run_eq other whole left wholeAt leftBefore

/-- In every order each process goes on as it does alone. -/
theorem Reaches.asAlone
    (independent : Independent answer processes state)
    (reaches : Reaches answer processes state pool) :
    AsAlone answer processes state pool := by
  induction reaches with
  | refl => exact asAlone_start
  | tail reaches step inductionHypothesis =>
      exact inductionHypothesis.step (independent _ reaches) step

/-- Whatever the order, what has happened to a process is the beginning of its run alone. -/
theorem Reaches.eventsAt_prefix
    (independent : Independent answer processes state)
    (reaches : Reaches answer processes state pool)
    {place : Nat}
    {process : Process Operation Reply α}
    (processAt : processes[place]? = some process) :
    pool.eventsAt place <+: (process.run (answer place) state).events := by
  have asAlone := reaches.asAlone independent
  obtain ⟨inside, -⟩ := List.getElem?_eq_some_iff.mp processAt
  have bound : place < pool.processes.length := by
    rw [asAlone.length]
    exact inside
  have restAt : pool.processes[place]? = some pool.processes[place] :=
    List.getElem?_eq_getElem bound
  rw [asAlone.run_eq place process _ processAt restAt]
  exact List.prefix_append _ _

/-- In every order that comes to an end, each process has the value that it has alone, and the
same has happened to it. -/
theorem Reaches.run_eq_of_ended
    (independent : Independent answer processes state)
    (reaches : Reaches answer processes state pool)
    {values : List α}
    (ended : pool.Ended values) :
    values.length = processes.length ∧
      ∀ place process value, processes[place]? = some process → values[place]? = some value →
        (process.run (answer place) state).value = value ∧
          (process.run (answer place) state).events = pool.eventsAt place := by
  have asAlone := reaches.asAlone independent
  have processesEnded : pool.processes = values.map done := ended
  constructor
  · simpa [processesEnded] using asAlone.length
  · intro place process value processAt valueAt
    have restAt : pool.processes[place]? = some (.done value) := by
      simp [processesEnded, valueAt]
    rw [asAlone.run_eq place process _ processAt restAt]
    simp [Outcome.behind]

end Isolation

/-! ## Answerers that are apart -/

section Apart

variable {answer : Nat → Answerer Operation Reply σ} {states : Nat → σ}
  {processes : List (Process Operation Reply α)} {pool : Pool Operation Reply (Nat → σ) α}

/-- The state at each place is the one after what has been asked there. -/
theorem Reaches.state_apart
    (reaches : Reaches (Answerer.apart answer) processes states pool)
    (place : Nat) :
    pool.state place = (answer place).after (states place) (pool.eventsAt place) := by
  induction reaches with
  | refl => rfl
  | tail reaches step inductionHypothesis =>
      cases step with
      | @intro other process rest event later atPlace goesOn =>
          simp only [advance_state, ← goesOn.after_eq]
          by_cases same : place = other
          · subst same
            rw [Answerer.after_apart, inductionHypothesis, eventsAt_advance, Answerer.after_append]
          · rw [Answerer.after_apart_of_ne answer same, inductionHypothesis,
              eventsAt_advance_of_ne _ same]

/-- Answerers with a state each do not depend on what is asked of the others. -/
theorem independent_apart
    (answer : Nat → Answerer Operation Reply σ)
    (processes : List (Process Operation Reply α))
    (states : Nat → σ) :
    Independent (Answerer.apart answer) processes states := by
  intro pool reaches place operation
  change (answer place operation (pool.state place)).1 = (answer place operation
    ((Answerer.apart answer place).after states (pool.eventsAt place) place)).1
  rw [reaches.state_apart place, Answerer.after_apart]

end Apart

end Pool
end Process
end DataSuite

import DataSuite.Proofs.Interleaving
import DataSuite.Proofs.Process
import DataSuite.Run.Connection

/-!
# Suites side by side

Each of several suites has a connection of its own, but the connections may have a state in
common, and the suites go on in any order.  As long as the replies on one connection are as if
nothing had been asked on the others, each suite is served as it is alone: its connection is
asked for, used and given back, and its result is the one that it has alone.
-/

namespace DataSuite

variable {σ : Type}

/-- The backend behind a connection. -/
def Connection.backend (connection : Connection σ) : Backend σ :=
  fun call => connection (.backend call)

namespace Process

/-- What a process does on a connection it does on the backend behind it. -/
theorem run_onConnection
    {α : Type}
    (connection : Connection σ)
    (state : σ)
    (process : Calls α) :
    let connected := process.onConnection.run connection state
    let direct := process.run connection.backend state
    connected.value = direct.value ∧ connected.state = direct.state ∧
      connected.asked = direct.asked.map .backend := by
  induction process generalizing state with
  | done value => exact ⟨rfl, rfl, rfl⟩
  | tell entry rest inductionHypothesis => exact inductionHypothesis state
  | ask call rest inductionHypothesis =>
      obtain ⟨value, later, asked⟩ := inductionHypothesis (connection (.backend call) state).1
        (connection (.backend call) state).2
      exact ⟨value, later, congrArg (ConnectionCall.backend call :: ·) asked⟩

end Process

namespace Session

/-- The run of a suite alone on a backend. -/
def alone (session : Session) (backend : Backend σ) (state : σ) :
    Process.Outcome Call σ (Phased Summary) :=
  (session.run .uninitialized).run backend state

/-- How a suite is served on a connection: what is asked of the connection, and the result. -/
inductive Served (session : Session) (connection : Connection σ) (state : σ) :
    List ConnectionCall → Except Failure Summary → Prop where
  /-- There is no connection, so nothing else is asked. -/
  | unconnected {causes : List String} (connects : (connection .connect state).1 = .error causes) :
      Served session connection state [.connect] (.error (.execution .connect causes))
  /-- The connection is used as the suite alone uses it, but cannot be given back. -/
  | unreleased {connected : σ} {causes : List String}
      (connects : connection .connect state = (.ok (), connected))
      (releases : (connection .release (session.alone connection.backend connected).state).1 =
        .error causes) :
      Served session connection state
        (.connect :: (session.alone connection.backend connected).asked.map .backend ++ [.release])
        (.error (.execution .release causes))
  /-- The connection is used as the suite alone uses it, and is given back. -/
  | released {connected : σ}
      (connects : connection .connect state = (.ok (), connected))
      (releases : (connection .release (session.alone connection.backend connected).state).1 =
        .ok ()) :
      Served session connection state
        (.connect :: (session.alone connection.backend connected).asked.map .backend ++ [.release])
        (session.alone connection.backend connected).value.1

/-- Giving a connection back asks for nothing else, and a refusal takes the place of the result. -/
theorem run_release
    (connection : Connection σ)
    (state : σ)
    (result : Except Failure Summary) :
    let given := (release result).run connection state
    given.asked = [.release] ∧
      ((connection .release state).1 = .ok () ∧ given.value = result ∨
        ∃ causes, (connection .release state).1 = .error causes ∧
          given.value = .error (.execution .release causes)) := by
  rcases released : connection .release state with ⟨causes | ⟨⟩, later⟩
  · simp only [release, Process.request, bind, Process.andThen, Process.run, released]
    exact ⟨rfl, .inr ⟨causes, rfl, rfl⟩⟩
  · simp only [release, Process.request, bind, Process.andThen, Process.run, released]
    exact ⟨rfl, .inl ⟨rfl, rfl⟩⟩

/-- Once there is a connection, a suite does on it what it does alone and gives it back. -/
theorem run_runConnected
    {session : Session}
    {connection : Connection σ}
    {state connected : σ}
    (connects : connection .connect state = (.ok (), connected)) :
    let ran := session.runConnected.run connection state
    let alone := session.alone connection.backend connected
    let given := (release alone.value.1).run connection alone.state
    ran.asked = .connect :: alone.asked.map .backend ++ given.asked ∧ ran.value = given.value := by
  intro ran alone given
  have runs : ran = (((session.run .uninitialized).onConnection.andThen fun result =>
      release result.1).run connection connected).behind [.asked .connect] := by
    simp [ran, runConnected, Process.request, bind, Process.andThen, Process.run, connects,
      Process.Outcome.behind]
  obtain ⟨value, later, asked⟩ :=
    Process.run_onConnection connection connected (session.run .uninitialized)
  constructor
  · rw [runs, Process.Outcome.asked_behind, Process.asked_andThen, asked, later, value]
    rfl
  · rw [runs, Process.Outcome.value_behind, Process.value_andThen, later, value]
    rfl

/-- A suite is served on its connection. -/
theorem served
    (session : Session)
    (connection : Connection σ)
    (state : σ) :
    let ran := session.runConnected.run connection state
    Served session connection state ran.asked ran.value := by
  intro ran
  rcases connects : connection .connect state with ⟨causes | ⟨⟩, connected⟩
  · have runs : ran = ⟨.error (.execution .connect causes), connected, [.asked .connect]⟩ := by
      simp [ran, runConnected, Process.request, bind, Process.andThen, Process.run, connects, pure]
    rw [runs]
    exact .unconnected (by rw [connects])
  · obtain ⟨asked, value⟩ := @run_runConnected _ session _ _ _ connects
    obtain ⟨askedLast, outcome⟩ := run_release connection
      (session.alone connection.backend connected).state
      (session.alone connection.backend connected).value.1
    rw [asked, value, askedLast]
    rcases outcome with ⟨released, same⟩ | ⟨causes, refused, same⟩
    · rw [same]
      exact .released connects released
    · rw [same]
      exact .unreleased connects refused

/-- The suites, each with the connection of its place. -/
def tasks (connector : Nat → Connection σ) (sessions : List Session) (state : σ) :
    List (SuiteTask σ) :=
  sessions.mapIdx fun place session => ⟨session, connector place, state⟩

/-- The results of suites are those of their runs if each one is that of its suite. -/
theorem eq_map_value_runSuites
    {connector : Nat → Connection σ}
    {sessions : List Session}
    {state : σ}
    {results : List (Except Failure Summary)}
    (length : results.length = sessions.length)
    (ranAlone : ∀ (place : Nat) (session : Session) (result : Except Failure Summary),
      sessions[place]? = some session → results[place]? = some result →
        (session.runConnected.run (connector place) state).value = result) :
    results = (runSuites (tasks connector sessions state)).map (·.value) := by
  apply List.ext_getElem?
  intro place
  cases sessionAt : sessions[place]? with
  | none =>
      have outside : results[place]? = none := by
        rw [List.getElem?_eq_none_iff, length]
        exact List.getElem?_eq_none_iff.mp sessionAt
      simp [runSuites, tasks, sessionAt, outside]
  | some session =>
      obtain ⟨inside, -⟩ := List.getElem?_eq_some_iff.mp sessionAt
      have resultAt : results[place]? = some results[place] := by simp
      rw [resultAt, ← ranAlone place session _ sessionAt resultAt]
      simp [runSuites, tasks, SuiteTask.run, sessionAt]

/-- Suites that go on side by side all come to their end, whatever the order of their steps.
Where the replies on one connection do not depend on what is asked on the others, each suite asks
of its connection what it asks alone.  In the end there is one result for each suite, in the order
of the suites and the one that it has alone, and each suite has been served on its connection. -/
theorem sideBySide_served
    {connector : Nat → Connection σ}
    {sessions : List Session}
    {state : σ}
    (independent : Process.Pool.Independent connector (sessions.map runConnected) state) :
    let Step := Process.Pool.Step connector
    let Reaches := Process.Pool.Reaches connector (sessions.map runConnected) state
    (∀ pool, Reaches pool → Acc (fun later earlier => Step earlier later) pool ∧
      (∃ last results, Relation.ReflTransGen Step pool last ∧ last.Ended results) ∧
      ∀ place session, sessions[place]? = some session →
        pool.askedAt place <+: (session.runConnected.run (connector place) state).asked) ∧
      ∀ pool results, Reaches pool → pool.Ended results →
        results = (runSuites (tasks connector sessions state)).map (·.value) ∧
          results.length = sessions.length ∧
          ∀ place session result, sessions[place]? = some session →
            results[place]? = some result →
              Served session (connector place) state (pool.askedAt place) result := by
  intro Step Reaches
  constructor
  · intro pool reaches
    refine ⟨(Process.Pool.step_wellFounded connector).apply pool,
      Process.Pool.exists_ended connector pool, ?_⟩
    intro place session sessionAt
    exact (reaches.eventsAt_prefix independent (by simp [sessionAt])).filterMap _
  · intro pool results reaches ended
    obtain ⟨sameLength, alone⟩ := reaches.run_eq_of_ended independent ended
    have length : results.length = sessions.length := by simpa using sameLength
    have ranAlone (place : Nat) (session : Session) (result : Except Failure Summary)
        (sessionAt : sessions[place]? = some session) (resultAt : results[place]? = some result) :
        (session.runConnected.run (connector place) state).value = result ∧
          (session.runConnected.run (connector place) state).events = pool.eventsAt place :=
      alone place _ result (by simp [sessionAt]) resultAt
    refine ⟨?_, length, ?_⟩
    · apply eq_map_value_runSuites length
      intro place session result sessionAt resultAt
      exact (ranAlone place session result sessionAt resultAt).1
    · intro place session result sessionAt resultAt
      obtain ⟨value, events⟩ := ranAlone place session result sessionAt resultAt
      have asked : (session.runConnected.run (connector place) state).asked =
          pool.askedAt place := congrArg Event.operations events
      rw [← value, ← asked]
      exact session.served (connector place) state

/-- A connection that counts what it is asked and refuses it at one turn. -/
def refusingAt (turn : Nat) : Connection Nat
  | .connect, count => (if count = turn then .error ["refused"] else .ok (), count + 1)
  | .backend call, count =>
      (if count = turn then .error ["refused"] else .ok (Script.accept ⟨[], [], [], [], []⟩ call),
        count + 1)
  | .release, count => (if count = turn then .error ["refused"] else .ok (), count + 1)

/-- A suite without cases that installs and cleans up. -/
def passing : Session where
  suite := ⟨"passing", [.inlineQuery "create table t(id int)"], [.inlineQuery "drop table t"], []⟩
  settings := ⟨"en", true⟩
  language := .english
  files := .empty

/-- Of five suites each is refused at another turn: when it connects, installs, cleans up or gives
its connection back, or not at all. -/
theorem sideBySide_served_refusing :
    let connector := Answerer.apart refusingAt
    let sessions := List.replicate 5 passing
    let processes := sessions.map runConnected
    Process.Pool.Independent connector processes (fun _ => 0) ∧
      ∃ pool, Process.Pool.Reaches connector processes (fun _ => 0) pool ∧
        pool.Ended
          [.error (.execution .connect ["refused"]),
            .error (.execution (.directive (.inlineQuery "create table t(id int)")) ["refused"]),
            .error (.execution (.directive (.inlineQuery "drop table t")) ["refused"]),
            .error (.execution .release ["refused"]),
            .ok (Summary.ofCases "passing" [])] ∧
        pool.askedAt 0 = [.connect] ∧
        pool.askedAt 1 = [.connect, .backend (.query "create table t(id int)"), .release] := by
  intro connector sessions processes
  have independent := Process.Pool.independent_apart refusingAt processes fun _ => 0
  obtain ⟨ends, served⟩ := sideBySide_served independent
  obtain ⟨-, ⟨last, results, reaches, ended⟩, -⟩ := ends ⟨processes, fun _ => 0, []⟩ .refl
  obtain ⟨sameResults, length, servedAt⟩ := served last results reaches ended
  have servedAsked (place : Nat) (inside : place < 5) :
      ∃ result, Served passing (connector place) (fun _ => 0) (last.askedAt place) result := by
    have sessionAt : sessions[place]? = some passing := List.getElem?_replicate_of_lt inside
    have resultAt : place < results.length := by
      rw [length]
      exact inside
    exact ⟨_, servedAt place passing _ sessionAt (List.getElem?_eq_getElem resultAt)⟩
  refine ⟨independent, last, reaches, ?_, ?_, ?_⟩
  · rw [sameResults] at ended
    exact ended
  · obtain ⟨result, unconnected⟩ := servedAsked 0 (by decide)
    generalize last.askedAt 0 = asked at unconnected ⊢
    cases unconnected with
    | unconnected => rfl
    | unreleased connects => cases connects
    | released connects => cases connects
  · obtain ⟨result, uninstalled⟩ := servedAsked 1 (by decide)
    generalize last.askedAt 1 = asked at uninstalled ⊢
    cases uninstalled with
    | unconnected connects => cases connects
    | unreleased connects =>
        cases connects
        rfl
    | released connects =>
        cases connects
        rfl

end Session
end DataSuite

import DataSuite.Proofs.Run.History
import Mathlib.Logic.Relation

/-!
# The phases of a session

Whatever operations are performed on a session, its history has one shape in each phase.
Nothing has been done before the first installation.  Then the installation stands at the
beginning, cleanups may follow, and between them stand the cases once the session is done.
Each operation keeps this shape, so that a suite is installed at most once and completely
before its cases, each case is run at most once, and nothing is cleaned up before the
installation.
-/

namespace DataSuite

/-! ## Phases and operations -/

/-- Whether a phase follows another one at once. -/
inductive Phase.Next : Phase → Phase → Prop where
  /-- The installation has succeeded. -/
  | installed : Next .uninitialized .installed
  /-- All cases have been run. -/
  | done : Next .installed .done
  /-- The installation has failed. -/
  | aborted : Next .uninitialized .aborted

/-- Whether a phase leads to another one in any number of steps. -/
abbrev Phase.Leads : Phase → Phase → Prop :=
  Relation.ReflTransGen Phase.Next

namespace Operation

/-- Whether an operation fits a phase. -/
def Fits : Operation → Phase → Prop
  | install, phase => phase = .uninitialized
  | runTests, phase => phase = .installed
  | teardown, phase => phase ≠ .uninitialized
  | run, phase => phase = .uninitialized

/-- The phase that an operation names when it is refused. -/
def expected : Operation → Phase
  | install => .uninitialized
  | runTests => .installed
  | teardown => .installed
  | run => .uninitialized

end Operation

/-! ## What a phase tells of the history -/

theorem InOrder.eq_of_all
    {declared : List Call}
    {made : List (Call × Bool)}
    (inOrder : InOrder declared made)
    (all : made.all Prod.snd = true) :
    made = declared.map fun call => (call, true) := by
  rw [← inOrder.complete all, List.map_map]
  refine (List.map_id' made).symm.trans (List.map_congr_left fun call member => ?_)
  exact Prod.ext rfl (List.all_eq_true.mp all call member)

theorem InOrder.all_succeeded (declared : List Call) :
    InOrder declared (declared.map fun call => (call, true)) := by
  induction declared with
  | nil => exact .nil
  | cons call rest inductionHypothesis => exact inductionHypothesis.cons call

namespace Session

/-- What is done when all installations succeed. -/
def installedDeeds (session : Session) : List Deed :=
  Deed.work .installation (session.installationCalls.map fun call => (call, true))

/-- Whether deeds are those of some cases one after the other, whose places are counted on from
a number. -/
inductive RunsCases : Nat → List TestCase → List Deed → Prop where
  /-- Without cases nothing is done. -/
  | nil {place : Nat} : RunsCases place [] []
  /-- The first case makes its calls in order, and the others follow. -/
  | cons {place : Nat} {test : TestCase} {rest : List TestCase} {made : List (Call × Bool)}
      {deeds : List Deed} (inOrder : InOrder test.calls made)
      (others : RunsCases (place + 1) rest deeds) :
      RunsCases place (test :: rest) (Deed.work (.case place) made ++ deeds)

/-- Whether all deeds clean up. -/
def OnlyCleanup (deeds : List Deed) : Prop :=
  ∀ deed ∈ deeds, deed.purpose = .cleanup

/-- Whether a history leads to a phase. -/
def Explains (session : Session) : Phase → List Deed → Prop
  | .uninitialized, history => history = []
  | .installed, history =>
      ∃ cleanups, OnlyCleanup cleanups ∧ history = session.installedDeeds ++ cleanups
  | .done, history =>
      ∃ before cases after, OnlyCleanup before ∧ RunsCases 0 session.suite.tests cases ∧
        OnlyCleanup after ∧ history = session.installedDeeds ++ (before ++ cases ++ after)
  | .aborted, history =>
      ∃ made cleanups, InOrder session.installationCalls made ∧ made.all Prod.snd = false ∧
        OnlyCleanup cleanups ∧ history = Deed.work .installation made ++ cleanups

theorem OnlyCleanup.append
    {first second : List Deed}
    (firstOnly : OnlyCleanup first)
    (secondOnly : OnlyCleanup second) :
    OnlyCleanup (first ++ second) := by
  intro deed member
  rcases List.mem_append.mp member with member | member
  · exact firstOnly deed member
  · exact secondOnly deed member

/-- Cleaning up after an installation leaves the shape of the history. -/
theorem Explains.append_cleanup
    {session : Session}
    {phase : Phase}
    {history cleanups : List Deed}
    (explains : session.Explains phase history)
    (attempted : phase ≠ .uninitialized)
    (only : OnlyCleanup cleanups) :
    session.Explains phase (history ++ cleanups) := by
  cases phase with
  | uninitialized => exact absurd rfl attempted
  | installed =>
      obtain ⟨earlier, earlierOnly, rfl⟩ := explains
      exact ⟨earlier ++ cleanups, earlierOnly.append only, List.append_assoc _ _ _⟩
  | done =>
      obtain ⟨before, cases, after, beforeOnly, runs, afterOnly, rfl⟩ := explains
      refine ⟨before, cases, after ++ cleanups, beforeOnly, runs, afterOnly.append only, ?_⟩
      simp only [List.append_assoc]
  | aborted =>
      obtain ⟨made, earlier, inOrder, failed, earlierOnly, rfl⟩ := explains
      exact ⟨made, earlier ++ cleanups, inOrder, failed, earlierOnly.append only,
        List.append_assoc _ _ _⟩

/-! ## What each operation keeps -/

variable {σ α β : Type}

/-- Whether a process that starts in a phase keeps the shape of the history. -/
structure Keeps
    (session : Session)
    (backend : Backend σ)
    (phase : Phase)
    (process : Labelled (Phased α)) : Prop where
  /-- The history leads to the phase that is reached. -/
  explains : ∀ state history, session.Explains phase history →
    session.Explains (process.erase.run backend state).value.2
      (history ++ process.deeds backend state)
  /-- The phase leads to the one that is reached. -/
  leads : ∀ state, phase.Leads (process.erase.run backend state).value.2

namespace Keeps

variable {session : Session} {backend : Backend σ}

theorem done
    (value : Except Failure α)
    (phase : Phase) :
    session.Keeps backend phase (.done (value, phase)) where
  explains _ history explains := by
    rw [← List.append_nil history] at explains
    exact explains
  leads _ := .refl

theorem tell
    {phase : Phase}
    {process : Labelled (Phased α)}
    (keeps : session.Keeps backend phase process)
    (entry : LogEntry) :
    session.Keeps backend phase (.tell entry process) :=
  ⟨keeps.explains, keeps.leads⟩

theorem andThen
    {phase : Phase}
    {process : Labelled (Phased α)}
    {next : Phased α → Labelled (Phased β)}
    (keeps : session.Keeps backend phase process)
    (goesOn : ∀ ended, session.Keeps backend ended.2 (next ended)) :
    session.Keeps backend phase (process.andThen next) where
  explains state history explains := by
    have later := (goesOn _).explains (process.erase.run backend state).state _
      (keeps.explains state history explains)
    rw [Labelled.deeds_andThen, Labelled.erase_andThen, Process.value_andThen, ← List.append_assoc]
    exact later
  leads state := by
    rw [Labelled.erase_andThen, Process.value_andThen]
    exact (keeps.leads state).trans ((goesOn _).leads _)

end Keeps

section Operations

variable (session : Session) (backend : Backend σ)

theorem keeps_install (phase : Phase) :
    session.Keeps backend phase (session.installLabelled phase) := by
  cases phase with
  | installed => exact .done _ _
  | done => exact .done _ _
  | aborted => exact .done _ _
  | uninitialized =>
      constructor
      · intro state history explains
        obtain rfl : history = [] := explains
        have performs := @performs_install _ backend state session
        have inOrder := backend.attempt_inOrder state session.installationCalls
        rw [erase_installLabelled, performs.value_ends.2, List.nil_append]
        change session.Explains _ (Labelled.deeds backend state (.announced _ _))
        rw [Labelled.deeds_announced]
        change session.Explains _ (Deed.work _
          (Calls.course backend state (session.install .uninitialized)).made)
        rw [performs.course_eq]
        cases ended : (backend.attempt state session.installationCalls).succeeded with
        | false =>
            exact ⟨_, [], inOrder, ended, by simp [OnlyCleanup], (List.append_nil _).symm⟩
        | true =>
            rw [inOrder.eq_of_all ended]
            exact ⟨[], by simp [OnlyCleanup], (List.append_nil _).symm⟩
      · intro state
        have performs := @performs_install _ backend state session
        rw [erase_installLabelled, performs.value_ends.2]
        cases (backend.attempt state session.installationCalls).succeeded with
        | false => exact .single .aborted
        | true => exact .single .installed

theorem runsCases_deeds
    (state : σ)
    (place : Nat)
    (tests : List TestCase) :
    RunsCases place tests ((session.runCasesLabelled place tests).deeds backend state) := by
  induction tests generalizing place state with
  | nil => exact .nil
  | cons test rest inductionHypothesis =>
      change RunsCases place (test :: rest) (Labelled.deeds backend state (Process.andThen _ _))
      rw [Labelled.deeds_andThen, Labelled.deeds_announced, (session.goes_runCase test).course_eq]
      refine .cons (backend.attempt_inOrder state test.calls) ?_
      change RunsCases (place + 1) rest (Labelled.deeds backend _ (Process.andThen _ _))
      rw [Labelled.deeds_andThen_silent fun _ _ => rfl]
      exact inductionHypothesis _ (place + 1)

theorem keeps_runTests (phase : Phase) :
    session.Keeps backend phase (session.runTestsLabelled phase) := by
  cases phase with
  | uninitialized => exact .done _ _
  | done => exact .done _ _
  | aborted => exact .done _ _
  | installed =>
      constructor
      · intro state history explains
        obtain ⟨cleanups, only, rfl⟩ := explains
        rw [erase_runTestsLabelled, (performs_runTests session).value_ends.2]
        change session.Explains .done
          (_ ++ Labelled.deeds backend state (Process.andThen _ (Process.andThen _ _)))
        rw [Labelled.deeds_andThen_silent fun _ _ => rfl,
          Labelled.deeds_andThen_silent fun _ _ => rfl]
        refine ⟨cleanups, _, [], only, session.runsCases_deeds backend state 0 _,
          by simp [OnlyCleanup], ?_⟩
        rw [List.append_nil, List.append_assoc]
      · intro state
        rw [erase_runTestsLabelled, (performs_runTests session).value_ends.2]
        exact .single .done

theorem keeps_teardown (phase : Phase) :
    session.Keeps backend phase (session.teardownLabelled phase) := by
  have cleans {phase : Phase} (attempted : phase ≠ .uninitialized) :
      session.Keeps backend phase
        (Process.andThen (fun result => .done (result, phase))
          (Labelled.announced .cleanup session.cleanUp)) := by
    constructor
    · intro state history explains
      rw [Labelled.deeds_andThen_silent fun _ _ => rfl, Labelled.deeds_announced,
        Labelled.erase_andThen, Process.value_andThen]
      exact explains.append_cleanup attempted fun _ => Deed.purpose_of_mem_work
    · intro state
      rw [Labelled.erase_andThen, Process.value_andThen]
      exact .refl
  cases phase with
  | uninitialized => exact .done _ _
  | installed => exact cleans Phase.noConfusion
  | done => exact cleans Phase.noConfusion
  | aborted => exact cleans Phase.noConfusion

theorem keeps_finish
    (summary : Summary)
    (phase : Phase) :
    session.Keeps backend phase (session.finishLabelled summary phase) := by
  unfold finishLabelled
  cases session.settings.cleanups with
  | false => exact .done _ _
  | true =>
      apply (session.keeps_teardown backend phase).andThen
      intro ended
      rcases ended with ⟨failure | _, phase⟩
      · exact .tell (.done _ _) _
      · exact .done _ _

theorem keeps_run (phase : Phase) :
    session.Keeps backend phase (session.runLabelled phase) := by
  apply (session.keeps_install backend phase).andThen
  intro ended
  rcases ended with ⟨failure | _, phase⟩
  · exact .done _ _
  · apply (session.keeps_runTests backend phase).andThen
    intro ended
    rcases ended with ⟨failure | summary, phase⟩
    · exact .done _ _
    · exact session.keeps_finish backend summary phase

/-- Each operation keeps the shape of the history. -/
theorem keeps_perform
    (operation : Operation)
    (phase : Phase) :
    session.Keeps backend phase (session.performLabelled operation phase) := by
  cases operation with
  | install => exact (session.keeps_install backend phase).andThen fun _ => .done _ _
  | runTests => exact (session.keeps_runTests backend phase).andThen fun _ => .done _ _
  | teardown => exact (session.keeps_teardown backend phase).andThen fun _ => .done _ _
  | run => exact (session.keeps_run backend phase).andThen fun _ => .done _ _

end Operations

/-- The history of all operations leads to the phase in which they end. -/
theorem explains_performAll
    (session : Session)
    (backend : Backend σ)
    (state : σ)
    (operations : List Operation)
    {phase : Phase}
    {history : List Deed}
    (explains : session.Explains phase history) :
    session.Explains ((session.performAll operations phase).run backend state).value
      (history ++ (session.performAllLabelled operations phase).deeds backend state) := by
  induction operations generalizing phase history state with
  | nil =>
      rw [← List.append_nil history] at explains
      exact explains
  | cons operation rest inductionHypothesis =>
      have here := (session.keeps_perform backend operation phase).explains state history explains
      rw [erase_performLabelled] at here
      change session.Explains ((Process.andThen _ _).run backend state).value
        (history ++ Labelled.deeds backend state (Process.andThen _ _))
      rw [Process.value_andThen, Labelled.deeds_andThen, erase_performLabelled, ← List.append_assoc]
      exact inductionHypothesis _ here

theorem leads_perform
    (session : Session)
    (backend : Backend σ)
    (state : σ)
    (operation : Operation)
    (phase : Phase) :
    phase.Leads ((session.perform operation phase).run backend state).value.2 := by
  have leads := (session.keeps_perform backend operation phase).leads state
  rw [erase_performLabelled] at leads
  exact leads

theorem leads_performAll
    (session : Session)
    (backend : Backend σ)
    (state : σ)
    (operations : List Operation)
    (phase : Phase) :
    phase.Leads ((session.performAll operations phase).run backend state).value := by
  induction operations generalizing phase state with
  | nil => exact .refl
  | cons operation rest inductionHypothesis =>
      change phase.Leads ((Process.andThen _ _).run backend state).value
      rw [Process.value_andThen]
      exact (session.leads_perform backend state operation phase).trans (inductionHypothesis _ _)

end Session

/-! ## The deeds for one purpose -/

/-- The deeds that have been done for a purpose. -/
def deedsFor (purpose : Purpose) (history : List Deed) : List Deed :=
  history.filter fun deed => deed.purpose = purpose

/-- Whether some work has been begun at most once and has then made its calls in order, up to
the first one that was refused. -/
def AtMostOnce
    (purpose : Purpose)
    (declared : List Call)
    (history : List Deed) : Prop :=
  deedsFor purpose history = [] ∨
    ∃ made, InOrder declared made ∧ deedsFor purpose history = Deed.work purpose made

theorem deedsFor_append (purpose : Purpose) (first second : List Deed) :
    deedsFor purpose (first ++ second) = deedsFor purpose first ++ deedsFor purpose second :=
  List.filter_append first second

theorem deedsFor_work (purpose : Purpose) (made : List (Call × Bool)) :
    deedsFor purpose (Deed.work purpose made) = Deed.work purpose made :=
  List.filter_eq_self.mpr fun _ member => decide_eq_true (Deed.purpose_of_mem_work member)

theorem deedsFor_eq_nil
    {purpose : Purpose}
    {deeds : List Deed}
    (others : ∀ deed ∈ deeds, deed.purpose ≠ purpose) :
    deedsFor purpose deeds = [] :=
  List.filter_eq_nil_iff.mpr fun deed member same =>
    others deed member (of_decide_eq_true same)

namespace Session

theorem OnlyCleanup.deedsFor_eq_nil
    {purpose : Purpose}
    {deeds : List Deed}
    (only : OnlyCleanup deeds)
    (other : purpose ≠ .cleanup) :
    deedsFor purpose deeds = [] :=
  DataSuite.deedsFor_eq_nil fun deed member same => other (same ▸ only deed member)

theorem RunsCases.exists_place
    {place : Nat}
    {tests : List TestCase}
    {deeds : List Deed}
    (runs : RunsCases place tests deeds) :
    ∀ deed ∈ deeds, ∃ later, place ≤ later ∧ later < place + tests.length ∧
      deed.purpose = .case later := by
  induction runs with
  | nil => simp
  | @cons place test rest made deeds inOrder others inductionHypothesis =>
      intro deed member
      rw [List.length_cons]
      rcases List.mem_append.mp member with member | member
      · exact ⟨place, by omega, by omega, Deed.purpose_of_mem_work member⟩
      · obtain ⟨later, above, below, same⟩ := inductionHypothesis deed member
        exact ⟨later, by omega, by omega, same⟩

/-- Each case is run once. -/
theorem RunsCases.exists_work
    {place : Nat}
    {tests : List TestCase}
    {deeds : List Deed}
    (runs : RunsCases place tests deeds)
    {index : Nat}
    {test : TestCase}
    (found : tests[index]? = some test) :
    ∃ made, InOrder test.calls made ∧
      deedsFor (.case (place + index)) deeds = Deed.work (.case (place + index)) made := by
  induction runs generalizing index with
  | nil => cases found
  | @cons place first rest made deeds inOrder others inductionHypothesis =>
      rw [deedsFor_append]
      cases index with
      | zero =>
          obtain rfl := Option.some.inj found
          refine ⟨made, inOrder, ?_⟩
          have noneLater : deedsFor (.case place) deeds = [] := by
            apply deedsFor_eq_nil
            intro deed member same
            obtain ⟨later, above, -, purpose⟩ := others.exists_place deed member
            obtain rfl := Purpose.case.inj (purpose.symm.trans same)
            exact Nat.not_succ_le_self _ above
          rw [Nat.add_zero, deedsFor_work, noneLater, List.append_nil]
      | succ index =>
          obtain ⟨made', inOrder', same⟩ := inductionHypothesis found
          refine ⟨made', inOrder', ?_⟩
          have noneHere :
              deedsFor (.case (place + (index + 1))) (Deed.work (.case place) made) = [] := by
            apply deedsFor_eq_nil
            intro deed member same
            have := Purpose.case.inj ((Deed.purpose_of_mem_work member).symm.trans same)
            omega
          have shifted : place + 1 + index = place + (index + 1) := by omega
          rw [shifted] at same
          rw [noneHere, List.nil_append, same]

/-! ## What a history is like -/

/-- A history is empty, or it begins with the installation, which comes only once.  If it has
failed only cleanups follow, and otherwise also cases of the suite. -/
theorem Explains.shape
    {session : Session}
    {phase : Phase}
    {history : List Deed}
    (explains : session.Explains phase history) :
    history = [] ∨
      ∃ made later, InOrder session.installationCalls made ∧
        history = Deed.work .installation made ++ later ∧
        (∀ deed ∈ later, deed.purpose ≠ .installation) ∧
        ∀ deed ∈ later, deed.purpose ≠ .cleanup →
          Deed.work .installation made = session.installedDeeds ∧
            ∃ place < session.suite.tests.length, deed.purpose = .case place := by
  have notInstallation {deeds : List Deed} (only : OnlyCleanup deeds) :
      ∀ deed ∈ deeds, deed.purpose ≠ .installation := by
    intro deed member same
    cases same.symm.trans (only deed member)
  cases phase with
  | uninitialized => exact .inl explains
  | installed =>
      obtain ⟨cleanups, only, rfl⟩ := explains
      exact .inr ⟨_, cleanups, .all_succeeded _, rfl, notInstallation only,
        fun deed member other => absurd (only deed member) other⟩
  | done =>
      obtain ⟨before, cases, after, beforeOnly, runs, afterOnly, rfl⟩ := explains
      have purposes :
          ∀ deed ∈ before ++ cases ++ after, deed.purpose = .cleanup ∨
            ∃ place < session.suite.tests.length, deed.purpose = .case place := by
        intro deed member
        rcases List.mem_append.mp member with member | member
        · rcases List.mem_append.mp member with member | member
          · exact .inl (beforeOnly deed member)
          · obtain ⟨place, -, below, purpose⟩ := runs.exists_place deed member
            rw [Nat.zero_add] at below
            exact .inr ⟨place, below, purpose⟩
        · exact .inl (afterOnly deed member)
      refine .inr ⟨_, _, .all_succeeded _, rfl, ?_, ?_⟩
      · intro deed member same
        rcases purposes deed member with purpose | ⟨place, -, purpose⟩
        · cases same.symm.trans purpose
        · cases same.symm.trans purpose
      · intro deed member other
        exact ⟨rfl, (purposes deed member).resolve_left other⟩
  | aborted =>
      obtain ⟨made, cleanups, inOrder, -, only, rfl⟩ := explains
      exact .inr ⟨made, cleanups, inOrder, rfl, notInstallation only,
        fun deed member other => absurd (only deed member) other⟩

theorem Explains.atMostOnce_installation
    {session : Session}
    {phase : Phase}
    {history : List Deed}
    (explains : session.Explains phase history) :
    AtMostOnce .installation session.installationCalls history := by
  rcases explains.shape with rfl | ⟨made, later, inOrder, rfl, others, -⟩
  · exact .inl rfl
  · refine .inr ⟨made, inOrder, ?_⟩
    rw [deedsFor_append, deedsFor_work, deedsFor_eq_nil others, List.append_nil]

theorem Explains.atMostOnce_case
    {session : Session}
    {phase : Phase}
    {history : List Deed}
    (explains : session.Explains phase history)
    {place : Nat}
    {test : TestCase}
    (found : session.suite.tests[place]? = some test) :
    AtMostOnce (.case place) test.calls history := by
  have noInstallation (made : List (Call × Bool)) :
      deedsFor (.case place) (Deed.work .installation made) = [] := by
    apply deedsFor_eq_nil
    intro deed member same
    cases (Deed.purpose_of_mem_work member).symm.trans same
  have noCleanup {deeds : List Deed} (only : OnlyCleanup deeds) :
      deedsFor (.case place) deeds = [] :=
    only.deedsFor_eq_nil Purpose.noConfusion
  cases phase with
  | uninitialized =>
      obtain rfl : history = [] := explains
      exact .inl rfl
  | installed =>
      obtain ⟨cleanups, only, rfl⟩ := explains
      refine .inl ?_
      rw [deedsFor_append, noCleanup only, installedDeeds, noInstallation, List.append_nil]
  | done =>
      obtain ⟨before, cases, after, beforeOnly, runs, afterOnly, rfl⟩ := explains
      obtain ⟨made, inOrder, same⟩ := runs.exists_work found
      rw [Nat.zero_add] at same
      refine .inr ⟨made, inOrder, ?_⟩
      simp only [deedsFor_append, noCleanup beforeOnly, noCleanup afterOnly, installedDeeds,
        noInstallation, same, List.nil_append, List.append_nil]
  | aborted =>
      obtain ⟨made, cleanups, -, -, only, rfl⟩ := explains
      refine .inl ?_
      rw [deedsFor_append, noCleanup only, noInstallation, List.append_nil]

/-- What is not done for the installation comes after it: a case of the suite only if all
installations have succeeded, and a cleanup in any event. -/
theorem Explains.after_installation
    {session : Session}
    {phase : Phase}
    {before after : List Deed}
    {deed : Deed}
    (explains : session.Explains phase (before ++ deed :: after))
    (other : deed.purpose ≠ .installation) :
    .begun .installation ∈ before ∧
      (deed.purpose ≠ .cleanup → deedsFor .installation before = session.installedDeeds ∧
        ∃ place < session.suite.tests.length, deed.purpose = .case place) := by
  rcases explains.shape with empty | ⟨made, later, -, same, others, succeeded⟩
  · simp at empty
  · -- The installation cannot reach beyond the deeds before this one.
    obtain ⟨middle, rfl, rfl⟩ :
        ∃ middle, before = Deed.work .installation made ++ middle ∧
          later = middle ++ deed :: after := by
      rcases List.append_eq_append_iff.mp same with ⟨rest, installed, left⟩ | ⟨middle, split⟩
      · cases rest with
        | nil =>
            rw [List.append_nil] at installed
            exact ⟨[], by rw [installed, List.append_nil], left.symm⟩
        | cons first rest =>
            obtain rfl : deed = first := List.head_eq_of_cons_eq left
            have member : deed ∈ Deed.work .installation made := by
              rw [installed]
              exact List.mem_append_right _ List.mem_cons_self
            exact absurd (Deed.purpose_of_mem_work member) other
      · exact ⟨middle, split⟩
    refine ⟨by simp [Deed.work], fun notCleanup => ?_⟩
    obtain ⟨complete, isCase⟩ := succeeded deed (by simp) notCleanup
    refine ⟨?_, isCase⟩
    rw [deedsFor_append, deedsFor_work, deedsFor_eq_nil, List.append_nil]
    · exact complete
    · exact fun deed member => others deed (List.mem_append_left _ member)

theorem Explains.before_case
    {session : Session}
    {phase : Phase}
    {before after : List Deed}
    {deed : Deed}
    {place : Nat}
    (explains : session.Explains phase (before ++ deed :: after))
    (purpose : deed.purpose = .case place) :
    place < session.suite.tests.length ∧ deedsFor .installation before = session.installedDeeds := by
  have other : deed.purpose ≠ .installation := by
    rw [purpose]
    exact Purpose.noConfusion
  have notCleanup : deed.purpose ≠ .cleanup := by
    rw [purpose]
    exact Purpose.noConfusion
  obtain ⟨complete, later, below, same⟩ := (explains.after_installation other).2 notCleanup
  obtain rfl := Purpose.case.inj (purpose.symm.trans same)
  exact ⟨below, complete⟩

theorem Explains.before_cleanup
    {session : Session}
    {phase : Phase}
    {before after : List Deed}
    {deed : Deed}
    (explains : session.Explains phase (before ++ deed :: after))
    (purpose : deed.purpose = .cleanup) :
    .begun .installation ∈ before := by
  apply And.left
  apply explains.after_installation
  rw [purpose]
  exact Purpose.noConfusion

/-! ## Operations in sequence -/

theorem executed_yielding
    {backend : Backend σ}
    {state : σ}
    {process : Calls (Phased α)}
    {succeeds : Bool}
    (executed : Executed (process.run backend state).value.1 succeeds)
    (summary : α → Option Summary) :
    Executed
      ((process.andThen fun ended => .done (Phased.yielding summary ended)).run backend
        state).value.1
      succeeds := by
  rw [Process.value_andThen]
  exact executed.map summary

/-- An operation that fits its phase fails only if a directive is refused. -/
theorem executed_perform
    (session : Session)
    (backend : Backend σ)
    (state : σ)
    {operation : Operation}
    {phase : Phase}
    (fits : operation.Fits phase) :
    ∃ succeeds, Executed ((session.perform operation phase).run backend state).value.1 succeeds := by
  cases operation with
  | install =>
      obtain rfl : phase = .uninitialized := fits
      exact ⟨_, executed_yielding session.performs_install.value_ends.1 _⟩
  | runTests =>
      obtain rfl : phase = .installed := fits
      exact ⟨_, executed_yielding session.performs_runTests.value_ends.1 _⟩
  | teardown => exact ⟨_, executed_yielding (session.performs_teardown fits).value_ends.1 _⟩
  | run =>
      obtain rfl : phase = .uninitialized := fits
      exact ⟨_, executed_yielding session.performs_run.value_ends.1 _⟩

/-- An operation that does not fit its phase is refused, asks nothing and changes nothing. -/
theorem perform_eq_of_not_fits
    (session : Session)
    {operation : Operation}
    {phase : Phase}
    (unfit : ¬ operation.Fits phase) :
    session.perform operation phase =
      .done (.error (.wrongPhase operation.expected phase), phase) := by
  cases operation with
  | install =>
      cases phase with
      | uninitialized => exact absurd rfl unfit
      | _ => rfl
  | runTests =>
      cases phase with
      | installed => exact absurd rfl unfit
      | _ => rfl
  | teardown =>
      cases phase with
      | uninitialized => rfl
      | _ => exact absurd Phase.noConfusion unfit
  | run =>
      cases phase with
      | uninitialized => exact absurd rfl unfit
      | _ => rfl

/-- What holds of a session on which any operations are performed.  The installation is attempted
at most once and each case is run at most once; before a case all installations have
succeeded, and before a cleanup the installation has been attempted.  Each operation moves the
phase forward or not at all, and one that does not fit its phase is refused. -/
theorem performAll_phases
    (session : Session)
    (backend : Backend σ)
    (state : σ)
    (operations : List Operation) :
    let process := session.performAllLabelled operations .uninitialized
    let history := process.deeds backend state
    process.erase = session.performAll operations .uninitialized ∧
      ((session.performAll operations .uninitialized).run backend state).asked =
        history.filterMap Deed.call? ∧
      AtMostOnce .installation session.installationCalls history ∧
      (∀ place test, session.suite.tests[place]? = some test →
        AtMostOnce (.case place) test.calls history) ∧
      (∀ before deed after, history = before ++ deed :: after →
        (∀ place, deed.purpose = .case place → place < session.suite.tests.length ∧
          deedsFor .installation before = session.installedDeeds) ∧
        (deed.purpose = .cleanup → .begun .installation ∈ before)) ∧
      Phase.Leads .uninitialized
        ((session.performAll operations .uninitialized).run backend state).value ∧
      ∀ operation phase state,
        let ended := (session.perform operation phase).run backend state
        phase.Leads ended.value.2 ∧
          (operation.Fits phase → ∃ succeeds, Executed ended.value.1 succeeds) ∧
          (¬ operation.Fits phase →
            ended.value = (.error (.wrongPhase operation.expected phase), phase) ∧
              ended.asked = [] ∧ ended.state = state) := by
  intro process history
  have nothing : session.Explains .uninitialized [] := rfl
  have explains : session.Explains _ history :=
    session.explains_performAll backend state operations nothing
  have erased : process.erase = session.performAll operations .uninitialized :=
    session.erase_performAllLabelled operations .uninitialized
  refine ⟨erased, ?_, explains.atMostOnce_installation,
    fun place test found => explains.atMostOnce_case found, ?_,
    session.leads_performAll backend state operations .uninitialized, ?_⟩
  · rw [← erased]
    exact Labelled.asked_run_erase backend state process
  · intro before deed after split
    rw [split] at explains
    constructor
    · intro place purpose
      exact explains.before_case purpose
    · intro purpose
      exact explains.before_cleanup purpose
  · intro operation phase state ended
    refine ⟨session.leads_perform backend state operation phase,
      session.executed_perform backend state, ?_⟩
    intro unfit
    have refused : ended = ⟨(.error (.wrongPhase operation.expected phase), phase), state, []⟩ := by
      unfold ended
      rw [session.perform_eq_of_not_fits unfit]
      rfl
    rw [refused]
    exact ⟨rfl, rfl, rfl⟩

end Session
end DataSuite

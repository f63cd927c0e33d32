import DataSuite.Proofs.Run.Verdicts
import DataSuite.Proofs.Verification.Spelling

/-!
# Rows expected of loads

A load yields no rows, so its slot stays empty.  An expectation holds of an empty slot if and only
if it demands no rows, whatever files there are.  So the places that are known in advance to be at
fault are those of the loads whose slots would not be as expected.
-/

namespace DataSuite

variable {σ : Type}

namespace Expectation

/-- An expectation that demands no rows is met by an empty slot: what is reshaped and sorted has no
rows on either side. -/
theorem verify_empty_of_not_demandsRows
    (files : FileTree)
    {expectation : Expectation}
    (modest : expectation.demandsRows = false) :
    expectation.verify files .empty = .ok () := by
  cases expectation with
  | nothing => exact verify_nothing_eq_ok_iff.mpr .empty
  | table path => cases modest
  | noFullScan name => cases modest
  | comparison wanted =>
      have noRows : wanted.equalTo = .rows [] := demandsRows_comparison_eq_false_iff.mp modest
      exact (verify_comparison_eq_ok_iff noRows).mpr .empty

/-- An expectation that demands rows refuses an empty slot before it is held against anything. -/
theorem verify_empty_of_demandsRows
    (files : FileTree)
    {expectation : Expectation}
    (demanding : expectation.demandsRows = true) :
    expectation.verify files .empty = .error (.ofCase .emptySlot) := by
  rw [verify, demanding]
  rfl

/-- An expectation refuses an empty slot if and only if it demands rows. -/
theorem exists_verify_empty_eq_error_iff
    {files : FileTree}
    {expectation : Expectation} :
    (∃ failure, expectation.verify files .empty = .error failure) ↔
      expectation.demandsRows = true := by
  cases demanded : expectation.demandsRows with
  | false => simp [verify_empty_of_not_demandsRows files demanded]
  | true => simp [verify_empty_of_demandsRows files demanded]

end Expectation

namespace Directive

/-- A directive that has one result fills one slot, even if its call is refused. -/
theorem exists_slots_cons
    (backend : Backend σ)
    (state : σ)
    {directive : Directive}
    (one : directive.hasOneResult = true)
    (rest : List Directive) :
    ∃ slot, places (directive.resultsIn backend state) = [slot] ∧
      slots backend state (directive :: rest) =
        slot :: slots backend (backend directive.call state).2 rest := by
  have length : (places (directive.resultsIn backend state)).length = 1 := by
    unfold resultsIn
    split
    · rfl
    · exact length_places one _
  obtain ⟨slot, alone⟩ := List.length_eq_one_iff.mp length
  exact ⟨slot, alone, by rw [slots, alone, List.singleton_append]⟩

theorem resultsIn_fileLoad
    (backend : Backend σ)
    (state : σ)
    (path table : String) :
    (fileLoad path table).resultsIn backend state = [] := by
  unfold resultsIn
  split <;> rfl

/-- Among directives that have one result each, a load leaves the slot in its place empty. -/
theorem getElem?_slots_of_load
    (backend : Backend σ)
    (state : σ)
    {directives : List Directive}
    {place : Nat}
    {path table : String}
    (known : directives.all hasOneResult = true)
    (loads : directives[place]? = some (.fileLoad path table)) :
    (slots backend state directives)[place]? = some .empty := by
  induction directives generalizing place state with
  | nil => cases loads
  | cons directive rest inductionHypothesis =>
      rw [List.all_cons, Bool.and_eq_true] at known
      obtain ⟨slot, alone, filled⟩ := exists_slots_cons backend state known.1 rest
      rw [filled]
      cases place with
      | zero =>
          obtain rfl := Option.some.inj loads
          rw [resultsIn_fileLoad] at alone
          obtain rfl : .empty = slot := (List.cons.inj alone).1
          rfl
      | succ place => exact inductionHypothesis _ known.2 loads

end Directive

namespace Steps

theorem expectsRowsOfLoad_iff
    (files : FileTree)
    {directive : Directive}
    {expectation : Expectation} :
    expectsRowsOfLoad directive expectation = true ↔
      (∃ path table, directive = .fileLoad path table) ∧
        ∃ failure, expectation.verify files .empty = .error failure := by
  rw [expectsRowsOfLoad, Bool.and_eq_true, Directive.isLoad_iff,
    Expectation.exists_verify_empty_eq_error_iff]

/-- The places at which rows are expected of loads are the numbers of such pairs. -/
theorem misplacedFrom_eq
    (place : Nat)
    (directives : List Directive)
    (expectations : List Expectation) :
    misplacedFrom place directives expectations =
      ((numberedPairs place directives expectations).filter fun pair =>
        expectsRowsOfLoad pair.1.1 pair.1.2).map Prod.snd := by
  induction directives generalizing place expectations with
  | nil => rfl
  | cons directive directives inductionHypothesis =>
      cases expectations with
      | nil => rfl
      | cons expectation expectations =>
          unfold misplacedFrom
          rw [inductionHypothesis, numberedPairs_cons_cons, List.filter_cons]
          split <;> rfl

section Foreseen

variable {steps : Steps}

theorem misplaced_eq
    (known : steps.hasKnownResults = true)
    (sameLength : steps.act.length = steps.expect.length) :
    steps.misplaced = misplacedFrom 0 steps.act steps.expect := by
  simp [misplaced, known, sameLength]

theorem pairwise_misplaced
    (known : steps.hasKnownResults = true)
    (sameLength : steps.act.length = steps.expect.length) :
    steps.misplaced.Pairwise (· < ·) := by
  rw [misplaced_eq known sameLength, misplacedFrom_eq, List.pairwise_map]
  exact (pairwise_numberedPairs 0 steps.act steps.expect).filter _

theorem mem_misplaced_iff
    (known : steps.hasKnownResults = true)
    (sameLength : steps.act.length = steps.expect.length)
    {place : Nat} :
    place ∈ steps.misplaced ↔
      ∃ directive expectation, steps.act[place]? = some directive ∧
        steps.expect[place]? = some expectation ∧
          expectsRowsOfLoad directive expectation = true := by
  rw [misplaced_eq known sameLength, misplacedFrom_eq, List.mem_map]
  simp only [List.mem_filter, mem_numberedPairs_iff, Nat.zero_add]
  constructor
  · rintro ⟨_, ⟨⟨place, directive, expectation, acts, expects, rfl⟩, expected⟩, rfl⟩
    exact ⟨directive, expectation, acts, expects, expected⟩
  · rintro ⟨directive, expectation, acts, expects, expected⟩
    exact ⟨_, ⟨⟨place, directive, expectation, acts, expects, rfl⟩, expected⟩, rfl⟩

end Foreseen

/-- What is foreseen of loads agrees with how slots are judged.  Whatever files there are, an
expectation is met by an empty slot if and only if it demands no rows, and is else refused as
misplaced.  Where each directive that acts has one result and there is one expectation for each,
a load leaves its slot empty in every run, and the places at which rows are expected of loads are,
in rising order, those of the loads whose empty slot does not meet the expectation in its place. -/
theorem misplaced_iff_empty_slot_fails (files : FileTree) :
    (∀ expectation : Expectation,
      (expectation.verify files .empty = .ok () ↔ expectation.demandsRows = false) ∧
        (expectation.demandsRows = true →
          expectation.verify files .empty = .error (.ofCase .emptySlot))) ∧
      ∀ steps : Steps, steps.hasKnownResults = true →
        steps.act.length = steps.expect.length →
          (∀ (σ : Type) (backend : Backend σ) (state : σ) (place : Nat) (path table : String),
            steps.act[place]? = some (.fileLoad path table) →
              (steps.slots backend state)[place]? = some .empty) ∧
            steps.misplaced.Pairwise (· < ·) ∧
            ∀ place, place ∈ steps.misplaced ↔
              ∃ path table expectation, steps.act[place]? = some (.fileLoad path table) ∧
                steps.expect[place]? = some expectation ∧
                  ∃ failure, expectation.verify files .empty = .error failure := by
  constructor
  · intro expectation
    refine ⟨⟨fun met => ?_, Expectation.verify_empty_of_not_demandsRows files⟩,
      Expectation.verify_empty_of_demandsRows files⟩
    refine Bool.eq_false_iff.mpr fun demanding => ?_
    rw [Expectation.verify_empty_of_demandsRows files demanding] at met
    cases met
  · intro steps known sameLength
    refine ⟨fun _ backend _ _ _ _ => Directive.getElem?_slots_of_load backend _ known,
      pairwise_misplaced known sameLength, fun place => ?_⟩
    rw [mem_misplaced_iff known sameLength]
    simp only [expectsRowsOfLoad_iff files]
    constructor
    · rintro ⟨_, expectation, acts, expects, ⟨path, table, rfl⟩, fails⟩
      exact ⟨path, table, expectation, acts, expects, fails⟩
    · rintro ⟨path, table, expectation, acts, expects, fails⟩
      exact ⟨_, expectation, acts, expects, ⟨path, table, rfl⟩, fails⟩

/-- The steps of a case that loads two files around a query and expects rows of the first load, and
that there are none, sorted by a column that nothing has, of the second. -/
def loadsAroundQuery : Steps where
  arrange := []
  act := [.fileLoad "seed.csv" "t", .inlineQuery "select * from t", .fileLoad "more.csv" "t"]
  expect :=
    [.table "want.csv", .table "want.csv",
      .comparison ⟨.rows [], some ["id"], some ["name"], some ["rank"]⟩]

/-- Only the first load is foreseen to fail. -/
theorem misplaced_iff_empty_slot_fails_loadsAroundQuery :
    loadsAroundQuery.hasKnownResults = true ∧
      loadsAroundQuery.act.length = loadsAroundQuery.expect.length ∧
      0 ∈ loadsAroundQuery.misplaced ∧ 1 ∉ loadsAroundQuery.misplaced ∧
      2 ∉ loadsAroundQuery.misplaced := by
  obtain ⟨judges, foresees⟩ := misplaced_iff_empty_slot_fails .empty
  obtain ⟨-, -, places⟩ := foresees loadsAroundQuery rfl rfl
  refine ⟨rfl, rfl, (places 0).mpr ?_, fun member => ?_, fun member => ?_⟩
  · exact ⟨_, _, _, rfl, rfl, _, (judges _).2 rfl⟩
  · obtain ⟨_, _, _, acts, -⟩ := (places 1).mp member
    cases acts
  · obtain ⟨_, _, _, -, expects, failure, fails⟩ := (places 2).mp member
    obtain rfl := Option.some.inj expects
    rw [(judges _).1.mpr rfl] at fails
    cases fails

end Steps
end DataSuite

import DataSuite.Proofs.Suite.Base
import DataSuite.Proofs.Suite.Description

/-!
# Malformed cases and malformed suites

A value is refused as a suite for its shape or for what it installs and cleans up, and never for
what its cases hold.  Each case is read on its own: it has steps, or it keeps the fault for which it
has none.
-/

namespace DataSuite

namespace Value

/-- Whether a value describes a title. -/
def IsTitle (value : Value) : Prop :=
  ∃ title : Title, title.DescribedBy value

/-- Whether a value describes a directive. -/
def IsDirective (value : Value) : Prop :=
  ∃ directive : Directive, directive.DescribedBy value

/-- Whether a value describes an expectation. -/
def IsExpectation (value : Value) : Prop :=
  ∃ expectation : Expectation, expectation.DescribedBy value

/-- Whether the parts of a case describe its steps: something is executed, and all that stands there
is a directive or an expectation. -/
structure DescribeSteps (arrange act expect : Option Value) : Prop where
  arranges : ∀ value ∈ valuesOf arrange, value.IsDirective
  acts : valuesOf act ≠ []
  executes : ∀ value ∈ valuesOf act, value.IsDirective
  expects : ∀ value ∈ valuesOf expect, value.IsExpectation

/-- Whether a value describes a well-formed case. -/
inductive IsCase : Value → Prop where
  /-- The parts have names, and the title may be absent. -/
  | named {members : Members}
      (titled : ∀ title, members.get? "title" = some title → title.IsTitle)
      (steps : DescribeSteps (members.get? "arrange") (members.get? "act")
        (members.get? "assert")) :
      IsCase (.object members)
  /-- There are four parts in a list. -/
  | listed {title arrange act expect : Value} (titled : title.IsTitle)
      (steps : DescribeSteps (some arrange) (some act) (some expect)) :
      IsCase (.list [title, arrange, act, expect])

/-- Whether a value is refused as a suite. -/
inductive IsNoSuite : Value → Prop where
  | boolean (value : Bool) : IsNoSuite (.boolean value)
  | number (value : Number) : IsNoSuite (.number value)
  | text (value : String) : IsNoSuite (.text value)
  /-- What stands for the cases is no list. -/
  | tests {members : Members} {tests : Value} (found : members.get? "tests" = some tests)
      (notList : ∀ items, tests ≠ .list items) :
      IsNoSuite (.object members)
  /-- Something that is to be installed or cleaned up is no directive. -/
  | directive {members : Members} {part : String} {value : Value}
      (isPart : part ∈ ["installations", "cleanups"]) (listed : value ∈ valuesOf (members.get? part))
      (malformed : ¬ value.IsDirective) :
      IsNoSuite (.object members)

/-- The values of the cases of a suite. -/
def tests : Value → List Value
  | .list tests => tests
  | .object members =>
      match Members.get? members "tests" with
      | some (.list tests) => tests
      | _ => []
  | _ => []

end Value

/-- Whether a fault can be kept by a case. -/
inductive Fault.InCase : Fault → Prop where
  | testCase (fault : CaseFault) : InCase (.testCase fault)
  | execution (fault : DirectiveFault) : InCase (.execution fault)

section Read

variable {base : Option String}

/-- Directives are read if and only if each of the values describes one. -/
theorem exists_directivesOf_iff
    (base : Option String)
    {value : Option Value} :
    (∃ directives, directivesOf base value = .ok directives) ↔
      ∀ entry ∈ valuesOf value, entry.IsDirective := by
  rw [directivesOf_eq_map, exists_map_eq_ok_iff]
  simp only [directivesOf_eq_ok_iff]
  exact exists_forall₂_iff

/-- Parts describe steps if and only if each value in them describes what stands there. -/
theorem Steps.exists_describedBy_iff
    {parts : CaseParts} :
    (∃ steps : Steps, steps.DescribedBy parts) ↔
      Value.DescribeSteps parts.arrange parts.act parts.expect := by
  constructor
  · rintro ⟨steps, described⟩
    exact ⟨exists_forall₂_iff.mp ⟨_, described.arrange⟩, described.acts,
      exists_forall₂_iff.mp ⟨_, described.act⟩, exists_forall₂_iff.mp ⟨_, described.expect⟩⟩
  · rintro ⟨arranges, acts, executes, expects⟩
    obtain ⟨arrange, describedArrange⟩ := exists_forall₂_iff.mpr arranges
    obtain ⟨act, describedAct⟩ := exists_forall₂_iff.mpr executes
    obtain ⟨expect, describedExpect⟩ := exists_forall₂_iff.mpr expects
    exact ⟨⟨arrange, act, expect⟩, acts, describedArrange, describedAct, describedExpect⟩

/-- A value describes a well-formed case if and only if it describes parts that describe steps. -/
theorem Value.isCase_iff
    {value : Value} :
    value.IsCase ↔
      ∃ parts : CaseParts, parts.DescribedBy value ∧
        DescribeSteps parts.arrange parts.act parts.expect := by
  constructor
  · intro wellFormed
    cases wellFormed with
    | @named members titled steps =>
        cases found : members.get? "title" with
        | none => exact ⟨_, .untitled found, steps⟩
        | some title =>
            obtain ⟨_, described⟩ := titled title found
            exact ⟨_, .titled found described, steps⟩
    | listed titled steps =>
        obtain ⟨_, described⟩ := titled
        exact ⟨_, .listed described, steps⟩
  · rintro ⟨parts, described, steps⟩
    cases described with
    | untitled absent =>
        refine .named (fun title found => ?_) steps
        rw [absent] at found
        cases found
    | titled found described =>
        refine .named (fun title foundTitle => ?_) steps
        obtain rfl := Option.some.inj (found.symm.trans foundTitle)
        exact ⟨_, described⟩
    | listed described => exact .listed ⟨_, described⟩ steps

/-- A case has steps if and only if its value describes a well-formed case. -/
theorem TestCase.exists_steps_iff
    (base : Option String)
    (index : Nat)
    {value : Value} :
    (∃ steps, (ofValue base index value).steps = .ok steps) ↔ value.IsCase := by
  rw [ofValue_eq_mapPaths]
  change (∃ steps, (ofValue none index value).steps.map _ = .ok steps) ↔ _
  rw [exists_map_eq_ok_iff, Value.isCase_iff]
  simp only [steps_ofValue_eq_ok_iff, ← Steps.exists_describedBy_iff]
  rw [exists_comm]
  simp only [exists_and_left]

/-- The fault of a malformed case is one in the case or in a directive of it. -/
theorem TestCase.inCase_of_steps
    {index : Nat}
    {value : Value}
    {fault : Fault}
    (malformed : (ofValue base index value).steps = .error fault) :
    fault.InCase := by
  unfold ofValue at malformed
  cases read : CaseParts.ofValue value with
  | error cause =>
      rw [read] at malformed
      obtain rfl := Except.error.inj malformed
      exact .testCase cause
  | ok parts =>
      rw [read] at malformed
      change Steps.ofParts base parts = .error fault at malformed
      unfold Steps.ofParts at malformed
      split at malformed
      · obtain rfl := Except.error.inj malformed
        exact .testCase .noAct
      · simp only [bind_eq_error_iff] at malformed
        rcases malformed with fails | ⟨_, -, fails | ⟨_, -, fails | ⟨_, -, ⟨⟩⟩⟩⟩
        · obtain ⟨cause, rfl⟩ := exists_blame_of_mapM_eq_error fails
          exact .execution cause
        · obtain ⟨cause, rfl⟩ := exists_blame_of_mapM_eq_error fails
          exact .execution cause
        · obtain ⟨cause, rfl⟩ := exists_blame_of_mapM_eq_error fails
          exact .testCase cause

namespace Suite

/-- A suite is read if and only if its parts are, and each of its own directives is one. -/
theorem exists_ofValue_iff
    {name : String}
    {value : Value} :
    (∃ suite, ofValue name base value = .ok suite) ↔
      ∃ parts : SuiteParts, parts.DescribedBy value ∧
        (∀ entry ∈ valuesOf parts.installations, entry.IsDirective) ∧
          ∀ entry ∈ valuesOf parts.cleanups, entry.IsDirective := by
  simp only [ofValue_eq_ok_iff, ← exists_directivesOf_iff base]
  constructor
  · rintro ⟨suite, parts, described, installations, cleanups, -⟩
    exact ⟨parts, described, ⟨_, installations⟩, _, cleanups⟩
  · rintro ⟨parts, described, ⟨installations, readInstallations⟩, cleanups, readCleanups⟩
    exact ⟨⟨name, installations, cleanups, _⟩, parts, described, readInstallations, readCleanups,
      rfl, rfl⟩

/-- A value is refused for its shape or for a directive of the suite itself. -/
theorem refused_iff
    {name : String}
    {value : Value} :
    (∃ fault, ofValue name base value = .error fault) ↔ value.IsNoSuite := by
  rw [exists_error_iff, exists_ofValue_iff]
  constructor
  · intro unread
    cases value with
    | null => exact absurd ⟨_, .null, nofun, nofun⟩ unread
    | list tests => exact absurd ⟨_, .cases tests, nofun, nofun⟩ unread
    | boolean value => exact .boolean value
    | number value => exact .number value
    | text value => exact .text value
    | object members =>
        by_contra accepted
        have areDirectives (part : String) (isPart : part ∈ ["installations", "cleanups"]) :
            ∀ entry ∈ valuesOf (Members.get? members part), entry.IsDirective := by
          intro entry listed
          by_contra malformed
          exact accepted (.directive isPart listed malformed)
        have installs := areDirectives "installations" (by simp)
        have cleansUp := areDirectives "cleanups" (by simp)
        cases found : Members.get? members "tests" with
        | none => exact unread ⟨_, .untested found, installs, cleansUp⟩
        | some tests =>
            refine accepted (.tests found ?_)
            rintro items rfl
            exact unread ⟨_, .tested found, installs, cleansUp⟩
  · rintro refused ⟨parts, described, installs, cleansUp⟩
    cases refused with
    | boolean value => cases described
    | number value => cases described
    | text value => cases described
    | @tests members tests found notList =>
        cases described with
        | untested absent => cases absent.symm.trans found
        | tested listed => exact notList _ (Option.some.inj (found.symm.trans listed))
    | @directive members part entry isPart listed malformed =>
        have areDirectives : ∀ entry ∈ valuesOf (members.get? part), entry.IsDirective := by
          rcases List.mem_pair.mp isPart with rfl | rfl
          · cases described <;> exact installs
          · cases described <;> exact cleansUp
        exact malformed (areDirectives entry listed)

/-- The cases of a suite are read one by one. -/
theorem tests_ofValue
    {name : String}
    {value : Value}
    {suite : Suite}
    (read : ofValue name base value = .ok suite) :
    suite.tests = TestCase.ofValues base value.tests := by
  obtain ⟨parts, described, -, -, -, sameTests⟩ := ofValue_eq_ok_iff.mp read
  rw [sameTests]
  cases described with
  | cases tests => rfl
  | null => rfl
  | untested absent => simp [Value.tests, absent]
  | tested found => simp [Value.tests, found]

/-- A suite without its cases. -/
def withoutTests (suite : Suite) : Suite :=
  { suite with tests := [] }

/-- Suites that differ in nothing but their cases are refused for the same fault or differ in
nothing but their cases. -/
theorem withoutTests_ofValue_eq
    (name : String)
    {members members' : Members}
    {tests tests' : List Value}
    (listed : members.get? "tests" = some (.list tests))
    (listed' : members'.get? "tests" = some (.list tests'))
    (same : ∀ part, part ≠ "tests" → members.get? part = members'.get? part) :
    (ofValue name base (.object members)).map withoutTests =
      (ofValue name base (.object members')).map withoutTests := by
  have read := SuiteParts.ofValue_eq_ok_iff.mpr (.tested listed)
  have read' := SuiteParts.ofValue_eq_ok_iff.mpr (.tested listed')
  rw [← same "installations" (by decide), ← same "cleanups" (by decide)] at read'
  unfold ofValue
  rw [read, read']
  dsimp only [mapError_ok, bind, Except.bind]
  cases directivesOf base (members.get? "installations") with
  | error fault => rfl
  | ok installations => cases directivesOf base (members.get? "cleanups") <;> rfl

end Suite

end Read

namespace Suite

/-- A malformed case neither refuses its suite nor disturbs the other cases.  Whether a value is
refused as a suite is decided by its shape and by the directives of the suite itself, whatever the
cases hold.  Otherwise each case is what its value alone gives in its place: it has steps if and only
if the value describes a well-formed case, and keeps a fault of its own if not. -/
theorem malformed_cases_stay_alone (name : String) (base : Option String) :
    (∀ value, (∃ fault, ofValue name base value = .error fault) ↔ value.IsNoSuite) ∧
      (∀ members members' tests tests',
        Members.get? members "tests" = some (.list tests) →
          Members.get? members' "tests" = some (.list tests') →
            (∀ part, part ≠ "tests" → Members.get? members part = Members.get? members' part) →
              (ofValue name base (.object members)).map withoutTests =
                (ofValue name base (.object members')).map withoutTests) ∧
      (∀ value suite, ofValue name base value = .ok suite →
        suite.tests.length = value.tests.length ∧
          ∀ (place : Nat) (test : Value), value.tests[place]? = some test →
            suite.tests[place]? = some (TestCase.ofValue base place test)) ∧
      ∀ place test,
        ((∃ steps, (TestCase.ofValue base place test).steps = .ok steps) ↔ test.IsCase) ∧
          (¬ test.IsCase →
            ∃ fault, (TestCase.ofValue base place test).steps = .error fault ∧ fault.InCase) := by
  refine ⟨fun value => refused_iff, fun members members' tests tests' listed listed' same =>
    withoutTests_ofValue_eq name listed listed' same, fun value suite read => ?_,
    fun place test => ⟨TestCase.exists_steps_iff base place, fun malformed => ?_⟩⟩
  · rw [tests_ofValue read, TestCase.ofValues]
    refine ⟨List.length_mapIdx, fun place test found => ?_⟩
    rw [List.getElem?_mapIdx, found]
    rfl
  · rw [← TestCase.exists_steps_iff base place, ← exists_error_iff] at malformed
    obtain ⟨fault, kept⟩ := malformed
    exact ⟨fault, kept, TestCase.inCase_of_steps kept⟩

/-- A case in which nothing is executed. -/
def idleCase : Value :=
  .object [("title", .text "idle"), ("assert", .null)]

/-- A case without names, with a title, no preparation, a query and no expectations. -/
def briefCase : Value :=
  .list [.text "brief", .null, .text "select 1", .null]

/-- The members of a suite that installs something and has some cases. -/
def installing (tests : List Value) : Members :=
  [("tests", .list tests), ("installations", .text "create table t(id int)")]

/-- Beside a number and a case in which nothing is executed, a well-formed case has its steps. -/
theorem malformed_cases_beside_briefCase :
    let cases := [.number (.integer 1), idleCase, briefCase]
    ∃ suite, ofValue "suite" none (.object (installing cases)) = .ok suite ∧
      suite.tests.length = 3 ∧
      suite.tests[1]? = some (TestCase.ofValue none 1 idleCase) ∧
      (∃ fault, (TestCase.ofValue none 1 idleCase).steps = .error fault ∧ fault.InCase) ∧
      (∃ steps, (TestCase.ofValue none 2 briefCase).steps = .ok steps) ∧
      (ofValue "suite" none (.object (installing cases))).map withoutTests =
        (ofValue "suite" none (.object (installing []))).map withoutTests := by
  intro cases
  obtain ⟨refused, apart, kept, read⟩ := malformed_cases_stay_alone "suite" none
  have listed (tests : List Value) :
      Members.get? (installing tests) "tests" = some (.list tests) := by
    simp [installing, Members.get?]
  have same (part : String) (other : part ≠ "tests") :
      Members.get? (installing cases) part = Members.get? (installing []) part := by
    simp [installing, Members.get?, Ne.symm other]
  have idle : ¬ idleCase.IsCase := by
    rintro (⟨-, steps⟩)
    exact steps.acts (by simp [Members.get?, valuesOf])
  have brief : briefCase.IsCase := by
    have query : (Value.text "select 1").IsDirective :=
      ⟨_, .query (Text.afterPrefix?_eq_none_iff.mp (by decide))⟩
    exact .listed ⟨_, .text "brief"⟩ ⟨nofun, nofun, by simpa [valuesOf] using query, nofun⟩
  obtain ⟨suite, found⟩ : ∃ suite, ofValue "suite" none (.object (installing cases)) = .ok suite :=
    ⟨_, rfl⟩
  obtain ⟨length, each⟩ := kept _ suite found
  have tests : (Value.object (installing cases)).tests = cases := by
    simp [Value.tests, listed]
  rw [tests] at length each
  exact ⟨suite, found, length, each 1 _ rfl, (read 1 idleCase).2 idle, (read 2 briefCase).1.mpr brief,
    apart _ _ _ _ (listed cases) (listed []) same⟩

end Suite
end DataSuite

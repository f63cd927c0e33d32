import DataSuite.Proofs.Fallible
import DataSuite.Suite.Basic
import Mathlib.Logic.Relation

/-!
# Spellings of a suite

A list may be spelled by its single item, by no value or by no member at all; the parts of a
case may have names or stand in a list; and a suite may be nothing but its cases.  Suites and
cases that differ in nothing but their spelling are read as the same, malformed ones with the
same fault and under the same title.
-/

namespace DataSuite

/-- A brief spelling of a list and the list in full. -/
inductive ListSpelling : Option Value → Option Value → Prop where
  /-- A member that is absent has no items. -/
  | absent : ListSpelling none (some (.list []))
  /-- No value is no items. -/
  | null : ListSpelling (some .null) (some (.list []))
  /-- A value that is no list is the only item. -/
  | single {value : Value} (notNull : value ≠ .null) (notList : ∀ items, value ≠ .list items) :
      ListSpelling (some value) (some (.list [value]))

/-- Both spellings stand for the same values. -/
theorem ListSpelling.valuesOf_eq
    {brief full : Option Value}
    (spelled : ListSpelling brief full) :
    valuesOf brief = valuesOf full := by
  cases spelled with
  | absent => rfl
  | null => rfl
  | @single value notNull notList =>
      cases value with
      | null => exact absurd rfl notNull
      | list items => exact absurd rfl (notList items)
      | boolean value => rfl
      | number value => rfl
      | text value => rfl
      | object members => rfl

/-- Whether the members of one name are spellings of a list, and all others are the same. -/
structure Members.SpelledApart (name : String) (brief full : Members) : Prop where
  spelled : ListSpelling (brief.get? name) (full.get? name)
  same : ∀ other, other ≠ name → brief.get? other = full.get? other

theorem Members.SpelledApart.valuesOf_eq
    {name : String}
    {brief full : Members}
    (apart : SpelledApart name brief full)
    (key : String) :
    valuesOf (brief.get? key) = valuesOf (full.get? key) := by
  by_cases named : key = name
  · subst named
    exact apart.spelled.valuesOf_eq
  · rw [apart.same key named]

/-- Two spellings of a test case. -/
inductive CaseSpelling : Value → Value → Prop where
  /-- The directives or expectations of a part are listed in full. -/
  | listed {name : String} {brief full : Members}
      (part : name ∈ ["arrange", "act", "assert"]) (apart : brief.SpelledApart name full) :
      CaseSpelling (.object brief) (.object full)
  /-- The parts in a list have names. -/
  | named {title arrange act expect : Value} {members : Members}
      (hasTitle : members.get? "title" = some title)
      (hasArrange : members.get? "arrange" = some arrange)
      (hasAct : members.get? "act" = some act)
      (hasExpect : members.get? "assert" = some expect) :
      CaseSpelling (.list [title, arrange, act, expect]) (.object members)

/-- Two spellings of a suite. -/
inductive SuiteSpelling : Value → Value → Prop where
  /-- A list is the cases of a suite. -/
  | cases (tests : List Value) : SuiteSpelling (.list tests) (.object [("tests", .list tests)])
  /-- No value is no cases. -/
  | null : SuiteSpelling .null (.list [])
  /-- No members are no cases. -/
  | empty : SuiteSpelling (.object []) (.list [])
  /-- The directives of a part are listed in full. -/
  | listed {name : String} {brief full : Members}
      (part : name ∈ ["installations", "cleanups"]) (apart : brief.SpelledApart name full) :
      SuiteSpelling (.object brief) (.object full)
  /-- One of the cases is spelled in another way. -/
  | inside {earlier later : List Value} {test test' : Value} {brief full : Members}
      (spelled : CaseSpelling test test')
      (hasTest : brief.get? "tests" = some (.list (earlier ++ test :: later)))
      (hasTest' : full.get? "tests" = some (.list (earlier ++ test' :: later)))
      (same : ∀ other, other ≠ "tests" → brief.get? other = full.get? other) :
      SuiteSpelling (.object brief) (.object full)

/-- Steps depend on nothing but the values for which the parts of a case stand. -/
theorem Steps.ofParts_eq_of_valuesOf_eq
    {base : Option String}
    {parts parts' : CaseParts}
    (arrange : valuesOf parts.arrange = valuesOf parts'.arrange)
    (act : valuesOf parts.act = valuesOf parts'.act)
    (expect : valuesOf parts.expect = valuesOf parts'.expect) :
    Steps.ofParts base parts = Steps.ofParts base parts' := by
  unfold ofParts directivesOf expectationsOf
  rw [arrange, act, expect]

namespace TestCase

/-- A case depends on nothing but its title and the values for which its parts stand. -/
theorem ofValue_object_eq
    {base : Option String}
    {index : Nat}
    {brief full : Members}
    (title : brief.get? "title" = full.get? "title")
    (arrange : valuesOf (brief.get? "arrange") = valuesOf (full.get? "arrange"))
    (act : valuesOf (brief.get? "act") = valuesOf (full.get? "act"))
    (expect : valuesOf (brief.get? "assert") = valuesOf (full.get? "assert")) :
    ofValue base index (.object brief) = ofValue base index (.object full) := by
  simp only [ofValue, CaseParts.ofValue, CaseParts.ofMembers, title]
  cases CaseParts.titleOf (full.get? "title") with
  | error fault => rfl
  | ok title =>
      simp only [Except.map]
      congr 1
      exact Steps.ofParts_eq_of_valuesOf_eq arrange act expect

/-- Whatever way a case is spelled in, it is the same case. -/
theorem ofValue_eq_of_spelling
    {base : Option String}
    {test test' : Value}
    (spelled : CaseSpelling test test')
    (index : Nat) :
    ofValue base index test = ofValue base index test' := by
  cases spelled with
  | @listed name brief full part apart =>
      have untitled : "title" ≠ name := by
        rintro rfl
        simp at part
      exact ofValue_object_eq (apart.same "title" untitled) (apart.valuesOf_eq "arrange")
        (apart.valuesOf_eq "act") (apart.valuesOf_eq "assert")
  | @named title arrange act expect members hasTitle hasArrange hasAct hasExpect =>
      have sameParts : CaseParts.ofValue (.list [title, arrange, act, expect]) =
          CaseParts.ofValue (.object members) := by
        simp only [CaseParts.ofValue, CaseParts.ofMembers, hasTitle, hasArrange, hasAct, hasExpect]
        cases described : CaseParts.titleOf (some title) <;>
          simp [CaseParts.ofItems, described] <;> rfl
      unfold ofValue
      rw [sameParts]

theorem ofValues_eq_of_spelling
    {base : Option String}
    {test test' : Value}
    (spelled : CaseSpelling test test')
    (earlier later : List Value) :
    ofValues base (earlier ++ test :: later) = ofValues base (earlier ++ test' :: later) := by
  unfold ofValues
  simp only [List.mapIdx_append, List.mapIdx_cons, ofValue_eq_of_spelling spelled]

end TestCase

/-- The cases for which a member stands. -/
def testsOf : Option Value → Except SuiteFault (List Value)
  | none => .ok []
  | some (.list tests) => .ok tests
  | some value => .error (.testsNotList value)

/-- The parts of a suite are read whenever its cases are. -/
theorem SuiteParts.ofValue_object (members : Members) :
    ofValue (.object members) = (testsOf (members.get? "tests")).map
      fun tests => ⟨members.get? "installations", members.get? "cleanups", tests⟩ := by
  simp only [ofValue, ofMembers]
  cases members.get? "tests" with
  | none => rfl
  | some value => cases value <;> rfl

namespace Suite

/-- A suite depends on nothing but the values for which its directives stand and on its cases. -/
theorem ofValue_eq_of_parts
    {name : String}
    {base : Option String}
    {value value' : Value}
    {parts parts' : SuiteParts}
    (read : SuiteParts.ofValue value = .ok parts)
    (read' : SuiteParts.ofValue value' = .ok parts')
    (installations : valuesOf parts.installations = valuesOf parts'.installations)
    (cleanups : valuesOf parts.cleanups = valuesOf parts'.cleanups)
    (tests : TestCase.ofValues base parts.tests = TestCase.ofValues base parts'.tests) :
    ofValue name base value = ofValue name base value' := by
  simp only [ofValue, read, read', mapError_ok, bind, Except.bind, directivesOf,
    installations, cleanups, tests]

/-- Among suites of named parts with the same cases, only the directives matter, also when what
stands for the cases is no list. -/
theorem ofValue_object_eq
    {name : String}
    {base : Option String}
    {brief full : Members}
    (installations : valuesOf (brief.get? "installations") = valuesOf (full.get? "installations"))
    (cleanups : valuesOf (brief.get? "cleanups") = valuesOf (full.get? "cleanups"))
    (tests : brief.get? "tests" = full.get? "tests") :
    ofValue name base (.object brief) = ofValue name base (.object full) := by
  have read := SuiteParts.ofValue_object brief
  have read' := SuiteParts.ofValue_object full
  rw [tests] at read
  cases listed : testsOf (full.get? "tests") with
  | error fault =>
      rw [listed] at read read'
      simp [ofValue, read, read', Except.map, bind, Except.bind]
  | ok cases =>
      rw [listed] at read read'
      exact ofValue_eq_of_parts read read' installations cleanups rfl

/-- Whatever way a suite is spelled in, it is the same suite or refused for the same fault. -/
theorem ofValue_eq_of_spelling
    {value value' : Value}
    (spelled : SuiteSpelling value value')
    (name : String)
    (base : Option String) :
    ofValue name base value = ofValue name base value' := by
  cases spelled with
  | cases tests =>
      have named : SuiteParts.ofValue (.object [("tests", .list tests)]) =
          .ok ⟨none, none, tests⟩ := by
        simp [SuiteParts.ofValue_object, Members.get?, testsOf, Except.map]
      exact ofValue_eq_of_parts rfl named rfl rfl rfl
  | null => exact ofValue_eq_of_parts rfl rfl rfl rfl rfl
  | empty =>
      have memberless : SuiteParts.ofValue (.object []) = .ok ⟨none, none, []⟩ := by
        simp [SuiteParts.ofValue_object, Members.get?, testsOf, Except.map]
      exact ofValue_eq_of_parts memberless rfl rfl rfl rfl
  | @listed part brief full named apart =>
      have apartFromTests : "tests" ≠ part := by
        rintro rfl
        simp at named
      exact ofValue_object_eq (apart.valuesOf_eq "installations") (apart.valuesOf_eq "cleanups")
        (apart.same "tests" apartFromTests)
  | @inside earlier later test test' brief full spelled hasTest hasTest' same =>
      have read := SuiteParts.ofValue_object brief
      have read' := SuiteParts.ofValue_object full
      rw [hasTest] at read
      rw [hasTest'] at read'
      refine ofValue_eq_of_parts read read' ?_ ?_ ?_
      · rw [same "installations" (by decide)]
      · rw [same "cleanups" (by decide)]
      · exact TestCase.ofValues_eq_of_spelling spelled earlier later

/-- Suites that are spelled in different ways are read as the same suite or refused for the same
fault, and so are their cases: whatever is malformed keeps its fault and its title. -/
theorem spellings_read_alike (name : String) (base : Option String) :
    (∀ value value', Relation.EqvGen SuiteSpelling value value' →
      ofValue name base value = ofValue name base value') ∧
    ∀ index test test', Relation.EqvGen CaseSpelling test test' →
      TestCase.ofValue base index test = TestCase.ofValue base index test' := by
  constructor
  · intro value value' spelled
    have keeps (a b : Value) (step : SuiteSpelling a b) :
        ofValue name base a = ofValue name base b :=
      ofValue_eq_of_spelling step name base
    exact congrArg (Quot.lift (ofValue name base) keeps) (Quot.eqvGen_sound spelled)
  · intro index test test' spelled
    have keeps (a b : Value) (step : CaseSpelling a b) :
        TestCase.ofValue base index a = TestCase.ofValue base index b :=
      TestCase.ofValue_eq_of_spelling step index
    exact congrArg (Quot.lift (TestCase.ofValue base index) keeps) (Quot.eqvGen_sound spelled)

/-- A case without names: its title, no preparation, a query and no expectations. -/
def namelessCase : Value :=
  .list [.text "t", .null, .text "select 1", .null]

/-- The members of the same case, with a value for what acts. -/
def caseMembers (act : Value) : Members :=
  [("title", .text "t"), ("arrange", .null), ("act", act), ("assert", .null)]

/-- A list of one case without names is read as the suite that names everything. -/
theorem spellings_of_nameless_case :
    let named := Value.object (caseMembers (.list [.text "select 1"]))
    let suite := Value.object [("tests", .list [named]), ("cleanups", .list [])]
    Relation.EqvGen CaseSpelling namelessCase named ∧
      Relation.EqvGen SuiteSpelling (.list [namelessCase]) suite ∧
      TestCase.ofValue none 0 namelessCase = TestCase.ofValue none 0 named ∧
      ofValue "suite" none (.list [namelessCase]) = ofValue "suite" none suite := by
  intro named suite
  have names : CaseSpelling namelessCase (.object (caseMembers (.text "select 1"))) := by
    apply CaseSpelling.named <;> simp [caseMembers, Members.get?]
  have lists : CaseSpelling (.object (caseMembers (.text "select 1"))) named := by
    refine @CaseSpelling.listed "act" _ _ (by simp) ⟨?_, ?_⟩
    · simpa [caseMembers, Members.get?] using
        @ListSpelling.single (.text "select 1") nofun nofun
    · intro other apart
      simp [caseMembers, Members.get?, apart.symm]
  have within {test test' : Value} (spelled : CaseSpelling test test') :
      SuiteSpelling (.object [("tests", .list [test])]) (.object [("tests", .list [test'])]) := by
    refine @SuiteSpelling.inside [] [] _ _ _ _ spelled ?_ ?_ ?_
    · simp [Members.get?]
    · simp [Members.get?]
    · intro other apart
      simp [Members.get?, apart.symm]
  have cleansUp : SuiteSpelling (.object [("tests", .list [named])]) suite := by
    refine @SuiteSpelling.listed "cleanups" _ _ (by simp) ⟨?_, ?_⟩
    · simpa [Members.get?] using ListSpelling.absent
    · intro other apart
      simp [Members.get?, apart.symm]
  have sameCase : Relation.EqvGen CaseSpelling namelessCase named :=
    .trans _ _ _ (.rel _ _ names) (.rel _ _ lists)
  have sameSuite : Relation.EqvGen SuiteSpelling (.list [namelessCase]) suite :=
    .trans _ _ _ (.rel _ _ (.cases _)) <| .trans _ _ _ (.rel _ _ (within names)) <|
      .trans _ _ _ (.rel _ _ (within lists)) (.rel _ _ cleansUp)
  obtain ⟨suites, cases⟩ := spellings_read_alike "suite" none
  exact ⟨sameCase, sameSuite, cases 0 _ _ sameCase, suites _ _ sameSuite⟩

end Suite

end DataSuite

import DataSuite.Proofs.Suite.Base
import DataSuite.Proofs.Suite.Description

/-!
# Normal suites

Whatever is read is in normal form: something is executed in each case, what is written out does not
look like a reference, a file has the extension of its use, and names have no blanks at their ends.
Nothing that uses a suite has to test this again, as a path keeps its extension behind a base.
-/

namespace DataSuite

/-- Whether a name is not empty and has no blank at either end. -/
def Text.IsName (text : String) : Prop :=
  text ≠ "" ∧ Unpadded text

namespace Directive

/-- Whether a directive is in normal form. -/
def Normal : Directive → Prop
  | inlineQuery text => ∀ rest, text ≠ "@" ++ rest
  | fileQuery path => Path.extension path = "sql"
  | fileLoad path table => Path.extension path = "csv" ∧ Text.IsName table
  | inlinePlan text => ∀ rest, text ≠ "@" ++ rest
  | filePlan _ => True

theorem DescribedBy.normal
    {directive : Directive}
    {value : Value}
    (described : directive.DescribedBy value) :
    directive.Normal := by
  cases described with
  | query plain => exact plain
  | queryFile whole queries => exact queries
  | load parts rows named => exact ⟨rows, named, Text.unpadded_trim _⟩
  | plan found plain => exact plain
  | planFile found => trivial

/-- A directive stays in normal form when its path is resolved. -/
theorem Normal.mapPath
    {directive : Directive}
    (normal : directive.Normal)
    (base : Option String) :
    (directive.mapPath (Path.resolve base)).Normal := by
  cases directive with
  | inlineQuery text => exact normal
  | fileQuery path => exact (Path.extension_resolve base path).trans normal
  | fileLoad path table => exact ⟨(Path.extension_resolve base path).trans normal.1, normal.2⟩
  | inlinePlan text => exact normal
  | filePlan path => trivial

end Directive

/-- Whether columns that are listed are names without blanks at their ends. -/
def ColumnsTrimmed (named : Option (List String)) : Prop :=
  ∀ names, named = some names → ∀ name ∈ names, Text.Unpadded name

theorem Expectation.ListsColumns.trimmed
    {value : Option Value}
    {named : Option (List String)}
    (lists : ListsColumns value named) :
    ColumnsTrimmed named := by
  rintro names rfl
  cases lists with
  | one name => exact List.forall_mem_singleton.mpr (Text.unpadded_trim name)
  | many names => exact List.forall_mem_map.mpr fun name _ => Text.unpadded_trim name

/-- Whether a comparison is in normal form. -/
structure Comparison.Normal (wanted : Comparison) : Prop where
  table : ∀ path, wanted.equalTo = .table path → Path.extension path = "csv"
  columns : ColumnsTrimmed wanted.columns
  without : ColumnsTrimmed wanted.without
  orderBy : ColumnsTrimmed wanted.orderBy

theorem Expected.NamesTable.extension
    {text path : String}
    (names : NamesTable text path) :
    Path.extension path = "csv" := by
  cases names with
  | marked rows => exact rows
  | plain plain rows => exact rows

namespace Expectation

/-- Whether an expectation is in normal form. -/
def Normal : Expectation → Prop
  | nothing => True
  | table path => Path.extension path = "csv"
  | noFullScan name => Text.IsName name
  | comparison wanted => wanted.Normal

theorem DescribedBy.normal
    {expectation : Expectation}
    {value : Value}
    (described : expectation.DescribedBy value) :
    expectation.Normal := by
  cases described with
  | null => trivial
  | noMembers => trivial
  | table names => exact names.extension
  | noFullScan found named => exact ⟨named, Text.unpadded_trim _⟩
  | @comparison members equalTo wanted noScan found described shown without orderBy =>
      refine ⟨fun path same => ?_, shown.trimmed, without.trimmed, orderBy.trimmed⟩
      rw [same] at described
      cases described with
      | table names => exact names.extension

/-- An expectation stays in normal form when its path is resolved. -/
theorem Normal.mapPath
    {expectation : Expectation}
    (normal : expectation.Normal)
    (base : Option String) :
    (expectation.mapPath (Path.resolve base)).Normal := by
  cases expectation with
  | nothing => trivial
  | table path => exact (Path.extension_resolve base path).trans normal
  | noFullScan name => exact normal
  | comparison wanted =>
      refine ⟨fun path same => ?_, normal.columns, normal.without, normal.orderBy⟩
      obtain ⟨equalTo, columns, without, orderBy⟩ := wanted
      cases equalTo with
      | rows expected => cases same
      | table original =>
          obtain rfl := Expected.table.inj same
          exact (Path.extension_resolve base original).trans (normal.table original rfl)

end Expectation

/-- Whether steps are in normal form. -/
structure Steps.Normal (steps : Steps) : Prop where
  /-- Something is executed. -/
  acts : steps.act ≠ []
  arrange : ∀ directive ∈ steps.arrange, directive.Normal
  act : ∀ directive ∈ steps.act, directive.Normal
  expect : ∀ expectation ∈ steps.expect, expectation.Normal

/-- Whether a suite is in normal form, where a malformed case has no steps. -/
structure Suite.Normal (suite : Suite) : Prop where
  installations : ∀ directive ∈ suite.installations, directive.Normal
  cleanups : ∀ directive ∈ suite.cleanups, directive.Normal
  tests : ∀ test ∈ suite.tests, ∀ steps, test.steps = .ok steps → steps.Normal

section Described

theorem Steps.DescribedBy.normal
    {steps : Steps}
    {parts : CaseParts}
    (described : steps.DescribedBy parts) :
    steps.Normal where
  acts idle := by
    have actsOfNothing := described.act
    rw [idle, List.forall₂_nil_right_iff] at actsOfNothing
    exact described.acts actsOfNothing
  arrange := forall_mem_of_forall₂ described.arrange Directive.DescribedBy.normal
  act := forall_mem_of_forall₂ described.act Directive.DescribedBy.normal
  expect := forall_mem_of_forall₂ described.expect Expectation.DescribedBy.normal

theorem Steps.Normal.mapPaths
    {steps : Steps}
    (normal : steps.Normal)
    (base : Option String) :
    (steps.mapPaths (Path.resolve base)).Normal where
  acts idle := normal.acts (List.map_eq_nil_iff.mp idle)
  arrange := List.forall_mem_map.mpr fun directive member =>
    (normal.arrange directive member).mapPath base
  act := List.forall_mem_map.mpr fun directive member => (normal.act directive member).mapPath base
  expect := List.forall_mem_map.mpr fun expectation member =>
    (normal.expect expectation member).mapPath base

namespace Suite

theorem Normal.mapPaths
    {suite : Suite}
    (normal : suite.Normal)
    (base : Option String) :
    (suite.mapPaths (Path.resolve base)).Normal where
  installations := List.forall_mem_map.mpr fun directive member =>
    (normal.installations directive member).mapPath base
  cleanups := List.forall_mem_map.mpr fun directive member =>
    (normal.cleanups directive member).mapPath base
  tests := List.forall_mem_map.mpr fun test member steps read => by
    obtain ⟨original, found, rfl⟩ := map_eq_ok_iff.mp read
    exact (normal.tests test member original found).mapPaths base

/-- A suite that is read without a base is in normal form. -/
theorem normal_of_described
    {name : String}
    {value : Value}
    {suite : Suite}
    (read : ofValue name none value = .ok suite) :
    suite.Normal := by
  obtain ⟨parts, -, installations, cleanups, -, tests⟩ := ofValue_eq_ok_iff.mp read
  rw [directivesOf_eq_ok_iff] at installations cleanups
  constructor
  · exact forall_mem_of_forall₂ installations Directive.DescribedBy.normal
  · exact forall_mem_of_forall₂ cleanups Directive.DescribedBy.normal
  · intro test member steps found
    rw [tests] at member
    obtain ⟨index, inRange, rfl⟩ := List.mem_mapIdx.mp member
    obtain ⟨parts, -, described⟩ := TestCase.steps_ofValue_eq_ok_iff.mp found
    exact described.normal

/-- Every suite that is read is in normal form, whatever its paths are resolved against. -/
theorem normal_of_read
    {name : String}
    {base : Option String}
    {value : Value}
    {suite : Suite}
    (read : ofValue name base value = .ok suite) :
    suite.Normal := by
  rw [ofValue_eq_map] at read
  obtain ⟨written, found, rfl⟩ := map_eq_ok_iff.mp read
  exact (normal_of_described found).mapPaths base

/-- A suite that loads a table of hotels, with a case that runs two files and one query. -/
def hotels : Value :=
  .object
    [("installations", .text "@ seed.csv  into  hotels "),
      ("tests", .list
        [.list
          [.text "hotels", .null,
            .list [.text "@q/all.sql", .object [("plan", .text "@ plan.sql")], .text "select 1"],
            .list
              [.text " want.csv ", .object [("noFullscan", .text " hotels ")],
                .object [("equalTo", .text "@one.csv"), ("orderBy", .text " id ")]]]])]

/-- The suite is read behind a base that ends in a slash, and is in normal form. -/
theorem normal_of_read_hotels :
    ∃ suite, ofValue "hotels" (some "suites/") hotels = .ok suite ∧ suite.Normal ∧
      suite.installations = [.fileLoad "suites/seed.csv" "hotels"] ∧
      Path.extension "suites/seed.csv" = "csv" ∧ Text.IsName "hotels" := by
  obtain ⟨suite, read, installs⟩ : ∃ suite, ofValue "hotels" (some "suites/") hotels = .ok suite ∧
      suite.installations = [.fileLoad "suites/seed.csv" "hotels"] :=
    ⟨_, rfl, rfl⟩
  have normal := normal_of_read read
  have load : (Directive.fileLoad "suites/seed.csv" "hotels").Normal :=
    normal.installations _ (by simp [installs])
  exact ⟨suite, read, normal, installs, load⟩

end Suite

end Described
end DataSuite

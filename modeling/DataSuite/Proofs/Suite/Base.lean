import DataSuite.Proofs.Fallible
import DataSuite.Suite.Basic

/-!
# Suites behind a base

A base moves paths and does nothing else.  Behind a base a value is read as the same suite as
without one, or refused for the same fault; only the paths in the suite, wherever they stand, are
then resolved against the base.
-/

namespace DataSuite

section Paths

variable (change : String → String)

/-- A directive whose path is changed, if it has one. -/
def Directive.mapPath : Directive → Directive
  | inlineQuery text => .inlineQuery text
  | fileQuery path => .fileQuery (change path)
  | fileLoad path table => .fileLoad (change path) table
  | inlinePlan text => .inlinePlan text
  | filePlan path => .filePlan (change path)

/-- What rows are compared with, where the path of a table is changed. -/
def Expected.mapPath : Expected → Expected
  | rows expected => .rows expected
  | table path => .table (change path)

/-- An expectation in which the path of a table is changed. -/
def Expectation.mapPath : Expectation → Expectation
  | nothing => .nothing
  | table path => .table (change path)
  | noFullScan name => .noFullScan name
  | comparison wanted => .comparison { wanted with equalTo := wanted.equalTo.mapPath change }

/-- Steps in which all paths are changed. -/
def Steps.mapPaths (steps : Steps) : Steps where
  arrange := steps.arrange.map (Directive.mapPath change)
  act := steps.act.map (Directive.mapPath change)
  expect := steps.expect.map (Expectation.mapPath change)

/-- A test case in which all paths are changed; a malformed one has none. -/
def TestCase.mapPaths (test : TestCase) : TestCase where
  title := test.title
  steps := test.steps.map (Steps.mapPaths change)

/-- A suite in which all paths are changed. -/
def Suite.mapPaths (suite : Suite) : Suite where
  name := suite.name
  installations := suite.installations.map (Directive.mapPath change)
  cleanups := suite.cleanups.map (Directive.mapPath change)
  tests := suite.tests.map (TestCase.mapPaths change)

end Paths

section Resolved

variable (base : Option String)

namespace Directive

theorem ofReference_eq_map (text reference : String) :
    ofReference base text reference =
      (ofReference none text reference).map (mapPath (Path.resolve base)) := by
  unfold ofReference
  cases Text.cut? into reference with
  | none =>
      dsimp only
      split <;> rfl
  | some parts =>
      dsimp only
      split
      · rfl
      · split <;> rfl

/-- A base moves the path of a directive. -/
theorem ofValue_eq_map (value : Value) :
    ofValue base value = (ofValue none value).map (mapPath (Path.resolve base)) := by
  cases value with
  | text text =>
      unfold ofValue ofText
      dsimp only
      cases Text.afterPrefix? "@" text with
      | none => rfl
      | some reference => exact ofReference_eq_map base text reference
  | object members =>
      unfold ofValue
      dsimp only
      split
      · rename_i plan _
        unfold ofPlan
        cases Text.afterPrefix? "@" plan <;> rfl
      · rfl
  | null => rfl
  | boolean _ => rfl
  | number _ => rfl
  | list _ => rfl

end Directive

namespace Expectation

theorem tablePath?_eq_map (text : String) :
    tablePath? base text = (tablePath? none text).map (Path.resolve base) := by
  unfold tablePath?
  dsimp only
  split <;> rfl

theorem expected_eq_map (value : Value) :
    expected base value = (expected none value).map (Expected.mapPath (Path.resolve base)) := by
  cases value with
  | list items =>
      unfold expected
      dsimp only
      cases items.mapM row <;> rfl
  | text text =>
      unfold expected
      dsimp only
      rw [tablePath?_eq_map]
      cases tablePath? none text <;> rfl
  | null => rfl
  | boolean _ => rfl
  | number _ => rfl
  | object _ => rfl

theorem comparing_eq_map (members : Members) (equalTo : Value) :
    comparing base members equalTo =
      (comparing none members equalTo).map (mapPath (Path.resolve base)) := by
  unfold comparing
  rw [expected_eq_map]
  cases expected none equalTo with
  | error fault => rfl
  | ok equalTo =>
      cases columns "columns" (members.get? "columns") with
      | error fault => rfl
      | ok shown =>
          cases columns "without" (members.get? "without") with
          | error fault => rfl
          | ok without => cases columns "orderBy" (members.get? "orderBy") <;> rfl

/-- A base moves the path of the table that is expected. -/
theorem ofValue_eq_map (value : Value) :
    ofValue base value = (ofValue none value).map (mapPath (Path.resolve base)) := by
  cases value with
  | text text =>
      unfold ofValue
      dsimp only
      rw [tablePath?_eq_map]
      cases tablePath? none text <;> rfl
  | object members =>
      cases members with
      | nil => rfl
      | cons first rest =>
          unfold ofValue
          dsimp only
          split
          · rename_i hint _
            unfold fullScan
            split
            · dsimp only
              split <;> rfl
            · rfl
          · split
            · exact comparing_eq_map base _ _
            · rfl
  | null => rfl
  | boolean _ => rfl
  | number _ => rfl
  | list _ => rfl

end Expectation

theorem directivesOf_eq_map (value : Option Value) :
    directivesOf base value =
      (directivesOf none value).map (List.map (Directive.mapPath (Path.resolve base))) := by
  unfold directivesOf
  rw [map_mapM]
  congr 1
  funext value
  rw [Directive.ofValue_eq_map base, mapError_map]

theorem expectationsOf_eq_map (value : Option Value) :
    expectationsOf base value =
      (expectationsOf none value).map (List.map (Expectation.mapPath (Path.resolve base))) := by
  unfold expectationsOf
  rw [map_mapM]
  congr 1
  funext value
  rw [Expectation.ofValue_eq_map base, mapError_map]

/-- A base moves the paths of a case. -/
theorem Steps.ofParts_eq_map (parts : CaseParts) :
    ofParts base parts = (ofParts none parts).map (mapPaths (Path.resolve base)) := by
  unfold ofParts
  rw [directivesOf_eq_map base parts.arrange, directivesOf_eq_map base parts.act,
    expectationsOf_eq_map base parts.expect]
  split
  · rfl
  · cases directivesOf none parts.arrange with
    | error fault => rfl
    | ok arrange =>
        cases directivesOf none parts.act with
        | error fault => rfl
        | ok act => cases expectationsOf none parts.expect <;> rfl

/-- A base moves the paths of a case, and a malformed case keeps its fault. -/
theorem TestCase.ofValue_eq_mapPaths (index : Nat) (value : Value) :
    ofValue base index value = (ofValue none index value).mapPaths (Path.resolve base) := by
  unfold ofValue
  cases CaseParts.ofValue value with
  | error fault => rfl
  | ok parts => exact congrArg (TestCase.mk _) (Steps.ofParts_eq_map base parts)

theorem TestCase.ofValues_eq_map (values : List Value) :
    ofValues base values = (ofValues none values).map (mapPaths (Path.resolve base)) := by
  unfold ofValues
  rw [List.mapIdx_eq_iff]
  intro index
  have moved : ofValue base index = mapPaths (Path.resolve base) ∘ ofValue none index := by
    funext value
    exact ofValue_eq_mapPaths base index value
  rw [List.getElem?_map, List.getElem?_mapIdx, Option.map_map, moved]

namespace Suite

/-- A base moves the paths of a suite. -/
theorem ofValue_eq_map (name : String) (value : Value) :
    ofValue name base value = (ofValue name none value).map (mapPaths (Path.resolve base)) := by
  unfold ofValue
  cases (SuiteParts.ofValue value).mapError Fault.suite with
  | error fault => rfl
  | ok parts =>
      dsimp only [bind, Except.bind]
      rw [directivesOf_eq_map base parts.installations, directivesOf_eq_map base parts.cleanups,
        TestCase.ofValues_eq_map base parts.tests]
      cases directivesOf none parts.installations with
      | error fault => rfl
      | ok installations => cases directivesOf none parts.cleanups <;> rfl

end Suite
end Resolved

/-- Behind a base a value is read as the same suite as without one, in which each path is put behind
the base unless it is absolute, or it is refused for the same fault. -/
theorem Suite.base_moves_paths_only (name base : String) (value : Value) :
    ofValue name (some base) value =
        (ofValue name none value).map (mapPaths (Path.join base)) ∧
      ∀ path, Path.join base path =
        if Path.isAbsolute path.toList ∨ base = "" then path
        else if base.toList.getLast? = some '/' then base ++ path
        else base ++ "/" ++ path := by
  have resolves : Path.resolve (some base) = Path.join base := rfl
  constructor
  · rw [← resolves]
    exact ofValue_eq_map (some base) name value
  · exact Path.join_eq base

end DataSuite

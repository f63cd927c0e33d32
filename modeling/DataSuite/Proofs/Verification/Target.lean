import DataSuite.Proofs.Fallible
import DataSuite.Proofs.Row.Difference
import DataSuite.Verification

/-!
# Targets of a comparison

A comparison succeeds if and only if its target can be loaded, each row can be brought into
the shape in which it is compared, and the rows so shown pass.  Shaping treats each row on
its own, so that it commutes with every reordering of the rows.
-/

namespace DataSuite

namespace Comparison

/-- A row reduced to the columns shown, if there are any. -/
def projection (comparison : Comparison) (row : Row) : Except Mismatch Row :=
  match comparison.columns with
  | some columns => row.project columns
  | none => .ok row

/-- A row freed from the columns left out, if there are any. -/
def exclusion (comparison : Comparison) (row : Row) : Row :=
  match comparison.without with
  | some without => row.exclude without
  | none => row

/-- A row in the shape in which it is compared. -/
def shape (comparison : Comparison) (row : Row) : Except Mismatch Row :=
  (comparison.projection row).map comparison.exclusion

theorem mapM_projection
    (comparison : Comparison)
    (rows : List Row) :
    rows.mapM comparison.projection =
      match comparison.columns with
      | some columns => Row.projectAll columns rows
      | none => .ok rows := by
  unfold projection
  cases comparison.columns with
  | some columns => rfl
  | none => exact List.mapM_pure.trans (congrArg Except.ok rows.map_id')

theorem map_exclusion
    (comparison : Comparison)
    (rows : List Row) :
    rows.map comparison.exclusion =
      match comparison.without with
      | some without => rows.map (Row.exclude without)
      | none => rows := by
  unfold exclusion
  cases comparison.without with
  | some without => rfl
  | none => exact rows.map_id'

/-- Rows are reshaped one by one. -/
theorem reshape_eq_mapM
    (comparison : Comparison)
    (rows : List Row) :
    comparison.reshape rows = rows.mapM comparison.shape := by
  unfold reshape shape
  rw [← map_mapM, mapM_projection]
  exact congrArg (fun change => Except.map change _)
    (funext fun rows => (comparison.map_exclusion rows).symm)

end Comparison

/-- What rows are held against. -/
structure Target where
  /-- What makes rows agree. -/
  standard : Row.Standard
  /-- How a row is shown before it is compared. -/
  shown : Row → Row
  /-- The rows expected. -/
  rows : List Row

/-- The target that is expected. -/
def Expected.target (files : FileTree) : Expected → Except Failure Target
  | .rows expected => .ok ⟨.literal, id, expected⟩
  | .table path =>
      (loadTable files path).map fun table => ⟨.table table.headers, Row.asText, table.toRows⟩

namespace Target

/-- Whether rows pass after both sides are sorted. -/
def check (target : Target) (keys : Option (List String)) (actual : List Row) :
    Except Mismatch Unit := do
  let actual ← sortedBy keys actual
  let expected ← sortedBy keys target.rows
  Row.checkWith target.standard.differences actual expected

theorem check_none_eq_ok_iff
    {target : Target}
    {actual : List Row} :
    target.check none actual = .ok () ↔
      List.Forall₂ target.standard.Agree actual target.rows :=
  target.standard.checkWith_eq_ok_iff

/-- Sorted rows pass if and only if the key columns are carried on both sides and the rows of
both sides can be matched. -/
theorem check_some_eq_ok_iff
    {target : Target}
    {keys : List String}
    {actual : List Row} :
    target.check (some keys) actual = .ok () ↔
      Row.Carried keys actual ∧ Row.Carried keys target.rows ∧
        ∃ pairs, Sorted.Matching (Row.compareBy keys) target.standard.Agree actual target.rows
          pairs := by
  rw [← Sorted.forall₂_sort_iff (target.standard.respectsLevel keys)]
  simp only [check, sortedBy, bind_eq_ok_iff, Row.sortBy_eq_ok_iff,
    target.standard.checkWith_eq_ok_iff]
  constructor
  · rintro ⟨_, ⟨actualCarried, rfl⟩, _, ⟨expectedCarried, rfl⟩, agreeing⟩
    exact ⟨actualCarried, expectedCarried, agreeing⟩
  · rintro ⟨actualCarried, expectedCarried, agreeing⟩
    exact ⟨_, ⟨actualCarried, rfl⟩, _, ⟨expectedCarried, rfl⟩, agreeing⟩

end Target

namespace Comparison

/-- Whether a target shows rows, in their order, as some others. -/
def Shows
    (comparison : Comparison)
    (target : Target)
    (rows actual : List Row) : Prop :=
  List.Forall₂ (fun row shown => (comparison.shape row).map target.shown = .ok shown) rows actual

/-- The rows that a target shows are the reshaped ones. -/
theorem shows_iff
    {comparison : Comparison}
    {target : Target}
    {rows actual : List Row} :
    comparison.Shows target rows actual ↔
      ∃ reshaped, comparison.reshape rows = .ok reshaped ∧ reshaped.map target.shown = actual := by
  unfold Shows
  rw [← mapM_eq_ok_iff_forall₂, ← map_mapM, ← reshape_eq_mapM, map_eq_ok_iff]

/-- A comparison succeeds if and only if the rows pass that its target shows. -/
theorem verify_eq_ok_iff
    {files : FileTree}
    {comparison : Comparison}
    {rows : List Row} :
    comparison.verify files rows = .ok () ↔
      ∃ target actual, comparison.equalTo.target files = .ok target ∧
        comparison.Shows target rows actual ∧ target.check comparison.orderBy actual = .ok () := by
  have shaped :
      comparison.verify files rows = .ok () ↔
        ∃ reshaped target, comparison.reshape rows = .ok reshaped ∧
          comparison.equalTo.target files = .ok target ∧
            target.check comparison.orderBy (reshaped.map target.shown) = .ok () := by
    unfold verify Expected.target
    rw [bind_eq_ok_iff]
    cases comparison.equalTo with
    | rows expected =>
        simp only [mapError_eq_ok_iff, Except.ok.injEq, exists_and_left, exists_eq_left',
          List.map_id_fun]
        rfl
    | table path =>
        simp only [bind_eq_ok_iff, mapError_eq_ok_iff, map_eq_ok_iff, exists_and_left,
          exists_exists_and_eq_and]
        rfl
  rw [shaped]
  simp only [shows_iff]
  constructor
  · rintro ⟨reshaped, target, same, found, passes⟩
    exact ⟨target, _, found, ⟨reshaped, same, rfl⟩, passes⟩
  · rintro ⟨target, _, found, ⟨reshaped, same, rfl⟩, passes⟩
    exact ⟨reshaped, target, same, found, passes⟩

end Comparison
end DataSuite

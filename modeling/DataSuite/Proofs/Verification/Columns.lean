import DataSuite.Proofs.Row.Shape
import DataSuite.Proofs.Verification.Target

/-!
# Columns of a comparison

A comparison that reduces rows to some columns and frees them from others shows the columns that
are named first and not second, in their order, and it refuses rows that lack one of those named
first.  Columns that are not shown have no part in its verdict.
-/

namespace DataSuite
namespace Comparison

/-- Whether a row has the columns to which it is reduced. -/
def Carries (comparison : Comparison) (row : Row) : Prop :=
  ∀ columns, comparison.columns = some columns → ∀ column ∈ columns, row.has column = true

/-- Whether two rows have the same values in the columns to which they are reduced.  If they are
not reduced, they are the same once they are freed from the columns left out. -/
def Indistinct (comparison : Comparison) (left right : Row) : Prop :=
  match comparison.columns with
  | some columns => ∀ column ∈ columns, left.get? column = right.get? column
  | none => comparison.exclusion left = comparison.exclusion right

variable {comparison : Comparison} {left right row : Row}

theorem Indistinct.symm
    (indistinct : comparison.Indistinct left right) :
    comparison.Indistinct right left := by
  unfold Indistinct at indistinct ⊢
  split at indistinct
  · exact fun column member => (indistinct column member).symm
  · exact indistinct.symm

/-- A row can be brought into shape if and only if it has the columns to which it is reduced. -/
theorem exists_shape_iff :
    (∃ shown, comparison.shape row = .ok shown) ↔ comparison.Carries row := by
  rw [shape, exists_map_eq_ok_iff]
  unfold projection Carries
  cases comparison.columns with
  | none => simp
  | some columns => simp [Row.exists_project_iff]

/-- A row that cannot be brought into shape lacks the column that is reported. -/
theorem exists_lacking_of_shape
    {columns : List String}
    {cause : Mismatch}
    (reduces : comparison.columns = some columns)
    (fails : comparison.shape row = .error cause) :
    ∃ column ∈ columns, row.has column = false ∧ cause = .unknownColumn column row.columns := by
  rw [shape, map_eq_error_iff, projection, reduces] at fails
  exact Row.exists_lacking_of_project fails

/-- Rows that are not told apart are brought into the same shape. -/
theorem Indistinct.shape_eq
    (indistinct : comparison.Indistinct left right)
    (carries : comparison.Carries left) :
    comparison.shape left = comparison.shape right := by
  unfold shape projection
  unfold Indistinct at indistinct
  cases reduces : comparison.columns with
  | none =>
      rw [reduces] at indistinct
      exact congrArg Except.ok indistinct
  | some columns =>
      rw [reduces] at indistinct
      simp only [Row.project, Row.cellsIn_congr (carries columns reduces) indistinct]

section Rows

variable {files : FileTree} {rows others : List Row}

theorem reshape_eq_of_indistinct
    (indistinct : List.Forall₂ comparison.Indistinct rows others)
    (carried : ∀ row ∈ rows, comparison.Carries row) :
    comparison.reshape rows = comparison.reshape others := by
  rw [reshape_eq_mapM, reshape_eq_mapM]
  induction indistinct with
  | nil => rfl
  | cons alike _ inductionHypothesis =>
      rw [List.forall_mem_cons] at carried
      rw [List.mapM_cons, List.mapM_cons, alike.shape_eq carried.1, inductionHypothesis carried.2]

/-- A comparison tells the same of rows that it does not tell apart, if they have the columns to
which they are reduced. -/
theorem verify_eq_of_indistinct
    (files : FileTree)
    (indistinct : List.Forall₂ comparison.Indistinct rows others)
    (carried : ∀ row ∈ rows, comparison.Carries row) :
    comparison.verify files rows = comparison.verify files others := by
  unfold verify
  rw [reshape_eq_of_indistinct indistinct carried]

/-- A comparison only succeeds on rows that have the columns to which they are reduced. -/
theorem carries_of_verify
    (passes : comparison.verify files rows = .ok ()) :
    ∀ row ∈ rows, comparison.Carries row := by
  obtain ⟨target, shown, -, shows, -⟩ := verify_eq_ok_iff.mp passes
  intro row member
  obtain ⟨shown, same⟩ := exists_forall₂_iff.mp ⟨_, shows⟩ row member
  obtain ⟨shaped, same, -⟩ := map_eq_ok_iff.mp same
  exact exists_shape_iff.mp ⟨shaped, same⟩

theorem verify_of_indistinct
    (indistinct : List.Forall₂ comparison.Indistinct rows others)
    (passes : comparison.verify files rows = .ok ()) :
    comparison.verify files others = .ok () :=
  (verify_eq_of_indistinct files indistinct (carries_of_verify passes)).symm.trans passes

/-- Rows that have the columns to which they are reduced show those that are not left out. -/
theorem exists_reshape
    (equalTo : Expected)
    (orderBy : Option (List String))
    {columns : List String}
    (without : List String)
    (carried : ∀ row ∈ rows, ∀ column ∈ columns, row.has column = true) :
    ∃ shown, reshape ⟨equalTo, some columns, some without, orderBy⟩ rows = .ok shown ∧
      Row.projectAll (columns.filter fun column => !without.contains column) rows = .ok shown ∧
      List.Forall₂
        (fun row => row.ReducedTo (columns.filter fun column => !without.contains column))
        rows shown := by
  have each (row : Row) (member : row ∈ rows) :
      ∃ shown, shape ⟨equalTo, some columns, some without, orderBy⟩ row = .ok shown ∧
        row.project (columns.filter fun column => !without.contains column) = .ok shown := by
    obtain ⟨projected, same⟩ := Row.exists_project_iff.mpr (carried row member)
    exact ⟨_, map_eq_ok_iff.mpr ⟨projected, same, rfl⟩, Row.project_filter _ same⟩
  obtain ⟨shown, shows⟩ := exists_forall₂_iff.mpr each
  refine ⟨shown, ?_, ?_, shows.imp fun _ _ same => Row.reducedTo_of_project same.2⟩
  · rw [reshape_eq_mapM]
    exact mapM_eq_ok_iff_forall₂.mpr (shows.imp fun _ _ same => same.1)
  · exact mapM_eq_ok_iff_forall₂.mpr (shows.imp fun _ _ same => same.2)

/-- Rows cannot be reshaped if one of them lacks a column to which it is reduced. -/
theorem exists_lacking_of_reshape
    {columns : List String}
    (reduces : comparison.columns = some columns)
    (lacking : ∃ row ∈ rows, ∃ column ∈ columns, row.has column = false) :
    ∃ row ∈ rows, ∃ column ∈ columns, row.has column = false ∧
      comparison.reshape rows = .error (.unknownColumn column row.columns) := by
  rw [reshape_eq_mapM]
  have fails : ∃ cause, rows.mapM comparison.shape = .error cause := by
    rw [exists_error_iff]
    rintro ⟨shown, shaped⟩
    obtain ⟨row, member, column, named, absent⟩ := lacking
    obtain ⟨result, same⟩ := exists_forall₂_iff.mp ⟨_, mapM_eq_ok_iff_forall₂.mp shaped⟩ row member
    have has := exists_shape_iff.mp ⟨result, same⟩ columns reduces column named
    exact Bool.false_ne_true (absent.symm.trans has)
  obtain ⟨cause, fails⟩ := fails
  obtain ⟨row, member, failsRow⟩ := exists_mem_of_mapM_eq_error fails
  obtain ⟨column, named, absent, rfl⟩ := exists_lacking_of_shape reduces failsRow
  exact ⟨row, member, column, named, absent, fails⟩

end Rows

/-- The columns that are shown and those that are left out compose.  Rows that have the columns to
which they are reduced show, in order, those that are not left out, and rows of which one lacks
such a column are refused, whatever is left out.  Rows that differ in nothing that is shown are
judged alike, and if they have all columns that they should have, the same is told of them. -/
theorem shown_columns_decide
    (files : FileTree)
    (equalTo : Expected)
    (orderBy : Option (List String))
    (columns : List String) :
    (∀ (without : List String) (rows : List Row),
      (∀ row ∈ rows, ∀ column ∈ columns, row.has column = true) →
        ∃ shown, reshape ⟨equalTo, some columns, some without, orderBy⟩ rows = .ok shown ∧
          Row.projectAll (columns.filter fun column => !without.contains column) rows =
            .ok shown ∧
          List.Forall₂
            (fun row => row.ReducedTo (columns.filter fun column => !without.contains column))
            rows shown) ∧
      (∀ (without : Option (List String)) (rows : List Row),
        (∃ row ∈ rows, ∃ column ∈ columns, row.has column = false) →
          ∃ row ∈ rows, ∃ column ∈ columns, row.has column = false ∧
            reshape ⟨equalTo, some columns, without, orderBy⟩ rows =
              .error (.unknownColumn column row.columns)) ∧
      ∀ (comparison : Comparison) (rows others : List Row),
        List.Forall₂ comparison.Indistinct rows others →
          (Expectation.verify files (.rows rows) (.comparison comparison) = .ok () ↔
            Expectation.verify files (.rows others) (.comparison comparison) = .ok ()) ∧
          ((∀ row ∈ rows, comparison.Carries row) →
            Expectation.verify files (.rows rows) (.comparison comparison) =
              Expectation.verify files (.rows others) (.comparison comparison)) := by
  refine ⟨fun without _ => exists_reshape equalTo orderBy without,
    fun _ _ => exists_lacking_of_reshape rfl, fun comparison rows others indistinct => ?_⟩
  have backwards : List.Forall₂ comparison.Indistinct others rows :=
    indistinct.flip.imp fun _ _ => Indistinct.symm
  exact ⟨⟨verify_of_indistinct indistinct, verify_of_indistinct backwards⟩,
    verify_eq_of_indistinct files indistinct⟩

/-- A person of some rank. -/
def person (rank : String) : Row :=
  ⟨[("id", .text "7"), ("name", .text "Ann"), ("rank", .text rank)], by simp [Members.names]⟩

/-- Of a person reduced to name and number, with the name left out, only the number is shown, and a
promotion has no part in the verdict.  A person has no salary. -/
theorem shown_columns_decide_person :
    (∃ shown, reshape ⟨.rows [], some ["name", "id", "name"], some ["name", "gone"], some ["id"]⟩
        [person "low"] = .ok [shown] ∧ shown.columns = ["id"]) ∧
      (∃ column available, reshape ⟨.rows [], some ["name", "salary"], none, some ["id"]⟩
        [person "low"] = .error (.unknownColumn column available)) ∧
      Expectation.verify .empty (.rows [person "low"])
          (.comparison ⟨.rows [], some ["name", "id", "name"], none, some ["id"]⟩) =
        Expectation.verify .empty (.rows [person "high"])
          (.comparison ⟨.rows [], some ["name", "id", "name"], none, some ["id"]⟩) := by
  have carried : ∀ column ∈ ["name", "id", "name"], (person "low").has column = true := by decide
  obtain ⟨composes, -, hides⟩ :=
    shown_columns_decide .empty (.rows []) (some ["id"]) ["name", "id", "name"]
  obtain ⟨-, refuses, -⟩ :=
    shown_columns_decide .empty (.rows []) (some ["id"]) ["name", "salary"]
  refine ⟨?_, ?_, ?_⟩
  · obtain ⟨shown, same, -, _ | ⟨reduced, ⟨⟩⟩⟩ :=
      composes ["name", "gone"] [person "low"] (List.forall_mem_singleton.mpr carried)
    exact ⟨_, same, reduced.order.trans (by decide)⟩
  · obtain ⟨row, -, column, -, -, fails⟩ :=
      refuses none [person "low"] ⟨_, List.mem_singleton_self _, "salary", by decide⟩
    exact ⟨column, row.columns, fails⟩
  · refine (hides _ _ _ (.cons ?_ .nil)).2 (List.forall_mem_singleton.mpr ?_)
    · intro column member
      simp only [List.mem_cons, List.not_mem_nil, or_false] at member
      rcases member with rfl | rfl | rfl <;> rfl
    · rintro _ ⟨⟩
      exact carried

end Comparison
end DataSuite

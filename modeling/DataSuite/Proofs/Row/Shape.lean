import DataSuite.Proofs.Fallible
import DataSuite.Proofs.Value.Members
import DataSuite.Row.Shape

/-!
# Cells of reshaped rows

A row that has been projected, or freed from columns, has no other values in its columns than it
had before, and a row of texts has the texts of these.  A row can be projected if and only if it
has all the columns, which then stand where they are named first, and freeing the projected row
from columns is the same as not naming them.
-/

namespace DataSuite
namespace Row

/-- Cells are found in the row that they are taken from. -/
theorem get?_of_mem_cellsIn
    {row : Row}
    {columns : List String}
    {cells : Members}
    (taken : row.cellsIn columns = .ok cells)
    {column : String}
    {value : Value}
    (member : (column, value) ∈ cells) :
    row.get? column = some value := by
  induction columns generalizing cells with
  | nil =>
      obtain rfl := Except.ok.inj taken
      cases member
  | cons first rest inductionHypothesis =>
      unfold cellsIn at taken
      split at taken
      · cases taken
      · rename_i kept found
        obtain ⟨others, takenLater, rfl⟩ := map_eq_ok_iff.mp taken
        rcases List.mem_cons.mp member with same | later
        · obtain ⟨rfl, rfl⟩ := Prod.mk.inj same
          exact found
        · exact inductionHypothesis takenLater later

theorem get?_of_project
    {row shown : Row}
    {columns : List String}
    (projected : row.project columns = .ok shown)
    {column : String}
    {value : Value}
    (found : shown.get? column = some value) :
    row.get? column = some value := by
  obtain ⟨cells, taken, rfl⟩ := map_eq_ok_iff.mp projected
  exact get?_of_mem_cellsIn taken (Members.mem_of_mem_ofPairs (Members.mem_of_get? found))

theorem get?_of_exclude
    {row : Row}
    {without : List String}
    {column : String}
    {value : Value}
    (found : (row.exclude without).get? column = some value) :
    row.get? column = some value :=
  (Members.get?_eq_some_iff row.distinct).mpr
    (List.mem_of_mem_filter (Members.mem_of_get? found))

/-- The text in a column of a row of texts is that of the value there. -/
theorem get?_asText_eq_some_iff
    {row : Row}
    {column : String}
    {shown : Value} :
    row.asText.get? column = some shown ↔
      ∃ value, row.get? column = some value ∧ shown = .text value.cellText := by
  unfold get?
  rw [Members.get?_eq_some_iff row.asText.distinct]
  simp only [Members.get?_eq_some_iff row.distinct, asText, mapValues, List.mem_map, Prod.mk.injEq,
    Prod.exists]
  constructor
  · rintro ⟨_, value, member, rfl, rfl⟩
    exact ⟨value, member, rfl⟩
  · rintro ⟨value, member, rfl⟩
    exact ⟨column, value, member, rfl, rfl⟩

/-- Cells can be taken from a row if and only if it has all the columns. -/
theorem exists_cellsIn_iff
    {row : Row}
    {columns : List String} :
    (∃ cells, row.cellsIn columns = .ok cells) ↔ ∀ column ∈ columns, row.has column = true := by
  induction columns with
  | nil => exact iff_of_true ⟨[], rfl⟩ nofun
  | cons first rest inductionHypothesis =>
      rw [List.forall_mem_cons, ← inductionHypothesis, has, cellsIn]
      cases row.get? first with
      | none => simp
      | some value => simp [exists_map_eq_ok_iff]

/-- What cells cannot be taken from lacks the column that is reported. -/
theorem exists_lacking_of_cellsIn
    {row : Row}
    {columns : List String}
    {cause : Mismatch}
    (fails : row.cellsIn columns = .error cause) :
    ∃ column ∈ columns, row.has column = false ∧ cause = .unknownColumn column row.columns := by
  induction columns with
  | nil => cases fails
  | cons first rest inductionHypothesis =>
      unfold cellsIn at fails
      split at fails
      · rename_i absent
        refine ⟨first, List.mem_cons_self, ?_, (Except.error.inj fails).symm⟩
        rw [has, absent]
        rfl
      · obtain ⟨column, member, lacking⟩ := inductionHypothesis (map_eq_error_iff.mp fails)
        exact ⟨column, List.mem_cons_of_mem first member, lacking⟩

theorem names_of_cellsIn
    {row : Row}
    {columns : List String}
    {cells : Members}
    (taken : row.cellsIn columns = .ok cells) :
    cells.names = columns := by
  induction columns generalizing cells with
  | nil =>
      obtain rfl := Except.ok.inj taken
      rfl
  | cons first rest inductionHypothesis =>
      unfold cellsIn at taken
      split at taken
      · cases taken
      · obtain ⟨others, takenLater, rfl⟩ := map_eq_ok_iff.mp taken
        exact congrArg (first :: ·) (inductionHypothesis takenLater)

/-- Of the columns that pass a test the same cells are taken. -/
theorem cellsIn_filter
    {row : Row}
    {columns : List String}
    {cells : Members}
    (test : String → Bool)
    (taken : row.cellsIn columns = .ok cells) :
    row.cellsIn (columns.filter test) = .ok (cells.filter fun cell => test cell.1) := by
  induction columns generalizing cells with
  | nil =>
      obtain rfl := Except.ok.inj taken
      rfl
  | cons first rest inductionHypothesis =>
      unfold cellsIn at taken
      split at taken
      · cases taken
      · rename_i value found
        obtain ⟨others, takenLater, rfl⟩ := map_eq_ok_iff.mp taken
        by_cases kept : test first = true
        · simp [kept, cellsIn, found, inductionHypothesis takenLater, Except.map]
        · simp [kept, inductionHypothesis takenLater]

/-- The cells taken from a row that has all the columns depend on its values in them alone. -/
theorem cellsIn_congr
    {left right : Row}
    {columns : List String}
    (carried : ∀ column ∈ columns, left.has column = true)
    (same : ∀ column ∈ columns, left.get? column = right.get? column) :
    left.cellsIn columns = right.cellsIn columns := by
  induction columns with
  | nil => rfl
  | cons first rest inductionHypothesis =>
      rw [List.forall_mem_cons] at carried same
      obtain ⟨value, found⟩ := Option.isSome_iff_exists.mp carried.1
      rw [cellsIn, cellsIn, ← same.1, found, inductionHypothesis carried.2 same.2]

/-- Whether a row shows just some columns of another one, each where it is named first. -/
structure ReducedTo (row : Row) (columns : List String) (shown : Row) : Prop where
  order : shown.columns = columns.eraseDups
  /-- The columns have the values of the other row. -/
  values : ∀ column ∈ columns, shown.get? column = row.get? column

/-- A row that is projected shows the columns of its projection. -/
theorem reducedTo_of_project
    {row shown : Row}
    {columns : List String}
    (projected : row.project columns = .ok shown) :
    row.ReducedTo columns shown := by
  obtain ⟨cells, taken, made⟩ := map_eq_ok_iff.mp projected
  have shownColumns : shown.columns = columns.eraseDups := by
    rw [← made, ← names_of_cellsIn taken]
    exact Members.names_ofPairs cells
  refine ⟨shownColumns, fun column member => ?_⟩
  have named : column ∈ shown.columns := by
    rw [shownColumns]
    exact List.mem_eraseDups.mpr member
  obtain ⟨value, found⟩ :=
    Option.isSome_iff_exists.mp ((Members.isSome_get? shown.cells column).mpr named)
  have shownValue : shown.get? column = some value := found
  rw [shownValue, get?_of_project projected shownValue]

theorem exists_project_iff
    {row : Row}
    {columns : List String} :
    (∃ shown, row.project columns = .ok shown) ↔ ∀ column ∈ columns, row.has column = true :=
  exists_map_eq_ok_iff.trans exists_cellsIn_iff

/-- What cannot be projected lacks the column that is reported. -/
theorem exists_lacking_of_project
    {row : Row}
    {columns : List String}
    {cause : Mismatch}
    (fails : row.project columns = .error cause) :
    ∃ column ∈ columns, row.has column = false ∧ cause = .unknownColumn column row.columns :=
  exists_lacking_of_cellsIn (map_eq_error_iff.mp fails)

/-- Projecting to the columns that pass a test keeps the cells in them. -/
theorem project_filter
    {row shown : Row}
    {columns : List String}
    (test : String → Bool)
    (projected : row.project columns = .ok shown) :
    row.project (columns.filter test) = .ok (shown.keep test) := by
  obtain ⟨cells, taken, rfl⟩ := map_eq_ok_iff.mp projected
  have kept : ofPairs (cells.filter fun cell => test cell.1) = (ofPairs cells).keep test := by
    simp only [ofPairs, keep, ← Members.filter_ofPairs]
  rw [project, cellsIn_filter test taken, ← kept]
  rfl

end Row
end DataSuite

import DataSuite.Proofs.Sorted
import DataSuite.Proofs.Value.Members
import DataSuite.Proofs.Value.Order
import DataSuite.Row.Order

/-!
# The order of rows

The order of rows is total.  Two rows are level if and only if they have the same cells,
in whatever order.  Sorting succeeds if and only if each key column is carried by some row
or there are no rows, so that the order of the rows has no part in it.
-/

namespace DataSuite
namespace Row

/-- Whether two rows have the same cells, in any order. -/
def SameCells (left right : Row) : Prop :=
  left.cells.Perm right.cells

theorem SameCells.get?_eq
    {left right : Row}
    (same : left.SameCells right)
    (column : String) :
    left.get? column = right.get? column :=
  Members.get?_eq_of_perm left.distinct same column

instance : Std.TransCmp compareCells where
  eq_swap {left right} := by
    cases left <;> cases right <;> simp only [compareCells, Ordering.swap]
    exact Std.OrientedCmp.eq_swap
  isLE_trans {first second third} below above := by
    cases first <;> cases second <;> cases third <;>
      simp only [compareCells, Ordering.isLE, Bool.false_eq_true] at below above ⊢
    exact Std.TransCmp.isLE_trans below above

theorem transCmp_compareIn (keys : List String) :
    Std.TransCmp fun left right : Row => compareIn left right keys := by
  induction keys with
  | nil => exact { eq_swap := rfl, isLE_trans := fun _ _ => rfl }
  | cons key rest inductionHypothesis =>
      have := Sorted.transCmp_on compareCells fun row : Row => row.get? key
      exact inferInstanceAs
        (Std.TransCmp
          (compareLex (fun left right : Row => compareCells (left.get? key) (right.get? key))
            fun left right => compareIn left right rest))

/-- The order of two cells: by column and then by value. -/
def compareCell : String × Value → String × Value → Ordering :=
  compareLex (compareOn Prod.fst) fun left right => left.2.compare right.2

instance : Std.TransCmp compareCell :=
  have := Sorted.transCmp_on Value.compare fun cell : String × Value => cell.2
  inferInstanceAs (Std.TransCmp (compareLex _ _))

instance : Std.LawfulEqCmp compareCell where
  compare_self := Std.ReflCmp.compare_self
  eq_of_compare {left right} same := by
    obtain ⟨sameColumn, sameValue⟩ := compareLex_eq_eq.mp same
    exact Prod.ext (Std.LawfulEqCmp.eq_of_compare sameColumn)
      (Std.LawfulEqCmp.eq_of_compare sameValue)

theorem compareAll_eq (left right : List (String × Value)) :
    compareAll left right = List.compareLex compareCell left right := by
  induction left generalizing right with
  | nil => cases right <;> rfl
  | cons first leftRest inductionHypothesis =>
      cases right with
      | nil => rfl
      | cons second rightRest =>
          rw [List.compareLex_cons_cons, ← inductionHypothesis]
          exact (Ordering.then_assoc _ _ _).symm

/-- The order of rows is total. -/
instance transCmp_compareBy (keys : List String) : Std.TransCmp (compareBy keys) := by
  have := transCmp_compareIn keys
  have := Sorted.transCmp_on (List.compareLex compareCell) sortedCells
  have lexicographic :
      compareBy keys =
        compareLex (fun left right => compareIn left right keys)
          fun left right => List.compareLex compareCell left.sortedCells right.sortedCells := by
    funext left right
    simp only [compareBy, compareLex, compareAll_eq]
  rw [lexicographic]
  infer_instance

theorem perm_sortedCells (row : Row) :
    row.sortedCells.Perm row.cells :=
  Sorted.perm_sort (compareOn Prod.fst) row.cells

theorem rising_sortedCells (row : Row) :
    Sorted.Rising (compareOn Prod.fst) row.sortedCells :=
  Sorted.rising_sort row.cells

theorem SameCells.sortedCells_eq
    {left right : Row}
    (same : left.SameCells right) :
    left.sortedCells = right.sortedCells := by
  have permuted : left.sortedCells.Perm right.sortedCells :=
    (perm_sortedCells left).trans (same.trans (perm_sortedCells right).symm)
  -- Cells of one column are one cell, so that the order by columns is antisymmetric.
  refine permuted.eq_of_pairwise ?_ (rising_sortedCells left) (rising_sortedCells right)
  intro first second firstMember secondMember below above
  have sameColumn : first.1 = second.1 :=
    Std.LawfulEqCmp.eq_of_compare (Std.OrientedCmp.isLE_antisymm below above)
  exact List.inj_on_of_nodup_map left.distinct
    ((perm_sortedCells left).mem_iff.mp firstMember)
    (((perm_sortedCells right).trans same.symm).mem_iff.mp secondMember)
    sameColumn

theorem compareIn_eq_of_sameCells
    {left right : Row}
    (same : left.SameCells right)
    (keys : List String) :
    compareIn left right keys = .eq := by
  induction keys with
  | nil => rfl
  | cons key rest inductionHypothesis =>
      have level : compareCells (right.get? key) (right.get? key) = .eq :=
        Std.ReflCmp.compare_self
      unfold compareIn
      rw [same.get?_eq key, level, inductionHypothesis]
      rfl

/-- Two rows are level if and only if they have the same cells. -/
theorem compareBy_eq_iff
    {keys : List String}
    {left right : Row} :
    compareBy keys left right = .eq ↔ left.SameCells right := by
  unfold compareBy
  rw [Ordering.then_eq_eq, compareAll_eq, Std.LawfulEqCmp.compare_eq_iff_eq]
  constructor
  · rintro ⟨-, same⟩
    exact (perm_sortedCells left).symm.trans (same ▸ perm_sortedCells right)
  · intro same
    exact ⟨compareIn_eq_of_sameCells same keys, same.sortedCells_eq⟩

/-- Whether each key column is in some row, unless there are no rows. -/
def Carried (keys : List String) (rows : List Row) : Prop :=
  rows = [] ∨ ∀ key ∈ keys, ∃ row ∈ rows, row.has key = true

theorem Carried.of_perm
    {keys : List String}
    {left right : List Row}
    (carried : Carried keys left)
    (permuted : left.Perm right) :
    Carried keys right := by
  rcases carried with rfl | carried
  · exact .inl (List.nil_perm.mp permuted)
  · right
    intro key member
    obtain ⟨row, rowMember, found⟩ := carried key member
    exact ⟨row, permuted.mem_iff.mp rowMember, found⟩

theorem unknownKey?_eq_none_iff
    {keys : List String}
    {rows : List Row} :
    unknownKey? keys rows = none ↔ ∀ key ∈ keys, ∃ row ∈ rows, row.has key = true := by
  simp [unknownKey?]

/-- Rows are sorted if and only if their key columns are carried. -/
theorem sortBy_eq_ok_iff
    {keys : List String}
    {rows sorted : List Row} :
    sortBy keys rows = .ok sorted ↔
      Carried keys rows ∧
        rows.mergeSort (fun left right => (compareBy keys left right).isLE) = sorted := by
  unfold Carried
  rw [← unknownKey?_eq_none_iff]
  cases rows with
  | nil => simp [sortBy]
  | cons first rest =>
      cases unknown : unknownKey? keys (first :: rest) with
      | none => simp [sortBy, unknown]
      | some key => simp [sortBy, unknown]

end Row
end DataSuite

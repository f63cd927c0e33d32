import DataSuite.Proofs.Row.Order

/-!
# Sorting rows

Values are ordered totally, and so are rows up to the order of their columns.  Sorting rows
therefore gives the same rows in rising order, and it does not matter in which order they have
been: either there is a key column that none of them has, and the first such column is told, or
the sorted rows have the same cells place by place.
-/

namespace DataSuite
namespace Row

/-- Whether a column is the first of the key columns that no row has. -/
def FirstUnknown (keys : List String) (rows : List Row) (column : String) : Prop :=
  ∃ earlier later, keys = earlier ++ column :: later ∧
    (∀ key ∈ earlier, ∃ row ∈ rows, row.has key = true) ∧ ∀ row ∈ rows, row.has column = false

theorem unknownKey?_eq_some_iff
    {keys : List String}
    {rows : List Row}
    {column : String} :
    unknownKey? keys rows = some column ↔ FirstUnknown keys rows column := by
  unfold unknownKey? FirstUnknown
  rw [List.find?_eq_some_iff_append]
  simp only [Bool.not_eq_true', Bool.not_eq_false', List.any_eq_true, List.any_eq_false,
    Bool.not_eq_true]
  constructor
  · rintro ⟨absent, earlier, later, split, carried⟩
    exact ⟨earlier, later, split, by simpa using carried, absent⟩
  · rintro ⟨earlier, later, split, carried, absent⟩
    exact ⟨absent, earlier, later, split, by simpa using carried⟩

theorem FirstUnknown.mem
    {keys : List String}
    {rows : List Row}
    {column : String}
    (unknown : FirstUnknown keys rows column) :
    column ∈ keys := by
  obtain ⟨earlier, later, split, -⟩ := unknown
  rw [split]
  exact List.mem_append_right earlier List.mem_cons_self

/-- The first column that no row has does not depend on the order of the rows. -/
theorem FirstUnknown.of_perm
    {keys : List String}
    {left right : List Row}
    {column : String}
    (unknown : FirstUnknown keys left column)
    (permuted : left.Perm right) :
    FirstUnknown keys right column := by
  obtain ⟨earlier, later, split, carried, absent⟩ := unknown
  refine ⟨earlier, later, split, fun key member => ?_, fun row member => ?_⟩
  · obtain ⟨row, rowMember, has⟩ := carried key member
    exact ⟨row, permuted.mem_iff.mp rowMember, has⟩
  · exact absent row (permuted.mem_iff.mpr member)

/-- Unless the key columns are carried, one of them is the first that no row has. -/
theorem exists_firstUnknown
    {keys : List String}
    {rows : List Row}
    (notCarried : ¬ Carried keys rows) :
    rows ≠ [] ∧ ∃ column, FirstUnknown keys rows column := by
  obtain ⟨inhabited, lacking⟩ := not_or.mp notCarried
  rw [← unknownKey?_eq_none_iff, ← ne_eq, Option.ne_none_iff_exists'] at lacking
  obtain ⟨column, found⟩ := lacking
  exact ⟨inhabited, column, unknownKey?_eq_some_iff.mp found⟩

/-- Rows are not sorted by columns of which they lack one. -/
theorem sortBy_of_firstUnknown
    {keys : List String}
    {rows : List Row}
    {column : String}
    (inhabited : rows ≠ [])
    (unknown : FirstUnknown keys rows column) :
    ∃ available, sortBy keys rows = .error (.unknownColumn column available) := by
  cases rows with
  | nil => exact absurd rfl inhabited
  | cons first rest =>
      rw [← unknownKey?_eq_some_iff] at unknown
      exact ⟨first.columns, by simp [sortBy, unknown]⟩

/-- Two permutations of the same rows have the same cells place by place once they are sorted. -/
theorem forall₂_sameCells_sort
    (keys : List String)
    {left right : List Row}
    (permuted : left.Perm right) :
    List.Forall₂ SameCells
      (left.mergeSort fun first second => (compareBy keys first second).isLE)
      (right.mergeSort fun first second => (compareBy keys first second).isLE) := by
  have sameRows := ((Sorted.perm_sort (compareBy keys) left).trans permuted).trans
    (Sorted.perm_sort (compareBy keys) right).symm
  exact (Sorted.forall₂_level sameRows (Sorted.rising_sort left) (Sorted.rising_sort right)).imp
    fun _ _ => compareBy_eq_iff.mp

/-- The order of values is total and tells all values apart, and the order of rows is total and
tells all rows apart but for the order of their columns.  Rows that carry the key columns are
sorted into a rising permutation of them, in which the order that they have had before is only
seen in the order of columns; if they do not, the first column that no row has is told, in
whatever order they are. -/
theorem sortBy_total
    (keys : List String)
    {rows permuted : List Row}
    (permutes : permuted.Perm rows) :
    Sorted.Total Value.compare Eq ∧ Sorted.Total (compareBy keys) SameCells ∧
      (Carried keys rows → ∃ sorted sortedAgain,
        sortBy keys rows = .ok sorted ∧ sortBy keys permuted = .ok sortedAgain ∧
          sorted.Perm rows ∧ Sorted.Rising (compareBy keys) sorted ∧
            List.Forall₂ SameCells sorted sortedAgain) ∧
      (¬ Carried keys rows → ∃ column available availableAgain,
        FirstUnknown keys rows column ∧
          sortBy keys rows = .error (.unknownColumn column available) ∧
            sortBy keys permuted = .error (.unknownColumn column availableAgain)) := by
  refine ⟨.of_level_iff fun _ _ => Std.LawfulEqCmp.compare_eq_iff_eq,
    .of_level_iff fun _ _ => compareBy_eq_iff, fun carried => ?_, fun notCarried => ?_⟩
  · exact ⟨_, _, sortBy_eq_ok_iff.mpr ⟨carried, rfl⟩,
      sortBy_eq_ok_iff.mpr ⟨carried.of_perm permutes.symm, rfl⟩,
      Sorted.perm_sort (compareBy keys) rows, Sorted.rising_sort rows,
      forall₂_sameCells_sort keys permutes.symm⟩
  · obtain ⟨inhabited, column, unknown⟩ := exists_firstUnknown notCarried
    have inhabitedAgain : permuted ≠ [] := fun deserted =>
      inhabited (List.nil_perm.mp (deserted ▸ permutes))
    obtain ⟨available, fails⟩ := sortBy_of_firstUnknown inhabited unknown
    obtain ⟨availableAgain, failsAgain⟩ :=
      sortBy_of_firstUnknown inhabitedAgain (unknown.of_perm permutes.symm)
    exact ⟨column, available, availableAgain, unknown, fails, failsAgain⟩

/-- Rows with a numeral, a number and nothing in the column k, and with their columns in different
orders. -/
def mixedRows : List Row :=
  [.ofPairs [("k", .text "-inf"), ("v", .null)],
    .ofPairs [("v", .list [.text "x"]), ("k", .number (.integer 7))], .ofPairs [("v", .null)]]

/-- Rows with mixed values are sorted alike from both ends by a column that some of them have, and
not at all by a column that none has. -/
theorem sortBy_mixedRows :
    mixedRows.reverse.Perm mixedRows ∧ Carried ["k"] mixedRows ∧ ¬ Carried ["z"] mixedRows ∧
      (∃ sorted sortedAgain, sortBy ["k"] mixedRows = .ok sorted ∧
        sortBy ["k"] mixedRows.reverse = .ok sortedAgain ∧ sorted.Perm mixedRows ∧
          List.Forall₂ SameCells sorted sortedAgain) ∧
      ∃ available availableAgain,
        sortBy ["z"] mixedRows = .error (.unknownColumn "z" available) ∧
          sortBy ["z"] mixedRows.reverse = .error (.unknownColumn "z" availableAgain) := by
  have permutes : mixedRows.reverse.Perm mixedRows := List.reverse_perm mixedRows
  have carried : Carried ["k"] mixedRows := .inr (by decide)
  have notCarried : ¬ Carried ["z"] mixedRows := not_or.mpr ⟨by decide, by decide⟩
  obtain ⟨-, -, sorts, -⟩ := sortBy_total ["k"] permutes
  obtain ⟨-, -, -, fails⟩ := sortBy_total ["z"] permutes
  obtain ⟨sorted, sortedAgain, first, second, permuted, -, alike⟩ := sorts carried
  obtain ⟨column, available, availableAgain, unknown, failsFirst, failsSecond⟩ := fails notCarried
  obtain rfl := List.mem_singleton.mp unknown.mem
  exact ⟨permutes, carried, notCarried, ⟨sorted, sortedAgain, first, second, permuted, alike⟩,
    available, availableAgain, failsFirst, failsSecond⟩

end Row
end DataSuite

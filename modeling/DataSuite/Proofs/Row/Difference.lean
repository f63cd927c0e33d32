import DataSuite.Proofs.Places
import DataSuite.Proofs.Row.Order
import DataSuite.Row.Difference

/-!
# Differences between rows

Rows have no differences if and only if they agree place by place.  Both ways in which rows
agree respect the order of rows: whether rows agree is decided by their cells, and in a
table also by the order of the columns on the left.
-/

namespace DataSuite
namespace Row

/-- Whether a row agrees with a literal row. -/
structure AgreesWith (actual expected : Row) : Prop where
  /-- The row has each column expected with a value that agrees. -/
  cells : ∀ cell ∈ expected.cells,
    ∃ value, actual.get? cell.1 = some value ∧ value.agree cell.2 = true
  /-- The row has no other column. -/
  no_more : ∀ column ∈ actual.columns, expected.has column = true

/-- Whether a row agrees with a row of a table. -/
structure AgreesInTable (headers : List String) (actual expected : Row) : Prop where
  /-- The row has the headers as its columns. -/
  columns : actual.columns = headers
  /-- The row has the texts expected, up to equal numbers. -/
  texts : ∀ cell ∈ expected.cells,
    textsEqual (cellTextOf (actual.get? cell.1)) cell.2.cellText = true

theorem cellDifference?_eq_none_iff
    {number : Nat}
    {actual : Row}
    {column : String}
    {expected : Value} :
    cellDifference? number actual column expected = none ↔
      ∃ value, actual.get? column = some value ∧ value.agree expected = true := by
  unfold cellDifference?
  cases actual.get? column with
  | none => simp
  | some value => simp

theorem literalDifferences_eq_nil_iff
    {number : Nat}
    {actual expected : Row} :
    literalDifferences number actual expected = [] ↔ actual.AgreesWith expected := by
  unfold literalDifferences
  rw [List.append_eq_nil_iff, List.filterMap_eq_nil_iff, List.map_eq_nil_iff,
    List.filter_eq_nil_iff]
  simp only [cellDifference?_eq_none_iff, Bool.not_eq_true', Bool.not_eq_false]
  exact ⟨fun ⟨cells, noMore⟩ => ⟨cells, noMore⟩, fun agrees => ⟨agrees.cells, agrees.no_more⟩⟩

theorem textDifference?_eq_none_iff
    {number : Nat}
    {actual : Row}
    {column : String}
    {expected : Value} :
    textDifference? number actual column expected = none ↔
      textsEqual (cellTextOf (actual.get? column)) expected.cellText = true := by
  simp [textDifference?]

theorem tableDifferences_eq_nil_iff
    {headers : List String}
    {number : Nat}
    {actual expected : Row} :
    tableDifferences headers number actual expected = [] ↔
      actual.AgreesInTable headers expected := by
  unfold tableDifferences
  split
  · rename_i columns
    rw [List.filterMap_eq_nil_iff]
    simp only [textDifference?_eq_none_iff]
    exact ⟨fun texts => ⟨columns, texts⟩, fun agrees => agrees.texts⟩
  · rename_i other
    exact iff_of_false (List.cons_ne_nil _ _) fun agrees => other agrees.columns

/-- In a table with its own columns a row agrees with itself. -/
theorem agreesInTable_self (row : Row) : row.AgreesInTable row.columns row := by
  refine ⟨rfl, fun cell member => ?_⟩
  have found : row.get? cell.1 = some cell.2 :=
    (Members.get?_eq_some_iff row.distinct).mpr member
  simp [found, cellTextOf, textsEqual]

/-- A row agrees with texts under some headers if and only if these are its columns, and the text
in each of them equals the one that is given there. -/
theorem agreesInTable_ofPairs_iff
    {headers texts : List String}
    {actual : Row} :
    actual.AgreesInTable headers (ofPairs (headers.zip (texts.map Value.text))) ↔
      actual.columns = headers ∧
        ∀ cell ∈ headers.zip texts, textsEqual (cellTextOf (actual.get? cell.1)) cell.2 = true := by
  have parts (expected : Row) :
      actual.AgreesInTable headers expected ↔
        actual.columns = headers ∧ ∀ cell ∈ expected.cells,
          textsEqual (cellTextOf (actual.get? cell.1)) cell.2.cellText = true :=
    ⟨fun agrees => ⟨agrees.columns, agrees.texts⟩, fun agrees => ⟨agrees.1, agrees.2⟩⟩
  rw [parts]
  refine and_congr_right ?_
  rintro rfl
  -- The columns of a row are distinct, so that no text is lost.
  have distinct : actual.columns.Nodup := actual.distinct
  have kept : (ofPairs (actual.columns.zip (texts.map Value.text))).cells =
      (actual.columns.zip texts).map (Prod.map id Value.text) := by
    rw [← List.zip_map_right]
    exact Members.ofPairs_eq_self (Members.nodup_names_zip distinct _)
  rw [kept, List.forall_mem_map]
  rfl

/-- The differences of lists of rows are those of the rows in the same place. -/
theorem differencesFrom_eq
    (compare : Nat → Row → Row → List Difference)
    (number : Nat)
    (actual expected : List Row) :
    differencesFrom compare number actual expected =
      (numberedPairs number actual expected).flatMap fun pair =>
        compare pair.2 pair.1.1 pair.1.2 := by
  induction actual generalizing number expected with
  | nil => rfl
  | cons first actualRest inductionHypothesis =>
      cases expected with
      | nil => rfl
      | cons second expectedRest => exact congrArg (_ ++ ·) (inductionHypothesis _ _)

/-- What makes rows agree. -/
inductive Standard where
  /-- Literal rows are expected. -/
  | literal
  /-- The rows of a table with some headers are expected. -/
  | table (headers : List String)

namespace Standard

/-- How a row differs from an expected one. -/
def differences : Standard → Nat → Row → Row → List Difference
  | literal => literalDifferences
  | table headers => tableDifferences headers

/-- Whether a row agrees with an expected one. -/
def Agree : Standard → Row → Row → Prop
  | literal => AgreesWith
  | table headers => AgreesInTable headers

theorem differences_eq_nil_iff
    (standard : Standard)
    {number : Nat}
    {actual expected : Row} :
    standard.differences number actual expected = [] ↔ standard.Agree actual expected := by
  cases standard with
  | literal => exact literalDifferences_eq_nil_iff
  | table headers => exact tableDifferences_eq_nil_iff

theorem differencesFrom_eq_nil_iff
    (standard : Standard)
    {number : Nat}
    {actual expected : List Row}
    (sameLength : actual.length = expected.length) :
    differencesFrom standard.differences number actual expected = [] ↔
      List.Forall₂ standard.Agree actual expected := by
  rw [differencesFrom_eq, List.flatMap_eq_nil_iff, List.forall₂_iff_zip,
    ← map_fst_numberedPairs number]
  simp only [standard.differences_eq_nil_iff]
  constructor
  · intro agree
    refine ⟨sameLength, fun member => ?_⟩
    obtain ⟨⟨_, place⟩, numbered, rfl⟩ := List.mem_map.mp member
    exact agree _ numbered
  · exact fun agree pair numbered => agree.2 (List.mem_map_of_mem numbered)

/-- Rows pass if and only if they agree place by place. -/
theorem checkWith_eq_ok_iff
    (standard : Standard)
    {actual expected : List Row} :
    checkWith standard.differences actual expected = .ok () ↔
      List.Forall₂ standard.Agree actual expected := by
  have noDifference :
      checkWith standard.differences actual expected = .ok () ↔
        Row.differences standard.differences actual expected = [] := by
    unfold checkWith
    split <;> simp_all
  rw [noDifference]
  unfold Row.differences
  split
  · rename_i sameLength
    exact standard.differencesFrom_eq_nil_iff sameLength
  · rename_i otherLength
    exact iff_of_false (List.cons_ne_nil _ _) fun agreeing => otherLength agreeing.length_eq

end Standard

theorem SameCells.mem_columns_iff
    {left right : Row}
    (same : left.SameCells right)
    (column : String) :
    column ∈ left.columns ↔ column ∈ right.columns :=
  (same.map Prod.fst).mem_iff

theorem respectsLevel_agreesWith (keys : List String) :
    Sorted.RespectsLevel (compareBy keys) AgreesWith := by
  intro left left' right right' _ sameLeft sameRight agrees _
  rw [compareBy_eq_iff] at sameLeft sameRight
  constructor
  · intro cell member
    rw [← sameLeft.get?_eq]
    exact agrees.cells cell (sameRight.mem_iff.mpr member)
  · intro column member
    unfold has
    rw [← sameRight.get?_eq]
    exact agrees.no_more column ((sameLeft.mem_columns_iff column).mpr member)

theorem respectsLevel_agreesInTable
    (keys headers : List String) :
    Sorted.RespectsLevel (compareBy keys) (AgreesInTable headers) := by
  intro left left' right right' other sameLeft sameRight agrees answer
  rw [compareBy_eq_iff] at sameLeft sameRight
  refine ⟨answer.columns, fun cell member => ?_⟩
  rw [← sameLeft.get?_eq]
  exact agrees.texts cell (sameRight.mem_iff.mpr member)

/-- Whether rows agree is not changed by the order of their cells, as long as the row on the
left agrees with some row. -/
theorem Standard.respectsLevel
    (keys : List String)
    (standard : Standard) :
    Sorted.RespectsLevel (compareBy keys) standard.Agree := by
  cases standard with
  | literal => exact respectsLevel_agreesWith keys
  | table headers => exact respectsLevel_agreesInTable keys headers

end Row
end DataSuite

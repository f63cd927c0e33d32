import DataSuite.Proofs.Csv.Quoted
import DataSuite.Proofs.Row.Exact
import DataSuite.Proofs.Row.Shape
import DataSuite.Proofs.Value.Numeral
import DataSuite.Proofs.Verification.OwnTable
import DataSuite.Proofs.Verification.Spelling

/-!
# Integers in tables

An integer in a row that passes against a table in order is rounded as the numeral in its place of
the table is, whatever the other cells are and whichever columns are shown or left out.  So rows
and table tell two integers apart if and only if these are not rounded alike, as integers up to
2 ^ 53 never are unless they are the same.
-/

namespace DataSuite

namespace Expectation

/-- Whether rows are held, in their order, against the table at a path. -/
inductive ComparesInOrder (path : String) : Expectation → Prop where
  /-- The table alone is expected. -/
  | table : ComparesInOrder path (.table path)
  /-- Rows are compared with the table and not sorted. -/
  | comparison (columns without : Option (List String)) :
      ComparesInOrder path (.comparison ⟨.table path, columns, without, none⟩)

/-- Whether an integer of a result stands where the table that it is held against has the numeral
of another one. -/
def Confronts
    (files : FileTree)
    (actual : ResultSet)
    (expectation : Expectation)
    (left right : Int) : Prop :=
  ∃ (path : String) (table : Csv.Table) (place position : Nat) (row : Row) (cells : List String)
    (column : String),
    expectation.ComparesInOrder path ∧ loadTable files path = .ok table ∧
      actual.toRows[place]? = some row ∧ table.rows[place]? = some cells ∧
        table.headers[position]? = some column ∧ cells[position]? = some (toString right) ∧
          row.get? column = some (.number (.integer left))

end Expectation

namespace Comparison

/-- A value that is shown is the one in the same column of the row. -/
theorem get?_of_shape
    {comparison : Comparison}
    {row shown : Row}
    (shaped : comparison.shape row = .ok shown)
    {column : String}
    {value : Value}
    (found : shown.get? column = some value) :
    row.get? column = some value := by
  obtain ⟨projected, projection, rfl⟩ := map_eq_ok_iff.mp shaped
  have inProjected : projected.get? column = some value := by
    unfold exclusion at found
    split at found
    · exact Row.get?_of_exclude found
    · exact found
  unfold Comparison.projection at projection
  split at projection
  · exact Row.get?_of_project projection inProjected
  · exact Except.ok.inj projection ▸ inProjected

/-- Where rows pass against a table in order, each row is shown as one that agrees with the row of
the table in its place. -/
theorem exists_agreesInTable
    {files : FileTree}
    {path : String}
    {table : Csv.Table}
    {columns without : Option (List String)}
    {rows : List Row}
    (loaded : loadTable files path = .ok table)
    (passes : verify files ⟨.table path, columns, without, none⟩ rows = .ok ())
    {place : Nat}
    {row : Row}
    {cells : List String}
    (rowFound : rows[place]? = some row)
    (cellsFound : table.rows[place]? = some cells) :
    ∃ shown, shape ⟨.table path, columns, without, none⟩ row = .ok shown ∧
      shown.asText.AgreesInTable table.headers
        (Row.ofPairs (table.headers.zip (cells.map Value.text))) := by
  obtain ⟨target, actual, found, shows, checked⟩ := verify_eq_ok_iff.mp passes
  obtain ⟨wanted, loadedAgain, rfl⟩ := map_eq_ok_iff.mp found
  obtain rfl : table = wanted := Except.ok.inj (loaded.symm.trans loadedAgain)
  obtain ⟨_, shownFound, shown⟩ := exists_getElem?_of_forall₂ shows rowFound
  obtain ⟨_, expectedFound, agrees⟩ :=
    exists_getElem?_of_forall₂ (Target.check_none_eq_ok_iff.mp checked) shownFound
  obtain ⟨reshaped, shaped, rfl⟩ := map_eq_ok_iff.mp shown
  have expected : table.toRows[place]? =
      some (Row.ofPairs (table.headers.zip (cells.map Value.text))) := by
    rw [Csv.Table.toRows, List.getElem?_map, cellsFound, Option.map_some]
  obtain rfl := Option.some.inj (expected.symm.trans expectedFound)
  exact ⟨reshaped, shaped, agrees⟩

end Comparison

namespace Row

/-- A row that agrees with the row of a table has, in each column, a text that is equal to the one
in the table. -/
theorem AgreesInTable.textsEqual_cell
    {actual : Row}
    {headers cells : List String}
    (agrees : actual.AgreesInTable headers (ofPairs (headers.zip (cells.map Value.text))))
    {position : Nat}
    {column text : String}
    (named : headers[position]? = some column)
    (found : cells[position]? = some text) :
    textsEqual (cellTextOf (actual.get? column)) text = true := by
  have member : (column, text) ∈ headers.zip cells :=
    List.mem_of_getElem? (i := position) (List.getElem?_zip_eq_some.mpr ⟨named, found⟩)
  exact (agreesInTable_ofPairs_iff.mp agrees).2 _ member

/-- A row of texts that has a column has the text of the value there. -/
theorem exists_cellTextOf_asText
    {row : Row}
    {column : String}
    (member : column ∈ row.asText.columns) :
    ∃ value, row.get? column = some value ∧
      cellTextOf (row.asText.get? column) = value.cellText := by
  obtain ⟨shown, found⟩ :=
    Option.isSome_iff_exists.mp ((Members.isSome_get? row.asText.cells column).mpr member)
  obtain ⟨value, foundValue, rfl⟩ := get?_asText_eq_some_iff.mp found
  exact ⟨value, foundValue, by rw [get?, found]; rfl⟩

end Row

namespace Expectation

/-- Rows that pass against a table in order pass in a comparison with it. -/
theorem ComparesInOrder.exists_comparison
    {files : FileTree}
    {path : String}
    {actual : ResultSet}
    {expectation : Expectation}
    (compares : expectation.ComparesInOrder path)
    (inhabited : actual.toRows ≠ [])
    (passes : expectation.verify files actual = .ok ()) :
    ∃ columns without,
      Comparison.verify files ⟨.table path, columns, without, none⟩ actual.toRows = .ok () := by
  have judged
      (wanted : Comparison)
      (passes : (Expectation.comparison wanted).verify files actual = .ok ()) :
      wanted.verify files actual.toRows = .ok () := by
    cases actual with
    | rows found => exact passes
    | plan steps => exact passes
    | empty => exact absurd rfl inhabited
  cases compares with
  | table =>
      rw [verify_table_eq_verify_comparison] at passes
      exact ⟨none, none, judged _ passes⟩
  | comparison columns without => exact ⟨columns, without, judged _ passes⟩

/-- Where rows pass, an integer is rounded as the one whose numeral it is held against. -/
theorem Confronts.roundAlike
    {files : FileTree}
    {actual : ResultSet}
    {expectation : Expectation}
    {left right : Int}
    (leftFits : (Number.integer left).Fits)
    (rightFits : (Number.integer right).Fits)
    (confronts : Confronts files actual expectation left right)
    (passes : expectation.verify files actual = .ok ()) :
    (Number.integer left).RoundAlike (.integer right) := by
  obtain ⟨path, table, place, position, row, cells, column, compares, loaded, rowFound, cellsFound,
    named, cellFound, valueFound⟩ := confronts
  have inhabited : actual.toRows ≠ [] :=
    List.ne_nil_of_mem (List.mem_of_getElem? rowFound)
  obtain ⟨columns, without, passesCompared⟩ := compares.exists_comparison inhabited passes
  obtain ⟨shown, shaped, agrees⟩ :=
    Comparison.exists_agreesInTable loaded passesCompared rowFound cellsFound
  have member : column ∈ shown.asText.columns :=
    agrees.columns ▸ List.mem_of_getElem? named
  obtain ⟨value, foundShown, sameText⟩ := Row.exists_cellTextOf_asText member
  obtain rfl := Option.some.inj
    (valueFound.symm.trans (Comparison.get?_of_shape shaped foundShown))
  have equal := agrees.textsEqual_cell named cellFound
  rw [sameText, Value.cellText_number] at equal
  exact (Row.textsEqual_integer_iff leftFits rightFits).mp equal

/-- A row with one integer passes against a table that has the numeral of another one in its
place if the integers are rounded alike. -/
theorem confronts_and_verify_single
    {files : FileTree}
    {path column : String}
    {left right : Int}
    (leftFits : (Number.integer left).Fits)
    (rightFits : (Number.integer right).Fits)
    (alike : (Number.integer left).RoundAlike (.integer right))
    (loaded : loadTable files path = .ok ⟨[column], [[toString right]]⟩) :
    let actual : ResultSet := .rows [.single column (.number (.integer left))]
    Confronts files actual (table path) left right ∧
      (table path).verify files actual = .ok () := by
  intro actual
  have found := Row.get?_single column (.number (.integer left))
  constructor
  · exact ⟨path, _, 0, 0, _, _, column, .table, loaded, rfl, rfl, rfl, rfl, found⟩
  · have texts : Row.textsEqual (Number.integer left).toText (Number.integer right).toText = true :=
      (Row.textsEqual_integer_iff leftFits rightFits).mpr alike
    refine verify_table_eq_ok_iff.mpr ⟨_, loaded, ?_⟩
    refine (Row.Standard.table [column]).checkWith_eq_ok_iff.mpr (.cons ⟨rfl, ?_⟩ .nil)
    intro cell member
    obtain rfl := List.mem_singleton.mp member
    have shown := Row.get?_asText_eq_some_iff.mpr ⟨_, found, rfl⟩
    rw [shown, Value.cellText_number]
    exact texts

/-- Where two integers are rounded alike, one passes against the numeral of the other in some
table. -/
theorem exists_confronts_of_roundAlike
    {left right : Int}
    (leftFits : (Number.integer left).Fits)
    (rightFits : (Number.integer right).Fits)
    (alike : (Number.integer left).RoundAlike (.integer right)) :
    ∃ files actual expectation, Confronts files actual expectation left right ∧
      expectation.verify files actual = .ok () := by
  let lines : List Csv.Line := [⟨["id"], .lineFeed⟩, ⟨[toString right], .lineFeed⟩]
  have readBack :
      Csv.Table.ofBytes (Utf8.encode (Csv.textOf lines)) = .ok ⟨["id"], [[toString right]]⟩ :=
    Csv.ofBytes_textOf rfl (List.cons_ne_nil "id" []) (by simp)
  refine ⟨⟨[("ids.csv", .file (Utf8.encode (Csv.textOf lines)))], []⟩, _, _,
    confronts_and_verify_single leftFits rightFits alike
      (loadTable_eq_ok_iff.mpr ⟨_, (rfl : FileTree.read _ "ids.csv" = _), readBack⟩)⟩

/-- Rows and tables in order tell two integers apart if and only if these are not rounded alike or
are the same, and integers up to 2 ^ 53 are rounded alike only if they are the same. -/
theorem tables_tell_integers_apart_iff
    {left right : Int}
    (leftFits : (Number.integer left).Fits)
    (rightFits : (Number.integer right).Fits) :
    ((∀ files actual expectation, Confronts files actual expectation left right →
        expectation.verify files actual = .ok () → left = right) ↔
      ((Number.integer left).RoundAlike (.integer right) → left = right)) ∧
    (left.natAbs ≤ 2 ^ 53 → right.natAbs ≤ 2 ^ 53 →
      (Number.integer left).RoundAlike (.integer right) → left = right) := by
  refine ⟨⟨?_, ?_⟩, ?_⟩
  · intro apart alike
    obtain ⟨files, actual, expectation, confronts, passes⟩ :=
      exists_confronts_of_roundAlike leftFits rightFits alike
    exact apart files actual expectation confronts passes
  · intro apart files actual expectation confronts passes
    exact apart (confronts.roundAlike leftFits rightFits passes)
  · intro leftDouble rightDouble alike
    have same : (left : ℚ) = right := alike.value_eq leftFits rightFits leftDouble rightDouble
    exact_mod_cast same

/-- Two integers beyond 2 ^ 53 that are not rounded alike are told apart in every table. -/
theorem tables_tell_rounded_integers_apart :
    let left : Int := 9007199254740993
    let right : Int := 9007199254740995
    (Number.integer left).Fits ∧ (Number.integer right).Fits ∧
      ¬ (Number.integer left).RoundAlike (.integer right) ∧
      ∀ files actual expectation, Confronts files actual expectation left right →
        expectation.verify files actual ≠ .ok () := by
  intro left right
  have leftFits : (Number.integer left).Fits := by decide
  have rightFits : (Number.integer right).Fits := by decide
  have apart : ¬ (Number.integer left).RoundAlike (.integer right) := by
    rw [← Number.toDouble_equal_iff leftFits rightFits]
    decide +kernel
  refine ⟨leftFits, rightFits, apart, fun files actual expectation confronts passes => ?_⟩
  have same := (tables_tell_integers_apart_iff leftFits rightFits).1.mpr
    (fun alike => absurd alike apart) files actual expectation confronts passes
  exact absurd same (by decide)

/-- An integer passes against the numeral of the one before it. -/
theorem verify_numeral_of_other_integer :
    let files : FileTree := ⟨[("ids.csv", .file (Utf8.encode "id\n9007199254740992\n"))], []⟩
    let actual : ResultSet := .rows [.single "id" (.number (.integer 9007199254740993))]
    Confronts files actual (table "ids.csv") 9007199254740993 9007199254740992 ∧
      (table "ids.csv").verify files actual = .ok () := by
  intro files actual
  have leftFits : (Number.integer 9007199254740993).Fits := by decide
  have rightFits : (Number.integer 9007199254740992).Fits := by decide
  have alike : (Number.integer 9007199254740993).RoundAlike (.integer 9007199254740992) := by
    rw [← Number.toDouble_equal_iff leftFits rightFits]
    decide +kernel
  have loaded : loadTable files "ids.csv" = .ok ⟨["id"], [["9007199254740992"]]⟩ :=
    loadTable_eq_ok_iff.mpr ⟨_, rfl, by decide +kernel⟩
  exact confronts_and_verify_single leftFits rightFits alike loaded

end Expectation

end DataSuite

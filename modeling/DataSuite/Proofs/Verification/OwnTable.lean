import DataSuite.Proofs.Csv.Quoted
import DataSuite.Proofs.Fallible
import DataSuite.Proofs.Row.Difference
import DataSuite.Proofs.Value.Members
import DataSuite.Verification

/-!
# Rows and their own table

Rows of the same columns are written as a table: a line with the columns, and a line with the
texts of the cells for each row, every field between quotes.  The table is read back as it was
written, with the columns as its headers if these are trimmed, and the rows equal it.
-/

namespace DataSuite

namespace Row

/-- The texts of the cells of a row in a table. -/
def texts (row : Row) : List String :=
  row.cells.map fun cell => cell.2.cellText

@[simp] theorem length_texts (row : Row) : row.texts.length = row.columns.length := by
  simp [texts, columns, Members.names]

theorem ofPairs_cells (row : Row) : ofPairs row.cells = row := by
  obtain ⟨cells, distinct⟩ := row
  simp [ofPairs, Members.ofPairs_eq_self distinct]

/-- A row is put together again from its columns and the texts of its cells. -/
theorem ofPairs_zip_texts (row : Row) :
    ofPairs (row.columns.zip (row.texts.map Value.text)) = row.asText := by
  rw [← ofPairs_cells row.asText]
  simp [columns, texts, Members.names, asText, mapValues, List.zip_map']

end Row

/-- The rows of a table of texts are the rows whose texts they are. -/
theorem Csv.Table.toRows_texts
    {columns : List String}
    {rows : List Row}
    (alike : ∀ row ∈ rows, row.columns = columns) :
    Csv.Table.toRows ⟨columns, rows.map Row.texts⟩ = rows.map Row.asText := by
  simp only [toRows, List.map_map]
  apply List.map_congr_left
  intro row member
  obtain rfl := alike row member
  exact row.ofPairs_zip_texts

/-- Rows equal the table of their texts. -/
theorem checkTable_texts
    {columns : List String}
    {rows : List Row}
    (alike : ∀ row ∈ rows, row.columns = columns) :
    checkTable none rows ⟨columns, rows.map Row.texts⟩ = .ok () := by
  change Row.checkWith (Row.Standard.table columns).differences (rows.map Row.asText)
    (Csv.Table.toRows ⟨columns, rows.map Row.texts⟩) = .ok ()
  rw [Csv.Table.toRows_texts alike, Row.Standard.checkWith_eq_ok_iff, List.forall₂_same]
  intro shown member
  obtain ⟨row, found, rfl⟩ := List.mem_map.mp member
  have sameColumns : row.asText.columns = columns :=
    (row.columns_mapValues _).trans (alike row found)
  exact sameColumns ▸ row.asText.agreesInTable_self

/-- The table in a file is the one that its bytes hold. -/
theorem loadTable_eq_ok_iff
    {files : FileTree}
    {path : String}
    {table : Csv.Table} :
    loadTable files path = .ok table ↔
      ∃ bytes, files.read path = .ok bytes ∧ Csv.Table.ofBytes bytes = .ok table := by
  unfold loadTable
  cases files.read path with
  | error cause => simp
  | ok bytes => simp [mapError_eq_ok_iff]

namespace Expectation

/-- Rows pass against a file if and only if it holds a table that they equal. -/
theorem verify_table_eq_ok_iff
    {files : FileTree}
    {path : String}
    {rows : List Row} :
    (table path).verify files (.rows rows) = .ok () ↔
      ∃ wanted, loadTable files path = .ok wanted ∧ checkTable none rows wanted = .ok () := by
  unfold verify judge
  simp only [bind_eq_ok_iff, mapError_eq_ok_iff, ResultSet.toRows]

/-- Rows equal the table that is written from them, whatever their cells are and however the
lines end. -/
theorem verify_own_table
    (columns : List String)
    (rows : List Row)
    (lines : List Csv.Line)
    (inhabited : columns ≠ [])
    (unpadded : ∀ column ∈ columns, Text.Unpadded column)
    (alike : ∀ row ∈ rows, row.columns = columns)
    (written : lines.map Csv.Line.fields = columns :: rows.map Row.texts) :
    let bytes := Utf8.encode (Csv.textOf lines)
    Csv.Table.ofBytes bytes = .ok ⟨columns, rows.map Row.texts⟩ ∧
      ∀ (files : FileTree) (path : String), files.read path = .ok bytes →
        (table path).verify files (.rows rows) = .ok () := by
  intro bytes
  have sameLength : ∀ cells ∈ rows.map Row.texts, cells.length = columns.length := by
    intro cells member
    obtain ⟨row, found, rfl⟩ := List.mem_map.mp member
    rw [Row.length_texts, alike row found]
  have trimmed : columns.map Text.trim = columns :=
    (List.map_congr_left fun column member => Text.trim_eq_self (unpadded column member)).trans
      columns.map_id'
  have readBack : Csv.Table.ofBytes bytes = .ok ⟨columns, rows.map Row.texts⟩ := by
    rw [Csv.ofBytes_textOf written inhabited sameLength, trimmed]
  refine ⟨readBack, fun files path found => ?_⟩
  rw [verify_table_eq_ok_iff]
  exact ⟨_, loadTable_eq_ok_iff.mpr ⟨bytes, found, readBack⟩, checkTable_texts alike⟩

/-- Two rows with a quote, a comma, line ends, a list, no value and no text among their cells. -/
def awkwardRows : List Row :=
  [.ofPairs [("id", .list [.number (.integer 1), .text "é"]), ("note", .text "a \"b\",\r\n")],
    .ofPairs [("id", .null), ("note", .text "")]]

/-- The table of these rows, with both line ends. -/
def awkwardLines : List Csv.Line :=
  [⟨["id", "note"], .lineFeed⟩, ⟨["[1,\"é\"]", "a \"b\",\r\n"], .carriageReturnLineFeed⟩,
    ⟨["", ""], .lineFeed⟩]

/-- Rows with awkward cells equal their own table. -/
theorem verify_awkwardRows :
    let bytes := Utf8.encode
      "\"id\",\"note\"\n\"[1,\"\"é\"\"]\",\"a \"\"b\"\",\r\n\"\r\n\"\",\"\"\n"
    let files : FileTree := ⟨[("own.csv", .file bytes)], []⟩
    files.read "own.csv" = .ok bytes ∧
      Csv.Table.ofBytes bytes =
        .ok ⟨["id", "note"], [["[1,\"é\"]", "a \"b\",\r\n"], ["", ""]]⟩ ∧
      (table "own.csv").verify files (.rows awkwardRows) = .ok () := by
  intro bytes files
  have found : files.read "own.csv" = .ok bytes := rfl
  have text : Csv.textOf awkwardLines =
      "\"id\",\"note\"\n\"[1,\"\"é\"\"]\",\"a \"\"b\"\",\r\n\"\r\n\"\",\"\"\n" := by
    decide
  have written : awkwardLines.map Csv.Line.fields =
      ["id", "note"] :: awkwardRows.map Row.texts := by
    decide
  obtain ⟨readBack, verified⟩ := verify_own_table ["id", "note"] awkwardRows awkwardLines
    (by decide) (by decide) (by decide) written
  rw [text] at readBack verified
  exact ⟨found, readBack, verified files "own.csv" found⟩

end Expectation
end DataSuite

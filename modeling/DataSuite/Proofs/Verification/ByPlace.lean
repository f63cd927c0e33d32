import DataSuite.Proofs.Verification.OwnTable

/-!
# Tables by place

The rows of a table are put together by their headers and looked up by column.  In effect rows and
table are compared by place: a row has to have the headers as its columns in order, which leaves no
header to be repeated, and the text of each of its cells has to equal the cell that stands in its
place of the table.
-/

namespace DataSuite

namespace Csv

/-- The texts of the first record of a file, or no texts where there is no record. -/
def headerTexts (bytes : List UInt8) : Except Fault (List String) :=
  match records bytes with
  | [] => .ok []
  | first :: _ => first.texts

theorem length_of_fieldTexts
    {position : Position}
    {number : Nat}
    {fields : List (List UInt8)}
    {texts : List String}
    (read : fieldTexts position number fields = .ok texts) :
    texts.length = fields.length := by
  induction fields generalizing number texts with
  | nil =>
      obtain rfl := Except.ok.inj read
      rfl
  | cons field rest inductionHypothesis =>
      unfold fieldTexts at read
      split at read
      · cases read
      · obtain ⟨others, readLater, rfl⟩ := map_eq_ok_iff.mp read
        exact congrArg Nat.succ (inductionHypothesis readLater)

theorem Record.length_of_cells
    {width : Nat}
    {record : Record}
    {cells : List String}
    (read : record.cells width = .ok cells) :
    cells.length = width := by
  unfold Record.cells at read
  split at read
  · rename_i fits
    rw [length_of_fieldTexts read, fits]
  · cases read

/-- The headers of a table are the trimmed texts of the first record, and each of its rows has as
many cells as there are headers. -/
theorem Table.shape_of_ofBytes
    {bytes : List UInt8}
    {table : Table}
    (parsed : Table.ofBytes bytes = .ok table) :
    ∃ names, headerTexts bytes = .ok names ∧ table.headers = names.map Text.trim ∧
      ∀ cells ∈ table.rows, cells.length = table.headers.length := by
  unfold Table.ofBytes at parsed
  unfold headerTexts
  cases found : records bytes with
  | nil =>
      rw [found] at parsed
      obtain rfl := Except.ok.inj parsed
      exact ⟨[], rfl, rfl, nofun⟩
  | cons first rest =>
      rw [found] at parsed
      obtain ⟨names, named, parsed⟩ := bind_eq_ok_iff.mp parsed
      obtain ⟨rows, read, parsed⟩ := bind_eq_ok_iff.mp parsed
      obtain rfl := Except.ok.inj parsed
      have widths :
          List.Forall₂
            (fun cells record => cells.length = first.fields.length ∧
              record.cells first.fields.length = .ok cells) rows rest :=
        (mapM_eq_ok_iff_forall₂.mp read).flip.imp fun _ _ readRecord =>
          ⟨Record.length_of_cells readRecord, readRecord⟩
      refine ⟨names, named, rfl, fun cells member => ?_⟩
      rw [((List.forall₂_and_left rows rest).mp widths).1 cells member, List.length_map,
        length_of_fieldTexts named]

end Csv

namespace Row

/-- Whether two texts are the same or are both read as numbers that are equal. -/
def EqualTexts (left right : String) : Prop :=
  left = right ∨ ∃ leftNumber rightNumber, Decimal.numeric? left = some leftNumber ∧
    Decimal.numeric? right = some rightNumber ∧ leftNumber.equal rightNumber = true

theorem textsEqual_iff {left right : String} :
    textsEqual left right = true ↔ EqualTexts left right := by
  unfold textsEqual EqualTexts
  cases Decimal.numeric? left <;> cases Decimal.numeric? right <;> simp

/-- The texts of a row are those under its columns. -/
theorem map_cellTextOf_asText (row : Row) :
    row.columns.map (fun column => cellTextOf (row.asText.get? column)) = row.texts := by
  unfold columns Members.names texts
  rw [List.map_map]
  apply List.map_congr_left
  intro cell member
  have found : row.asText.get? cell.1 = some (.text cell.2.cellText) :=
    (Members.get?_eq_some_iff row.asText.distinct).mpr
      (List.mem_map_of_mem (f := fun cell => (cell.1, Value.text cell.2.cellText)) member)
  rw [Function.comp_apply, found]
  rfl

/-- A row agrees with the row of a table if and only if it does so place by place. -/
theorem agreesInTable_asText_iff
    {headers cells : List String}
    {row : Row}
    (sameLength : cells.length = headers.length) :
    row.asText.AgreesInTable headers (ofPairs (headers.zip (cells.map Value.text))) ↔
      row.columns = headers ∧ List.Forall₂ EqualTexts row.texts cells := by
  have sameColumns : row.asText.columns = row.columns := row.columns_mapValues _
  rw [agreesInTable_ofPairs_iff, sameColumns]
  refine and_congr_right ?_
  rintro rfl
  rw [← map_cellTextOf_asText, List.forall₂_map_left_iff, List.forall₂_iff_zip]
  simp only [textsEqual_iff]
  exact ⟨fun all => ⟨sameLength.symm, fun member => all _ member⟩,
    fun all pair member => all.2 member⟩

end Row

/-- Rows pass against a table in order if and only if there are as many of them as the table has and
each of them has the headers as its columns, in order, with a text in each place that equals the
cell there.  The headers are those of the file, trimmed. -/
theorem checkTable_none_iff_by_place
    {bytes : List UInt8}
    {table : Csv.Table}
    (parsed : Csv.Table.ofBytes bytes = .ok table)
    (rows : List Row) :
    ∃ names, Csv.headerTexts bytes = .ok names ∧
      (checkTable none rows table = .ok () ↔
        List.Forall₂
          (fun row cells => row.columns = names.map Text.trim ∧
            List.Forall₂ Row.EqualTexts row.texts cells)
          rows table.rows) := by
  obtain ⟨names, named, headers, widths⟩ := Csv.Table.shape_of_ofBytes parsed
  refine ⟨names, named, ?_⟩
  rw [← headers]
  have passes :
      checkTable none rows table = .ok () ↔
        List.Forall₂
          (fun row cells => row.asText.AgreesInTable table.headers
            (Row.ofPairs (table.headers.zip (cells.map Value.text))))
          rows table.rows := by
    refine (Row.Standard.table table.headers).checkWith_eq_ok_iff.trans ?_
    rw [Csv.Table.toRows, List.forall₂_map_left_iff, List.forall₂_map_right_iff]
    rfl
  rw [passes, List.forall₂_iff_zip, List.forall₂_iff_zip]
  refine and_congr_right fun _ => ?_
  have atPlace {row : Row} {cells : List String} (member : (row, cells) ∈ rows.zip table.rows) :=
    @Row.agreesInTable_asText_iff table.headers cells row (widths cells (List.of_mem_zip member).2)
  exact ⟨fun all _ _ member => (atPlace member).mp (all member),
    fun all _ _ member => (atPlace member).mpr (all member)⟩

/-- A number passes against another numeral of it under a header with blanks around it, and no row
passes where a header is repeated. -/
theorem checkTable_padded_and_repeated_headers :
    let padded := Utf8.encode " id ,note\n1.0,\n"
    let row : Row := .ofPairs [("id", .number (.integer 1)), ("note", .null)]
    let repeated := Utf8.encode "id,id\n1,1\n"
    Csv.Table.ofBytes padded = .ok ⟨["id", "note"], [["1.0", ""]]⟩ ∧
      checkTable none [row] ⟨["id", "note"], [["1.0", ""]]⟩ = .ok () ∧
      Csv.Table.ofBytes repeated = .ok ⟨["id", "id"], [["1", "1"]]⟩ ∧
      ∀ row, checkTable none [row] ⟨["id", "id"], [["1", "1"]]⟩ ≠ .ok () := by
  intro padded row repeated
  have parsedPadded : Csv.Table.ofBytes padded = .ok ⟨["id", "note"], [["1.0", ""]]⟩ := by
    decide +kernel
  have parsedRepeated : Csv.Table.ofBytes repeated = .ok ⟨["id", "id"], [["1", "1"]]⟩ := by
    decide +kernel
  have namesPadded : Csv.headerTexts padded = .ok [" id ", "note"] := by decide +kernel
  have namesRepeated : Csv.headerTexts repeated = .ok ["id", "id"] := by decide +kernel
  have number : Row.EqualTexts "1" "1.0" := Row.textsEqual_iff.mp (by decide +kernel)
  refine ⟨parsedPadded, ?_, parsedRepeated, fun row passes => ?_⟩
  · obtain ⟨names, named, passes⟩ := checkTable_none_iff_by_place parsedPadded [row]
    obtain rfl := Except.ok.inj (named.symm.trans namesPadded)
    exact passes.mpr (.cons ⟨by decide, .cons number (.cons (.inl rfl) .nil)⟩ .nil)
  · obtain ⟨names, named, passesIff⟩ := checkTable_none_iff_by_place parsedRepeated [row]
    obtain rfl := Except.ok.inj (named.symm.trans namesRepeated)
    have columns := (List.forall₂_cons.mp (passesIff.mp passes)).1.1
    have distinct : row.columns.Nodup := row.distinct
    rw [columns] at distinct
    exact absurd distinct (by decide)

end DataSuite

import DataSuite.Csv.Table
import DataSuite.Value.Text
import Mathlib.Data.List.Basic

/-!
# Quoted records

A text may be written as a field between quotes, with each quote in it written twice.  A reader
that comes to such a field at its beginning stands at the closing quote behind it and has read
the bytes of the text, whatever characters it has; a comma or a line end then goes on to the
next field or record.  So a file of lines in which all fields are quoted is read back field by
field, and its table has the fields of the first line, trimmed, as its headers.
-/

namespace DataSuite
namespace Csv

/-- What ends a line. -/
inductive LineEnd where
  | lineFeed
  | carriageReturnLineFeed
deriving DecidableEq

/-- The characters of a line end. -/
def LineEnd.characters : LineEnd → List Char
  | lineFeed => ['\n']
  | carriageReturnLineFeed => ['\r', '\n']

/-- Fields and what ends their line. -/
structure Line where
  fields : List String
  lineEnd : LineEnd
deriving DecidableEq

/-- How one character is written in a quoted field. -/
def quotedChar (character : Char) : List Char :=
  if character = '"' then ['"', '"'] else [character]

/-- A text as a quoted field. -/
def quotedField (text : String) : List Char :=
  '"' :: text.toList.flatMap quotedChar ++ ['"']

/-- The characters of a line whose fields are quoted. -/
def Line.characters (line : Line) : List Char :=
  Value.commaSeparated (line.fields.map quotedField) ++ line.lineEnd.characters

/-- The text of lines whose fields are quoted. -/
def textOf (lines : List Line) : String :=
  String.ofList (lines.flatMap Line.characters)

/-- The quote is the only character whose bytes have a quote among them. -/
theorem ne_quote_of_mem_encodeChar
    {character : Char}
    (other : character ≠ '"') :
    ∀ byte ∈ Utf8.encodeChar character, byte ≠ quote := by
  rintro byte member rfl
  have sameCode : character.toNat = 34 := Utf8.toNat_eq_of_mem_encodeChar member (by decide)
  exact other (Char.toNat_inj.mp sameCode)

namespace Reading

/-- What a reader has read, apart from where it stands: its state, the bytes of the current
field, the fields of the current record and those of the records before it, all in the order
in which they are written. -/
structure Holds (reading : Reading) (state : State) (field : List UInt8)
    (fields : List (List UInt8)) (records : List (List (List UInt8))) : Prop where
  state : reading.state = state
  field : reading.field.reverse = field
  fields : reading.fields.reverse = fields
  records : (reading.records.map Record.fields).reverse = records

/-- Nothing has been read. -/
theorem holds_initial (skipped : Nat) : (initial skipped).Holds .between [] [] [] :=
  ⟨rfl, rfl, rfl, rfl⟩

/-- Read the bytes of characters. -/
def readAll (reading : Reading) (characters : List Char) : Reading :=
  (characters.flatMap Utf8.encodeChar).foldl step reading

theorem readAll_append
    (reading : Reading)
    (first later : List Char) :
    reading.readAll (first ++ later) = (reading.readAll first).readAll later := by
  unfold readAll
  rw [List.flatMap_append, List.foldl_append]

section Holds

variable {reading : Reading} {field : List UInt8} {fields : List (List UInt8)}
  {records : List (List (List UInt8))}

/-- A quote begins a quoted field where no field has begun. -/
theorem Holds.step_opening
    {state : State}
    (begins : state = .between ∨ state = .empty)
    (holds : reading.Holds state [] fields records) :
    (reading.step quote).Holds .quoted [] fields records := by
  obtain ⟨sameState, sameField, sameFields, sameRecords⟩ := holds
  rcases begins with rfl | rfl
  all_goals
    simp only [step, counted, sameState]
    exact ⟨rfl, sameField, sameFields, sameRecords⟩

/-- Any other byte of a quoted field is read as it is. -/
theorem Holds.step_quoted
    {byte : UInt8}
    (other : byte ≠ quote)
    (holds : reading.Holds .quoted field fields records) :
    (reading.step byte).Holds .quoted (field ++ [byte]) fields records := by
  obtain ⟨sameState, rfl, sameFields, sameRecords⟩ := holds
  simp only [step, counted, sameState, beq_false_of_ne other]
  exact ⟨rfl, List.reverse_cons, sameFields, sameRecords⟩

/-- A quote in a quoted field may close it. -/
theorem Holds.step_quote
    (holds : reading.Holds .quoted field fields records) :
    (reading.step quote).Holds .closing field fields records := by
  obtain ⟨sameState, sameField, sameFields, sameRecords⟩ := holds
  simp only [step, counted, sameState]
  exact ⟨rfl, sameField, sameFields, sameRecords⟩

/-- A second quote belongs to the field. -/
theorem Holds.step_second_quote
    (holds : reading.Holds .closing field fields records) :
    (reading.step quote).Holds .quoted (field ++ [quote]) fields records := by
  obtain ⟨sameState, rfl, sameFields, sameRecords⟩ := holds
  simp only [step, counted, sameState]
  exact ⟨rfl, List.reverse_cons, sameFields, sameRecords⟩

/-- A comma behind the quotes ends the field. -/
theorem Holds.step_comma
    (holds : reading.Holds .closing field fields records) :
    (reading.step comma).Holds .empty [] (fields ++ [field]) records := by
  obtain ⟨sameState, rfl, rfl, sameRecords⟩ := holds
  simp only [step, counted, sameState]
  exact ⟨rfl, rfl, List.reverse_cons, sameRecords⟩

/-- A line end behind the quotes ends the record. -/
theorem Holds.step_lineEnd
    {byte : UInt8}
    (ends : isLineEnd byte = true)
    (holds : reading.Holds .closing field fields records) :
    (reading.step byte).Holds .between [] [] (records ++ [fields ++ [field]]) := by
  obtain ⟨sameState, rfl, rfl, rfl⟩ := holds
  obtain rfl | rfl : byte = lineFeed ∨ byte = carriageReturn := by simpa [isLineEnd] using ends
  all_goals
    simp only [step, counted, sameState]
    refine ⟨rfl, rfl, rfl, ?_⟩
    exact List.reverse_cons.trans (congrArg (_ ++ [·]) List.reverse_cons)

/-- A line end is skipped where no field has begun. -/
theorem Holds.step_blank
    {byte : UInt8}
    (ends : isLineEnd byte = true)
    (holds : reading.Holds .between field fields records) :
    (reading.step byte).Holds .between field fields records := by
  obtain ⟨sameState, sameField, sameFields, sameRecords⟩ := holds
  simp only [step, counted, sameState, ends]
  exact ⟨rfl, sameField, sameFields, sameRecords⟩

/-- Bytes of a quoted field among which no quote is are read as they are. -/
theorem Holds.steps_quoted
    {bytes : List UInt8}
    (others : ∀ byte ∈ bytes, byte ≠ quote)
    (holds : reading.Holds .quoted field fields records) :
    (bytes.foldl step reading).Holds .quoted (field ++ bytes) fields records := by
  induction bytes generalizing reading field with
  | nil => exact (List.append_nil field).symm ▸ holds
  | cons byte rest inductionHypothesis =>
      obtain ⟨other, othersLater⟩ := List.forall_mem_cons.mp others
      rw [List.append_cons]
      exact inductionHypothesis othersLater (holds.step_quoted other)

/-- A character is read as its bytes in a quoted field. -/
theorem Holds.readAll_quotedChar
    (character : Char)
    (holds : reading.Holds .quoted field fields records) :
    (reading.readAll (quotedChar character)).Holds .quoted
      (field ++ Utf8.encodeChar character) fields records := by
  unfold quotedChar
  split
  · rename_i isQuote
    subst isQuote
    exact holds.step_quote.step_second_quote
  · rename_i other
    unfold readAll
    rw [List.flatMap_singleton]
    exact holds.steps_quoted (ne_quote_of_mem_encodeChar other)

/-- Characters are read as their bytes in a quoted field. -/
theorem Holds.readAll_quotedChars
    (characters : List Char)
    (holds : reading.Holds .quoted field fields records) :
    (reading.readAll (characters.flatMap quotedChar)).Holds .quoted
      (field ++ characters.flatMap Utf8.encodeChar) fields records := by
  induction characters generalizing reading field with
  | nil => exact (List.append_nil field).symm ▸ holds
  | cons first rest inductionHypothesis =>
      rw [List.flatMap_cons, List.flatMap_cons, readAll_append, ← List.append_assoc]
      exact inductionHypothesis (holds.readAll_quotedChar first)

/-- A quoted field is read as the bytes of its text. -/
theorem Holds.readAll_quotedField
    {state : State}
    (begins : state = .between ∨ state = .empty)
    (text : String)
    (holds : reading.Holds state [] fields records) :
    (reading.readAll (quotedField text)).Holds .closing (Utf8.encode text) fields records := by
  unfold quotedField
  rw [← List.singleton_append, List.append_assoc, readAll_append, readAll_append]
  exact ((holds.step_opening begins).readAll_quotedChars text.toList).step_quote

/-- A line end behind a field ends the record. -/
theorem Holds.readAll_lineEnd
    (lineEnd : LineEnd)
    (holds : reading.Holds .closing field fields records) :
    (reading.readAll lineEnd.characters).Holds .between [] []
      (records ++ [fields ++ [field]]) := by
  cases lineEnd with
  | lineFeed => exact holds.step_lineEnd rfl
  | carriageReturnLineFeed => exact (holds.step_lineEnd rfl).step_blank rfl

/-- Behind a field the rest of its line is read as the fields that follow. -/
theorem Holds.readAll_rest
    (texts : List String)
    (lineEnd : LineEnd)
    (holds : reading.Holds .closing field fields records) :
    (reading.readAll
      ((texts.map quotedField).flatMap (',' :: ·) ++ lineEnd.characters)).Holds .between [] []
        (records ++ [fields ++ field :: texts.map Utf8.encode]) := by
  -- Each comma ends a field, so the fields in front of the current one are arbitrary.
  induction texts generalizing reading field fields with
  | nil => exact holds.readAll_lineEnd lineEnd
  | cons first rest inductionHypothesis =>
      have begun := holds.step_comma.readAll_quotedField (.inr rfl) first
      rw [List.map_cons, List.flatMap_cons, List.append_assoc, ← List.singleton_append,
        List.append_assoc, readAll_append, readAll_append, List.map_cons,
        List.append_cons fields field]
      exact inductionHypothesis begun

/-- A line is read as a record of the bytes of its fields. -/
theorem Holds.readAll_line
    {line : Line}
    (inhabited : line.fields ≠ [])
    (holds : reading.Holds .between [] [] records) :
    (reading.readAll line.characters).Holds .between [] []
      (records ++ [line.fields.map Utf8.encode]) := by
  obtain ⟨fields, lineEnd⟩ := line
  cases fields with
  | nil => exact absurd rfl inhabited
  | cons first rest =>
      unfold Line.characters Value.commaSeparated
      rw [List.map_cons, List.append_assoc, readAll_append]
      exact (holds.readAll_quotedField (.inl rfl) first).readAll_rest rest lineEnd

/-- Lines are read as the records of their fields. -/
theorem Holds.readAll_lines
    {lines : List Line}
    (inhabited : ∀ line ∈ lines, line.fields ≠ [])
    (holds : reading.Holds .between [] [] records) :
    (reading.readAll (lines.flatMap Line.characters)).Holds .between [] []
      (records ++ lines.map fun line => line.fields.map Utf8.encode) := by
  induction lines generalizing reading records with
  | nil => exact (List.append_nil records).symm ▸ holds
  | cons line rest inductionHypothesis =>
      obtain ⟨inhabitedLine, inhabitedLater⟩ := List.forall_mem_cons.mp inhabited
      rw [List.flatMap_cons, readAll_append, List.map_cons, List.append_cons]
      exact inductionHypothesis inhabitedLater (holds.readAll_line inhabitedLine)

/-- Where no field has begun, the end of the file adds no record. -/
theorem Holds.finish_eq
    (holds : reading.Holds .between field fields records) :
    reading.finish.map Record.fields = records := by
  unfold finish
  rw [holds.state]
  exact List.map_reverse.trans holds.records

end Holds

end Reading

theorem encode_textOf (lines : List Line) :
    Utf8.encode (textOf lines) = (lines.flatMap Line.characters).flatMap Utf8.encodeChar := by
  simp [Utf8.encode, textOf]

/-- A line that begins with a quoted field does not begin with a byte order mark. -/
theorem not_byteOrderMark_textOf
    {lines : List Line}
    (inhabited : ∀ line ∈ lines, line.fields ≠ []) :
    byteOrderMark.isPrefixOf (Utf8.encode (textOf lines)) = false := by
  rw [encode_textOf]
  cases lines with
  | nil => rfl
  | cons line rest =>
      obtain ⟨fields, lineEnd⟩ := line
      cases fields with
      | nil => exact absurd rfl (inhabited _ List.mem_cons_self)
      | cons first others => rfl

/-- The records of lines whose fields are quoted are those of their fields. -/
theorem fields_records_textOf
    {lines : List Line}
    (inhabited : ∀ line ∈ lines, line.fields ≠ []) :
    (records (Utf8.encode (textOf lines))).map Record.fields =
      lines.map fun line => line.fields.map Utf8.encode := by
  unfold records
  rw [not_byteOrderMark_textOf inhabited, encode_textOf]
  exact ((Reading.holds_initial 0).readAll_lines inhabited).finish_eq

/-- Fields that are encoded texts are read as these texts. -/
theorem fieldTexts_encode
    (position : Position)
    (number : Nat)
    (texts : List String) :
    fieldTexts position number (texts.map Utf8.encode) = .ok texts := by
  induction texts generalizing number with
  | nil => rfl
  | cons first rest inductionHypothesis =>
      simp [fieldTexts, Utf8.decode_encode, inductionHypothesis, Except.map]

theorem Record.texts_eq
    {record : Record}
    {texts : List String}
    (encoded : record.fields = texts.map Utf8.encode) :
    record.texts = .ok texts := by
  rw [Record.texts, encoded, fieldTexts_encode]

/-- Records of encoded texts are read as rows of these texts if these are equally many. -/
theorem mapM_cells_eq
    {width : Nat}
    {records : List Record}
    {rows : List (List String)}
    (encoded : records.map Record.fields = rows.map (List.map Utf8.encode))
    (sameLength : ∀ cells ∈ rows, cells.length = width) :
    records.mapM (Record.cells width) = .ok rows := by
  induction rows generalizing records with
  | nil =>
      obtain rfl := List.map_eq_nil_iff.mp encoded
      rfl
  | cons cells rest inductionHypothesis =>
      obtain ⟨record, records, rfl, fields, encodedLater⟩ := List.map_eq_cons_iff.mp encoded
      obtain ⟨lengthFirst, lengthLater⟩ := List.forall_mem_cons.mp sameLength
      have fits : record.fields.length = width := by
        rw [fields, List.length_map, lengthFirst]
      rw [List.mapM_cons, inductionHypothesis encodedLater lengthLater, Record.cells,
        if_pos fits, Record.texts_eq fields]
      rfl

/-- A file of quoted lines holds the table whose headers are the fields of the first line and
whose rows are those of the other ones, if all have the same number of fields. -/
theorem ofBytes_textOf
    {lines : List Line}
    {headers : List String}
    {rows : List (List String)}
    (written : lines.map Line.fields = headers :: rows)
    (inhabited : headers ≠ [])
    (sameLength : ∀ cells ∈ rows, cells.length = headers.length) :
    Table.ofBytes (Utf8.encode (textOf lines)) = .ok ⟨headers.map Text.trim, rows⟩ := by
  have noEmptyLine : ∀ line ∈ lines, line.fields ≠ [] := by
    intro line member fieldless
    have found : line.fields ∈ headers :: rows := written ▸ List.mem_map_of_mem member
    rw [fieldless] at found
    rcases List.mem_cons.mp found with first | later
    · exact inhabited first.symm
    · exact inhabited (List.length_eq_zero_iff.mp (sameLength _ later).symm)
  have fields : (records (Utf8.encode (textOf lines))).map Record.fields =
      (headers :: rows).map (List.map Utf8.encode) := by
    rw [fields_records_textOf noEmptyLine, ← written, List.map_map]
    rfl
  obtain ⟨first, rest, found, fieldsFirst, fieldsLater⟩ := List.map_eq_cons_iff.mp fields
  have width : first.fields.length = headers.length := by
    rw [fieldsFirst, List.length_map]
  unfold Table.ofBytes
  rw [found]
  dsimp only
  rw [Record.texts_eq fieldsFirst, width, mapM_cells_eq fieldsLater sameLength]
  rfl

end Csv
end DataSuite

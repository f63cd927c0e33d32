import DataSuite.Csv.Reader
import DataSuite.Text.Blank
import DataSuite.Text.Utf8

/-!
# Tables of comma-separated values

The first record of a file holds the headers, which are trimmed; every other record has as
many fields as the first one.  All fields are texts in UTF-8.
-/

namespace DataSuite
namespace Csv

/-- Why a file is no table. -/
inductive Fault where
  /-- A record has another number of fields than the headers. -/
  | unequalLength (position : Position) (length expected : Nat)
  /-- A field is no text from a byte on. -/
  | notUtf8 (position : Position) (field byte : Nat)
deriving DecidableEq

/-- The description of a fault. -/
def Fault.message : Fault → String
  | .unequalLength position length expected =>
      s!"CSV error: record {position.record} (line: {position.line}, byte: {position.byte}): " ++
        s!"found record with {length} fields, but the previous record has {expected} fields"
  | .notUtf8 position field byte =>
      s!"CSV parse error: record {position.record} (line {position.line}, field: {field}, " ++
        s!"byte: {position.byte}): invalid utf-8: invalid UTF-8 in field {field} near byte " ++
        s!"index {byte}"

/-- Headers and rows of texts. -/
structure Table where
  headers : List String
  /-- The cells of each row. -/
  rows : List (List String)
deriving DecidableEq

/-- The texts of the fields from a number on. -/
def fieldTexts (position : Position) : Nat → List (List UInt8) → Except Fault (List String)
  | _, [] => .ok []
  | number, field :: rest =>
      match Utf8.decode field with
      | .error byte => .error (.notUtf8 position number byte)
      | .ok text => (fieldTexts position (number + 1) rest).map (text :: ·)

/-- The texts of the fields of a record. -/
def Record.texts (record : Record) : Except Fault (List String) :=
  fieldTexts record.position 0 record.fields

/-- The cells of a row, of which there have to be as many as headers. -/
def Record.cells (width : Nat) (record : Record) : Except Fault (List String) :=
  if record.fields.length = width then record.texts
  else .error (.unequalLength record.position record.fields.length width)

/-- The table in a file. -/
def Table.ofBytes (bytes : List UInt8) : Except Fault Table :=
  match records bytes with
  | [] => .ok ⟨[], []⟩
  | first :: rest => do
      let headers ← first.texts
      let rows ← rest.mapM (Record.cells first.fields.length)
      return ⟨headers.map Text.trim, rows⟩

end Csv
end DataSuite

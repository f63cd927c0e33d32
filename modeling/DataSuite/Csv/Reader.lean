/-!
# Records of comma-separated values

A record is a line of fields with commas between them.  A field that begins with a
quote may hold commas and line ends, and a quote in it is written twice.  Empty lines
are no records.  Each record knows where it begins.
-/

namespace DataSuite
namespace Csv

/-- The byte of a comma. -/
def comma : UInt8 := 44

/-- The byte of a quote. -/
def quote : UInt8 := 34

/-- The byte of a line feed. -/
def lineFeed : UInt8 := 10

/-- The byte of a carriage return. -/
def carriageReturn : UInt8 := 13

/-- Whether a byte ends a line. -/
def isLineEnd (byte : UInt8) : Bool :=
  byte == lineFeed || byte == carriageReturn

/-- Where a record begins. -/
structure Position where
  /-- The number of records in front of it. -/
  record : Nat
  /-- Its line, counted from one. -/
  line : Nat
  /-- The number of bytes in front of it. -/
  byte : Nat
deriving DecidableEq

/-- A record as it is written. -/
structure Record where
  /-- Where the record begins. -/
  position : Position
  /-- Its fields. -/
  fields : List (List UInt8)
deriving DecidableEq

/-- What has been read of the current field. -/
inductive State where
  /-- No field of the record has begun. -/
  | between
  /-- The field is still empty. -/
  | empty
  /-- The field is not quoted, or its quotes are closed. -/
  | plain
  /-- The field is quoted. -/
  | quoted
  /-- The field is quoted, and a quote has just been read in it. -/
  | closing
deriving DecidableEq

/-- What has been read of a file. -/
structure Reading where
  state : State
  /-- Where the current record begins. -/
  start : Position
  /-- The bytes of the current field, reversed. -/
  field : List UInt8
  /-- The fields of the current record, reversed. -/
  fields : List (List UInt8)
  /-- The records, reversed. -/
  records : List Record
  /-- The number of bytes read. -/
  bytes : Nat
  /-- The current line. -/
  line : Nat
deriving DecidableEq

namespace Reading

/-- Nothing has been read behind some bytes that are no part of a record. -/
def initial (skipped : Nat) : Reading :=
  ⟨.between, ⟨0, 1, skipped⟩, [], [], [], skipped, 1⟩

/-- The reading that has counted one more byte. -/
def counted (reading : Reading) (byte : UInt8) : Reading :=
  { reading with
    bytes := reading.bytes + 1
    line := if byte == lineFeed then reading.line + 1 else reading.line }

/-- Add a byte to the current field. -/
def push (reading : Reading) (byte : UInt8) (state : State) : Reading :=
  { reading with state, field := byte :: reading.field }

/-- End the current field and begin another one. -/
def endField (reading : Reading) : Reading :=
  { reading with
    state := .empty
    field := []
    fields := reading.field.reverse :: reading.fields }

/-- End the current field and record. -/
def endRecord (reading : Reading) : Reading :=
  let record : Record := ⟨reading.start, (reading.field.reverse :: reading.fields).reverse⟩
  { reading with
    state := .between
    start := ⟨reading.start.record + 1, reading.line, reading.bytes⟩
    field := []
    fields := []
    records := record :: reading.records }

/-- A byte that is read outside quotes and behind no quote of its own field. -/
def unquoted (reading : Reading) (byte : UInt8) : Reading :=
  if byte == comma then reading.endField
  else if isLineEnd byte then reading.endRecord
  else reading.push byte .plain

/-- Read one byte. -/
def step (reading : Reading) (byte : UInt8) : Reading :=
  let reading := reading.counted byte
  match reading.state with
  | .between =>
      if isLineEnd byte then reading
      else if byte == quote then { reading with state := .quoted }
      else reading.unquoted byte
  | .empty => if byte == quote then { reading with state := .quoted } else reading.unquoted byte
  | .plain => reading.unquoted byte
  | .quoted =>
      if byte == quote then { reading with state := .closing } else reading.push byte .quoted
  | .closing => if byte == quote then reading.push byte .quoted else reading.unquoted byte

/-- The records once the file has ended; its end also ends a record that has begun. -/
def finish (reading : Reading) : List Record :=
  match reading.state with
  | .between => reading.records.reverse
  | _ => reading.endRecord.records.reverse

end Reading

/-- The bytes of the byte order mark. -/
def byteOrderMark : List UInt8 :=
  [0xef, 0xbb, 0xbf]

/-- The records of a file, which may begin with a byte order mark. -/
def records (bytes : List UInt8) : List Record :=
  let skipped := if byteOrderMark.isPrefixOf bytes then 3 else 0
  ((bytes.drop skipped).foldl Reading.step (.initial skipped)).finish

end Csv
end DataSuite

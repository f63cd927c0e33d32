/-!
# A place in a YAML stream

A cursor holds the characters ahead together with the number of characters and
lines behind it and its column.  A line ends with a carriage return, a line feed,
both in this order, or one of the three Unicode line ends.
-/

namespace DataSuite
namespace Yaml

/-- A place in a stream. -/
structure Cursor where
  /-- The characters ahead. -/
  rest : List Char
  /-- The number of characters behind. -/
  index : Nat
  /-- The number of lines behind. -/
  line : Nat
  /-- The number of characters behind in this line. -/
  column : Nat

/-- Whether a character is a space or a tabulator. -/
def isBlank (character : Char) : Bool :=
  character == ' ' || character == '\t'

/-- Whether a character ends a line. -/
def isBreak (character : Char) : Bool :=
  character == '\n' || character == '\r' || character == '\u0085' ||
    character == '\u2028' || character == '\u2029'

/-- Whether a character may stand in the name of an anchor. -/
def isNameChar (character : Char) : Bool :=
  character.isAlphanum || character == '_' || character == '-'

/-- Whether a character may stand in a stream. -/
def isAllowed (character : Char) : Bool :=
  let code := character.toNat
  code == 0x09 || code == 0x0a || code == 0x0d || (0x20 ≤ code && code ≤ 0x7e) ||
    code == 0x85 || (0xa0 ≤ code && code ≤ 0xfffd) || 0x10000 ≤ code

namespace Cursor

/-- The start of a stream. -/
def start (characters : List Char) : Cursor :=
  ⟨characters, 0, 0, 0⟩

/-- The character ahead. -/
def peek? (cursor : Cursor) : Option Char :=
  cursor.rest.head?

/-- The character some places ahead. -/
def ahead? (cursor : Cursor) (distance : Nat) : Option Char :=
  cursor.rest[distance]?

/-- Whether the character some places ahead is the given one. -/
def holds (cursor : Cursor) (character : Char) (distance : Nat) : Bool :=
  cursor.ahead? distance == some character

/-- Whether a blank is some places ahead. -/
def blankAt (cursor : Cursor) (distance : Nat) : Bool :=
  (cursor.ahead? distance).any isBlank

/-- Whether a line end is some places ahead. -/
def breakAt (cursor : Cursor) (distance : Nat) : Bool :=
  (cursor.ahead? distance).any isBreak

/-- Whether a line end or the end of the stream is some places ahead. -/
def endAt (cursor : Cursor) (distance : Nat) : Bool :=
  (cursor.ahead? distance).all isBreak

/-- Whether a blank, a line end or the end of the stream is some places ahead. -/
def gapAt (cursor : Cursor) (distance : Nat) : Bool :=
  (cursor.ahead? distance).all fun character => isBlank character || isBreak character

/-- The place some characters further in the same line. -/
def skip (cursor : Cursor) (count : Nat) : Cursor :=
  { cursor with
    rest := cursor.rest.drop count
    index := cursor.index + count
    column := cursor.column + count }

/-- The place behind the characters of this line that satisfy a test. -/
def skipWhile (cursor : Cursor) (test : Char → Bool) : Cursor :=
  cursor.skip (cursor.rest.takeWhile test).length

/-- The place behind the line end ahead, if there is one. -/
def skipBreak (cursor : Cursor) : Cursor :=
  match cursor.rest with
  | '\r' :: '\n' :: rest => ⟨rest, cursor.index + 2, cursor.line + 1, 0⟩
  | character :: rest =>
      if isBreak character then ⟨rest, cursor.index + 1, cursor.line + 1, 0⟩ else cursor
  | [] => cursor

/-- What the line end ahead contributes to a scalar. -/
def breakText (cursor : Cursor) : List Char :=
  match cursor.rest with
  | [] => []
  | character :: _ =>
      if character == '\u2028' || character == '\u2029' then [character]
      else if isBreak character then ['\n']
      else []

/-- Whether a mark of three equal characters that separates documents is ahead. -/
def documentMark (cursor : Cursor) (character : Char) : Bool :=
  cursor.column == 0 && cursor.holds character 0 && cursor.holds character 1 &&
    cursor.holds character 2 && cursor.gapAt 3

/-- Whether either mark between documents is ahead. -/
def anyDocumentMark (cursor : Cursor) : Bool :=
  cursor.documentMark '-' || cursor.documentMark '.'

end Cursor
end Yaml
end DataSuite

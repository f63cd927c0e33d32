import DataSuite.Text.Utf8
import DataSuite.Yaml.Scalar

/-!
# Tokens of a YAML stream

A stream is cut into tokens.  Indentation opens and closes blocks.  A key is only
known for one when the colon behind it is found; then the tokens for the key and, if
it opens a block, for the block are put in front of it.  Such a key stands in one line
and within 1024 characters of its colon.
-/

namespace DataSuite
namespace Yaml

/-- A part of a YAML stream. -/
inductive Token where
  /-- The version that a stream declares. -/
  | version (major minor : Nat)
  /-- A declared abbreviation of tags. -/
  | abbreviation (handle tag : String)
  /-- The mark in front of a document. -/
  | documentStart
  /-- The mark behind a document. -/
  | documentEnd
  /-- The start of a sequence in block style. -/
  | blockSequence
  /-- The start of a mapping in block style. -/
  | blockMapping
  | blockEnd
  /-- An opening square bracket. -/
  | flowSequence
  /-- A closing square bracket. -/
  | flowSequenceEnd
  /-- An opening brace. -/
  | flowMapping
  /-- A closing brace. -/
  | flowMappingEnd
  /-- The dash in front of an entry. -/
  | blockEntry
  /-- The comma behind an entry. -/
  | flowEntry
  /-- What follows is a key. -/
  | key
  /-- What follows is a value. -/
  | value
  | alias (name : String)
  | anchor (name : String)
  /-- The tag of the next node. -/
  | tag (handle suffix : String)
  | scalar (text : String) (plain : Bool)
deriving DecidableEq

/-- The start of what may turn out to be a key. -/
structure PossibleKey where
  /-- Whether nothing but a key may stand there. -/
  required : Bool
  /-- The number of tokens in front of it. -/
  tokens : Nat
  /-- The number of characters in front of it. -/
  index : Nat
  line : Nat
  column : Nat

/-- What is known between two tokens. -/
structure Scanner where
  /-- The place in the stream. -/
  cursor : Cursor
  /-- The tokens so far. -/
  tokens : Array Token
  /-- The column of the innermost block, or -1 outside all blocks. -/
  indent : Int
  /-- The columns of the blocks around it. -/
  outer : List Int
  /-- The possible key of the innermost brackets, or of the block outside all brackets. -/
  key : Option PossibleKey
  /-- The possible keys around them; there is one for each open bracket. -/
  outerKeys : List (Option PossibleKey)
  /-- Whether a key may begin at this place. -/
  keyAllowed : Bool

namespace Scanner

/-- The scanner at the start of a stream. -/
def start (characters : List Char) : Scanner :=
  ⟨.start characters, #[], -1, [], none, [], true⟩

/-- Whether the place is inside brackets. -/
def inFlow (scanner : Scanner) : Bool :=
  !scanner.outerKeys.isEmpty

/-- Append a token. -/
def push (scanner : Scanner) (token : Token) : Scanner :=
  { scanner with tokens := scanner.tokens.push token }

/-- Move to another place. -/
def moveTo (scanner : Scanner) (cursor : Cursor) : Scanner :=
  { scanner with cursor }

/-- Move some characters further. -/
def skip (scanner : Scanner) (count : Nat) : Scanner :=
  scanner.moveTo (scanner.cursor.skip count)

/-- Allow or forbid a key at this place. -/
def allowKey (scanner : Scanner) (allowed : Bool) : Scanner :=
  { scanner with keyAllowed := allowed }

/-- Open a block at a column if it is indented more deeply, with its token in front of the
tokens from a number on. -/
def openBlock (scanner : Scanner) (column position : Nat) (token : Token) : Scanner :=
  if scanner.inFlow || (column : Int) ≤ scanner.indent then scanner
  else
    { scanner with
      tokens := scanner.tokens.insertIdxIfInBounds (min position scanner.tokens.size) token
      indent := column
      outer := scanner.indent :: scanner.outer }

/-- Close the blocks that are indented more deeply than a column. -/
def closeBlocks (column : Int) : List Int → Scanner → Scanner
  | outer :: rest, scanner =>
      if scanner.inFlow || scanner.indent ≤ column then scanner
      else
        closeBlocks column rest
          { scanner with
            tokens := scanner.tokens.push .blockEnd
            indent := outer
            outer := rest }
  | [], scanner => scanner

/-- Close the blocks around a column. -/
def unindent (scanner : Scanner) (column : Int) : Scanner :=
  closeBlocks column scanner.outer scanner

/-- Give up a possible key, which fails if it is required. -/
def dropKey (scanner : Scanner) : Option Scanner :=
  if scanner.key.any PossibleKey.required then none else some { scanner with key := none }

/-- Whether a possible key has been left behind. -/
def isStale (cursor : Cursor) (key : PossibleKey) : Bool :=
  key.line < cursor.line || key.index + 1024 < cursor.index

/-- A possible key unless it has been left behind, which fails if it is required. -/
def freshKey? (cursor : Cursor) : Option PossibleKey → Option (Option PossibleKey)
  | none => some none
  | some key =>
      if isStale cursor key then if key.required then none else some none else some (some key)

/-- Give up the keys that have been left behind. -/
def dropStaleKeys (scanner : Scanner) : Option Scanner := do
  let key ← freshKey? scanner.cursor scanner.key
  let outerKeys ← scanner.outerKeys.mapM (freshKey? scanner.cursor)
  return { scanner with key, outerKeys }

/-- Take note that a key may begin here. -/
def noteKey (scanner : Scanner) : Option Scanner :=
  if scanner.keyAllowed then do
    let cursor := scanner.cursor
    let required := !scanner.inFlow && scanner.indent == (cursor.column : Int)
    let key := ⟨required, scanner.tokens.size, cursor.index, cursor.line, cursor.column⟩
    let cleared ← scanner.dropKey
    return { cleared with key := some key }
  else some scanner

/-- Pass blanks, comments and line ends.  Where a key may begin in a block, a tabulator is
no blank. -/
def skipGap : Nat → Scanner → Scanner
  | 0, scanner => scanner
  | fuel + 1, scanner =>
      let cursor := scanner.cursor
      let marked := if cursor.column == 0 && cursor.holds '\ufeff' 0 then cursor.skip 1 else cursor
      let tabs := scanner.inFlow || !scanner.keyAllowed
      let blanks := marked.skipWhile fun character =>
        character == ' ' || (tabs && character == '\t')
      let comment := if blanks.holds '#' 0 then blanks.skipWhile (!isBreak ·) else blanks
      if comment.breakAt 0 then
        let next := scanner.moveTo comment.skipBreak
        skipGap fuel (if scanner.inFlow then next else next.allowKey true)
      else scanner.moveTo comment

/-- A number of at most nine digits in a version. -/
def versionNumber? (cursor : Cursor) : Option (Cursor × Nat) :=
  let digits := cursor.rest.takeWhile Char.isDigit
  if digits.isEmpty || 9 < digits.length then none
  else some (cursor.skip digits.length, Decimal.ofDigits 0 digits)

/-- The two digits of a hexadecimal escape in a tag, as a byte. -/
def escapedByte? (characters : List Char) : Option Nat :=
  match characters with
  | '%' :: high :: low :: _ => do
      let high ← Json.hexValue? high
      let low ← Json.hexValue? low
      return high * 16 + low
  | _ => none

/-- The character escaped in a tag as the bytes of its UTF-8 encoding, and the number of
characters this takes. -/
def escapedTagChar? (characters : List Char) : Option (Char × Nat) := do
  let first ← escapedByte? characters
  let width :=
    if first < 0x80 then 1
    else if 0xc0 ≤ first && first < 0xe0 then 2
    else if 0xe0 ≤ first && first < 0xf0 then 3
    else if 0xf0 ≤ first && first < 0xf8 then 4
    else 0
  let bytes ← (List.range width).mapM fun index => escapedByte? (characters.drop (3 * index))
  match bytes with
  | [] => none
  | bytes =>
      match (Utf8.decode (bytes.map UInt8.ofNat)).toOption.map String.toList with
      | some [character] => some (character, 3 * width)
      | _ => none

/-- Whether a character may stand in a tag; brackets and commas only in a tag between angle
brackets. -/
def isTagChar (verbatim : Bool) (character : Char) : Bool :=
  isNameChar character || ";/?:@&=+$.%!~*'()".toList.contains character ||
    (verbatim && ",[]".toList.contains character)

/-- The characters of a tag, reversed. -/
def tagChars (verbatim : Bool) : Nat → Cursor → List Char → Option (Cursor × List Char)
  | 0, _, _ => none
  | fuel + 1, cursor, read =>
      match cursor.peek? with
      | some character =>
          if character == '%' then
            match escapedTagChar? cursor.rest with
            | some (character, width) =>
                tagChars verbatim fuel (cursor.skip width) (character :: read)
            | none => none
          else if isTagChar verbatim character then
            tagChars verbatim fuel (cursor.skip 1) (character :: read)
          else some (cursor, read)
      | none => some (cursor, read)

/-- What follows the handle of a tag, which begins with the given characters. -/
def tagSuffix? (verbatim : Bool) (head : List Char) (cursor : Cursor) :
    Option (Cursor × List Char) := do
  let (behind, read) ← tagChars verbatim (cursor.rest.length + 1) cursor []
  if head.isEmpty && read.isEmpty then none else return (behind, head.drop 1 ++ read.reverse)

/-- The handle of a tag: an exclamation mark, a name, and a second exclamation mark if there
is one. -/
def tagHandle? (cursor : Cursor) : Option (Cursor × List Char) :=
  if cursor.holds '!' 0 then
    let name := (cursor.rest.drop 1).takeWhile isNameChar
    let behind := cursor.skip (name.length + 1)
    if behind.holds '!' 0 then some (behind.skip 1, '!' :: name ++ ['!'])
    else some (behind, '!' :: name)
  else none

/-- A tag. -/
def tag? (inFlow : Bool) (cursor : Cursor) : Option (Cursor × Token) := do
  let (behind, handle, suffix) ←
    if cursor.holds '<' 1 then do
      let (behind, suffix) ← tagSuffix? true [] (cursor.skip 2)
      if behind.holds '>' 0 then some (behind.skip 1, [], suffix) else none
    else do
      let (behind, handle) ← tagHandle? cursor
      if 1 < handle.length && handle.getLast? == some '!' then do
        let (behind, suffix) ← tagSuffix? false [] behind
        some (behind, handle, suffix)
      else do
        let (behind, suffix) ← tagSuffix? false handle behind
        if suffix.isEmpty then some (behind, [], ['!']) else some (behind, ['!'], suffix)
  if behind.gapAt 0 || (inFlow && behind.holds ',' 0) then
    return (behind, .tag (String.ofList handle) (String.ofList suffix))
  else none

/-- The name of an anchor behind its sign. -/
def anchorName? (cursor : Cursor) : Option (Cursor × String) :=
  let name := cursor.rest.takeWhile isNameChar
  let behind := cursor.skip name.length
  if !name.isEmpty && (behind.gapAt 0 || behind.peek?.any "?:,]\x7d%@\x60".toList.contains) then
    some (behind, String.ofList name)
  else none

/-- What a directive declares, and the place behind it. -/
def directiveBody? (name : String) (cursor : Cursor) : Option (Cursor × Token) := do
  let cursor := cursor.skipWhile isBlank
  if name == "YAML" then
    let (cursor, major) ← versionNumber? cursor
    if cursor.holds '.' 0 then
      let (cursor, minor) ← versionNumber? (cursor.skip 1)
      return (cursor, .version major minor)
    else none
  else if name == "TAG" then
    let (cursor, handle) ← tagHandle? cursor
    if (handle == ['!'] || (1 < handle.length && handle.getLast? == some '!')) &&
        cursor.blankAt 0 then
      let (cursor, tag) ← tagSuffix? true [] (cursor.skipWhile isBlank)
      if cursor.gapAt 0 then
        return (cursor, .abbreviation (String.ofList handle) (String.ofList tag))
      else none
    else none
  else none

/-- A directive, which takes a line of its own. -/
def directive? (cursor : Cursor) : Option (Cursor × Token) := do
  let name := (cursor.rest.drop 1).takeWhile isNameChar
  let behind := cursor.skip (name.length + 1)
  if name.isEmpty || !behind.gapAt 0 then none
  else
    let (behind, token) ← directiveBody? (String.ofList name) behind
    let blanks := behind.skipWhile isBlank
    let comment := if blanks.holds '#' 0 then blanks.skipWhile (!isBreak ·) else blanks
    if comment.endAt 0 then return (comment.skipBreak, token) else none

/-- The end of all blocks and of the possible key. -/
def closeAll (scanner : Scanner) : Option Scanner := do
  let cleared ← (scanner.unindent (-1)).dropKey
  return cleared.allowKey false

/-- A token of some characters that ends a document or begins one. -/
def documentToken (scanner : Scanner) (token : Token) : Option Scanner := do
  return ((← scanner.closeAll).skip 3).push token

/-- An opening bracket. -/
def openFlow (scanner : Scanner) (token : Token) : Option Scanner := do
  let noted ← scanner.noteKey
  let inner := { noted with key := none, outerKeys := noted.key :: noted.outerKeys }
  return ((inner.allowKey true).skip 1).push token

/-- A closing bracket. -/
def closeFlow (scanner : Scanner) (token : Token) : Option Scanner := do
  let cleared ← scanner.dropKey
  let outer :=
    match cleared.outerKeys with
    | [] => cleared
    | key :: rest => { cleared with key, outerKeys := rest }
  return ((outer.allowKey false).skip 1).push token

/-- A comma between brackets. -/
def flowEntry (scanner : Scanner) : Option Scanner := do
  return (((← scanner.dropKey).allowKey true).skip 1).push .flowEntry

/-- The dash in front of an entry. -/
def blockEntry (scanner : Scanner) : Option Scanner := do
  if !scanner.inFlow && !scanner.keyAllowed then none
  else
    let opened :=
      scanner.openBlock scanner.cursor.column scanner.tokens.size .blockSequence
    return (((← opened.dropKey).allowKey true).skip 1).push .blockEntry

/-- The question mark in front of a key. -/
def explicitKey (scanner : Scanner) : Option Scanner := do
  if !scanner.inFlow && !scanner.keyAllowed then none
  else
    let opened := scanner.openBlock scanner.cursor.column scanner.tokens.size .blockMapping
    return (((← opened.dropKey).allowKey (!scanner.inFlow)).skip 1).push .key

/-- The colon in front of a value. -/
def value (scanner : Scanner) : Option Scanner :=
  match scanner.key with
  | some key =>
      let place := min key.tokens scanner.tokens.size
      let keyed := { scanner with tokens := scanner.tokens.insertIdxIfInBounds place .key }
      let opened := keyed.openBlock key.column key.tokens .blockMapping
      some ((({ opened with key := none }.allowKey false).skip 1).push .value)
  | none =>
      if !scanner.inFlow && !scanner.keyAllowed then none
      else
        let opened := scanner.openBlock scanner.cursor.column scanner.tokens.size .blockMapping
        some (((opened.allowKey (!scanner.inFlow)).skip 1).push .value)

/-- A reference or an anchor. -/
def named (scanner : Scanner) (token : String → Token) : Option Scanner := do
  let noted ← scanner.noteKey
  let (cursor, name) ← anchorName? (scanner.cursor.skip 1)
  return ((noted.allowKey false).moveTo cursor).push (token name)

/-- The tag of a node. -/
def tagged (scanner : Scanner) : Option Scanner := do
  let noted ← scanner.noteKey
  let (cursor, token) ← tag? scanner.inFlow scanner.cursor
  return ((noted.allowKey false).moveTo cursor).push token

/-- A block scalar. -/
def block (scanner : Scanner) (literal : Bool) : Option Scanner := do
  let cleared ← scanner.dropKey
  let (cursor, text) ← blockScalar? literal scanner.indent scanner.cursor
  return ((cleared.allowKey true).moveTo cursor).push (.scalar text false)

/-- A quoted scalar. -/
def quoted (scanner : Scanner) (single : Bool) : Option Scanner := do
  let noted ← scanner.noteKey
  let (cursor, text) ← quotedScalar? single scanner.cursor
  return ((noted.allowKey false).moveTo cursor).push (.scalar text false)

/-- A plain scalar. -/
def plain (scanner : Scanner) : Option Scanner := do
  let noted ← scanner.noteKey
  let (cursor, text, broken) ←
    plainScalar? scanner.inFlow (scanner.indent + 1).toNat scanner.cursor
  return ((noted.allowKey broken).moveTo cursor).push (.scalar text true)

/-- Whether a plain scalar may begin with the character ahead. -/
def plainAhead (scanner : Scanner) (character : Char) : Bool :=
  let cursor := scanner.cursor
  !(cursor.gapAt 0 || "-?:,[]\x7b\x7d#&*!|>'\"%@\x60".toList.contains character) ||
    (character == '-' && !cursor.blankAt 1) ||
    (!scanner.inFlow && (character == '?' || character == ':') && !cursor.gapAt 1)

/-- The token that begins with a character. -/
def fetch (scanner : Scanner) (character : Char) : Option Scanner :=
  let cursor := scanner.cursor
  let separate := scanner.inFlow || cursor.gapAt 1
  if cursor.column == 0 && character == '%' then do
    let (cursor, token) ← directive? cursor
    return ((← scanner.closeAll).moveTo cursor).push token
  else if cursor.documentMark '-' then scanner.documentToken .documentStart
  else if cursor.documentMark '.' then scanner.documentToken .documentEnd
  else if character == '[' then scanner.openFlow .flowSequence
  else if character == '\x7b' then scanner.openFlow .flowMapping
  else if character == ']' then scanner.closeFlow .flowSequenceEnd
  else if character == '\x7d' then scanner.closeFlow .flowMappingEnd
  else if character == ',' then scanner.flowEntry
  else if character == '-' && cursor.gapAt 1 then scanner.blockEntry
  else if character == '?' && separate then scanner.explicitKey
  else if character == ':' && separate then scanner.value
  else if character == '*' then scanner.named .alias
  else if character == '&' then scanner.named .anchor
  else if character == '!' then scanner.tagged
  else if character == '|' && !scanner.inFlow then scanner.block true
  else if character == '>' && !scanner.inFlow then scanner.block false
  else if character == '\'' then scanner.quoted true
  else if character == '"' then scanner.quoted false
  else if scanner.plainAhead character then scanner.plain
  else none

/-- All further tokens of a stream. -/
def run : Nat → Scanner → Option (Array Token)
  | 0, _ => none
  | fuel + 1, scanner => do
      let next ← (scanner.skipGap (scanner.cursor.rest.length + 1)).dropStaleKeys
      match next.cursor.peek? with
      | none =>
          let ended ← next.closeAll
          return ended.tokens
      | some character =>
          let fetched ← (next.unindent next.cursor.column).fetch character
          run fuel fetched

end Scanner

/-- The tokens of a stream, if each of its characters is allowed and belongs to one. -/
def tokens? (text : String) : Option (List Token) :=
  let characters := text.toList
  if characters.all isAllowed then
    (Scanner.run (characters.length + 1) (.start characters)).map Array.toList
  else none

end Yaml
end DataSuite

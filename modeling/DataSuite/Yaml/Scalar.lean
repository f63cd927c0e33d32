import DataSuite.Json.Reader
import DataSuite.Yaml.Cursor

/-!
# Scalars of a YAML stream

A scalar is plain, quoted or a block.  In plain and quoted scalars a single line end
between two lines becomes a space and further ones are kept; a block is indented and
keeps its lines or folds them in the same way.
-/

namespace DataSuite
namespace Yaml

/-- The text of a scalar so far, reversed, with the blanks and line ends behind it that
may still be dropped. -/
structure Gathered where
  /-- The text, reversed. -/
  text : List Char
  /-- The blanks behind the text, reversed. -/
  blanks : List Char
  /-- The first line end behind the text. -/
  firstBreak : List Char
  /-- The further line ends, reversed. -/
  breaks : List Char
  /-- Whether a line end has been passed. -/
  broken : Bool

/-- Nothing gathered. -/
def Gathered.empty : Gathered :=
  ⟨[], [], [], [], false⟩

/-- A text without anything pending behind it. -/
def Gathered.ofText (text : List Char) : Gathered :=
  ⟨text, [], [], [], false⟩

/-- Append a character. -/
def Gathered.push (gathered : Gathered) (character : Char) : Gathered :=
  { gathered with text := character :: gathered.text }

/-- Append what is pending: blanks as they are, line ends folded. -/
def Gathered.join (gathered : Gathered) : Gathered :=
  if gathered.broken then
    let folded :=
      if gathered.firstBreak == ['\n'] then
        if gathered.breaks.isEmpty then [' '] else gathered.breaks
      else gathered.breaks ++ gathered.firstBreak.reverse
    .ofText (folded ++ gathered.text)
  else .ofText (gathered.blanks ++ gathered.text)

/-- Pass the blanks and line ends ahead.  In a plain scalar a tabulator may not stand where
indentation is expected, that is before a column in a later line. -/
def gatherGap (indent : Nat) : Nat → Cursor → Gathered → Option (Cursor × Gathered)
  | 0, _, _ => none
  | fuel + 1, cursor, gathered =>
      match cursor.rest with
      | [] => some (cursor, gathered)
      | character :: _ =>
          if isBlank character then
            if gathered.broken then
              if character == '\t' && cursor.column < indent then none
              else gatherGap indent fuel (cursor.skip 1) gathered
            else
              gatherGap indent fuel (cursor.skip 1)
                { gathered with blanks := character :: gathered.blanks }
          else if isBreak character then
            let passed :=
              if gathered.broken then
                { gathered with breaks := cursor.breakText ++ gathered.breaks }
              else
                { gathered with blanks := [], firstBreak := cursor.breakText, broken := true }
            gatherGap indent fuel cursor.skipBreak passed
          else some (cursor, gathered)

/-- Whether a character ends a plain scalar inside brackets. -/
def isFlowIndicator (character : Char) : Bool :=
  character == ',' || character == '[' || character == ']' ||
    character == '\x7b' || character == '\x7d'

/-- The characters of a plain scalar up to the next blank, line end or indicator. -/
def plainRun (inFlow : Bool) : Nat → Cursor → Gathered → Option (Cursor × Gathered)
  | 0, _, _ => none
  | fuel + 1, cursor, gathered =>
      match cursor.rest with
      | [] => some (cursor, gathered)
      | character :: _ =>
          if cursor.gapAt 0 then some (cursor, gathered)
          else if inFlow && character == ':' &&
              (cursor.ahead? 1).any (fun next => isFlowIndicator next || next == '?') then none
          else if (character == ':' && cursor.gapAt 1) || (inFlow && isFlowIndicator character) then
            some (cursor, gathered)
          else plainRun inFlow fuel (cursor.skip 1) (gathered.join.push character)

/-- The rest of a plain scalar. -/
def plainLines (inFlow : Bool) (indent : Nat) :
    Nat → Cursor → Gathered → Option (Cursor × Gathered)
  | 0, _, _ => none
  | fuel + 1, cursor, gathered =>
      if cursor.anyDocumentMark || cursor.holds '#' 0 then some (cursor, gathered)
      else
        match plainRun inFlow (cursor.rest.length + 1) cursor gathered with
        | none => none
        | some (cursor, gathered) =>
            if !(cursor.blankAt 0 || cursor.breakAt 0) then some (cursor, gathered)
            else
              match gatherGap indent (cursor.rest.length + 1) cursor gathered with
              | none => none
              | some (cursor, gathered) =>
                  if !inFlow && cursor.column < indent then some (cursor, gathered)
                  else plainLines inFlow indent fuel cursor gathered

/-- A plain scalar: the place behind it, its text, and whether a line end follows it.  Its
further lines have to reach a column unless it stands inside brackets. -/
def plainScalar? (inFlow : Bool) (indent : Nat) (cursor : Cursor) :
    Option (Cursor × String × Bool) :=
  (plainLines inFlow indent (cursor.rest.length + 1) cursor .empty).map
    fun (cursor, gathered) => (cursor, String.ofList gathered.text.reverse, gathered.broken)

/-- The number that some hexadecimal digits ahead denote. -/
def hexCode? (digits : Nat) (cursor : Cursor) : Option Nat :=
  let ahead := cursor.rest.take digits
  if ahead.length < digits then none
  else
    ahead.foldlM
      (fun code digit => (Json.hexValue? digit).map (code * 16 + ·)) 0

/-- The character escaped behind a backslash, and how many characters name it. -/
def escaped? (cursor : Cursor) : Option (Char × Nat) :=
  let coded (digits : Nat) : Option (Char × Nat) :=
    match hexCode? digits (cursor.skip 1) with
    | none => none
    | some code =>
        if (0xd800 ≤ code && code < 0xe000) || 0x10ffff < code then none
        else some (Char.ofNat code, digits + 1)
  match cursor.peek? with
  | some '0' => some ('\x00', 1)
  | some 'a' => some ('\x07', 1)
  | some 'b' => some ('\x08', 1)
  | some 't' => some ('\t', 1)
  | some '\t' => some ('\t', 1)
  | some 'n' => some ('\n', 1)
  | some 'v' => some ('\x0b', 1)
  | some 'f' => some ('\x0c', 1)
  | some 'r' => some ('\r', 1)
  | some 'e' => some ('\x1b', 1)
  | some ' ' => some (' ', 1)
  | some '"' => some ('"', 1)
  | some '/' => some ('/', 1)
  | some '\\' => some ('\\', 1)
  | some 'N' => some ('\u0085', 1)
  | some '_' => some ('\u00a0', 1)
  | some 'L' => some ('\u2028', 1)
  | some 'P' => some ('\u2029', 1)
  | some 'x' => coded 2
  | some 'u' => coded 4
  | some 'U' => coded 8
  | _ => none

/-- The characters of a quoted scalar up to the next blank, line end or closing quote. -/
def quotedRun (single : Bool) : Nat → Cursor → Gathered → Option (Cursor × Gathered)
  | 0, _, _ => none
  | fuel + 1, cursor, gathered =>
      match cursor.rest with
      | [] => some (cursor, gathered)
      | character :: _ =>
          if cursor.gapAt 0 then some (cursor, gathered)
          else if single && character == '\'' && cursor.holds '\'' 1 then
            quotedRun single fuel (cursor.skip 2) (gathered.push '\'')
          else if character == (if single then '\'' else '"') then some (cursor, gathered)
          else if !single && character == '\\' then
            if cursor.breakAt 1 then
              some ((cursor.skip 1).skipBreak, { gathered with broken := true })
            else
              match escaped? (cursor.skip 1) with
              | none => none
              | some (character, length) =>
                  quotedRun single fuel (cursor.skip (length + 1)) (gathered.push character)
          else quotedRun single fuel (cursor.skip 1) (gathered.push character)

/-- The rest of a quoted scalar behind its opening quote. -/
def quotedLines (single : Bool) : Nat → Cursor → Gathered → Option (Cursor × List Char)
  | 0, _, _ => none
  | fuel + 1, cursor, gathered =>
      if cursor.anyDocumentMark || cursor.rest.isEmpty then none
      else
        match quotedRun single (cursor.rest.length + 1) cursor gathered with
        | none => none
        | some (cursor, gathered) =>
            if cursor.holds (if single then '\'' else '"') 0 then
              some (cursor.skip 1, gathered.text)
            else
              match gatherGap 0 (cursor.rest.length + 1) cursor gathered with
              | none => none
              | some (cursor, gathered) => quotedLines single fuel cursor gathered.join

/-- A quoted scalar: the place behind it and its text. -/
def quotedScalar? (single : Bool) (cursor : Cursor) : Option (Cursor × String) :=
  (quotedLines single (cursor.rest.length + 1) (cursor.skip 1) .empty).map
    fun (cursor, text) => (cursor, String.ofList text.reverse)

/-- What happens to the line ends at the end of a block. -/
inductive Chomping where
  /-- All are dropped. -/
  | strip
  /-- The first one is kept. -/
  | clip
  /-- All are kept. -/
  | keep

/-- The sign that tells how a block ends. -/
def chomping? (character : Char) : Option Chomping :=
  if character == '-' then some .strip else if character == '+' then some .keep else none

/-- What stands in the first line of a block: how it ends and how deep it is indented, or
zero where its first line tells. -/
def blockHeader? (cursor : Cursor) : Option (Cursor × Chomping × Nat) :=
  let sign (cursor : Cursor) : Cursor × Chomping :=
    match cursor.peek?.bind chomping? with
    | some ending => (cursor.skip 1, ending)
    | none => (cursor, .clip)
  let depth (cursor : Cursor) : Option (Cursor × Nat) :=
    match cursor.peek? with
    | some digit =>
        if digit == '0' then none
        else if digit.isDigit then some (cursor.skip 1, digit.toNat - '0'.toNat)
        else some (cursor, 0)
    | none => some (cursor, 0)
  match cursor.peek?.bind chomping? with
  | some ending =>
      (depth (cursor.skip 1)).map fun (cursor, increment) => (cursor, ending, increment)
  | none =>
      (depth cursor).map fun (cursor, increment) =>
        if increment = 0 then (cursor, .clip, 0)
        else
          let (cursor, ending) := sign cursor
          (cursor, ending, increment)

/-- Pass the indentation and the empty lines ahead in a block: the place behind them, the
greatest column that was reached and the line ends, reversed.  Indentation ends at a
column, if that is known. -/
def blockGap (indent : Nat) :
    Nat → Cursor → Nat → List Char → Option (Cursor × Nat × List Char)
  | 0, _, _, _ => none
  | fuel + 1, cursor, widest, breaks =>
      let spaces := (cursor.rest.takeWhile (· == ' ')).length
      let passed := cursor.skip (if indent = 0 then spaces else min spaces (indent - cursor.column))
      let widest := max widest passed.column
      if (indent = 0 || passed.column < indent) && passed.holds '\t' 0 then none
      else if passed.breakAt 0 then
        blockGap indent fuel passed.skipBreak widest (passed.breakText ++ breaks)
      else some (passed, widest, breaks)

/-- A block so far. -/
structure Block where
  /-- The text, reversed. -/
  text : List Char
  /-- The line end behind the last line. -/
  lineEnd : List Char
  /-- The further line ends, reversed. -/
  breaks : List Char
  /-- Whether the last line began with a blank. -/
  indented : Bool

/-- Append the line ends between the last line and a line that begins with a blank or not. -/
def Block.join (block : Block) (literal blank : Bool) : List Char :=
  if !literal && block.lineEnd == ['\n'] && !block.indented && !blank then
    if block.breaks.isEmpty then ' ' :: block.text else block.breaks ++ block.text
  else block.breaks ++ block.lineEnd.reverse ++ block.text

/-- The lines of a block. -/
def blockLines (literal : Bool) (indent : Nat) : Nat → Cursor → Block → Option (Cursor × Block)
  | 0, _, _ => none
  | fuel + 1, cursor, block =>
      if cursor.column == indent && !cursor.rest.isEmpty then
        let blank := cursor.blankAt 0
        let line := cursor.rest.takeWhile (!isBreak ·)
        let behind := cursor.skip line.length
        match blockGap indent (behind.rest.length + 1) behind.skipBreak 0 [] with
        | none => none
        | some (next, _, breaks) =>
            blockLines literal indent fuel next
              ⟨line.reverse ++ block.join literal blank, behind.breakText, breaks, blank⟩
      else some (cursor, block)

/-- A block scalar: the place behind it and its text.  Its lines are indented more deeply
than the block around it. -/
def blockScalar? (literal : Bool) (outer : Int) (cursor : Cursor) : Option (Cursor × String) := do
  let (header, ending, increment) ← blockHeader? (cursor.skip 1)
  let blanks := header.skipWhile isBlank
  let comment := if blanks.holds '#' 0 then blanks.skipWhile (!isBreak ·) else blanks
  if !comment.endAt 0 then none
  else
    let first := comment.skipBreak
    let given : Nat := if increment = 0 then 0 else ((max outer 0) + increment).toNat
    let (start, widest, breaks) ← blockGap given (first.rest.length + 1) first 0 []
    let indent := if given = 0 then max (max widest (outer + 1).toNat) 1 else given
    let (behind, block) ←
      blockLines literal indent (start.rest.length + 1) start ⟨[], [], breaks, false⟩
    let text :=
      match ending with
      | .strip => block.text
      | .clip => block.lineEnd.reverse ++ block.text
      | .keep => block.breaks ++ block.lineEnd.reverse ++ block.text
    return (behind, String.ofList text.reverse)

end Yaml
end DataSuite

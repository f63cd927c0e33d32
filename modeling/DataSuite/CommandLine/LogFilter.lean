import DataSuite.Log
import DataSuite.Text.Blank
import DataSuite.Text.Split

/-!
# Filters of log entries

A filter is a list of rules between commas.  A rule names a level, or an area and
perhaps a level; an area is named by what it begins with.  Among the rules that concern
an area the one with the longest name decides up to which level entries are printed.
-/

namespace DataSuite

/-- A rule of a filter. -/
structure LogRule where
  /-- What the name of an area begins with, or none for every area. -/
  area : Option String
  /-- The greatest rank of the levels that are printed. -/
  rank : Nat
deriving DecidableEq

namespace LogRule

/-- The rank of the level below all levels. -/
def offRank : Nat :=
  0

/-- The rank of the level above all levels. -/
def allRank : Nat :=
  5

/-- The rank of a number of one digit or of a longer number of the same value. -/
def rankOfNumber? (text : String) : Option Nat := do
  let digits := (Text.dropPrefix? ['+'] text.toList).getD text.toList
  if digits.isEmpty || !digits.all Char.isDigit then failure
  let rank := digits.foldl (fun rank digit => rank * 10 + (digit.toNat - '0'.toNat)) 0
  if rank ≤ allRank then return rank else failure

/-- The rank of the level with a name, whatever its case. -/
def rankOfName? (text : String) : Option Nat :=
  let names :=
    [ ("off", offRank), ("error", Level.error.rank), ("warn", Level.warning.rank),
      ("info", Level.info.rank), ("debug", Level.debug.rank), ("trace", allRank) ]
  (names.find? fun name => Text.equalIgnoringCase name.1 text).map Prod.snd

/-- The rank that a text names. -/
def rankOf? (text : String) : Option Nat :=
  match rankOfNumber? text with
  | some rank => some rank
  | none => rankOfName? text

/-- Whether a rule may begin with a character. -/
def begins (character : Char) : Bool :=
  character.isAlphanum || character.toNat ≥ 0x80 || ['-', ':', '_', '['].contains character

/-- The rule of an area behind whose name an equals sign stands. -/
def ofAreaAndLevel? (area level : String) : Option LogRule :=
  if level = "" then some ⟨some area, allRank⟩
  else (rankOf? level).map fun rank => ⟨some area, rank⟩

/-- The rule of a name alone: a level for every area, or an area with every level. -/
def ofName (name : String) : LogRule :=
  match rankOf? name with
  | some rank => ⟨none, rank⟩
  | none => ⟨some name, allRank⟩

/-- The rule that a text describes. -/
def ofText? (text : String) : Option LogRule :=
  let text := Text.trim text
  if !(text.toList.head?.any begins) then none
  else
    match Text.cut? "=" text with
    | some (area, level) => ofAreaAndLevel? area level
    | none => some (ofName text)

/-- Whether a rule concerns an area. -/
def concerns (area : String) (rule : LogRule) : Bool :=
  rule.area.all fun start => (Text.dropPrefix? start.toList area.toList).isSome

/-- How closely a rule describes its areas. -/
def closeness (rule : LogRule) : Nat :=
  rule.area.elim 0 fun start => start.utf8ByteSize + 1

end LogRule

/-- The rules of a filter in order. -/
abbrev LogFilter :=
  List LogRule

namespace LogFilter

/-- The texts between commas. -/
def parts (text : List Char) : List (List Char) :=
  text.foldr
    (fun character parts =>
      if character == ',' then [] :: parts
      else
        match parts with
        | [] => [[character]]
        | first :: rest => (character :: first) :: rest)
    [[]]

/-- The filter that a text describes.  What is no rule is left out; without a rule only errors
are printed. -/
def ofText (text : String) : LogFilter :=
  match (parts text.toList).filterMap fun part => LogRule.ofText? (String.ofList part) with
  | [] => [⟨none, Level.error.rank⟩]
  | rules => rules

/-- Of two rules the one that decides: the closer one or else the later one. -/
def closer (first second : LogRule) : LogRule :=
  if second.closeness < first.closeness then first else second

/-- The rule that decides about an area. -/
def decisive? (filter : LogFilter) (area : String) : Option LogRule :=
  match List.filter (LogRule.concerns area) filter with
  | [] => none
  | first :: rest => some (rest.foldl closer first)

/-- Whether the entries of a level in an area are printed. -/
def prints (filter : LogFilter) (area : String) (level : Level) : Bool :=
  (filter.decisive? area).any fun rule => level.rank ≤ rule.rank

end LogFilter
end DataSuite

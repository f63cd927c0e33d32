import DataSuite.Catalogue.Lookup
import DataSuite.Value.Basic

/-!
# Titles

The title of a test case is a text, which may also be the key of a message, or one text
for each of some locales.
-/

namespace DataSuite

/-- A title. -/
inductive Title where
  /-- A text or the key of a message. -/
  | text (text : String)
  /-- A text for each locale, in order. -/
  | localized (texts : List (String × String))
deriving DecidableEq

namespace Title

/-- The texts of members, if all of them are texts. -/
def textsOf? : Members → Option (List (String × String))
  | [] => some []
  | (locale, .text content) :: rest => (textsOf? rest).map ((locale, content) :: ·)
  | _ :: _ => none

/-- The title that a value describes. -/
def ofValue? : Value → Option Title
  | .text content => some (.text content)
  | .object members => (textsOf? members).map .localized
  | _ => none

/-- The first text there is. -/
def firstText : List (String × String) → String
  | [] => ""
  | (_, content) :: _ => content

/-- The text for a language, or else the Japanese one, or else the first one. -/
def choose (language : Language) (texts : List (String × String)) : String :=
  match texts.lookup language.name with
  | some content => content
  | none => (texts.lookup Language.japanese.name).getD (firstText texts)

/-- The title in a language. -/
def resolve (language : Language) : Title → String
  | text content => (Catalogue.lookup? language content).getD content
  | localized texts => choose language texts

/-- The title of a case that has none: its number. -/
def numbered (index : Nat) : Title :=
  .text ("#" ++ toString (index + 1))

/-- A title, or the number of its case where the title is an empty text. -/
def orNumbered (index : Nat) : Title → Title
  | text "" => numbered index
  | title => title

end Title
end DataSuite

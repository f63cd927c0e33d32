import DataSuite.Text.Quoted
import DataSuite.Value.Basic

/-!
# The text of a value

A value is written compactly, with the members of an object in order.  Between
quotes only the quote, the backslash and the control characters are escaped.  As
the content of a table cell a text stands for itself and null is empty.
-/

namespace DataSuite
namespace Value

/-- A number with two hexadecimal digits at least. -/
def twoHexDigits (code : Nat) : List Char :=
  if code < 16 then '0' :: Text.hexDigits code else Text.hexDigits code

/-- How one character of a text is written. -/
def escapedChar (character : Char) : List Char :=
  match character with
  | '"' => ['\\', '"']
  | '\\' => ['\\', '\\']
  | '\x08' => ['\\', 'b']
  | '\x0c' => ['\\', 'f']
  | '\n' => ['\\', 'n']
  | '\r' => ['\\', 'r']
  | '\t' => ['\\', 't']
  | _ =>
      if character.toNat < 0x20 then '\\' :: 'u' :: '0' :: '0' :: twoHexDigits character.toNat
      else [character]

/-- A text between quotes. -/
def escapedText (text : String) : List Char :=
  '"' :: text.toList.flatMap escapedChar ++ ['"']

/-- The values after the first one with a comma in front of each. -/
def commaSeparated : List (List Char) → List Char
  | [] => []
  | first :: rest => first ++ rest.flatMap fun text => ',' :: text

mutual

/-- The characters of a value. -/
def render : Value → List Char
  | .null => ['n', 'u', 'l', 'l']
  | .boolean true => ['t', 'r', 'u', 'e']
  | .boolean false => ['f', 'a', 'l', 's', 'e']
  | .number value => value.toText.toList
  | .text value => escapedText value
  | .list items => '[' :: commaSeparated (renderItems items) ++ [']']
  | .object members => '\x7b' :: commaSeparated (renderMembers members) ++ ['\x7d']

/-- The characters of each value of a list. -/
def renderItems : List Value → List (List Char)
  | [] => []
  | item :: rest => render item :: renderItems rest

/-- The characters of each member, its name in front of its value. -/
def renderMembers : List (String × Value) → List (List Char)
  | [] => []
  | (name, value) :: rest =>
      (escapedText name ++ ':' :: render value) :: renderMembers rest

end

/-- The text of a value. -/
def toText (value : Value) : String :=
  String.ofList (render value)

/-- A text as it is, and any other value as its text. -/
def plainText : Value → String
  | .text value => value
  | other => toText other

/-- The text of a value in a table cell. -/
def cellText : Value → String
  | .null => ""
  | .text value => value
  | other => toText other

end Value
end DataSuite

import DataSuite.Text.Hidden

/-!
# Quoted text

A quoted text stands in double quotes.  The quote and the backslash are written
behind a backslash, four control characters by a letter, and every other hidden
character by its code in braces, so that what is shown can be told apart from
every other text.
-/

namespace DataSuite
namespace Text

/-- The hexadecimal digits of a number in lower case. -/
def hexDigits (number : Nat) : List Char :=
  Nat.toDigits 16 number

/-- How one character is written between quotes. -/
def quotedChar (character : Char) : List Char :=
  match character with
  | '\x00' => ['\\', '0']
  | '\t' => ['\\', 't']
  | '\r' => ['\\', 'r']
  | '\n' => ['\\', 'n']
  | '"' => ['\\', '"']
  | '\\' => ['\\', '\\']
  | _ =>
      if isHidden character then
        ['\\', 'u', '\x7b'] ++ hexDigits character.toNat ++ ['\x7d']
      else [character]

/-- A text in quotes. -/
def quoted (text : String) : String :=
  String.ofList ('"' :: text.toList.flatMap quotedChar ++ ['"'])

end Text
end DataSuite

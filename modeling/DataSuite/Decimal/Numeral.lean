import DataSuite.Decimal.Binary64
import DataSuite.Text.Blank

/-!
# Decimal numerals

A numeral is a row of digits with an optional point and an optional exponent.  It
denotes digits times a power of ten, and is read as the nearest double.  Words for
infinity and for the undefined value are read as well.
-/

namespace DataSuite
namespace Decimal

/-- The value of a decimal digit. -/
def digitValue (digit : Char) : Nat :=
  digit.toNat - '0'.toNat

/-- The number that a row of digits writes behind the digits already read. -/
def ofDigits (read : Nat) (digits : List Char) : Nat :=
  digits.foldl (fun value digit => 10 * value + digitValue digit) read

/-- A decimal number: a coefficient times a power of ten. -/
structure Scientific where
  /-- The digits without the point. -/
  coefficient : Nat
  /-- The power of ten. -/
  exponent : Int
deriving DecidableEq

/-- The magnitude nearest to a decimal number.  Numbers far beyond the range of
doubles are told from the count of their digits, so that no huge power is built. -/
def Scientific.magnitude (number : Scientific) : Nat :=
  let order := number.exponent + (Nat.log2 number.coefficient : Int)
  if number.coefficient = 0 then 0
  else if 2000 < number.exponent then Binary64.infinity
  else if 0 ≤ number.exponent then
    Binary64.nearest (number.coefficient * Nat.pow 10 number.exponent.toNat) 1
  else if order < -2000 then 0
  else Binary64.nearest number.coefficient (Nat.pow 10 (-number.exponent).toNat)

/-- The sign in front of a numeral and what stands behind it. -/
def sign : List Char → Bool × List Char
  | '-' :: rest => (true, rest)
  | '+' :: rest => (false, rest)
  | rest => (false, rest)

/-- The exponent behind the digits of a numeral. -/
def exponent? : List Char → Option Int
  | [] => some 0
  | marker :: rest =>
      if marker == 'e' || marker == 'E' then
        let (negative, digits) := sign rest
        if digits.isEmpty || !digits.all Char.isDigit then none
        else
          let size : Int := ofDigits 0 digits
          some (if negative then -size else size)
      else none

/-- The decimal number that an unsigned numeral denotes. -/
def unsigned? (characters : List Char) : Option Scientific :=
  let whole := characters.takeWhile Char.isDigit
  let behindWhole := characters.dropWhile Char.isDigit
  let (fraction, behind) :=
    match behindWhole with
    | '.' :: rest => (rest.takeWhile Char.isDigit, rest.dropWhile Char.isDigit)
    | rest => ([], rest)
  if whole.isEmpty && fraction.isEmpty then none
  else
    (exponent? behind).map fun shift =>
      ⟨ofDigits 0 (whole ++ fraction), shift - fraction.length⟩

/-- The magnitude that a word stands for, in any case. -/
def word? (characters : List Char) : Option Nat :=
  let lower := String.ofList (characters.map Char.toLower)
  if lower = "inf" || lower = "infinity" then some Binary64.infinity
  else if lower = "nan" then some Binary64.undefinedMagnitude
  else none

/-- The double that a text denotes, if the text is a numeral or a word with an optional
sign in front. -/
def double? (characters : List Char) : Option Binary64 :=
  let (negative, rest) := sign characters
  match word? rest with
  | some magnitude => some (Binary64.ofMagnitude negative magnitude)
  | none =>
      (unsigned? rest).map fun number => Binary64.ofMagnitude negative number.magnitude

/-- The double that a text denotes once the blanks around it are gone. -/
def numeric? (text : String) : Option Binary64 :=
  double? (Text.trimmed text.toList)

end Decimal
end DataSuite

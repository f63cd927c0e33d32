import DataSuite.Decimal.Numeral
import DataSuite.Value.Basic

/-!
# Reading JSON

A document is one value with blanks around it.  An integer that fits 64 bits, with
or without sign, is an integer; every other number is a double.  A member whose name
has been read before keeps its place and takes the later value.  Lists and objects
may be nested less deeply than a limit.
-/

namespace DataSuite
namespace Json

/-- Whether a character may stand between the parts of a document. -/
def isSpace (character : Char) : Bool :=
  character == ' ' || character == '\n' || character == '\t' || character == '\r'

/-- Characters behind the blanks they begin with. -/
def skipSpace (characters : List Char) : List Char :=
  characters.dropWhile isSpace

/-- The value of a hexadecimal digit. -/
def hexValue? (digit : Char) : Option Nat :=
  if digit.isDigit then some (digit.toNat - '0'.toNat)
  else if 'a' ≤ digit && digit ≤ 'f' then some (digit.toNat - 'a'.toNat + 10)
  else if 'A' ≤ digit && digit ≤ 'F' then some (digit.toNat - 'A'.toNat + 10)
  else none

/-- A code of four hexadecimal digits and what stands behind it. -/
def code? : List Char → Option (Nat × List Char)
  | a :: b :: c :: d :: rest => do
      let first ← hexValue? a
      let second ← hexValue? b
      let third ← hexValue? c
      let fourth ← hexValue? d
      return (((first * 16 + second) * 16 + third) * 16 + fourth, rest)
  | _ => none

/-- The character of an escaped code, which may take a pair of codes, and what stands
behind it. -/
def escapedCode? (characters : List Char) : Option (Char × List Char) := do
  let (high, rest) ← code? characters
  if 0xdc00 ≤ high && high < 0xe000 then none
  else if 0xd800 ≤ high && high < 0xdc00 then
    match rest with
    | '\\' :: 'u' :: rest => do
        let (low, rest) ← code? rest
        if 0xdc00 ≤ low && low < 0xe000 then
          return (Char.ofNat (0x10000 + (high - 0xd800) * 0x400 + (low - 0xdc00)), rest)
        else none
    | _ => none
  else return (Char.ofNat high, rest)

/-- The character that a letter behind a backslash stands for. -/
def escapedLetter? : Char → Option Char
  | '"' => some '"'
  | '\\' => some '\\'
  | '/' => some '/'
  | 'b' => some '\x08'
  | 'f' => some '\x0c'
  | 'n' => some '\n'
  | 'r' => some '\r'
  | 't' => some '\t'
  | _ => none

/-- The rest of a text behind its opening quote, in front of which the given characters
have been read in reverse, and what stands behind its closing quote. -/
def readText? : Nat → List Char → List Char → Option (String × List Char)
  | 0, _, _ => none
  | fuel + 1, read, characters =>
      match characters with
      | [] => none
      | '"' :: rest => some (String.ofList read.reverse, rest)
      | '\\' :: 'u' :: rest => do
          let (character, rest) ← escapedCode? rest
          readText? fuel (character :: read) rest
      | '\\' :: letter :: rest => do
          let character ← escapedLetter? letter
          readText? fuel (character :: read) rest
      | '\\' :: [] => none
      | character :: rest =>
          if character.toNat < 0x20 then none else readText? fuel (character :: read) rest

/-- A coefficient of 64 bits and a power of ten. -/
structure Significand where
  /-- The digits that fit. -/
  digits : Nat
  /-- The power of ten. -/
  exponent : Int
  /-- Whether a digit has been left out. -/
  full : Bool

/-- Whether a digit still fits behind the digits already taken. -/
def Significand.fits (number : Significand) (digit : Char) : Bool :=
  10 * number.digits + Decimal.digitValue digit < Nat.pow 2 64

/-- Take a digit in front of the point; one that does not fit, and all behind it, only
raise the power of ten. -/
def Significand.pushWhole (number : Significand) (digit : Char) : Significand :=
  if number.full || !number.fits digit then
    { number with exponent := number.exponent + 1, full := true }
  else { number with digits := 10 * number.digits + Decimal.digitValue digit }

/-- Take a digit behind the point; one that does not fit, and all behind it, are dropped. -/
def Significand.pushFraction (number : Significand) (digit : Char) : Significand :=
  if number.full || !number.fits digit then { number with full := true }
  else
    { number with
      digits := 10 * number.digits + Decimal.digitValue digit
      exponent := number.exponent - 1 }

/-- A magnitude divided by a power of ten, by its greatest power of ten at a time. -/
def dividedByTens (magnitude exponent : Nat) : Nat :=
  if exponent ≤ 308 then Binary64.quotient magnitude (Binary64.powerOfTen exponent)
  else if magnitude = 0 then 0
  else dividedByTens (Binary64.quotient magnitude (Binary64.powerOfTen 308)) (exponent - 308)
termination_by exponent

/-- The magnitude of a number: the double nearest to its coefficient, multiplied or divided
by the double nearest to its power of ten.  A number that is too great has none. -/
def Significand.magnitude? (number : Significand) : Option Nat :=
  let coefficient := Binary64.nearest number.digits 1
  if number.exponent < 0 then some (dividedByTens coefficient (-number.exponent).toNat)
  else if coefficient = 0 then some 0
  else if 308 < number.exponent then none
  else
    let magnitude := Binary64.product coefficient (Binary64.powerOfTen number.exponent.toNat)
    if magnitude < Binary64.infinity then some magnitude else none

/-- The finite double with a sign and a magnitude, as a value. -/
def double? (negative : Bool) (magnitude : Nat) : Option Value :=
  let number := Binary64.ofMagnitude negative magnitude
  if finite : number.isFinite = true then some (.number (.double number finite)) else none

/-- The value of an integer: exact if it fits 64 bits, and otherwise a double. -/
def integer? (negative : Bool) (digits : List Char) : Option Value :=
  let size := Decimal.ofDigits 0 digits
  if negative then
    if 0 < size && size ≤ Nat.pow 2 63 then some (.number (.integer (-size)))
    else rounded
  else if size < Nat.pow 2 64 then some (.number (.integer size))
  else rounded
where
  /-- The double of an integer that is not kept exactly. -/
  rounded : Option Value := do
    let number := digits.foldl Significand.pushWhole ⟨0, 0, false⟩
    double? negative (← number.magnitude?)

/-- A number behind its sign, and what stands behind it. -/
def readNumber? (negative : Bool) (characters : List Char) : Option (Value × List Char) := do
  let whole := characters.takeWhile Char.isDigit
  let rest := characters.dropWhile Char.isDigit
  if whole.isEmpty || (whole.head? == some '0' && 1 < whole.length) then none
  else
    let (fraction, rest) ←
      match rest with
      | '.' :: rest =>
          let fraction := rest.takeWhile Char.isDigit
          if fraction.isEmpty then none else some (fraction, rest.dropWhile Char.isDigit)
      | rest => some ([], rest)
    let (shift, rest) ←
      match rest with
      | marker :: rest =>
          if marker == 'e' || marker == 'E' then
            let (below, rest) := Decimal.sign rest
            let digits := rest.takeWhile Char.isDigit
            if digits.isEmpty then none
            else
              let size : Int := Decimal.ofDigits 0 digits
              some (some (if below then -size else size), rest.dropWhile Char.isDigit)
          else some (none, marker :: rest)
      | [] => some (none, [])
    if fraction.isEmpty && shift.isNone then
      return (← integer? negative whole, rest)
    else
      let read := whole.foldl Significand.pushWhole ⟨0, 0, false⟩
      let number := fraction.foldl Significand.pushFraction { read with full := false }
      let shifted := { number with exponent := number.exponent + shift.getD 0 }
      return (← double? negative (← shifted.magnitude?), rest)

mutual

/-- One value, in which lists and objects may be nested to a depth, and what stands behind
it. -/
def readValue? : Nat → Nat → List Char → Option (Value × List Char)
  | 0, _, _ => none
  | fuel + 1, depth, characters =>
      match skipSpace characters with
      | 'n' :: 'u' :: 'l' :: 'l' :: rest => some (.null, rest)
      | 't' :: 'r' :: 'u' :: 'e' :: rest => some (.boolean true, rest)
      | 'f' :: 'a' :: 'l' :: 's' :: 'e' :: rest => some (.boolean false, rest)
      | '"' :: rest => do
          let (text, rest) ← readText? rest.length.succ [] rest
          return (.text text, rest)
      | '-' :: rest => readNumber? true rest
      | '[' :: rest =>
          match depth with
          | 0 => none
          | depth + 1 =>
              match skipSpace rest with
              | ']' :: rest => some (.list [], rest)
              | rest => do
                  let (items, rest) ← readItems? fuel depth rest
                  return (.list items, rest)
      | '\x7b' :: rest =>
          match depth with
          | 0 => none
          | depth + 1 =>
              match skipSpace rest with
              | '\x7d' :: rest => some (.object [], rest)
              | rest => do
                  let (pairs, rest) ← readMembers? fuel depth rest
                  return (.object (Members.ofPairs pairs), rest)
      | rest => readNumber? false rest

/-- The values of a list from the first one on. -/
def readItems? : Nat → Nat → List Char → Option (List Value × List Char)
  | 0, _, _ => none
  | fuel + 1, depth, characters => do
      let (item, rest) ← readValue? fuel depth characters
      match skipSpace rest with
      | ']' :: rest => return ([item], rest)
      | ',' :: rest => do
          let (items, rest) ← readItems? fuel depth rest
          return (item :: items, rest)
      | _ => none

/-- The members of an object from the first one on. -/
def readMembers? : Nat → Nat → List Char → Option (List (String × Value) × List Char)
  | 0, _, _ => none
  | fuel + 1, depth, characters =>
      match skipSpace characters with
      | '"' :: rest => do
          let (name, rest) ← readText? rest.length.succ [] rest
          match skipSpace rest with
          | ':' :: rest => do
              let (value, rest) ← readValue? fuel depth rest
              match skipSpace rest with
              | '\x7d' :: rest => return ([(name, value)], rest)
              | ',' :: rest => do
                  let (members, rest) ← readMembers? fuel depth rest
                  return ((name, value) :: members, rest)
              | _ => none
          | _ => none
      | _ => none

end

/-- The value of a document in which lists and objects are nested at most to a depth. -/
def read? (depth : Nat) (text : String) : Option Value := do
  let characters := text.toList
  let (value, rest) ← readValue? (2 * characters.length + 2) depth characters
  if (skipSpace rest).isEmpty then return value else none

end Json
end DataSuite

import DataSuite.Proofs.Value.Exact
import DataSuite.Proofs.Value.Number
import DataSuite.Row.Difference

/-!
# Numerals of integers

The text of an integer is read as the double nearest to the integer.  So the texts of two integers
are taken for equal numbers if and only if the integers are rounded alike.
-/

namespace DataSuite

namespace Decimal

theorem isDigit_iff {character : Char} :
    character.isDigit = true ↔ 48 ≤ character.toNat ∧ character.toNat ≤ 57 := by
  simp only [Char.isDigit, Bool.and_eq_true, decide_eq_true_eq, ge_iff_le, UInt32.le_iff_toNat_le]
  rfl

theorem isBlank_of_isNumeral
    {character : Char}
    (numeral : isNumeral character = true) :
    Text.isBlank character = false := by
  have printed : 43 ≤ character.toNat ∧ character.toNat ≤ 101 := by
    simp only [isNumeral, Bool.or_eq_true, beq_iff_eq, isDigit_iff] at numeral
    rcases numeral with (((digit | rfl) | rfl) | rfl) | rfl
    · omega
    all_goals decide
  simp only [Text.isBlank, Bool.or_eq_false_iff, Bool.and_eq_false_iff, beq_eq_false_iff_ne,
    decide_eq_false_iff_not]
  omega

/-- There are no blanks around a numeral. -/
theorem trimmed_eq_self
    {text : String}
    (numerals : Numerals text.toList) :
    Text.trimmed text.toList = text.toList := by
  have unpadded : Text.Unpadded text := by
    constructor
    · rw [Option.any_eq_false]
      exact fun first leading =>
        isBlank_of_isNumeral (numerals first (List.mem_of_mem_head? leading))
    · rw [Option.any_eq_false]
      exact fun last trailing =>
        isBlank_of_isNumeral (numerals last (List.mem_of_getLast? trailing))
  rw [← Text.toList_trim, Text.trim_eq_self unpadded]

/-- A digit is no capital letter. -/
theorem toLower_of_isDigit
    {digit : Char}
    (isDigit : digit.isDigit = true) :
    digit.toLower = digit := by
  rw [isDigit_iff] at isDigit
  unfold Char.toLower
  rw [dif_neg]
  rintro ⟨least, -⟩
  have capital : 65 ≤ digit.toNat := least
  omega

/-- A row of digits is no word. -/
theorem word?_digits
    {digits : List Char}
    (all : Digits digits)
    (nonempty : digits ≠ []) :
    word? digits = none := by
  cases digits with
  | nil => exact absurd rfl nonempty
  | cons first rest =>
      have isDigit := all first List.mem_cons_self
      have other
          (word : String)
          (wordly : word.toList.head?.any Char.isDigit = false) :
          String.ofList ((first :: rest).map Char.toLower) ≠ word := by
        rintro rfl
        simp [toLower_of_isDigit isDigit, isDigit] at wordly
      simp only [word?, Bool.or_eq_true, decide_eq_true_eq]
      rw [if_neg (not_or.mpr ⟨other "inf" rfl, other "infinity" rfl⟩), if_neg (other "nan" rfl)]

/-- A row of digits is read as the integer that it writes. -/
theorem unsigned?_toDigits (number : Nat) :
    unsigned? (Nat.toDigits 10 number) = some ⟨number, 0⟩ := by
  have read : unsigned? (Nat.toDigits 10 number ++ []) =
      some ⟨ofDigits 0 (Nat.toDigits 10 number), 0⟩ :=
    unsigned?_whole (digits_toDigits number) (stops_nil _) nofun Nat.toDigits_ne_nil rfl
  rwa [List.append_nil, ofDigits_toDigits] at read

/-- An integer is rounded to the magnitude nearest to it. -/
theorem magnitude_integer (number : Nat) :
    Scientific.magnitude ⟨number, 0⟩ = Binary64.nearest number 1 := by
  by_cases zero : number = 0
  · subst zero
    decide +kernel
  · simp [Scientific.magnitude, zero]

/-- A row of digits has no sign. -/
theorem sign_digits
    {digits : List Char}
    (all : Digits digits) :
    sign digits = (false, digits) := by
  unfold sign
  split
  · exact absurd (all '-' List.mem_cons_self) (by decide)
  · exact absurd (all '+' List.mem_cons_self) (by decide)
  · rfl

/-- A row of digits is read as the double nearest to the integer that it writes. -/
theorem double?_toDigits (number : Nat) :
    double? (Nat.toDigits 10 number) =
      some (Binary64.ofMagnitude false (Binary64.nearest number 1)) := by
  have all := digits_toDigits number
  rw [double?, sign_digits all]
  dsimp only
  rw [word?_digits all Nat.toDigits_ne_nil, unsigned?_toDigits]
  simp [magnitude_integer]

/-- A row of digits behind a minus sign is read as the double nearest to the negative integer that
it writes. -/
theorem double?_minus_toDigits (number : Nat) :
    double? ('-' :: Nat.toDigits 10 number) =
      some (Binary64.ofMagnitude true (Binary64.nearest number 1)) := by
  rw [double?, sign]
  dsimp only
  rw [word?_digits (digits_toDigits number) Nat.toDigits_ne_nil, unsigned?_toDigits]
  simp [magnitude_integer]

/-- The text of an integer is read as the double nearest to the integer. -/
theorem numeric?_integer (number : Int) :
    numeric? (Number.integer number).toText = some (Binary64.ofInt number) := by
  rw [numeric?, trimmed_eq_self (Number.numerals_toText _), Number.toList_toText_integer]
  unfold Binary64.ofInt
  split
  · rename_i negative
    rw [double?_minus_toDigits, decide_eq_true negative]
  · rename_i positive
    rw [double?_toDigits, decide_eq_false positive]

end Decimal

/-- A number stands in a table cell as its text. -/
theorem Value.cellText_number (number : Number) :
    (Value.number number).cellText = number.toText := by
  change String.ofList (render (.number number)) = number.toText
  rw [render, String.ofList_toList]

namespace Row

/-- The texts of two integers are taken for equal if and only if the integers are rounded alike. -/
theorem textsEqual_integer_iff
    {left right : Int}
    (leftFits : (Number.integer left).Fits)
    (rightFits : (Number.integer right).Fits) :
    textsEqual (Number.integer left).toText (Number.integer right).toText = true ↔
      (Number.integer left).RoundAlike (.integer right) := by
  rw [← Number.toDouble_equal_iff leftFits rightFits]
  simp only [textsEqual, Decimal.numeric?_integer, Bool.or_eq_true, beq_iff_eq]
  constructor
  · rintro (same | alike)
    · obtain rfl := Number.toText_integer_injective same
      rw [Number.toDouble_equal_iff leftFits rightFits]
      exact .of_value_eq leftFits rightFits rfl
    · exact alike
  · exact .inr

end Row
end DataSuite

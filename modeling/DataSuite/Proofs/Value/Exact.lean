import DataSuite.Proofs.Decimal.Rounding
import DataSuite.Value.Number

/-!
# Numbers as they are

A number denotes an integer or the value of its double.  Two numbers that denote the same agree.
Two numbers that agree denote the same, unless one of them is no integer of 64 signed bits and both
are rounded to the same double.
-/

namespace DataSuite
namespace Number

/-- What a number denotes. -/
def value : Number → ℚ
  | integer number => number
  | double number _ => number.value

/-- Whether an integer has 64 bits, with or without a sign. -/
def Fits : Number → Prop
  | integer number => -2 ^ 63 ≤ number ∧ number < 2 ^ 64
  | double _ _ => True

instance : DecidablePred Fits
  | integer number => inferInstanceAs (Decidable (-2 ^ 63 ≤ number ∧ number < 2 ^ 64))
  | double _ _ => isTrue trivial

/-- Whether two numbers are rounded to doubles that denote the same. -/
def RoundAlike (left right : Number) : Prop :=
  ∃ leftDouble rightDouble : Binary64, leftDouble.IsNearest left.value ∧
    rightDouble.IsNearest right.value ∧ leftDouble.value = rightDouble.value

/-- A number is compared as the double that is nearest to it. -/
theorem isNearest_toDouble
    {number : Number}
    (fits : number.Fits) :
    number.toDouble.IsNearest number.value := by
  cases number with
  | integer number =>
      obtain ⟨least, greatest⟩ := fits
      exact Binary64.isNearest_ofInt (Decimal.nearest_lt_infinity (by omega))
  | double number finite => exact Binary64.isNearest_value finite

/-- Doubles are compared as the numbers are rounded. -/
theorem toDouble_equal_iff
    {left right : Number}
    (leftFits : left.Fits)
    (rightFits : right.Fits) :
    left.toDouble.equal right.toDouble = true ↔ left.RoundAlike right := by
  have leftNearest := isNearest_toDouble leftFits
  have rightNearest := isNearest_toDouble rightFits
  rw [Binary64.equal_iff_value_eq leftNearest.finite rightNearest.finite]
  constructor
  · intro same
    exact ⟨_, _, leftNearest, rightNearest, same⟩
  · rintro ⟨_, _, nearLeft, nearRight, same⟩
    rw [leftNearest.value_eq nearLeft, same, rightNearest.value_eq nearRight]

theorem eq_integer_of_word?
    {number : Number}
    {word : Int}
    (found : number.word? = some word) :
    number = .integer word := by
  cases number with
  | integer number =>
      simp only [word?, Option.ite_none_right_eq_some, Option.some.injEq] at found
      rw [found.2]
  | double number finite => cases found

theorem RoundAlike.of_value_eq
    {left right : Number}
    (leftFits : left.Fits)
    (rightFits : right.Fits)
    (same : left.value = right.value) :
    left.RoundAlike right := by
  have leftNearest := isNearest_toDouble leftFits
  have rightNearest := isNearest_toDouble rightFits
  exact ⟨_, _, leftNearest, rightNearest, leftNearest.value_eq (same ▸ rightNearest)⟩

/-- Whether a number is an integer of 64 signed bits. -/
def IsWord (number : Number) : Prop :=
  number.word?.isSome = true

instance : DecidablePred IsWord := fun number =>
  inferInstanceAs (Decidable (number.word?.isSome = true))

/-- Whether two different numbers are taken for the same: one of them is no integer of 64 signed
bits, and both are rounded alike. -/
structure Blurred (left right : Number) : Prop where
  different : left.value ≠ right.value
  notWords : ¬ (left.IsWord ∧ right.IsWord)
  alike : left.RoundAlike right

/-- Numbers agree if and only if they denote the same or are taken for the same. -/
theorem agree_iff
    {left right : Number}
    (leftFits : left.Fits)
    (rightFits : right.Fits) :
    left.agree right = true ↔ left.value = right.value ∨ left.Blurred right := by
  by_cases words : left.IsWord ∧ right.IsWord
  · obtain ⟨leftWord, leftFound⟩ := Option.isSome_iff_exists.mp words.1
    obtain ⟨rightWord, rightFound⟩ := Option.isSome_iff_exists.mp words.2
    have asWords : left.agree right = true ↔ left.value = right.value := by
      rw [agree, leftFound, rightFound, eq_integer_of_word? leftFound,
        eq_integer_of_word? rightFound]
      simp [value]
    rw [asWords]
    exact ⟨.inl, fun same => same.resolve_right fun blurred => blurred.notWords words⟩
  · have asDoubles : left.agree right = true ↔ left.RoundAlike right := by
      rw [← toDouble_equal_iff leftFits rightFits]
      unfold agree
      split
      · rename_i leftFound rightFound
        exact absurd ⟨Option.isSome_of_mem leftFound, Option.isSome_of_mem rightFound⟩ words
      · rfl
    rw [asDoubles]
    constructor
    · intro alike
      by_cases same : left.value = right.value
      · exact .inl same
      · exact .inr ⟨same, words, alike⟩
    · rintro (same | blurred)
      · exact .of_value_eq leftFits rightFits same
      · exact blurred.alike

/-- Whether a number is a double or an integer up to 2 ^ 53. -/
def IsDouble : Number → Prop
  | integer number => number.natAbs ≤ 2 ^ 53
  | double _ _ => True

theorem IsDouble.value_toDouble
    {number : Number}
    (isDouble : number.IsDouble) :
    number.toDouble.value = number.value := by
  cases number with
  | integer number => exact Binary64.value_ofInt isDouble
  | double number finite => rfl

/-- Doubles are rounded alike only if they are the same. -/
theorem RoundAlike.value_eq
    {left right : Number}
    (leftFits : left.Fits)
    (rightFits : right.Fits)
    (leftDouble : left.IsDouble)
    (rightDouble : right.IsDouble)
    (alike : left.RoundAlike right) :
    left.value = right.value := by
  have leftNearest := isNearest_toDouble leftFits
  have rightNearest := isNearest_toDouble rightFits
  rw [← toDouble_equal_iff leftFits rightFits,
    Binary64.equal_iff_value_eq leftNearest.finite rightNearest.finite] at alike
  rw [← leftDouble.value_toDouble, alike, rightDouble.value_toDouble]

end Number
end DataSuite

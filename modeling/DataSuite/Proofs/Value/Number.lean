import DataSuite.Proofs.Decimal.Text
import DataSuite.Value.Number

/-!
# The text of a number

Integers are written with digits alone, and doubles with a point or an exponent, so that the
text of a number tells which of the two it is, and then which number.
-/

namespace DataSuite
namespace Number

theorem toList_toText_integer (value : Int) :
    (toText (.integer value)).toList =
      if value < 0 then '-' :: Nat.toDigits 10 value.natAbs
      else Nat.toDigits 10 value.natAbs := by
  rw [toText, Int.toString_eq_repr, Int.repr_eq_if]
  split
  · rename_i positive
    have size : value.toNat = value.natAbs := by omega
    rw [if_neg (by omega), Nat.toList_repr, size]
  · rename_i negative
    have size : (-value).toNat = value.natAbs := by omega
    rw [if_pos (by omega), String.toList_append, Nat.toList_repr, size]
    rfl

theorem toList_toText_double
    (value : Binary64)
    (finite : value.isFinite = true) :
    (toText (.double value finite)).toList =
      if value.negative then '-' :: Decimal.magnitudeText positions value.magnitude
      else Decimal.magnitudeText positions value.magnitude := by
  simp [toText, Decimal.doubleText]

theorem numerals_toText (number : Number) : Decimal.Numerals number.toText.toList := by
  have minus : Decimal.isNumeral '-' = true := by decide
  cases number with
  | integer value =>
      have size := (Decimal.digits_toDigits value.natAbs).numerals
      rw [toList_toText_integer]
      split
      · exact Decimal.numerals_cons.mpr ⟨minus, size⟩
      · exact size
  | double value finite =>
      have size := Decimal.numerals_magnitudeText positions value.magnitude
      rw [toList_toText_double]
      split
      · exact Decimal.numerals_cons.mpr ⟨minus, size⟩
      · exact size

theorem isDigit_of_mem_toText_integer
    {value : Int}
    {character : Char}
    (member : character ∈ (toText (.integer value)).toList)
    (notMinus : character ≠ '-') :
    character.isDigit = true := by
  rw [toList_toText_integer] at member
  have digits := Decimal.digits_toDigits value.natAbs
  split at member
  · rcases List.mem_cons.mp member with minus | inside
    · exact absurd minus notMinus
    · exact digits character inside
  · exact digits character member

/-- The text of a number that is not an integer has a point or an exponent. -/
theorem toText_integer_ne_double
    (value : Int)
    (double : Binary64)
    (finite : double.isFinite = true) :
    toText (.integer value) ≠ toText (.double double finite) := by
  intro same
  have mark :
      '.' ∈ (toText (.double double finite)).toList ∨
        'e' ∈ (toText (.double double finite)).toList := by
    rw [toList_toText_double]
    rcases Decimal.exists_mark_magnitudeText positions double.magnitude with point | exponent
    · left
      split <;> simp [point]
    · right
      split <;> simp [exponent]
  rw [← same] at mark
  rcases mark with point | exponent
  · have digit := isDigit_of_mem_toText_integer point (by decide)
    exact absurd digit (by decide)
  · have digit := isDigit_of_mem_toText_integer exponent (by decide)
    exact absurd digit (by decide)

theorem toText_integer_injective
    {left right : Int}
    (same : toText (.integer left) = toText (.integer right)) :
    left = right := by
  have written := congrArg String.toList same
  rw [toList_toText_integer, toList_toText_integer] at written
  have sizes (minus : Nat.toDigits 10 left.natAbs = Nat.toDigits 10 right.natAbs) :
      left.natAbs = right.natAbs := by
    rw [← Decimal.ofDigits_toDigits left.natAbs, minus, Decimal.ofDigits_toDigits]
  have unsigned (number : Nat) (rest : List Char) : '-' :: rest ≠ Nat.toDigits 10 number := by
    intro signed
    have digit := Decimal.digits_toDigits number '-' (by simp [← signed])
    exact absurd digit (by decide)
  split at written <;> split at written
  · have size := sizes (List.cons.inj written).2
    omega
  · exact (unsigned _ _ written).elim
  · exact (unsigned _ _ written.symm).elim
  · have size := sizes written
    omega

theorem toList_toText_ne_nil (number : Number) : number.toText.toList ≠ [] := by
  cases number with
  | integer value =>
      have digits : Nat.toDigits 10 value.natAbs ≠ [] := Nat.toDigits_ne_nil
      rw [toList_toText_integer]
      split <;> simp [digits]
  | double value finite =>
      have mark := Decimal.exists_mark_magnitudeText positions value.magnitude
      rw [toList_toText_double]
      intro empty
      split at empty
      · cases empty
      · simp [empty] at mark

/-- The text of a number determines it. -/
theorem toText_injective : Function.Injective toText := by
  intro left right same
  cases left with
  | integer left =>
      cases right with
      | integer right => rw [toText_integer_injective same]
      | double right rightFinite =>
          exact (toText_integer_ne_double left right rightFinite same).elim
  | double left leftFinite =>
      cases right with
      | integer right =>
          exact (toText_integer_ne_double right left leftFinite same.symm).elim
      | double right rightFinite =>
          have sameDouble := Decimal.doubleText_injective positions leftFinite rightFinite same
          subst sameDouble
          rfl

end Number
end DataSuite

import DataSuite.Proofs.Fallible
import DataSuite.Proofs.Row.Difference
import DataSuite.Proofs.Value.Exact

/-!
# Numbers in rows

Numbers are told apart by what they denote, and so are literal rows that hold them in the same
place, unless the numbers are taken for the same.  Integers of 64 signed bits never are, and
neither are doubles and integers up to 2 ^ 53; greater integers are.
-/

namespace DataSuite

namespace Row

/-- Whether two values stand in the same row and column of two lists of rows. -/
def Opposed (actual expected : List Row) (left right : Value) : Prop :=
  ∃ (place : Nat) (actualRow expectedRow : Row) (column : String),
    actual[place]? = some actualRow ∧ expected[place]? = some expectedRow ∧
      actualRow.get? column = some left ∧ expectedRow.get? column = some right

/-- Values in the same place of rows that agree with literal rows agree. -/
theorem agree_of_opposed
    {actual expected : List Row}
    {left right : Value}
    (opposed : Opposed actual expected left right)
    (passes : checkLiteral actual expected = .ok ()) :
    left.agree right = true := by
  obtain ⟨place, actualRow, expectedRow, column, actualFound, expectedFound, leftFound,
    rightFound⟩ := opposed
  obtain ⟨_, sameFound, rowsAgree⟩ :=
    exists_getElem?_of_forall₂ (Standard.literal.checkWith_eq_ok_iff.mp passes) actualFound
  obtain rfl := Option.some.inj (expectedFound.symm.trans sameFound)
  obtain ⟨value, found, agrees⟩ := rowsAgree.cells _ (Members.mem_of_get? rightFound)
  rw [leftFound] at found
  rw [Option.some.inj found]
  exact agrees

/-- The row with one cell. -/
def single (column : String) (value : Value) : Row :=
  ⟨[(column, value)], List.nodup_singleton column⟩

@[simp] theorem get?_single (column : String) (value : Value) :
    (single column value).get? column = some value := by
  simp [single, get?, Members.get?]

theorem opposed_single (column : String) (left right : Value) :
    Opposed [single column left] [single column right] left right :=
  ⟨0, single column left, single column right, column, rfl, rfl, get?_single column left,
    get?_single column right⟩

/-- Rows with one cell agree if their values do. -/
theorem checkLiteral_single
    (column : String)
    {left right : Value}
    (agrees : left.agree right = true) :
    checkLiteral [single column left] [single column right] = .ok () := by
  refine Standard.literal.checkWith_eq_ok_iff.mpr (.cons ⟨?_, ?_⟩ .nil)
  · simp [single, get?, Members.get?, agrees]
  · simp [single, columns, has, get?, Members.get?, Members.names]

end Row

namespace Number

/-- Numbers are told apart by what they denote, alone and in literal rows, if and only if they are
not taken for the same, and they are not if both are integers of 64 signed bits or if both are
doubles or integers up to 2 ^ 53. -/
theorem told_apart_iff_not_blurred
    {left right : Number}
    (leftFits : left.Fits)
    (rightFits : right.Fits) :
    ((left.agree right = true ↔ left.value = right.value) ↔ ¬ left.Blurred right) ∧
      ((∀ actual expected, Row.Opposed actual expected (.number left) (.number right) →
          Row.checkLiteral actual expected = .ok () → left.value = right.value) ↔
        ¬ left.Blurred right) ∧
      (left.IsWord ∧ right.IsWord ∨ left.IsDouble ∧ right.IsDouble → ¬ left.Blurred right) := by
  have agreement := agree_iff leftFits rightFits
  refine ⟨?_, ?_, ?_⟩
  · rw [agreement]
    constructor
    · intro exact_ blurred
      exact blurred.different (exact_.mp (.inr blurred))
    · intro clear
      exact ⟨fun same => same.resolve_right clear, .inl⟩
  · constructor
    · intro exact_ blurred
      have agrees : Value.agree (.number left) (.number right) = true :=
        agreement.mpr (.inr blurred)
      exact blurred.different
        (exact_ _ _ (Row.opposed_single "" _ _) (Row.checkLiteral_single "" agrees))
    · intro clear actual expected opposed passes
      have agrees := Row.agree_of_opposed opposed passes
      exact (agreement.mp agrees).resolve_right clear
  · rintro (words | doubles) blurred
    · exact blurred.notWords words
    · exact blurred.different (blurred.alike.value_eq leftFits rightFits doubles.1 doubles.2)

/-- Two integers of 64 signed bits that are rounded alike are told apart. -/
theorem told_apart_beyond_doubles :
    let left := integer 9007199254740993
    let right := integer 9007199254740992
    left.Fits ∧ right.Fits ∧ left.toDouble = right.toDouble ∧ ¬ left.Blurred right ∧
      (left.agree right = true ↔ left.value = right.value) := by
  intro left right
  have leftFits : left.Fits := by decide
  have rightFits : right.Fits := by decide
  obtain ⟨alone, -, clear⟩ := told_apart_iff_not_blurred leftFits rightFits
  have notBlurred := clear (.inl ⟨by decide, by decide⟩)
  exact ⟨leftFits, rightFits, by decide +kernel, notBlurred, alone.mpr notBlurred⟩

/-- Two integers beyond 64 signed bits are taken for the same, also in literal rows. -/
theorem unsigned_words_taken_for_same :
    let left := integer 18446744073709551615
    let right := integer 18446744073709551614
    left.value ≠ right.value ∧ left.agree right = true ∧
      Row.checkLiteral [.single "id" (.number left)] [.single "id" (.number right)] = .ok () := by
  have agrees : (integer 18446744073709551615).agree (integer 18446744073709551614) = true := by
    decide +kernel
  exact ⟨by norm_num [value], agrees, Row.checkLiteral_single "id" agrees⟩

end Number
end DataSuite

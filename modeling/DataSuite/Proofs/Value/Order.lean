import DataSuite.Proofs.Value.Text
import DataSuite.Value.Order

/-!
# The order of values

The order is total, and only equal values are level.  Values are compared in pairs, and two numbers
are compared only where both values have one.  Since the values of one kind are exactly those that
have a number, this is the same as to compare keys field by field, in which the number of other
values is of no account.  The last field is the text, which determines a value once it is known
whether the value is a text.
-/

namespace DataSuite
namespace Value

/-- What decides the order of a value. -/
structure SortKey where
  rank : Nat
  /-- The order key of the number, for values that have one. -/
  number : Int
  isText : Bool
  text : String

/-- The key of a value. -/
def sortKey (value : Value) : SortKey :=
  { rank := value.rank
    number := value.numeric?.elim 0 Binary64.orderKey
    isText := value.isText
    text := value.plainText }

/-- Keys are compared field by field. -/
def SortKey.compare (left right : SortKey) : Ordering :=
  (Ord.compare left.rank right.rank).then <|
    (Ord.compare left.number right.number).then <|
      (Ord.compare left.isText right.isText).then <|
        Ord.compare left.text right.text

/-- The values of one kind are those that have a number. -/
theorem rank_eq_two_iff {value : Value} :
    value.rank = 2 ↔ value.numeric?.isSome = true := by
  cases value with
  | text content => cases reads : Decimal.numeric? content <;> simp [rank, numeric?, reads]
  | _ => simp [rank, numeric?]

/-- Among values of the same kind either both have a number or none has. -/
theorem compareNumbers_eq
    {left right : Value}
    (sameRank : left.rank = right.rank) :
    compareNumbers left.numeric? right.numeric? =
      Ord.compare left.sortKey.number right.sortKey.number := by
  have alike : left.numeric?.isSome = right.numeric?.isSome := by
    rw [Bool.eq_iff_iff, ← rank_eq_two_iff, ← rank_eq_two_iff, sameRank]
  unfold sortKey
  cases leftNumber : left.numeric? with
  | none =>
      cases rightNumber : right.numeric? with
      | none => rfl
      | some number =>
          rw [leftNumber, rightNumber] at alike
          cases alike
  | some number =>
      cases rightNumber : right.numeric? with
      | none =>
          rw [leftNumber, rightNumber] at alike
          cases alike
      | some other => rfl

/-- Values are in the order of their keys. -/
theorem compare_eq_compare_sortKey (left right : Value) :
    left.compare right = left.sortKey.compare right.sortKey := by
  unfold compare SortKey.compare
  by_cases sameRank : left.rank = right.rank
  · rw [compareNumbers_eq sameRank]
    rfl
  · -- Values of different kinds are in order before any number is asked for.
    change (Ord.compare left.rank right.rank).then _ = (Ord.compare left.rank right.rank).then _
    cases decided : Ord.compare left.rank right.rank with
    | eq => exact absurd (compare_eq_iff_eq.mp decided) sameRank
    | lt => rfl
    | gt => rfl

instance : Std.TransCmp SortKey.compare :=
  inferInstanceAs
    (Std.TransCmp
      (compareLex (compareOn SortKey.rank)
        (compareLex (compareOn SortKey.number)
          (compareLex (compareOn SortKey.isText) (compareOn SortKey.text)))))

theorem SortKey.compare_eq_iff {left right : SortKey} :
    left.compare right = .eq ↔ left = right := by
  obtain ⟨leftRank, leftNumber, leftIsText, leftText⟩ := left
  obtain ⟨rightRank, rightNumber, rightIsText, rightText⟩ := right
  simp [SortKey.compare, Ordering.then_eq_eq]

theorem plainText_of_not_isText
    {value : Value}
    (other : value.isText = false) :
    value.plainText = value.toText := by
  cases value with
  | text content => cases other
  | _ => rfl

theorem eq_text_of_isText
    {value : Value}
    (isText : value.isText = true) :
    value = .text value.plainText := by
  cases value with
  | text content => rfl
  | _ => cases isText

/-- The key of a value determines it. -/
theorem sortKey_injective : Function.Injective sortKey := by
  intro left right same
  have sameKind : left.isText = right.isText := congrArg SortKey.isText same
  have sameText : left.plainText = right.plainText := congrArg SortKey.text same
  cases kind : right.isText with
  | true => rw [eq_text_of_isText (sameKind.trans kind), sameText, ← eq_text_of_isText kind]
  | false =>
      rw [plainText_of_not_isText (sameKind.trans kind), plainText_of_not_isText kind]
        at sameText
      exact toText_injective sameText

instance : Std.TransCmp Value.compare where
  eq_swap {left right} := by
    rw [compare_eq_compare_sortKey, compare_eq_compare_sortKey]
    exact Std.OrientedCmp.eq_swap
  isLE_trans {first second third} below above := by
    rw [compare_eq_compare_sortKey] at below above ⊢
    exact Std.TransCmp.isLE_trans below above

instance : Std.LawfulEqCmp Value.compare where
  compare_self {value} := by
    rw [compare_eq_compare_sortKey]
    exact Std.ReflCmp.compare_self
  eq_of_compare {left right} same := by
    rw [compare_eq_compare_sortKey] at same
    exact sortKey_injective (SortKey.compare_eq_iff.mp same)

end Value
end DataSuite

import Mathlib.Data.List.Basic

/-!
# Lists of pairs

What is looked up in a list of pairs stands in it.  The items of two lists that stand in the same
place form pairs, which are numbered in their order.
-/

namespace DataSuite

variable {α β : Type}

theorem mem_of_lookup
    [BEq α] [LawfulBEq α]
    {pairs : List (α × β)}
    {name : α}
    {found : β}
    (isFound : pairs.lookup name = some found) :
    (name, found) ∈ pairs := by
  obtain ⟨before, behind, rfl, -⟩ := List.lookup_eq_some_iff.mp isFound
  exact List.mem_append_right before List.mem_cons_self

/-- The pairs of items in the same place of two lists, with their numbers from a number on. -/
def numberedPairs (number : Nat) (left : List α) (right : List β) : List ((α × β) × Nat) :=
  (left.zip right).zipIdx number

@[simp] theorem numberedPairs_cons_cons
    (number : Nat)
    (first : α)
    (left : List α)
    (second : β)
    (right : List β) :
    numberedPairs number (first :: left) (second :: right) =
      ((first, second), number) :: numberedPairs (number + 1) left right := rfl

theorem mem_numberedPairs_iff
    {number : Nat}
    {left : List α}
    {right : List β}
    {pair : (α × β) × Nat} :
    pair ∈ numberedPairs number left right ↔
      ∃ place first second, left[place]? = some first ∧ right[place]? = some second ∧
        pair = ((first, second), number + place) := by
  obtain ⟨⟨first, second⟩, numbered⟩ := pair
  rw [numberedPairs, List.mk_mem_zipIdx_iff_le_and_getElem?_sub, List.getElem?_zip_eq_some]
  constructor
  · rintro ⟨least, foundFirst, foundSecond⟩
    exact ⟨numbered - number, first, second, foundFirst, foundSecond, by simp [least]⟩
  · rintro ⟨place, _, _, foundFirst, foundSecond, same⟩
    obtain ⟨rfl, rfl⟩ := Prod.mk.inj (Prod.mk.inj same).1
    obtain rfl := (Prod.mk.inj same).2
    rw [Nat.add_sub_cancel_left]
    exact ⟨Nat.le_add_right number place, foundFirst, foundSecond⟩

/-- The numbers rise. -/
theorem pairwise_numberedPairs
    (number : Nat)
    (left : List α)
    (right : List β) :
    (numberedPairs number left right).Pairwise fun first second => first.2 < second.2 := by
  refine List.pairwise_map.mp ?_
  rw [numberedPairs, List.zipIdx_map_snd]
  exact List.pairwise_lt_range'

/-- Numbering the pairs keeps them. -/
theorem map_fst_numberedPairs
    (number : Nat)
    (left : List α)
    (right : List β) :
    (numberedPairs number left right).map Prod.fst = left.zip right :=
  List.zipIdx_map_fst number _

end DataSuite

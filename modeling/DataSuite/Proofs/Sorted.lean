import Mathlib.Data.List.Forall2
import Mathlib.Data.List.Perm.Basic

/-!
# Lists sorted by a comparison

Two lists of the same items that are both sorted are level place by place, even where the
comparison does not tell different items apart.  Two sorted lists agree place by place if
and only if their items can be paired so that the pairs agree and no two pairs are ordered
one way on one side and the other way on the other.
-/

namespace DataSuite
namespace Sorted

variable {α : Type} {compare : α → α → Ordering}

/-- The items of a list rise. -/
def Rising (compare : α → α → Ordering) (items : List α) : Prop :=
  items.Pairwise fun left right => (compare left right).isLE = true

theorem perm_sort (compare : α → α → Ordering) (items : List α) :
    (items.mergeSort fun left right => (compare left right).isLE).Perm items :=
  List.mergeSort_perm _ _

/-- Things may be compared by what they map to. -/
theorem transCmp_on
    {β : Type}
    (compare : α → α → Ordering)
    [Std.TransCmp compare]
    (key : β → α) :
    Std.TransCmp fun left right => compare (key left) (key right) where
  eq_swap {_ _} := Std.OrientedCmp.eq_swap
  isLE_trans {_ _ _} := Std.TransCmp.isLE_trans

section Level

variable [Std.TransCmp compare]

theorem isLE_or_isLE (left right : α) :
    (compare left right).isLE = true ∨ (compare right left).isLE = true := by
  have swapped : compare right left = (compare left right).swap := Std.OrientedCmp.eq_swap
  cases order : compare left right <;> simp [swapped, order]

theorem rising_sort (items : List α) :
    Rising compare (items.mergeSort fun left right => (compare left right).isLE) :=
  List.pairwise_mergeSort
    (fun _ _ _ => Std.TransCmp.isLE_trans)
    (fun left right => by simpa using isLE_or_isLE left right)
    items

/-- Items that a comparison does not tell apart. -/
def level (compare : α → α → Ordering) [Std.TransCmp compare] : Setoid α where
  r left right := compare left right = .eq
  iseqv :=
    { refl := fun _ => Std.ReflCmp.compare_self
      symm := Std.OrientedCmp.eq_symm
      trans := Std.TransCmp.eq_trans }

/-- Whether a comparison orders all items, where only those that are the same in some way are
level. -/
structure Total (compare : α → α → Ordering) (same : α → α → Prop) : Prop where
  /-- The answer is reversed if the items are exchanged. -/
  swap : ∀ left right, compare right left = (compare left right).swap
  /-- What is not above an item is not above what that item is not above. -/
  trans : ∀ first second third, (compare first second).isLE = true →
    (compare second third).isLE = true → (compare first third).isLE = true
  /-- Of two items one is not above the other. -/
  total : ∀ left right,
    (compare left right).isLE = true ∨ (compare right left).isLE = true
  /-- Level items are the same. -/
  level_iff : ∀ left right, compare left right = .eq ↔ same left right

theorem Total.of_level_iff
    {same : α → α → Prop}
    (level_iff : ∀ left right, compare left right = .eq ↔ same left right) :
    Total compare same :=
  ⟨fun _ _ => Std.OrientedCmp.eq_swap, fun _ _ _ => Std.TransCmp.isLE_trans, isLE_or_isLE,
    level_iff⟩

/-- Two sorted lists of the same items are level place by place. -/
theorem forall₂_level
    {left right : List α}
    (permuted : left.Perm right)
    (leftRising : Rising compare left)
    (rightRising : Rising compare right) :
    List.Forall₂ (fun first second => compare first second = .eq) left right := by
  -- Level items are one item of the quotient, on which the comparison is antisymmetric.
  let notAbove : Quotient (level compare) → Quotient (level compare) → Prop :=
    Quotient.lift₂ (fun first second => (compare first second).isLE = true) (by
      intro first second first' second' sameFirst sameSecond
      have firstLevel : compare first first' = .eq := sameFirst
      have secondLevel : compare second second' = .eq := sameSecond
      simp only [Std.TransCmp.congr_left firstLevel, Std.TransCmp.congr_right secondLevel])
  have same :
      left.map (Quotient.mk (level compare)) = right.map (Quotient.mk (level compare)) := by
    have antisymmetric (first second : Quotient (level compare)) :
        notAbove first second → notAbove second first → first = second := by
      induction first, second using Quotient.inductionOn₂ with
      | _ first second =>
          intro below above
          exact Quotient.sound (Std.OrientedCmp.isLE_antisymm below above)
    exact (permuted.map _).eq_of_pairwise (fun first second _ _ => antisymmetric first second)
      (List.pairwise_map.mpr leftRising) (List.pairwise_map.mpr rightRising)
  rw [← List.forall₂_eq_eq_eq, List.forall₂_map_left_iff, List.forall₂_map_right_iff] at same
  exact same.imp fun _ _ => Quotient.exact

end Level

/-- Pairs of items of two lists that agree and of which no two are ordered one way on the left
and the other way on the right. -/
structure Matching
    (compare : α → α → Ordering)
    (agree : α → α → Prop)
    (left right : List α)
    (pairs : List (α × α)) : Prop where
  /-- The pairs take each item on the left once. -/
  permutes_left : (pairs.map Prod.fst).Perm left
  /-- The pairs take each item on the right once. -/
  permutes_right : (pairs.map Prod.snd).Perm right
  /-- The items of a pair agree. -/
  agree : ∀ pair ∈ pairs, agree pair.1 pair.2
  /-- No two pairs are ordered in opposite ways. -/
  alike : ∀ first ∈ pairs, ∀ second ∈ pairs,
    compare first.2 second.2 = .lt → compare first.1 second.1 ≠ .gt

theorem Matching.of_perm
    {agree : α → α → Prop}
    {left left' right right' : List α}
    {pairs : List (α × α)}
    (matching : Matching compare agree left right pairs)
    (leftPerm : left.Perm left')
    (rightPerm : right.Perm right') :
    Matching compare agree left' right' pairs :=
  { matching with
    permutes_left := matching.permutes_left.trans leftPerm
    permutes_right := matching.permutes_right.trans rightPerm }

/-- Whether two lists have no two places that are ordered one way on the left and the other way
on the right. -/
def OrderedAlike (compare : α → α → Ordering) (left right : List α) : Prop :=
  ∀ first ∈ left.zip right, ∀ second ∈ left.zip right,
    compare first.2 second.2 = .lt → compare first.1 second.1 ≠ .gt

theorem orderedAlike_self (items : List α) : OrderedAlike compare items items := by
  unfold OrderedAlike
  rw [List.zip_eq_zipWith, List.zipWith_self]
  simp only [List.mem_map, forall_exists_index, and_imp, forall_apply_eq_imp_iff₂]
  intro first _ second _ below above
  rw [below] at above
  cases above

/-- Two lists have a matching if and only if the one on the left can be brought into an order
that agrees place by place. -/
theorem exists_matching_iff
    {agree : α → α → Prop}
    {left right : List α} :
    (∃ pairs, Matching compare agree left right pairs) ↔
      ∃ permuted, permuted.Perm left ∧ List.Forall₂ agree permuted right ∧
        OrderedAlike compare permuted right := by
  constructor
  · rintro ⟨pairs, matching⟩
    -- The pairs are brought into the order of the list on the right.
    have selves : List.Forall₂ (fun item pair => item = pair.2) (pairs.map Prod.snd) pairs := by
      rw [List.forall₂_map_left_iff, List.forall₂_same]
      exact fun _ _ => rfl
    obtain ⟨ordered, rights, orderedPerm⟩ :=
      List.perm_comp_forall₂ matching.permutes_right.symm selves
    have rightsEqual : right = ordered.map Prod.snd := by
      rw [← List.forall₂_eq_eq_eq, List.forall₂_map_right_iff]
      exact rights
    have zipped : ordered = (ordered.map Prod.fst).zip right :=
      List.zip_of_prod rfl rightsEqual.symm
    refine ⟨ordered.map Prod.fst, (orderedPerm.map _).trans matching.permutes_left, ?_, ?_⟩
    · rw [rightsEqual, List.forall₂_map_left_iff, List.forall₂_map_right_iff, List.forall₂_same]
      exact fun pair member => matching.agree pair (orderedPerm.mem_iff.mp member)
    · unfold OrderedAlike
      rw [← zipped]
      intro first firstMember second secondMember
      exact matching.alike first (orderedPerm.mem_iff.mp firstMember) second
        (orderedPerm.mem_iff.mp secondMember)
  · rintro ⟨permuted, permutes, agreeing, alike⟩
    refine ⟨permuted.zip right, ?_, ?_, fun pair => List.forall₂_zip agreeing, alike⟩
    · rw [List.map_fst_zip (Nat.le_of_eq agreeing.length_eq)]
      exact permutes
    · rw [List.map_snd_zip (Nat.le_of_eq agreeing.length_eq.symm)]

/-- Whether level items agree with level items.  An item on the left need only agree where it
agrees with anything at all. -/
def RespectsLevel (compare : α → α → Ordering) (agree : α → α → Prop) : Prop :=
  ∀ left left' right right' other,
    compare left left' = .eq → compare right right' = .eq →
      agree left right → agree left' other → agree left' right'

/-- Items that agree with level items agree place by place. -/
theorem forall₂_agree_of_level
    {agree : α → α → Prop}
    {left right : List α}
    (respects : RespectsLevel compare agree)
    {pairs : List (α × α)}
    (leftLevel : List.Forall₂ (fun item pair => compare pair.1 item = .eq) left pairs)
    (rightLevel : List.Forall₂ (fun item pair => compare pair.2 item = .eq) right pairs)
    (agreeing : ∀ pair ∈ pairs, agree pair.1 pair.2)
    (answered : ∀ item ∈ left, ∃ other, agree item other) :
    List.Forall₂ agree left right := by
  induction leftLevel generalizing right with
  | nil =>
      cases rightLevel
      exact .nil
  | cons firstLevel _ inductionHypothesis =>
      cases rightLevel with
      | cons secondLevel otherLevels =>
          obtain ⟨other, answer⟩ := answered _ List.mem_cons_self
          have first := agreeing _ List.mem_cons_self
          refine .cons (respects _ _ _ _ _ firstLevel secondLevel first answer) ?_
          exact inductionHypothesis otherLevels
            (fun pair member => agreeing pair (List.mem_cons_of_mem _ member))
            (fun item member => answered item (List.mem_cons_of_mem _ member))

section Matching

variable [Std.TransCmp compare] {agree : α → α → Prop} {left right : List α}

/-- Items that agree place by place in sorted lists form a matching. -/
theorem Matching.of_rising
    (leftRising : Rising compare left)
    (rightRising : Rising compare right)
    (agreeing : List.Forall₂ agree left right) :
    Matching compare agree left right (left.zip right) := by
  have lefts : (left.zip right).map Prod.fst = left :=
    List.map_fst_zip (Nat.le_of_eq agreeing.length_eq)
  have rights : (left.zip right).map Prod.snd = right :=
    List.map_snd_zip (Nat.le_of_eq agreeing.length_eq.symm)
  have leftPairs :
      (left.zip right).Pairwise fun first second => (compare first.1 second.1).isLE = true :=
    List.pairwise_map.mp (by rw [lefts]; exact leftRising)
  have rightPairs :
      (left.zip right).Pairwise fun first second => (compare first.2 second.2).isLE = true :=
    List.pairwise_map.mp (by rw [rights]; exact rightRising)
  refine ⟨by rw [lefts], by rw [rights], fun pair => List.forall₂_zip agreeing, ?_⟩
  -- Of two pairs the first one is not above on the left and the second one not below on the right.
  have alike (first : α × α) (firstMember : first ∈ left.zip right) :
      ∀ second ∈ left.zip right,
        compare first.2 second.2 = .lt → compare first.1 second.1 ≠ .gt := by
    refine fun second secondMember => List.Pairwise.forall_of_forall_of_flip
      (R := fun first second =>
        compare first.2 second.2 = .lt → compare first.1 second.1 ≠ .gt)
      ?_ ?_ ?_ firstMember secondMember
    · intro pair _ below
      have level : compare pair.2 pair.2 = .eq := Std.ReflCmp.compare_self
      rw [level] at below
      cases below
    · exact leftPairs.imp fun rising _ above => by simp [above] at rising
    · refine rightPairs.imp fun {first second} rising below => ?_
      have above : compare first.2 second.2 = .gt := Std.OrientedCmp.gt_of_lt below
      rw [above] at rising
      cases rising
  exact alike

/-- Pairs ordered by their items on the right and then by those on the left. -/
def comparePairs (compare : α → α → Ordering) : α × α → α × α → Ordering :=
  compareLex (fun first second => compare first.2 second.2)
    (fun first second => compare first.1 second.1)

instance : Std.TransCmp (comparePairs compare) :=
  have := transCmp_on compare fun pair : α × α => pair.1
  have := transCmp_on compare fun pair : α × α => pair.2
  inferInstanceAs (Std.TransCmp (compareLex _ _))

/-- Sorted lists with a matching agree place by place. -/
theorem Matching.forall₂_of_rising
    (respects : RespectsLevel compare agree)
    (leftRising : Rising compare left)
    (rightRising : Rising compare right)
    {pairs : List (α × α)}
    (matching : Matching compare agree left right pairs) :
    List.Forall₂ agree left right := by
  -- The pairs are sorted by their right items; since no two are ordered in opposite ways, their
  -- left items then rise as well.
  let sorted := pairs.mergeSort fun first second => (comparePairs compare first second).isLE
  have sortedPerm : sorted.Perm pairs := perm_sort (comparePairs compare) pairs
  have rising : Rising (comparePairs compare) sorted := rising_sort pairs
  have rights : Rising compare (sorted.map Prod.snd) := by
    refine List.pairwise_map.mpr (rising.imp fun below => ?_)
    exact Ordering.isLE_left_of_isLE_then below
  have lefts : Rising compare (sorted.map Prod.fst) := by
    refine List.pairwise_map.mpr (List.Pairwise.imp_of_mem ?_ rising)
    intro first second firstMember secondMember below
    have alike := matching.alike first (sortedPerm.mem_iff.mp firstMember) second
      (sortedPerm.mem_iff.mp secondMember)
    simp only [comparePairs, compareLex] at below
    cases order : compare first.2 second.2 with
    | lt => exact Ordering.isLE_iff_ne_gt.mpr (alike order)
    | eq => rwa [order] at below
    | gt =>
        rw [order] at below
        cases below
  have leftLevel := forall₂_level
    (matching.permutes_left.symm.trans (sortedPerm.symm.map Prod.fst)) leftRising lefts
  have rightLevel := forall₂_level
    (matching.permutes_right.symm.trans (sortedPerm.symm.map Prod.snd)) rightRising rights
  rw [List.forall₂_map_right_iff] at leftLevel rightLevel
  refine forall₂_agree_of_level respects
    (leftLevel.imp fun _ _ => Std.OrientedCmp.eq_symm)
    (rightLevel.imp fun _ _ => Std.OrientedCmp.eq_symm)
    (fun pair member => matching.agree pair (sortedPerm.mem_iff.mp member)) ?_
  intro item member
  obtain ⟨pair, pairMember, rfl⟩ := List.mem_map.mp (matching.permutes_left.mem_iff.mpr member)
  exact ⟨pair.2, matching.agree pair pairMember⟩

/-- Two lists agree place by place after sorting if and only if they have a matching. -/
theorem forall₂_sort_iff (respects : RespectsLevel compare agree) :
    List.Forall₂ agree
        (left.mergeSort fun first second => (compare first second).isLE)
        (right.mergeSort fun first second => (compare first second).isLE) ↔
      ∃ pairs, Matching compare agree left right pairs := by
  constructor
  · intro agreeing
    exact ⟨_, (Matching.of_rising (rising_sort left) (rising_sort right) agreeing).of_perm
      (perm_sort compare left) (perm_sort compare right)⟩
  · rintro ⟨pairs, matching⟩
    exact (matching.of_perm (perm_sort compare left).symm
      (perm_sort compare right).symm).forall₂_of_rising respects (rising_sort left)
      (rising_sort right)

end Matching
end Sorted
end DataSuite

import DataSuite.Proofs.Value.Members
import DataSuite.Value.Agreement
import Mathlib.Data.List.Forall2
import Mathlib.Data.List.Perm.Subperm
import Mathlib.Logic.Relation

/-!
# Agreement of values

Objects agree when they have as many members and each member on the left agrees with the one of
its name on the right.  As names are distinct, this leaves no member on the right over, so that
agreement is symmetric.  It does not depend on the order of members, however deep the objects
stand.
-/

namespace DataSuite

theorem Binary64.isUndefined_ofInt (number : Int) : (ofInt number).isUndefined = false := by
  have magnitude_le : (ofInt number).magnitude ≤ infinity :=
    Nat.le_trans (Nat.mod_le _ _) (Nat.min_le_left _ _)
  simpa [isUndefined] using magnitude_le

theorem Binary64.equal_comm (left right : Binary64) : left.equal right = right.equal left := by
  rw [Bool.eq_iff_iff]
  simp only [equal, Bool.and_eq_true, Bool.or_eq_true, beq_iff_eq, eq_comm (a := left)]
  tauto

namespace Number

theorem isUndefined_toDouble (number : Number) : number.toDouble.isUndefined = false := by
  cases number with
  | integer value => exact Binary64.isUndefined_ofInt value
  | double value finite =>
      have magnitude_lt : value.magnitude < Binary64.infinity := of_decide_eq_true finite
      exact decide_eq_false (Nat.lt_asymm magnitude_lt)

theorem agree_self (number : Number) : number.agree number = true := by
  unfold agree
  split
  · simp_all
  · simp [Binary64.equal, number.isUndefined_toDouble]

theorem agree_comm (left right : Number) : left.agree right = right.agree left := by
  unfold agree
  rw [Binary64.equal_comm]
  cases left.word? <;> cases right.word? <;> simp [Bool.beq_comm]

end Number

namespace Value

/-- What holds of a list if it holds of its items, of an object if it holds of the values of its
members, and of every scalar, holds of every value. -/
@[elab_as_elim]
theorem nestedInduction
    {holds : Value → Prop}
    (null : holds .null)
    (boolean : ∀ value, holds (.boolean value))
    (number : ∀ value, holds (.number value))
    (text : ∀ value, holds (.text value))
    (list : ∀ items, (∀ item ∈ items, holds item) → holds (.list items))
    (object : ∀ members : Members, (∀ member ∈ members, holds member.2) → holds (.object members))
    (value : Value) :
    holds value :=
  match value with
  | .null => null
  | .boolean value => boolean value
  | .number value => number value
  | .text value => text value
  | .list items =>
      list items fun item _ => nestedInduction null boolean number text list object item
  | .object members =>
      object members fun member _ =>
        nestedInduction null boolean number text list object member.2
termination_by sizeOf value
decreasing_by
  · rename_i member
    have smaller := List.sizeOf_lt_of_mem member
    simp only [Value.list.sizeOf_spec]
    omega
  · rename_i found
    have smaller := List.sizeOf_lt_of_mem found
    obtain ⟨name, inner⟩ := member
    simp only [Value.object.sizeOf_spec, Prod.mk.sizeOf_spec] at smaller ⊢
    omega

theorem wellFormedItems_iff {items : List Value} :
    WellFormedItems items ↔ ∀ item ∈ items, item.WellFormed := by
  induction items with
  | nil => simp [WellFormedItems]
  | cons first rest inductionHypothesis => simp [WellFormedItems, inductionHypothesis]

theorem wellFormedMembers_iff {members : Members} :
    WellFormedMembers members ↔ ∀ member ∈ members, member.2.WellFormed := by
  induction members with
  | nil => simp [WellFormedMembers]
  | cons first rest inductionHypothesis =>
      obtain ⟨name, value⟩ := first
      simp [WellFormedMembers, inductionHypothesis]

theorem agree_list_iff {left right : List Value} :
    agree (.list left) (.list right) = true ↔
      List.Forall₂ (fun item other => item.agree other = true) left right := by
  rw [agree]
  induction left generalizing right with
  | nil => cases right <;> simp [agreeItems]
  | cons first rest inductionHypothesis =>
      cases right with
      | nil => simp [agreeItems]
      | cons second others => simp [agreeItems, inductionHypothesis]

theorem agreeMembers_iff {members others : Members} :
    agreeMembers members others = true ↔
      ∀ member ∈ members, ∃ other, others.get? member.1 = some other ∧
        member.2.agree other = true := by
  induction members with
  | nil => simp [agreeMembers]
  | cons first rest inductionHypothesis =>
      obtain ⟨name, value⟩ := first
      rw [agreeMembers, Bool.and_eq_true, inductionHypothesis, List.forall_mem_cons]
      cases others.get? name <;> simp

theorem agree_object_iff {members others : Members} :
    agree (.object members) (.object others) = true ↔
      members.length = others.length ∧
        ∀ member ∈ members, ∃ other, others.get? member.1 = some other ∧
          member.2.agree other = true := by
  rw [agree, Bool.and_eq_true, beq_iff_eq, agreeMembers_iff]

/-- A well-formed value agrees with itself. -/
theorem agree_self
    {value : Value}
    (formed : value.WellFormed) :
    value.agree value = true := by
  induction value using nestedInduction with
  | null => rfl
  | boolean value => simp [agree]
  | number value => simp [agree, value.agree_self]
  | text value => simp [agree]
  | list items inductionHypothesis =>
      rw [WellFormed, wellFormedItems_iff] at formed
      rw [agree_list_iff, List.forall₂_same]
      exact fun item member => inductionHypothesis item member (formed item member)
  | object members inductionHypothesis =>
      rw [WellFormed, wellFormedMembers_iff] at formed
      rw [agree_object_iff]
      refine ⟨rfl, fun member found => ⟨member.2, ?_, ?_⟩⟩
      · exact (Members.get?_eq_some_iff formed.1).mpr found
      · exact inductionHypothesis member found (formed.2 member found)

/-- Of as many distinct names as there are others, none is missing among the others if all of them
are among these. -/
theorem mem_names_of_length_eq
    {members others : Members}
    (distinct : members.names.Nodup)
    (length : members.length = others.length)
    (included : ∀ name ∈ members.names, name ∈ others.names)
    {name : String}
    (named : name ∈ others.names) :
    name ∈ members.names := by
  have permuted : members.names.Perm others.names := by
    refine (List.subperm_of_subset distinct included).perm_of_length_le ?_
    simp [Members.names, length]
  exact permuted.mem_iff.mpr named

/-- Agreement does not depend on the side if it does not for what agrees inside. -/
theorem agree_object_of_agree
    {members others : Members}
    (distinct : members.names.Nodup)
    (distinctOthers : others.names.Nodup)
    (turns : ∀ member ∈ members, ∀ other ∈ others,
      member.2.agree other.2 = true → other.2.agree member.2 = true)
    (agrees : agree (.object members) (.object others) = true) :
    agree (.object others) (.object members) = true := by
  rw [agree_object_iff] at agrees ⊢
  obtain ⟨length, agreeing⟩ := agrees
  have included (name : String) (named : name ∈ members.names) : name ∈ others.names := by
    obtain ⟨member, found, rfl⟩ := List.mem_map.mp named
    obtain ⟨other, given, -⟩ := agreeing member found
    exact (Members.isSome_get? others member.1).mp (Option.isSome_of_mem given)
  refine ⟨length.symm, fun other found => ?_⟩
  have named : other.1 ∈ members.names :=
    mem_names_of_length_eq distinct length included (List.mem_map_of_mem found)
  obtain ⟨value, given⟩ :=
    Option.isSome_iff_exists.mp ((Members.isSome_get? members other.1).mpr named)
  obtain ⟨partner, partnerGiven, partnerAgrees⟩ :=
    agreeing (other.1, value) (Members.mem_of_get? given)
  -- Names are distinct, so the member that agrees is the one from which we came.
  obtain rfl : other.2 = partner :=
    Option.some.inj (((Members.get?_eq_some_iff distinctOthers).mpr found).symm.trans partnerGiven)
  exact ⟨value, given, turns _ (Members.mem_of_get? given) other found partnerAgrees⟩

theorem agree_list_of_agree
    {items others : List Value}
    (turns : ∀ item ∈ items, ∀ other ∈ others,
      item.agree other = true → other.agree item = true)
    (agrees : agree (.list items) (.list others) = true) :
    agree (.list others) (.list items) = true := by
  rw [agree_list_iff] at agrees ⊢
  induction agrees with
  | nil => exact .nil
  | cons first _ inductionHypothesis =>
      refine .cons (turns _ List.mem_cons_self _ List.mem_cons_self first) ?_
      exact inductionHypothesis fun item found other given =>
        turns item (List.mem_cons_of_mem _ found) other (List.mem_cons_of_mem _ given)

theorem agree_of_agree
    {left right : Value}
    (leftFormed : left.WellFormed)
    (rightFormed : right.WellFormed)
    (agrees : left.agree right = true) :
    right.agree left = true := by
  induction left using nestedInduction generalizing right with
  | null => cases right <;> simp_all [agree]
  | boolean value => cases right <;> simp_all [agree]
  | number value => cases right <;> simp_all [agree, value.agree_comm]
  | text value => cases right <;> simp_all [agree]
  | list items inductionHypothesis =>
      cases right with
      | list others =>
          rw [WellFormed, wellFormedItems_iff] at leftFormed rightFormed
          refine agree_list_of_agree (fun item found other given => ?_) agrees
          exact inductionHypothesis item found (leftFormed item found) (rightFormed other given)
      | _ => simp [agree] at agrees
  | object members inductionHypothesis =>
      cases right with
      | object others =>
          rw [WellFormed, wellFormedMembers_iff] at leftFormed rightFormed
          refine agree_object_of_agree leftFormed.1 rightFormed.1
            (fun member found other given => ?_) agrees
          exact inductionHypothesis member found (leftFormed.2 member found)
            (rightFormed.2 other given)
      | _ => simp [agree] at agrees

/-- Agreement of well-formed values does not depend on the side. -/
theorem agree_comm
    {left right : Value}
    (leftFormed : left.WellFormed)
    (rightFormed : right.WellFormed) :
    left.agree right = right.agree left :=
  Bool.eq_iff_iff.mpr
    ⟨agree_of_agree leftFormed rightFormed, agree_of_agree rightFormed leftFormed⟩

/-- Whether one value is another one but for the order of the members of one of its objects, at any
depth. -/
inductive Rearranges : Value → Value → Prop where
  /-- The object is the value itself. -/
  | members {changed members : Members} (permutes : changed.Perm members) :
      Rearranges (.object changed) (.object members)
  /-- The object stands in an item of a list. -/
  | inItem (before after : List Value) {changed value : Value}
      (rearranges : Rearranges changed value) :
      Rearranges (.list (before ++ changed :: after)) (.list (before ++ value :: after))
  /-- The object stands in a member of an object. -/
  | inMember (before after : Members) (name : String) {changed value : Value}
      (rearranges : Rearranges changed value) :
      Rearranges (.object (before ++ (name, changed) :: after))
        (.object (before ++ (name, value) :: after))

theorem agreeItems_congr
    {changed value : Value}
    (same : ∀ other, changed.agree other = value.agree other)
    (before after others : List Value) :
    agreeItems (before ++ changed :: after) others =
      agreeItems (before ++ value :: after) others := by
  induction before generalizing others with
  | nil => cases others <;> simp [agreeItems, same]
  | cons first rest inductionHypothesis =>
      cases others <;> simp [agreeItems, inductionHypothesis]

/-- A rearranged value agrees with the same values. -/
theorem Rearranges.agree_eq
    {changed value : Value}
    (rearranges : Rearranges changed value)
    (other : Value) :
    changed.agree other = value.agree other := by
  induction rearranges generalizing other with
  | members permutes =>
      cases other with
      | object others =>
          rw [Bool.eq_iff_iff, agree_object_iff, agree_object_iff, permutes.length_eq]
          simp only [permutes.mem_iff]
      | _ => simp [agree]
  | inItem before after _ inductionHypothesis =>
      cases other with
      | list others =>
          rw [agree, agree]
          exact agreeItems_congr inductionHypothesis before after others
      | _ => simp [agree]
  | inMember before after name _ inductionHypothesis =>
      cases other with
      | object others =>
          rw [Bool.eq_iff_iff, agree_object_iff, agree_object_iff]
          simp [or_imp, forall_and, inductionHypothesis]
      | _ => simp [agree]

/-- A rearranged value is well formed if the value is. -/
theorem Rearranges.wellFormed
    {changed value : Value}
    (rearranges : Rearranges changed value)
    (formed : value.WellFormed) :
    changed.WellFormed := by
  induction rearranges with
  | members permutes =>
      rw [WellFormed, wellFormedMembers_iff] at formed ⊢
      simp only [permutes.mem_iff]
      exact ⟨(permutes.map Prod.fst).nodup_iff.mpr formed.1, formed.2⟩
  | inItem before after _ inductionHypothesis =>
      simp only [WellFormed, wellFormedItems_iff, List.forall_mem_append, List.forall_mem_cons]
        at formed ⊢
      exact ⟨formed.1, inductionHypothesis formed.2.1, formed.2.2⟩
  | inMember before after name _ inductionHypothesis =>
      simp only [WellFormed, wellFormedMembers_iff, List.forall_mem_append, List.forall_mem_cons,
        Members.names, List.map_append, List.map_cons] at formed ⊢
      exact ⟨formed.1, formed.2.1, inductionHypothesis formed.2.2.1, formed.2.2.2⟩

/-- What is rearranged again and again agrees with the same values. -/
theorem agree_eq_of_rearranged
    {changed value : Value}
    (rearranged : Relation.ReflTransGen Rearranges changed value)
    (formed : value.WellFormed) :
    changed.WellFormed ∧ ∀ other, changed.agree other = value.agree other := by
  induction rearranged using Relation.ReflTransGen.head_induction_on with
  | refl => exact ⟨formed, fun _ => rfl⟩
  | head rearranges _ inductionHypothesis =>
      obtain ⟨laterFormed, same⟩ := inductionHypothesis
      exact ⟨rearranges.wellFormed laterFormed,
        fun other => (rearranges.agree_eq other).trans (same other)⟩

/-- A value in which no object has two members of one name agrees with itself, it agrees with
another one if and only if that one agrees with it, and neither side notices when members of
objects are put in another order, at whatever depth. -/
theorem agree_regardless_of_side_and_order
    {left right : Value}
    (leftFormed : left.WellFormed)
    (rightFormed : right.WellFormed) :
    left.agree left = true ∧ left.agree right = right.agree left ∧
      ∀ changed, Relation.ReflTransGen Rearranges changed left →
        changed.agree right = left.agree right ∧ right.agree changed = right.agree left := by
  refine ⟨agree_self leftFormed, agree_comm leftFormed rightFormed, fun changed rearranged => ?_⟩
  obtain ⟨changedFormed, same⟩ := agree_eq_of_rearranged rearranged leftFormed
  refine ⟨same right, ?_⟩
  rw [agree_comm rightFormed changedFormed, same right, agree_comm leftFormed rightFormed]

/-- An object in a list in an object. -/
def nested : Value :=
  .object
    [("of", .list [.object [("x", .number (.integer 1)), ("y", .null)]]), ("unit", .text "m")]

/-- The same with the members of both objects the other way round. -/
def nestedReversed : Value :=
  .object
    [("unit", .text "m"), ("of", .list [.object [("y", .null), ("x", .number (.integer 1))]])]

/-- Both objects may be turned round on either side. -/
theorem agree_regardless_of_side_and_order_nested :
    nested.WellFormed ∧ Relation.ReflTransGen Rearranges nestedReversed nested ∧
      nestedReversed.agree nested = true ∧ nested.agree nestedReversed = true := by
  have formed : nested.WellFormed := by
    simp [nested, WellFormed, WellFormedItems, WellFormedMembers, Members.names]
  have inner : Rearranges (.object [("y", .null), ("x", .number (.integer 1))])
      (.object [("x", .number (.integer 1)), ("y", .null)]) :=
    .members (.swap _ _ _)
  have rearranged : Relation.ReflTransGen Rearranges nestedReversed nested :=
    .head (.inMember [("unit", .text "m")] [] "of" (.inItem [] [] inner))
      (.single (.members (.swap _ _ _)))
  obtain ⟨self, -, regardless⟩ := agree_regardless_of_side_and_order formed formed
  obtain ⟨left, right⟩ := regardless nestedReversed rearranged
  exact ⟨formed, rearranged, left.trans self, right.trans self⟩

end Value
end DataSuite

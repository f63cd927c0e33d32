import DataSuite.Value.Basic
import Mathlib.Data.List.Induction
import Mathlib.Data.List.Nodup

/-!
# Members of objects

Where no name stands twice, the value under a name is the one that stands there with it,
so that the order of the members does not matter, and storing the members one after the
other gives them back.  Members that are stored stand where their names are given first, and
keeping some names commutes with storing.
-/

namespace DataSuite
namespace Members

/-- A name has a value if and only if it is one of the names. -/
theorem isSome_get?
    (members : Members)
    (name : String) :
    (members.get? name).isSome = true ↔ name ∈ members.names := by
  induction members with
  | nil => simp [get?, names]
  | cons head rest inductionHypothesis =>
      obtain ⟨first, value⟩ := head
      by_cases same : first = name
      · simp [get?, names, same]
      · simpa [get?, names, same, Ne.symm same] using inductionHypothesis

theorem mem_of_get?
    {members : Members}
    {name : String}
    {value : Value}
    (found : members.get? name = some value) :
    (name, value) ∈ members := by
  induction members with
  | nil => cases found
  | cons head rest inductionHypothesis =>
      obtain ⟨first, kept⟩ := head
      unfold get? at found
      split at found
      · rename_i same
        obtain rfl := same
        obtain rfl := Option.some.inj found
        exact List.mem_cons_self
      · exact List.mem_cons_of_mem _ (inductionHypothesis found)

/-- The value under a name is the one that stands there with it. -/
theorem get?_eq_some_iff
    {members : Members}
    (distinct : members.names.Nodup)
    {name : String}
    {value : Value} :
    members.get? name = some value ↔ (name, value) ∈ members := by
  refine ⟨mem_of_get?, fun member => ?_⟩
  have named : name ∈ members.names := List.mem_map_of_mem member
  obtain ⟨other, found⟩ := Option.isSome_iff_exists.mp ((isSome_get? members name).mpr named)
  have same := List.inj_on_of_nodup_map distinct (mem_of_get? found) member rfl
  rw [found, (Prod.mk.inj same).2]

/-- The order of the members does not change the value under a name. -/
theorem get?_eq_of_perm
    {left right : Members}
    (distinct : left.names.Nodup)
    (permuted : left.Perm right)
    (name : String) :
    left.get? name = right.get? name := by
  have rightDistinct : right.names.Nodup := (permuted.map Prod.fst).nodup_iff.mp distinct
  apply Option.ext
  intro value
  rw [get?_eq_some_iff distinct, get?_eq_some_iff rightDistinct, permuted.mem_iff]

/-- A member of a new name is stored behind all others. -/
theorem store_of_notMem
    {members : Members}
    {name : String}
    (absent : name ∉ members.names)
    (value : Value) :
    members.store name value = members ++ [(name, value)] := by
  induction members with
  | nil => rfl
  | cons head rest inductionHypothesis =>
      obtain ⟨first, kept⟩ := head
      obtain ⟨other, absentLater⟩ := not_or.mp (mt List.mem_cons.mpr absent)
      rw [store, if_neg (Ne.symm other), inductionHypothesis absentLater]
      rfl

theorem foldl_store_of_nodup
    {stored pairs : Members}
    (distinct : (stored ++ pairs).names.Nodup) :
    pairs.foldl (fun members (name, value) => members.store name value) stored =
      stored ++ pairs := by
  induction pairs generalizing stored with
  | nil => exact (List.append_nil stored).symm
  | cons head rest inductionHypothesis =>
      obtain ⟨name, value⟩ := head
      have absent : name ∉ stored.names := by
        rw [names, List.map_append] at distinct
        exact fun member => (List.disjoint_of_nodup_append distinct) member List.mem_cons_self
      rw [List.append_cons] at distinct ⊢
      rw [List.foldl_cons, ← inductionHypothesis distinct, ← store_of_notMem absent]

theorem mem_of_mem_store
    {members : Members}
    {name : String}
    {value : Value}
    {member : String × Value}
    (found : member ∈ members.store name value) :
    member = (name, value) ∨ member ∈ members := by
  induction members with
  | nil => exact .inl (List.mem_singleton.mp found)
  | cons head rest inductionHypothesis =>
      obtain ⟨first, kept⟩ := head
      unfold store at found
      split at found
      · exact (List.mem_cons.mp found).imp_right (List.mem_cons_of_mem _)
      · rcases List.mem_cons.mp found with same | later
        · exact .inr (same ▸ List.mem_cons_self)
        · exact (inductionHypothesis later).imp_right (List.mem_cons_of_mem _)

theorem mem_of_mem_foldl_store
    {stored pairs : Members}
    {member : String × Value}
    (found : member ∈
      pairs.foldl (fun members (name, value) => members.store name value) stored) :
    member ∈ pairs ∨ member ∈ stored := by
  induction pairs generalizing stored with
  | nil => exact .inr found
  | cons head rest inductionHypothesis =>
      rcases inductionHypothesis found with later | earlier
      · exact .inl (List.mem_cons_of_mem _ later)
      · rcases mem_of_mem_store earlier with same | before
        · exact .inl (same ▸ List.mem_cons_self)
        · exact .inr before

/-- What has been stored is one of the members. -/
theorem mem_of_mem_ofPairs
    {pairs : Members}
    {member : String × Value}
    (found : member ∈ ofPairs pairs) :
    member ∈ pairs :=
  (mem_of_mem_foldl_store found).resolve_right List.not_mem_nil

/-- Names that are given values in order stay distinct. -/
theorem nodup_names_zip
    {given : List String}
    (distinct : given.Nodup)
    (values : List Value) :
    (names (given.zip values)).Nodup := by
  rw [names, List.zip_eq_zip_take_min, List.map_fst_zip (by simp)]
  exact distinct.take

/-- Members of distinct names stay as they are when they are stored one after the other. -/
theorem ofPairs_eq_self
    {members : Members}
    (distinct : members.names.Nodup) :
    ofPairs members = members :=
  @foldl_store_of_nodup [] members distinct

/-- What is kept of members after one is stored. -/
theorem filter_store
    (test : String → Bool)
    (members : Members)
    (name : String)
    (value : Value) :
    (members.store name value).filter (fun member => test member.1) =
      if test name then store (members.filter fun member => test member.1) name value
      else members.filter fun member => test member.1 := by
  induction members with
  | nil => by_cases kept : test name = true <;> simp [store, kept]
  | cons head rest inductionHypothesis =>
      obtain ⟨first, old⟩ := head
      by_cases same : first = name
      · subst same
        by_cases kept : test first = true <;> simp [store, kept]
      · by_cases kept : test first = true <;>
          by_cases keptNew : test name = true <;>
            simp_all [store]

theorem ofPairs_append_singleton
    (pairs : Members)
    (name : String)
    (value : Value) :
    ofPairs (pairs ++ [(name, value)]) = (ofPairs pairs).store name value := by
  simp [ofPairs]

theorem filter_ofPairs
    (test : String → Bool)
    (pairs : Members) :
    (ofPairs pairs).filter (fun member => test member.1) =
      ofPairs (pairs.filter fun member => test member.1) := by
  induction pairs using List.reverseRecOn with
  | nil => rfl
  | append_singleton pairs pair inductionHypothesis =>
      obtain ⟨name, value⟩ := pair
      rw [ofPairs_append_singleton, filter_store, inductionHypothesis, List.filter_append]
      by_cases kept : test name = true
      · rw [if_pos kept, List.filter_singleton, kept, cond_true, ofPairs_append_singleton]
      · simp [kept]

/-- The names of stored members are those that are given, each where it is given first. -/
theorem names_ofPairs (pairs : Members) :
    (ofPairs pairs).names = pairs.names.eraseDups := by
  induction pairs using List.reverseRecOn with
  | nil => rfl
  | append_singleton pairs pair inductionHypothesis =>
      obtain ⟨name, value⟩ := pair
      have given : names (pairs ++ [(name, value)]) = names pairs ++ [name] := by
        simp [names]
      rw [ofPairs_append_singleton, names_store, inductionHypothesis, given,
        List.eraseDups_append]
      by_cases member : name ∈ names pairs
      · simp [member, List.removeAll]
      · simp [member, List.removeAll, List.eraseDups_cons]

end Members
end DataSuite

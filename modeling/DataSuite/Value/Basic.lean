import DataSuite.Value.Number

/-!
# Values

A value is a scalar, a list of values or an object, whose members have names and
stand in an order.  In a well-formed value no object has two members of one name at
any depth.  Storing a member keeps the place of a member of the same name, so every
object built by storing members is well formed when its values are.
-/

namespace DataSuite

/-- A document value. -/
inductive Value where
  | null
  | boolean (value : Bool)
  | number (value : Number)
  | text (value : String)
  /-- A row of values. -/
  | list (items : List Value)
  /-- Named values in order. -/
  | object (members : List (String × Value))
deriving Inhabited

/-- The members of an object. -/
abbrev Members :=
  List (String × Value)

namespace Members

/-- The value of the member with a name. -/
def get? (members : Members) (name : String) : Option Value :=
  match members with
  | [] => none
  | (first, value) :: rest => if first = name then some value else get? rest name

/-- The names in order. -/
def names (members : Members) : List String :=
  members.map Prod.fst

/-- Store a value under a name: in the place of the member of that name, or at the end. -/
def store (members : Members) (name : String) (value : Value) : Members :=
  match members with
  | [] => [(name, value)]
  | (first, kept) :: rest =>
      if first = name then (name, value) :: rest
      else (first, kept) :: store rest name value

/-- Members stored one after the other. -/
def ofPairs (pairs : List (String × Value)) : Members :=
  pairs.foldl (fun members (name, value) => members.store name value) []

/-- Storing under a name that is there keeps the names, and under a new one adds it at the
end. -/
theorem names_store (members : Members) (name : String) (value : Value) :
    (members.store name value).names =
      if name ∈ members.names then members.names else members.names ++ [name] := by
  induction members with
  | nil => simp [store, names]
  | cons head rest inductionHypothesis =>
      obtain ⟨first, kept⟩ := head
      by_cases same : first = name
      · simp [store, names, same]
      · simp only [names, List.map_cons, List.mem_cons] at inductionHypothesis ⊢
        simp only [store, same, if_false, List.map_cons, inductionHypothesis, Ne.symm same,
          false_or]
        split <;> simp_all

/-- Storing a member keeps names distinct. -/
theorem nodup_names_store
    {members : Members}
    (distinct : members.names.Nodup)
    (name : String)
    (value : Value) :
    (members.store name value).names.Nodup := by
  rw [names_store]
  split
  · exact distinct
  · rename_i absent
    rw [List.nodup_append]
    refine ⟨distinct, by simp, ?_⟩
    intro other member new found same
    simp only [List.mem_singleton] at found
    exact absent (found ▸ same ▸ member)

/-- Storing members one after the other keeps names distinct. -/
theorem nodup_names_foldl_store
    (pairs : List (String × Value))
    {members : Members}
    (distinct : members.names.Nodup) :
    (pairs.foldl (fun members (name, value) => members.store name value) members).names.Nodup := by
  induction pairs generalizing members with
  | nil => exact distinct
  | cons pair rest inductionHypothesis =>
      exact inductionHypothesis (nodup_names_store distinct pair.1 pair.2)

/-- The names of stored members are distinct. -/
theorem nodup_names_ofPairs (pairs : List (String × Value)) :
    (ofPairs pairs).names.Nodup :=
  nodup_names_foldl_store pairs (by simp [names])

end Members

namespace Value

/-- Whether a value is a text. -/
def isText : Value → Bool
  | text _ => true
  | _ => false

mutual

/-- No object in the value has two members of one name. -/
def WellFormed : Value → Prop
  | .null => True
  | .boolean _ => True
  | .number _ => True
  | .text _ => True
  | .list items => WellFormedItems items
  | .object members => (Members.names members).Nodup ∧ WellFormedMembers members

/-- All values of a list are well formed. -/
def WellFormedItems : List Value → Prop
  | [] => True
  | item :: rest => WellFormed item ∧ WellFormedItems rest

/-- All values of members are well formed. -/
def WellFormedMembers : List (String × Value) → Prop
  | [] => True
  | (_, value) :: rest => WellFormed value ∧ WellFormedMembers rest

end

end Value
end DataSuite

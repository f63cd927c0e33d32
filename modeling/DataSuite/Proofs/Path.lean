import DataSuite.Path
import Mathlib.Data.List.Basic

/-!
# Paths along names

Names lead from a base to a path.  They stand in it with a slash between any two, so that different
names lead to different paths.  The extension of a path is what it ends with, and it is that of its
last name.
-/

namespace DataSuite
namespace Path

/-- An extension is what a path ends with. -/
theorem extension_suffix (path : String) : (extension path).toList <:+ path.toList := by
  have lastPart (stop : Char → Bool) (characters : List Char) :
      Text.behindLast stop characters <:+ characters := by
    have begins : characters.reverse.takeWhile (fun character => !stop character) <+:
        characters.reverse := List.takeWhile_prefix _
    simpa [Text.behindLast] using List.reverse_suffix.mpr begins
  rw [extension, String.toList_ofList]
  unfold extensionChars
  dsimp only
  split
  · exact (lastPart _ _).trans (lastPart _ _)
  · exact List.nil_suffix

/-- Whether a text is one part of a path, as are the names of entries. -/
def IsPart (name : String) : Prop :=
  name ≠ "" ∧ '/' ∉ name.toList

instance : DecidablePred IsPart := fun _ =>
  inferInstanceAs (Decidable (_ ∧ _))

/-- What stands in front of a part that is joined to a base. -/
def front (base : String) : String :=
  if base = "" ∨ base.toList.getLast? = some '/' then base else base ++ "/"

/-- The path to which names lead from a base. -/
def along (base : String) (names : List String) : String :=
  names.foldl join base

variable {base name : String} {names others : List String}

theorem join_of_isPart
    (isPart : IsPart name)
    (base : String) :
    join base name = front base ++ name := by
  have relative : isAbsolute name.toList ≠ true := fun absolute =>
    isPart.2 (List.mem_of_mem_head? (eq_of_beq absolute))
  rw [join_eq, front]
  by_cases empty : base = ""
  · simp [empty]
  · by_cases trailing : base.toList.getLast? = some '/' <;> simp [relative, empty, trailing]

/-- A slash stands in front of a part that is joined to what ends in a part. -/
theorem front_append_of_isPart
    (isPart : IsPart name)
    (before : String) :
    front (before ++ name) = before ++ name ++ "/" := by
  have nonempty : name.toList ≠ [] := mt String.toList_eq_nil_iff.mp isPart.1
  have noSlash : name.toList.getLast? ≠ some '/' := fun slash =>
    isPart.2 (List.mem_of_getLast? slash)
  rw [front, if_neg]
  rintro (empty | trailing)
  · exact isPart.1 (String.append_eq_empty_iff.mp empty).2
  · rw [String.toList_append, List.getLast?_append_of_ne_nil _ nonempty] at trailing
    exact noSlash trailing

/-- Names stand in the path to which they lead with a slash between any two. -/
theorem toList_along
    (nonempty : names ≠ [])
    (areParts : ∀ name ∈ names, IsPart name)
    (base : String) :
    (along base names).toList =
      (front base).toList ++ ['/'].intercalate (names.map String.toList) := by
  induction names generalizing base with
  | nil => exact absurd rfl nonempty
  | cons name rest inductionHypothesis =>
      obtain ⟨isPart, restParts⟩ := List.forall_mem_cons.mp areParts
      rw [along, List.foldl_cons, join_of_isPart isPart]
      cases rest with
      | nil => simp
      | cons second others =>
          have behind := inductionHypothesis (List.cons_ne_nil _ _) restParts (front base ++ name)
          rw [front_append_of_isPart isPart] at behind
          refine behind.trans ?_
          simp [List.intercalate_cons_cons]

/-- Different names lead to different paths. -/
theorem along_injective
    (base : String)
    (nonempty : names ≠ [])
    (areParts : ∀ name ∈ names, IsPart name)
    (otherNonempty : others ≠ [])
    (otherParts : ∀ name ∈ others, IsPart name)
    (same : along base names = along base others) :
    names = others := by
  have split {names : List String} (nonempty : names ≠ []) (areParts : ∀ name ∈ names, IsPart name) :
      (['/'].intercalate (names.map String.toList)).splitOn '/' = names.map String.toList :=
    List.splitOn_intercalate '/'
      (List.forall_mem_map.mpr fun name member => (areParts name member).2)
      (mt List.map_eq_nil_iff.mp nonempty)
  have sameText := congrArg String.toList same
  rw [toList_along nonempty areParts, toList_along otherNonempty otherParts,
    List.append_cancel_left_eq] at sameText
  have sameNames : names.map String.toList = others.map String.toList := by
    rw [← split nonempty areParts, sameText, split otherNonempty otherParts]
  exact List.map_injective_iff.mpr (fun _ _ => String.toList_injective) sameNames

/-- The extension of a path is that of the last name on the way to it. -/
theorem extension_along
    (base : String)
    (last : names.getLast? = some name) :
    extension (along base names) = extension name := by
  obtain ⟨earlier, rfl⟩ := List.getLast?_eq_some_iff.mp last
  rw [along, List.foldl_append]
  exact extension_resolve (some (along base earlier)) name

end Path
end DataSuite

import DataSuite.FileTree
import DataSuite.Proofs.Path
import DataSuite.Proofs.Places

/-!
# Well-formed trees of files

In a directory each name stands once, and is neither empty nor parted by a slash.  This is kept
when an entry is put into a tree, and holds of whatever a path leads to.
-/

namespace DataSuite

namespace Entry

/-- Whether the names in each directory at an entry are distinct and are parts of paths. -/
inductive WellFormed : Entry → Prop where
  | file (bytes : List UInt8) : WellFormed (.file bytes)
  | directory {entries : Entries}
      (named : ∀ inner ∈ entries, Path.IsPart inner.1)
      (distinct : (entries.map Prod.fst).Nodup)
      (formed : ∀ inner ∈ entries, WellFormed inner.2) :
      WellFormed (.directory entries)

theorem wellFormed_directory_nil : WellFormed (.directory []) :=
  .directory nofun List.nodup_nil nofun

end Entry

namespace Entries

variable {entries : Entries} {name : String} {entry : Entry}

theorem mem_of_mem_store
    {inner : String × Entry}
    (member : inner ∈ entries.store name entry) :
    inner = (name, entry) ∨ inner ∈ entries := by
  induction entries with
  | nil => exact .inl (List.mem_singleton.mp member)
  | cons first rest inductionHypothesis =>
      unfold store at member
      split at member
      · exact (List.mem_cons.mp member).imp_right (List.mem_cons_of_mem first)
      · rcases List.mem_cons.mp member with rfl | later
        · exact .inr List.mem_cons_self
        · exact (inductionHypothesis later).imp_right (List.mem_cons_of_mem first)

theorem nodup_names_store (distinct : (entries.map Prod.fst).Nodup) :
    ((entries.store name entry).map Prod.fst).Nodup := by
  induction entries with
  | nil => exact List.nodup_cons.mpr ⟨List.not_mem_nil, List.nodup_nil⟩
  | cons first rest inductionHypothesis =>
      obtain ⟨absent, distinctRest⟩ := List.nodup_cons.mp distinct
      unfold store
      split
      · rename_i same
        subst same
        exact distinct
      · rename_i different
        refine List.nodup_cons.mpr ⟨fun stored => ?_, inductionHypothesis distinctRest⟩
        obtain ⟨inner, member, sameName⟩ := List.mem_map.mp stored
        rcases mem_of_mem_store member with rfl | kept
        · exact different sameName.symm
        · exact absent (sameName ▸ List.mem_map_of_mem kept)

/-- A directory stays well formed when an entry is stored in it. -/
theorem wellFormed_store
    (wellFormed : (Entry.directory entries).WellFormed)
    (isPart : Path.IsPart name)
    (entryFormed : entry.WellFormed) :
    (Entry.directory (entries.store name entry)).WellFormed := by
  cases wellFormed with
  | directory named distinct formed =>
      refine .directory (fun inner member => ?_) (nodup_names_store distinct)
        fun inner member => ?_
      · rcases mem_of_mem_store member with rfl | kept
        · exact isPart
        · exact named inner kept
      · rcases mem_of_mem_store member with rfl | kept
        · exact entryFormed
        · exact formed inner kept

theorem wellFormed_below
    (wellFormed : (Entry.directory entries).WellFormed)
    (name : String) :
    (Entry.directory (entries.below name)).WellFormed := by
  unfold below
  split
  · rename_i found
    cases wellFormed with
    | directory named distinct formed => exact formed _ (mem_of_lookup found)
  · exact Entry.wellFormed_directory_nil

/-- A directory stays well formed when an entry is put at a path in it. -/
theorem wellFormed_insert
    (wellFormed : (Entry.directory entries).WellFormed)
    {names : List String}
    (areParts : ∀ name ∈ names, Path.IsPart name)
    (entryFormed : entry.WellFormed) :
    (Entry.directory (insert entry names entries)).WellFormed := by
  induction names generalizing entries with
  | nil => exact wellFormed
  | cons name rest inductionHypothesis =>
      obtain ⟨isPart, restParts⟩ := List.forall_mem_cons.mp areParts
      cases rest with
      | nil => exact wellFormed_store wellFormed isPart entryFormed
      | cons second others =>
          exact wellFormed_store wellFormed isPart
            (inductionHypothesis (wellFormed_below wellFormed name) restParts)

end Entries

namespace FileTree

/-- Whether a tree is well formed. -/
def WellFormed (tree : FileTree) : Prop :=
  (Entry.directory tree.root).WellFormed

/-- From well-formed entries a path leads to a well-formed entry. -/
theorem wellFormed_of_follow
    {around : List Entries}
    {entry found : Entry}
    {parts : List String}
    (aroundFormed : ∀ outer ∈ around, (Entry.directory outer).WellFormed)
    (wellFormed : entry.WellFormed)
    (followed : follow around entry parts = .ok found) :
    found.WellFormed := by
  induction parts generalizing around entry with
  | nil =>
      obtain rfl := Except.ok.inj followed
      exact wellFormed
  | cons part rest inductionHypothesis =>
      cases entry with
      | file bytes => cases followed
      | directory entries =>
          unfold follow at followed
          dsimp only at followed
          split at followed
          · exact inductionHypothesis aroundFormed wellFormed followed
          · split at followed
            · cases around with
              | nil => exact inductionHypothesis aroundFormed wellFormed followed
              | cons outer others =>
                  obtain ⟨outerFormed, othersFormed⟩ := List.forall_mem_cons.mp aroundFormed
                  exact inductionHypothesis othersFormed outerFormed followed
            · split at followed
              · cases followed
              · split at followed
                · cases followed
                · rename_i next found
                  have nextFormed : next.WellFormed := by
                    cases wellFormed with
                    | directory named distinct formed =>
                        exact formed _ (mem_of_lookup found)
                  exact inductionHypothesis
                    (List.forall_mem_cons.mpr ⟨wellFormed, aroundFormed⟩) nextFormed followed

/-- The directory at a path in a well-formed tree is well formed. -/
theorem wellFormed_of_directory?
    {tree : FileTree}
    (wellFormed : tree.WellFormed)
    {path : String}
    {entries : Entries}
    (found : tree.directory? path = some entries) :
    (Entry.directory entries).WellFormed := by
  have followed : tree.entry path = .ok (.directory entries) := by
    unfold directory? at found
    split at found
    · rename_i same
      rw [same, Option.some.inj found]
    · cases found
  unfold entry at followed
  dsimp only at followed
  split at followed
  · cases followed
  · split at followed
    · cases followed
    · split at followed
      · cases followed
      · split at followed
        · exact wellFormed_of_follow (List.forall_mem_nil _) wellFormed followed
        · exact wellFormed_of_follow (List.forall_mem_nil _) wellFormed followed

end FileTree
end DataSuite

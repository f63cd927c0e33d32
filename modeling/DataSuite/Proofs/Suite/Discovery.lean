import DataSuite.Proofs.FileTree
import DataSuite.Proofs.Sorted
import DataSuite.Suite.Discovery
import Mathlib.Data.List.Induction
import Mathlib.Data.List.Lex
import Mathlib.Data.List.Nodup
import Mathlib.Data.String.Basic
import Mathlib.Tactic.Choose

/-!
# Which suites are found

A directory stands for all files at any depth in it that have the extension of a suite.  The names
that lead to these files rise in lexicographic order, so that each file is found once, depth first
and in the order of names in every directory.  Different names lead to different paths, and the
format of each file that is found is known.
-/

namespace DataSuite

/-! ## Paths of suites -/

/-- The extensions of suites. -/
def suiteExtensions : List String :=
  ["yaml", "yml", "json"]

theorem isSuitePath_iff {path : String} :
    isSuitePath path = true ↔ Path.extension path ∈ suiteExtensions := by
  unfold isSuitePath Format.ofPath?
  split <;> simp_all [suiteExtensions]

/-- A document is refused for its format if and only if its path is not that of a suite. -/
theorem loadDocument_eq_format_iff
    {files : FileTree}
    {path named : String} :
    loadDocument files path = .error (.specification (.format named)) ↔
      isSuitePath path = false ∧ path = named := by
  unfold loadDocument isSuitePath
  cases Format.ofPath? path with
  | none => simp
  | some format =>
      cases files.readText path with
      | error cause => simp
      | ok text => cases read : format.read? text <;> simp [read]

/-! ## Ways to suites -/

/-- Whether names lead from the entries of a directory to a file with the extension of a suite. -/
inductive Entries.HasSuite : Entries → List String → Prop where
  | here {entries : Entries} {name : String} {bytes : List UInt8}
      (member : (name, .file bytes) ∈ entries)
      (extension : Path.extension name ∈ suiteExtensions) :
      HasSuite entries [name]
  | inside {entries inner : Entries} {name : String} {names : List String}
      (member : (name, .directory inner) ∈ entries) (deeper : HasSuite inner names) :
      HasSuite entries (name :: names)

namespace Entries

variable {rest : Entries} {name : String} {names : List String}

theorem not_hasSuite_nil : ¬ HasSuite [] names := by
  rintro (⟨member, -⟩ | ⟨member, -⟩)
  · cases member
  · cases member

theorem hasSuite_cons_file_iff
    {bytes : List UInt8} :
    HasSuite ((name, .file bytes) :: rest) names ↔
      (Path.extension name ∈ suiteExtensions ∧ names = [name]) ∨ HasSuite rest names := by
  constructor
  · rintro (⟨member, extension⟩ | ⟨member, deeper⟩)
    · rcases List.mem_cons.mp member with same | later
      · obtain ⟨rfl, -⟩ := Prod.mk.inj same
        exact .inl ⟨extension, rfl⟩
      · exact .inr (.here later extension)
    · rcases List.mem_cons.mp member with same | later
      · cases (Prod.mk.inj same).2
      · exact .inr (.inside later deeper)
  · rintro (⟨extension, rfl⟩ | ⟨later, extension⟩ | ⟨later, deeper⟩)
    · exact .here List.mem_cons_self extension
    · exact .here (List.mem_cons_of_mem _ later) extension
    · exact .inside (List.mem_cons_of_mem _ later) deeper

theorem hasSuite_cons_directory_iff
    {inner : Entries} :
    HasSuite ((name, .directory inner) :: rest) names ↔
      (∃ deeper, HasSuite inner deeper ∧ names = name :: deeper) ∨ HasSuite rest names := by
  constructor
  · rintro (⟨member, extension⟩ | ⟨member, deeper⟩)
    · rcases List.mem_cons.mp member with same | later
      · cases (Prod.mk.inj same).2
      · exact .inr (.here later extension)
    · rcases List.mem_cons.mp member with same | later
      · obtain ⟨rfl, inside⟩ := Prod.mk.inj same
        obtain rfl := Entry.directory.inj inside
        exact .inl ⟨_, deeper, rfl⟩
      · exact .inr (.inside later deeper)
  · rintro (⟨deeper, has, rfl⟩ | ⟨later, extension⟩ | ⟨later, deeper⟩)
    · exact .inside List.mem_cons_self has
    · exact .here (List.mem_cons_of_mem _ later) extension
    · exact .inside (List.mem_cons_of_mem _ later) deeper

end Entries

namespace Entry

/-- Whether names lead from an entry to a file. -/
inductive HasFile : Entry → List String → Prop where
  | here (bytes : List UInt8) : HasFile (.file bytes) []
  | inside {entries : Entries} {name : String} {inner : Entry} {names : List String}
      (member : (name, inner) ∈ entries) (deeper : HasFile inner names) :
      HasFile (.directory entries) (name :: names)

theorem HasFile.areParts
    {entry : Entry}
    {names : List String}
    (has : entry.HasFile names)
    (wellFormed : entry.WellFormed) :
    ∀ name ∈ names, Path.IsPart name := by
  induction has with
  | here bytes => exact List.forall_mem_nil _
  | inside member _ inductionHypothesis =>
      cases wellFormed with
      | directory named _ formed =>
          exact List.forall_mem_cons.mpr ⟨named _ member, inductionHypothesis (formed _ member)⟩

/-- Suites are the files whose last name has the extension of a suite. -/
theorem hasSuite_iff_hasFile
    {entries : Entries}
    {names : List String} :
    entries.HasSuite names ↔ (Entry.directory entries).HasFile names ∧
      ∃ name, names.getLast? = some name ∧ Path.extension name ∈ suiteExtensions := by
  constructor
  · intro has
    induction has with
    | here member extension => exact ⟨.inside member (.here _), _, rfl, extension⟩
    | inside member _ inductionHypothesis =>
        obtain ⟨deeper, name, last, extension⟩ := inductionHypothesis
        refine ⟨.inside member deeper, name, ?_, extension⟩
        rw [List.getLast?_cons, last, Option.getD_some]
  · rintro ⟨has, name, last, extension⟩
    generalize same : Entry.directory entries = entry at has
    induction has generalizing entries with
    | here bytes => cases same
    | @inside _ _ inner _ member deeper inductionHypothesis =>
        obtain rfl := Entry.directory.inj same
        cases inner with
        | file bytes =>
            cases deeper
            obtain rfl := Option.some.inj last
            exact .here member extension
        | directory below =>
            refine .inside member (inductionHypothesis ?_ rfl)
            cases deeper
            exact (List.getLast?_cons_cons ..).symm.trans last

/-! ## Entries in order -/

/-- Entries in the order of their names. -/
def inOrder (entries : Entries) : Entries :=
  entries.mergeSort fun left right => (compare left.1 right.1).isLE

theorem mem_inOrder_iff
    {entries : Entries}
    {inner : String × Entry} :
    inner ∈ inOrder entries ↔ inner ∈ entries :=
  List.mem_mergeSort

/-- Distinct names rise when they are in order. -/
theorem pairwise_inOrder
    {entries : Entries}
    (distinct : (entries.map Prod.fst).Nodup) :
    (inOrder entries).Pairwise fun left right => left.1 < right.1 := by
  have := Sorted.transCmp_on compare fun inner : String × Entry => inner.1
  have rising : (inOrder entries).Pairwise fun left right => (compare left.1 right.1).isLE = true :=
    Sorted.rising_sort entries
  have apart : ((inOrder entries).map Prod.fst).Nodup :=
    ((List.mergeSort_perm entries _).map Prod.fst).nodup_iff.mpr distinct
  refine (rising.and (List.pairwise_map.mp apart)).imp ?_
  rintro left right ⟨notAbove, different⟩
  exact lt_of_le_of_ne (Std.LawfulBCmp.isLE_iff_le.mp notAbove) different

theorem listings_eq
    (path : String)
    (entries : Entries) :
    listings path entries =
      entries.map fun inner => (inner.1, filePaths (Path.join path inner.1) inner.2) := by
  induction entries with
  | nil => rfl
  | cons first rest inductionHypothesis => rw [listings, inductionHypothesis, List.map_cons]

/-- The files of a directory are those of its entries in the order of names. -/
theorem filePaths_directory
    (path : String)
    (entries : Entries) :
    filePaths path (.directory entries) =
      (inOrder entries).flatMap fun inner => filePaths (Path.join path inner.1) inner.2 := by
  have sorted :
      (listings path entries).mergeSort (fun left right => (compare left.1 right.1).isLE) =
        (inOrder entries).map fun inner => (inner.1, filePaths (Path.join path inner.1) inner.2) := by
    rw [listings_eq]
    symm
    apply List.map_mergeSort
    intro left _ right _
    rfl
  rw [filePaths, sorted, List.flatMap_map]

/-- Whether ways of names are those to all files at an entry, in lexicographic order. -/
structure Ways (entry : Entry) (ways : List (List String)) : Prop where
  complete : ∀ names, names ∈ ways ↔ entry.HasFile names
  ordered : ways.Pairwise (· < ·)
  listed : ∀ path, filePaths path entry = ways.map (Path.along path)

/-- The files at a well-formed entry are found along the ways to them. -/
theorem WellFormed.exists_ways
    {entry : Entry}
    (wellFormed : entry.WellFormed) :
    ∃ ways, entry.Ways ways := by
  induction wellFormed with
  | file bytes =>
      refine ⟨[[]], ⟨fun names => ?_, List.pairwise_singleton _ _, fun path => ?_⟩⟩
      · rw [List.mem_singleton]
        constructor
        · rintro rfl
          exact .here bytes
        · rintro (_ | _)
          rfl
      · rw [filePaths]
        rfl
  | @directory entries named distinct _ inductionHypothesis =>
      choose! ways areWays using inductionHypothesis
      refine ⟨(inOrder entries).flatMap fun inner => (ways inner).map (inner.1 :: ·),
        ⟨fun names => ?_, ?_, fun path => ?_⟩⟩
      · rw [List.mem_flatMap]
        constructor
        · rintro ⟨inner, member, found⟩
          obtain ⟨deeper, deeperFound, rfl⟩ := List.mem_map.mp found
          have innerMember := mem_inOrder_iff.mp member
          exact .inside innerMember (((areWays inner innerMember).complete deeper).mp deeperFound)
        · rintro (_ | ⟨member, deeper⟩)
          exact ⟨_, mem_inOrder_iff.mpr member,
            List.mem_map_of_mem (((areWays _ member).complete _).mpr deeper)⟩
      -- Ways through one entry differ behind its name, and ways through two differ in the names.
      · refine List.pairwise_flatMap.mpr ⟨fun inner member => ?_, ?_⟩
        · rw [List.pairwise_map]
          have ordered := (areWays inner (mem_inOrder_iff.mp member)).ordered
          exact ordered.imp fun below => List.cons_lt_cons_iff.mpr (.inr ⟨rfl, below⟩)
        · refine (pairwise_inOrder distinct).imp fun below first firstFound second secondFound => ?_
          obtain ⟨_, _, rfl⟩ := List.mem_map.mp firstFound
          obtain ⟨_, _, rfl⟩ := List.mem_map.mp secondFound
          exact List.cons_lt_cons_iff.mpr (.inl below)
      · rw [filePaths_directory, List.map_flatMap]
        refine List.flatMap_congr fun inner member => ?_
        rw [(areWays inner (mem_inOrder_iff.mp member)).listed, List.map_map]
        rfl

end Entry

/-! ## What paths contribute -/

namespace FileTree

/-- What a path contributes to the paths of suites. -/
inductive Contributes (tree : FileTree) (path : String) : List String → Prop where
  /-- What is no directory stands for itself. -/
  | itself (other : tree.directory? path = none) : Contributes tree path [path]
  /-- A directory stands for all suites at any depth in it, each of them once, depth first and in
  the order of names. -/
  | directory {entries : Entries} {ways : List (List String)}
      (found : tree.directory? path = some entries)
      (complete : ∀ names, names ∈ ways ↔ entries.HasSuite names)
      (ordered : ways.Pairwise (· < ·)) :
      Contributes tree path (ways.map (Path.along path))

section Contributes

variable {tree : FileTree} {path : String}

/-- The suites found at a path are what the path contributes. -/
theorem contributes_suitesAt (wellFormed : tree.WellFormed) (path : String) :
    tree.Contributes path (tree.suitesAt path) := by
  unfold suitesAt
  split
  · rename_i entries found
    obtain ⟨ways, areWays⟩ := (wellFormed_of_directory? wellFormed found).exists_ways
    rw [areWays.listed, List.filter_map]
    refine .directory found (fun names => ?_) (areWays.ordered.filter _)
    rw [List.mem_filter, areWays.complete, Function.comp_apply, isSuitePath_iff,
      Entry.hasSuite_iff_hasFile]
    refine and_congr_right fun has => ?_
    cases has with
    | inside member deeper =>
        obtain ⟨last, isLast⟩ :=
          Option.isSome_iff_exists.mp (List.getLast?_isSome.mpr (List.cons_ne_nil _ _))
        rw [Path.extension_along path isLast]
        simp [isLast]
  · rename_i other
    exact .itself other

/-- A path contributes nothing else. -/
theorem Contributes.unique
    {files others : List String}
    (contributes : tree.Contributes path files)
    (contributesAlso : tree.Contributes path others) :
    files = others := by
  cases contributes with
  | itself other =>
      cases contributesAlso with
      | itself _ => rfl
      | directory found _ _ => cases other.symm.trans found
  | directory found complete ordered =>
      cases contributesAlso with
      | itself other => cases other.symm.trans found
      | directory foundAlso completeAlso orderedAlso =>
          obtain rfl := Option.some.inj (found.symm.trans foundAlso)
          congr 1
          -- Ways that rise are determined by which ways they are.
          have permuted := (List.perm_ext_iff_of_nodup ordered.nodup orderedAlso.nodup).mpr
            fun names => (complete names).trans (completeAlso names).symm
          exact permuted.eq_of_pairwise (fun _ _ _ _ below above => (lt_asymm below above).elim)
            ordered orderedAlso

/-- Different suites of a directory have different paths. -/
theorem Contributes.nodup
    {entries : Entries}
    {files : List String}
    (wellFormed : tree.WellFormed)
    (found : tree.directory? path = some entries)
    (contributes : tree.Contributes path files) :
    files.Nodup := by
  cases contributes with
  | itself other => exact List.nodup_singleton path
  | directory foundAlso complete ordered =>
      obtain rfl := Option.some.inj (found.symm.trans foundAlso)
      have formed := wellFormed_of_directory? wellFormed found
      have usable : ∀ names, entries.HasSuite names →
          names ≠ [] ∧ ∀ name ∈ names, Path.IsPart name := by
        intro names suite
        obtain ⟨has, name, last, -⟩ := Entry.hasSuite_iff_hasFile.mp suite
        refine ⟨?_, has.areParts formed⟩
        rintro rfl
        cases last
      apply List.Nodup.map_on _ ordered.nodup
      intro names member others otherMember same
      obtain ⟨nonempty, areParts⟩ := usable names ((complete names).mp member)
      obtain ⟨otherNonempty, otherParts⟩ := usable others ((complete others).mp otherMember)
      exact Path.along_injective path nonempty areParts otherNonempty otherParts same

/-- The format of each file of a directory is known. -/
theorem Contributes.isSuitePath_of_mem
    {entries : Entries}
    {files : List String}
    (found : tree.directory? path = some entries)
    (contributes : tree.Contributes path files) :
    ∀ file ∈ files, isSuitePath file = true := by
  cases contributes with
  | itself other => cases other.symm.trans found
  | directory foundAlso complete ordered =>
      rw [List.forall_mem_map]
      intro names member
      obtain ⟨-, name, last, extension⟩ :=
        Entry.hasSuite_iff_hasFile.mp ((complete names).mp member)
      rw [isSuitePath_iff, Path.extension_along path last]
      exact extension

end Contributes

/-- The suites that paths stand for are what the paths contribute one after the other, and nothing
else: each path that is no directory itself, and each directory all suites at any depth in it, depth
first and in the order of names.  A directory contributes no path twice and none of a format that is
not known. -/
theorem suites_found_once_in_order
    {tree : FileTree}
    (wellFormed : tree.WellFormed)
    (paths : List String) :
    (∀ files, tree.suites paths = files ↔
      ∃ parts, List.Forall₂ tree.Contributes paths parts ∧ parts.flatten = files) ∧
    ∀ path entries files, tree.directory? path = some entries → tree.Contributes path files →
      files.Nodup ∧ ∀ file ∈ files, ∀ (read : FileTree) (named : String),
        loadDocument read file ≠ .error (.specification (.format named)) := by
  constructor
  · intro files
    constructor
    · rintro rfl
      refine ⟨paths.map tree.suitesAt, ?_, rfl⟩
      rw [List.forall₂_map_right_iff, List.forall₂_same]
      exact fun path _ => contributes_suitesAt wellFormed path
    · rintro ⟨parts, contribute, rfl⟩
      have same : parts = paths.map tree.suitesAt := by
        rw [← List.forall₂_eq_eq_eq, List.forall₂_map_right_iff]
        exact contribute.flip.imp fun part path contributes =>
          contributes.unique (contributes_suitesAt wellFormed path)
      rw [same]
      rfl
  · intro path entries files found contributes
    refine ⟨contributes.nodup wellFormed found, fun file member read named refused => ?_⟩
    have known := contributes.isSuitePath_of_mem found file member
    rw [loadDocument_eq_format_iff.mp refused |>.1] at known
    cases known

/-- A tree of empty files at the ends of some ways. -/
def ofWays (ways : List (List String)) : FileTree :=
  ⟨ways.foldl (fun root names => root.insert (.file []) names) [], []⟩

theorem wellFormed_ofWays
    {ways : List (List String)}
    (areParts : ∀ names ∈ ways, ∀ name ∈ names, Path.IsPart name) :
    (ofWays ways).WellFormed := by
  unfold ofWays WellFormed
  induction ways using List.reverseRecOn with
  | nil => exact Entry.wellFormed_directory_nil
  | append_singleton earlier names inductionHypothesis =>
      obtain ⟨earlierParts, namesParts⟩ := List.forall_mem_append.mp areParts
      rw [List.foldl_concat]
      exact Entries.wellFormed_insert (inductionHypothesis earlierParts)
        (List.forall_mem_singleton.mp namesParts) (.file [])

/-- Three entries whose names begin alike, one of them a directory with the name of a suite. -/
def lodgings : FileTree :=
  ofWays [["stay", "b-1.yaml"], ["stay", "b", "x.json"], ["stay", "b", "x.json.txt"],
    ["stay", "b.yml", ".yaml"], ["stay", "b.yml", "c.yaml\\d"]]

/-- The suites below a directory stand in its place, before a file whose path is less than theirs. -/
theorem suites_found_in_lodgings :
    lodgings.WellFormed ∧
      lodgings.suites ["stay", "gone.txt", "stay/b.yml/"] =
        ["stay/b/x.json", "stay/b-1.yaml", "stay/b.yml/.yaml", "gone.txt", "stay/b.yml/.yaml"] := by
  have wellFormed : lodgings.WellFormed := wellFormed_ofWays (by decide)
  have found : lodgings.directory? "stay" = some
      [("b-1.yaml", .file []), ("b", .directory [("x.json", .file []), ("x.json.txt", .file [])]),
        ("b.yml", .directory [(".yaml", .file []), ("c.yaml\\d", .file [])])] := rfl
  have foundInside : lodgings.directory? "stay/b.yml/" = some
      [(".yaml", .file []), ("c.yaml\\d", .file [])] := rfl
  have extensions : Path.extension "b-1.yaml" ∈ suiteExtensions ∧
      Path.extension "x.json" ∈ suiteExtensions ∧ Path.extension "x.json.txt" ∉ suiteExtensions ∧
        Path.extension ".yaml" ∈ suiteExtensions ∧ Path.extension "c.yaml\\d" ∉ suiteExtensions := by
    decide
  have stay : lodgings.Contributes "stay"
      ([["b", "x.json"], ["b-1.yaml"], ["b.yml", ".yaml"]].map (Path.along "stay")) := by
    refine .directory found (fun names => ?_) (by decide)
    simp [Entries.hasSuite_cons_file_iff, Entries.hasSuite_cons_directory_iff,
      Entries.not_hasSuite_nil, extensions, or_left_comm]
  have inside : lodgings.Contributes "stay/b.yml/" ([[".yaml"]].map (Path.along "stay/b.yml/")) := by
    refine .directory foundInside (fun names => ?_) (by decide)
    simp [Entries.hasSuite_cons_file_iff, Entries.not_hasSuite_nil, extensions]
  obtain ⟨whole, -⟩ := suites_found_once_in_order wellFormed ["stay", "gone.txt", "stay/b.yml/"]
  exact ⟨wellFormed, (whole _).mpr ⟨_, .cons stay (.cons (.itself rfl) (.cons inside .nil)), rfl⟩⟩

end FileTree
end DataSuite

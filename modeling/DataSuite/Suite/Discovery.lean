import DataSuite.Suite.Load

/-!
# Finding suites

Paths are expanded into the paths of suites.  A directory stands for the suites in it and
in the directories below it, in the order of names; every other path stands for
itself.  Only regular files count as suites: a symbolic link or a special file in a
directory is passed over whatever its name, so that trees have neither of them.
-/

namespace DataSuite

/-- Whether the file at a path holds a suite. -/
def isSuitePath (path : String) : Bool :=
  (Format.ofPath? path).isSome

namespace Entry

mutual

/-- The paths of the files at an entry, where those of a directory stand in the order of the
names in it. -/
def filePaths (path : String) : Entry → List String
  | .file _ => [path]
  | .directory entries =>
      ((listings path entries).mergeSort fun left right =>
        (compare left.1 right.1).isLE).flatMap Prod.snd

/-- The names of entries of a directory, each with the paths of the files at it. -/
def listings (path : String) : List (String × Entry) → List (String × List String)
  | [] => []
  | (name, entry) :: rest =>
      (name, filePaths (Path.join path name) entry) :: listings path rest

end

end Entry

/-- The paths of the suites that a path stands for. -/
def FileTree.suitesAt (tree : FileTree) (path : String) : List String :=
  match tree.directory? path with
  | some entries => (Entry.filePaths path (.directory entries)).filter isSuitePath
  | none => [path]

/-- The paths of the suites that paths stand for. -/
def FileTree.suites (tree : FileTree) (paths : List String) : List String :=
  paths.flatMap tree.suitesAt

end DataSuite

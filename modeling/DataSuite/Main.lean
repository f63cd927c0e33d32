import DataSuite.CommandLine.Program

/-!
# The command line

The program reads the files that its arguments name, runs on them and prints what it has
to say.
-/

namespace DataSuite
namespace CommandLine

/-- The variables of the environment that matter. -/
def readVariables : IO (List (String × String)) := do
  let names := Work.filterVariable :: Language.localeVariables
  let found ← names.mapM fun name => do return (name, ← IO.getEnv name)
  return found.filterMap fun (name, value) => value.map fun value => (name, value)

/-- The names that lead from the root to a path, where a base leads to the working directory. -/
def namesFromRoot (base : List String) (path : String) : List String :=
  let start := if Path.isAbsolute path.toList then [] else base
  (FileTree.parts path.toList).foldl
    (fun names part =>
      if part = "" ∨ part = "." then names
      else if part = ".." then names.dropLast
      else names ++ [part])
    start

/-- The place of a path in the file system. -/
def locate (path : String) := do
  let here ← IO.currentDir
  return here / path

/-- What stands at a path.  Only the contents of suites are read; in a directory what is
neither a file nor a directory is left out. -/
partial def readEntry? (path : String) : IO (Option Entry) := do
  let place ← locate path
  if !(← place.pathExists) then return none
  else if ← place.isDir then
    let found ← (← place.readDir).toList.mapM fun child => do
      let kind := (← child.path.symlinkMetadata).type
      if kind == .file || kind == .dir then
        return (child.fileName, ← readEntry? (toString child.path))
      else return (child.fileName, none)
    return some <| .directory <|
      found.filterMap fun (name, entry) => entry.map fun entry => (name, entry)
  else if isSuitePath path then return some (.file (← IO.FS.readBinFile place).toList)
  else return some (.file [])

/-- Whether a path leads to a directory. -/
def isDirectory (path : String) : IO Bool := do
  let place ← locate path
  place.isDir

/-- Add the directories on the way to a path. -/
def addWay (base : List String) (root : Entries) (path : String) : IO Entries := do
  let characters := path.toList
  let ways := (List.range (characters.length + 1)).map fun length =>
    String.ofList (characters.take length)
  let directories ← ways.filterM isDirectory
  return directories.foldl
    (fun root way => Entries.makeDirectory (namesFromRoot base way) root) root

/-- Add what stands at a path. -/
def addPath (base : List String) (root : Entries) (path : String) : IO Entries := do
  let root ← addWay base root path
  match ← readEntry? path with
  | none => return root
  | some entry => return Entries.insert entry (namesFromRoot base path) root

/-- The files that paths name. -/
def readFiles (paths : List String) : IO FileTree := do
  let base := namesFromRoot [] (toString (← IO.currentDir))
  let root ← paths.foldlM (addPath base) []
  return ⟨Entries.makeDirectory base root, base⟩

/-- Run the program with arguments. -/
def start (arguments : List String) : IO UInt32 := do
  let environment ← readVariables
  let options := Options.ofArguments arguments
  let files ←
    match options with
    | .ok options => readFiles options.paths
    | .error _ => pure .empty
  if let .error .usage := options then IO.eprintln usage
  let outcome := run (fun name => environment.lookup name) files arguments
  IO.print outcome.text
  return outcome.code.toUInt32

end CommandLine
end DataSuite

/-- Run the program. -/
def main (arguments : List String) : IO UInt32 :=
  DataSuite.CommandLine.start arguments

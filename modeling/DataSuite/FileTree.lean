import DataSuite.Path
import DataSuite.Text.Utf8

/-!
# Trees of files

A tree holds the files that a program can read and knows the directory in which it works.
A path is followed part by part, from the root if it is absolute and else from the working
directory; an empty part and a single point stay in a directory, and two points lead back
to the one around it.

An entry is a file or a directory.  Symbolic links and special files, such as pipes and
devices, are left out.
-/

namespace DataSuite

/-- A file or a directory. -/
inductive Entry where
  /-- A file with its content. -/
  | file (bytes : List UInt8)
  /-- A directory with its named entries. -/
  | directory (entries : List (String × Entry))
deriving Inhabited

/-- The entries of a directory. -/
abbrev Entries :=
  List (String × Entry)

namespace Entries

/-- Store an entry under a name. -/
def store (entries : Entries) (name : String) (entry : Entry) : Entries :=
  match entries with
  | [] => [(name, entry)]
  | (first, kept) :: rest =>
      if first = name then (name, entry) :: rest else (first, kept) :: store rest name entry

/-- The entries of the directory of a name, or none. -/
def below (entries : Entries) (name : String) : Entries :=
  match entries.lookup name with
  | some (.directory inner) => inner
  | _ => []

/-- Put an entry at a path, with the directories that lead to it. -/
def insert (entry : Entry) : List String → Entries → Entries
  | [], entries => entries
  | [name], entries => entries.store name entry
  | name :: rest, entries =>
      entries.store name (.directory (insert entry rest (entries.below name)))

/-- Make a directory at a path unless there is one. -/
def makeDirectory : List String → Entries → Entries
  | [], entries => entries
  | name :: rest, entries =>
      entries.store name (.directory (makeDirectory rest (entries.below name)))

end Entries

/-- The files that can be read. -/
structure FileTree where
  /-- What stands at the root. -/
  root : Entries
  /-- The names that lead from the root to the working directory. -/
  working : List String

/-- Why a path cannot be read. -/
inductive ReadFailure where
  | missing
  | notDirectory
  | isDirectory
  | nameTooLong
  | nullInPath
  /-- The file is no text. -/
  | notText
deriving DecidableEq

/-- The description of a failure. -/
def ReadFailure.message : ReadFailure → String
  | .missing => "No such file or directory (os error 2)"
  | .notDirectory => "Not a directory (os error 20)"
  | .isDirectory => "Is a directory (os error 21)"
  | .nameTooLong => "File name too long (os error 36)"
  | .nullInPath => "file name contained an unexpected NUL byte"
  | .notText => "stream did not contain valid UTF-8"

namespace FileTree

/-- No files. -/
def empty : FileTree :=
  ⟨[], []⟩

/-- The parts of a path. -/
def parts (path : List Char) : List String :=
  path.foldr
    (fun character parts =>
      if character == '/' then "" :: parts
      else
        match parts with
        | [] => [String.singleton character]
        | first :: rest => (String.singleton character ++ first) :: rest)
    [""]

/-- Follow the parts of a path from an entry; the directories around it are known, the
innermost one first.  The root is around itself. -/
def follow (around : List Entries) (entry : Entry) : List String → Except ReadFailure Entry
  | [] => .ok entry
  | part :: rest =>
      match entry with
      | .file _ => .error .notDirectory
      | .directory entries =>
          if part = "" ∨ part = "." then follow around entry rest
          else if part = ".." then
            match around with
            | [] => follow [] entry rest
            | outer :: around => follow around (.directory outer) rest
          else if 255 < part.utf8ByteSize then .error .nameTooLong
          else
            match entries.lookup part with
            | none => .error .missing
            | some next => follow (entries :: around) next rest

/-- What stands at a path. -/
def entry (tree : FileTree) (path : String) : Except ReadFailure Entry :=
  let characters := path.toList
  if characters.contains '\x00' then .error .nullInPath
  else if characters.isEmpty then .error .missing
  else if 4096 ≤ path.utf8ByteSize then .error .nameTooLong
  else if Path.isAbsolute characters then
    follow [] (.directory tree.root) (parts characters)
  else follow [] (.directory tree.root) (tree.working ++ parts characters)

/-- The entries of the directory at a path, if there is one. -/
def directory? (tree : FileTree) (path : String) : Option Entries :=
  match tree.entry path with
  | .ok (.directory entries) => some entries
  | _ => none

/-- The content of the file at a path. -/
def read (tree : FileTree) (path : String) : Except ReadFailure (List UInt8) :=
  match tree.entry path with
  | .ok (.file bytes) => .ok bytes
  | .ok (.directory _) => .error .isDirectory
  | .error failure => .error failure

/-- The text of the file at a path. -/
def readText (tree : FileTree) (path : String) : Except ReadFailure String :=
  match tree.read path with
  | .error failure => .error failure
  | .ok bytes =>
      match Utf8.decode bytes with
      | .ok text => .ok text
      | .error _ => .error .notText

end FileTree
end DataSuite

import DataSuite.Text.Split

/-!
# Paths

A path is a text whose parts are separated by slashes.  Joining puts a relative path
behind a base and never simplifies the result; a path that begins with a slash is
absolute and stays as it is.
-/

namespace DataSuite
namespace Path

/-- Whether a path begins at the root. -/
def isAbsolute (path : List Char) : Bool :=
  path.head? == some '/'

/-- A path behind a base, with one slash between them. -/
def joinChars (base path : List Char) : List Char :=
  if isAbsolute path || base.isEmpty then path
  else if base.getLast? == some '/' then base ++ path
  else base ++ '/' :: path

/-- A path behind a base. -/
def join (base path : String) : String :=
  String.ofList (joinChars base.toList path.toList)

/-- A path behind a base, if there is one. -/
def resolve (base : Option String) (path : String) : String :=
  match base with
  | none => path
  | some base => join base path

/-- Whether a character separates the parts of a path or of a path of another system. -/
def separatesParts (character : Char) : Bool :=
  character == '/' || character == '\\'

/-- The characters behind the last point of the last part, or none. -/
def extensionChars (path : List Char) : List Char :=
  let name := Text.behindLast separatesParts path
  if name.contains '.' then Text.behindLast (· == '.') name else []

/-- The extension of a path: what stands behind the last point of its last part. -/
def extension (path : String) : String :=
  String.ofList (extensionChars path.toList)

/-- A relative path stands behind its base with a slash between them, which the base may bring
along. -/
theorem join_eq (base path : String) :
    join base path =
      if isAbsolute path.toList ∨ base = "" then path
      else if base.toList.getLast? = some '/' then base ++ path
      else base ++ "/" ++ path := by
  unfold join joinChars
  rw [← String.toList_inj]
  simp only [Bool.or_eq_true, List.isEmpty_iff, String.toList_eq_nil_iff, beq_iff_eq]
  split
  · simp
  · split <;> simp

/-- A path keeps its last part behind every base. -/
theorem behindLast_joinChars (base path : List Char) :
    Text.behindLast separatesParts (joinChars base path) = Text.behindLast separatesParts path := by
  unfold joinChars
  split
  · rfl
  · split
    · rename_i trailing
      obtain ⟨parts, rfl⟩ := List.getLast?_eq_some_iff.mp (eq_of_beq trailing)
      rw [List.append_assoc]
      exact Text.behindLast_append_cons rfl parts path
    · exact Text.behindLast_append_cons rfl base path

/-- A path keeps its extension when it is resolved. -/
@[simp] theorem extension_resolve (base : Option String) (path : String) :
    extension (resolve base path) = extension path := by
  cases base with
  | none => rfl
  | some base =>
      unfold extension resolve join extensionChars
      rw [String.toList_ofList, behindLast_joinChars]

/-- The last part of a path. -/
def fileName (path : String) : String :=
  String.ofList (Text.behindLast (· == '/') path.toList)

/-- A reversed path without the empty parts and the parts of a single point that it ends
with.  The root and a path of a single point are kept. -/
def withoutIdleParts : List Char → List Char
  | ['/'] => ['/']
  | '/' :: rest => withoutIdleParts rest
  | ['.', '/'] => ['/']
  | '.' :: '/' :: rest => withoutIdleParts rest
  | path => path

/-- The path of the directory of a file. -/
def parent (path : String) : String :=
  String.ofList
    (withoutIdleParts (path.toList.reverse.dropWhile (· != '/'))).reverse

end Path
end DataSuite

import DataSuite.Proofs.Path
import DataSuite.Proofs.Suite.Description
import DataSuite.Proofs.Text.Cutting

/-!
# Directives that are read again as they are shown

A query file or a load that has been read from a text is shown as a text from which the same
directive is read.  The path and the table are shown with one separator between them, in front of
which it does not occur a second time: it is not in the path, and a path with the extension of a
table does not end like the beginning of the separator.  Two such directives thus never look the
same.
-/

namespace DataSuite

namespace Directive

theorem into_nonempty : into.toList ≠ [] := by
  decide

/-- Where the separator begins in a text and ends behind it, the text ends like its first word. -/
theorem getLast?_of_overlap
    {front rest : List Char}
    (whole : into.toList = front ++ rest)
    (frontSome : front ≠ [])
    (restSome : rest ≠ [])
    (begins : rest <+: into.toList.dropLast) :
    front.getLast? = some 'o' := by
  have overlaps : ∀ rest ∈ into.toList.dropLast.inits, ∀ front ∈ into.toList.inits,
      into.toList = front ++ rest → front ≠ [] → rest ≠ [] → front.getLast? = some 'o' := by
    decide
  exact overlaps rest ((List.mem_inits _ _).mpr begins) front
    ((List.mem_inits _ _).mpr ⟨rest, whole.symm⟩) whole frontSome restSome

/-- The separator is first found behind the path of a table if it is not in the path. -/
theorem cut?_into
    {path : String}
    (rows : Path.extension path = "csv")
    (absent : ¬ into.toList <:+: path.toList)
    (table : String) :
    Text.cut? into (path ++ into ++ table) = some (path, table) := by
  refine (Text.cut?_eq_some_iff into_nonempty).mpr ⟨rfl, fun inside => ?_⟩
  -- An earlier occurrence is in the path, in the separator or reaches from one into the other.
  rcases List.infix_append_iff_ne_nil.mp inside with inPath | inInto | overlap
  · exact absent inPath
  · exact Text.not_infix_dropLast into_nonempty inInto
  · obtain ⟨front, rest, frontSome, restSome, whole, ⟨earlier, ends⟩, begins⟩ := overlap
    have endsInto : path.toList.getLast? = some 'o' := by
      rw [← ends, List.getLast?_append_of_ne_nil _ frontSome]
      exact getLast?_of_overlap whole frontSome restSome begins
    have endsTable : path.toList.getLast? = some 'v' := by
      obtain ⟨stem, ends⟩ := Path.extension_suffix path
      rw [← ends, rows]
      exact List.getLast?_append_of_ne_nil stem (by decide)
    rw [endsInto] at endsTable
    exact absurd endsTable (by decide)

/-- Whether a directive executes a file of queries or loads a file. -/
def RefersToFile : Directive → Prop
  | fileQuery _ => True
  | fileLoad _ _ => True
  | _ => False

/-- A directive that is read from a text as a reference to a file is read again as it is shown. -/
theorem DescribedBy.display
    {directive : Directive}
    {text : String}
    (described : directive.DescribedBy (.text text))
    (refers : directive.RefersToFile) :
    directive.DescribedBy (.text directive.display) := by
  cases described with
  | query plain => cases refers
  | @queryFile reference whole queries =>
      have absent := (Text.cut?_eq_none_iff into_nonempty).mp whole
      have stillWhole : Text.cut? into (Text.trim reference) = none := by
        rw [Text.cut?_eq_none_iff into_nonempty, Text.toList_trim]
        exact fun inside => absent (inside.trans (Text.trimmed_infix reference.toList))
      have stillQueries : Path.extension (Text.trim (Text.trim reference)) = "sql" := by
        rw [Text.trim_trim]
        exact queries
      have again := queryFile stillWhole stillQueries
      rw [Text.trim_trim] at again
      exact again
  | @load reference path table parts rows named =>
      obtain ⟨-, absent⟩ := (Text.cut?_eq_some_iff into_nonempty).mp parts
      have stillAbsent : ¬ into.toList <:+: (Text.trim path).toList := by
        rw [Text.toList_trim]
        intro inside
        have inFront := inside.trans (Text.trimmed_infix path.toList)
        exact absent (inFront.trans (List.prefix_append path.toList _).isInfix)
      have stillRows : Path.extension (Text.trim (Text.trim path)) = "csv" := by
        rw [Text.trim_trim]
        exact rows
      have stillNamed : Text.trim (Text.trim table) ≠ "" := by
        rw [Text.trim_trim]
        exact named
      have again := load (cut?_into rows stillAbsent (Text.trim table)) stillRows stillNamed
      rw [Text.trim_trim, Text.trim_trim, ← String.append_assoc, ← String.append_assoc] at again
      exact again

/-- A query file or a load that is read from a text without a base is read again from the text as
which it is shown.  Two of them that are shown alike are therefore the same. -/
theorem file_directives_reread_as_shown
    {directive : Directive}
    {text : String}
    (read : ofValue none (.text text) = .ok directive)
    (refers : directive.RefersToFile) :
    ofValue none (.text directive.display) = .ok directive ∧
      ∀ (other : Directive) (otherText : String), ofValue none (.text otherText) = .ok other →
        other.RefersToFile → other ≠ directive → other.display ≠ directive.display := by
  have reread : ∀ (other : Directive) (otherText : String),
      ofValue none (.text otherText) = .ok other → other.RefersToFile →
        ofValue none (.text other.display) = .ok other := by
    intro other otherText otherRead otherRefers
    exact ofValue_eq_ok_iff.mpr ((ofValue_eq_ok_iff.mp otherRead).display otherRefers)
  have own := reread directive text read refers
  refine ⟨own, fun other otherText otherRead otherRefers different alike => different ?_⟩
  have otherOwn := reread other otherText otherRead otherRefers
  rw [alike, own] at otherOwn
  exact (Except.ok.inj otherOwn).symm

/-- A load with wide blanks around its parts and with the word of the separator in its path and in
its table is read again as it is shown, and is not shown like a load into another table. -/
theorem file_directives_reread_wide_blanks :
    let directive := fileLoad "into into.d/a into.csv" "t into u"
    ofValue none (.text "@\u3000into into.d/a into.csv\u00a0 into \u2003t into u ") = .ok directive ∧
      directive.display = "@into into.d/a into.csv into t into u" ∧
      ofValue none (.text "@into into.d/a into.csv into t into u") = .ok directive ∧
      ofValue none (.text "@into into.d/a into.csv into t") =
        .ok (fileLoad "into into.d/a into.csv" "t") ∧
      (fileLoad "into into.d/a into.csv" "t").display ≠ directive.display := by
  intro directive
  have read : ofValue none (.text "@\u3000into into.d/a into.csv\u00a0 into \u2003t into u ") =
      .ok directive := rfl
  have otherRead : ofValue none (.text "@into into.d/a into.csv into t") =
      .ok (fileLoad "into into.d/a into.csv" "t") := rfl
  have shown : directive.display = "@into into.d/a into.csv into t into u" := rfl
  obtain ⟨reread, apart⟩ := file_directives_reread_as_shown read trivial
  exact ⟨read, shown, shown ▸ reread, otherRead,
    apart _ _ otherRead trivial (by decide)⟩

end Directive
end DataSuite

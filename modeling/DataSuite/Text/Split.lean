/-!
# Cutting texts

A text is cut at the first occurrence of a separator, into lines, or behind its
last occurrence of a character.  Replacement runs from left to right and never
looks at what it has already written.
-/

namespace DataSuite
namespace Text

/-- What stands behind a prefix of the characters. -/
def dropPrefix? : List Char → List Char → Option (List Char)
  | [], characters => some characters
  | _ :: _, [] => none
  | expected :: pattern, first :: rest =>
      if expected = first then dropPrefix? pattern rest else none

/-- A prefix is dropped exactly when the characters begin with it. -/
theorem dropPrefix?_eq_some_iff
    {pattern characters behind : List Char} :
    dropPrefix? pattern characters = some behind ↔ characters = pattern ++ behind := by
  induction pattern generalizing characters with
  | nil => simp [dropPrefix?]
  | cons expected pattern inductionHypothesis =>
      cases characters with
      | nil => simp [dropPrefix?]
      | cons first rest =>
          by_cases same : expected = first
          · simp [dropPrefix?, same, inductionHypothesis]
          · simp [dropPrefix?, same, Ne.symm same]

/-- What stands before and behind the first occurrence of a separator. -/
def cutAt (separator : List Char) : List Char → Option (List Char × List Char)
  | [] => if separator.isEmpty then some ([], []) else none
  | first :: rest =>
      match dropPrefix? separator (first :: rest) with
      | some behind => some ([], behind)
      | none => (cutAt separator rest).map fun (before, behind) => (first :: before, behind)

/-- A text without the prefix it is known to begin with. -/
def afterPrefix? (pattern text : String) : Option String :=
  (dropPrefix? pattern.toList text.toList).map String.ofList

/-- What stands behind a prefix is the rest of the text. -/
theorem afterPrefix?_eq_some_iff
    {pattern text rest : String} :
    afterPrefix? pattern text = some rest ↔ text = pattern ++ rest := by
  unfold afterPrefix?
  simp only [Option.map_eq_some_iff, dropPrefix?_eq_some_iff]
  constructor
  · rintro ⟨behind, restored, rfl⟩
    rw [← String.toList_inj, restored, String.toList_append, String.toList_ofList]
  · rintro rfl
    exact ⟨rest.toList, String.toList_append, String.ofList_toList⟩

@[simp] theorem afterPrefix?_append (pattern rest : String) :
    afterPrefix? pattern (pattern ++ rest) = some rest :=
  afterPrefix?_eq_some_iff.mpr rfl

theorem afterPrefix?_eq_none_iff
    {pattern text : String} :
    afterPrefix? pattern text = none ↔ ∀ rest, text ≠ pattern ++ rest := by
  rw [Option.eq_none_iff_forall_ne_some]
  exact forall_congr' fun rest => not_congr afterPrefix?_eq_some_iff

/-- A text cut at the first occurrence of a separator. -/
def cut? (separator text : String) : Option (String × String) :=
  (cutAt separator.toList text.toList).map fun (before, behind) =>
    (String.ofList before, String.ofList behind)

/-- The characters up to the first one that satisfies a test. -/
def before (stop : Char → Bool) (text : String) : String :=
  String.ofList (text.toList.takeWhile fun character => !stop character)

/-- Characters behind the last one that satisfies a test, or all of them. -/
def behindLast (stop : Char → Bool) (characters : List Char) : List Char :=
  (characters.reverse.takeWhile fun character => !stop character).reverse

/-- Behind the last character that satisfies a test stands nothing from before any such
character. -/
theorem behindLast_append_cons
    {stop : Char → Bool}
    {character : Char}
    (stops : stop character = true)
    (before behind : List Char) :
    behindLast stop (before ++ character :: behind) = behindLast stop behind := by
  unfold behindLast
  rw [List.reverse_append, List.reverse_cons, List.append_assoc, List.takeWhile_append]
  split
  · rename_i untouched
    have whole := (List.takeWhile_prefix fun character => !stop character).eq_of_length untouched
    rw [whole]
    simp [stops]
  · rfl

/-- Replace each occurrence of a pattern, skipping the given number of characters
of an occurrence that has already been replaced. -/
def replaceFrom (pattern replacement : List Char) : Nat → List Char → List Char
  | _, [] => []
  | skipped + 1, _ :: rest => replaceFrom pattern replacement skipped rest
  | 0, first :: rest =>
      if (dropPrefix? pattern (first :: rest)).isSome then
        replacement ++ replaceFrom pattern replacement (pattern.length - 1) rest
      else first :: replaceFrom pattern replacement 0 rest

/-- A text with each occurrence of a nonempty pattern replaced. -/
def replace (pattern replacement text : String) : String :=
  String.ofList (replaceFrom pattern.toList replacement.toList 0 text.toList)

/-- A reversed line without the carriage return it ends with. -/
def withoutReturn : List Char → List Char
  | '\r' :: line => line
  | line => line

/-- The lines behind the current one, which is held reversed. -/
def linesFrom (current : List Char) : List Char → List (List Char)
  | [] => if current.isEmpty then [] else [current.reverse]
  | '\n' :: rest => (withoutReturn current).reverse :: linesFrom [] rest
  | character :: rest => linesFrom (character :: current) rest

/-- The lines of a text.  A line ends with a line feed or with a carriage return and
a line feed; the last line may lack its end. -/
def lines (text : String) : List String :=
  (linesFrom [] text.toList).map String.ofList

/-- Texts separated by a text. -/
def joined (separator : String) (texts : List String) : String :=
  separator.intercalate texts

end Text
end DataSuite

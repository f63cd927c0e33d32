import DataSuite.Text.Blank
import Mathlib.Data.List.Basic

/-!
# Words set apart by blanks

A text is laid out in words if these stand in it in order, with blanks between them and any blanks
around them.  Every text is laid out in just one way, in the words that are split off it, and
trimming a text of one word leaves this word.  Equality that ignores the case of ASCII letters is
an equivalence.
-/

namespace DataSuite
namespace Text

/-- Whether a text is a run of characters that are not blank. -/
structure IsWord (word : String) : Prop where
  notEmpty : word.toList ≠ []
  unbroken : ∀ character ∈ word.toList, isBlank character = false

/-- Whether characters are words with blanks between them and any blanks around them. -/
inductive LaidOut : List String → List Char → Prop where
  | nothing : LaidOut [] []
  | blank {words : List String} {first : Char} {rest : List Char}
      (isBlank_first : isBlank first = true) (laidOut : LaidOut words rest) :
      LaidOut words (first :: rest)
  /-- Behind a word there is nothing or a blank. -/
  | word {word : String} {words : List String} {rest : List Char}
      (isWord : IsWord word) (ends : rest.head?.all isBlank = true)
      (laidOut : LaidOut words rest) :
      LaidOut (word :: words) (word.toList ++ rest)

/-- Characters that are not blank continue the current word. -/
theorem wordsFrom_append
    {characters : List Char}
    (unbroken : ∀ character ∈ characters, isBlank character = false)
    (current rest : List Char) :
    wordsFrom current (characters ++ rest) = wordsFrom (characters.reverse ++ current) rest := by
  induction characters generalizing current with
  | nil => rfl
  | cons first others inductionHypothesis =>
      rw [List.forall_mem_cons] at unbroken
      rw [List.cons_append, wordsFrom, if_neg (by simp [unbroken.1]),
        inductionHypothesis unbroken.2, List.reverse_cons, List.append_assoc]
      rfl

/-- The current word ends where nothing or a blank follows. -/
theorem wordsFrom_of_ends
    {current rest : List Char}
    (notEmpty : current ≠ [])
    (ends : rest.head?.all isBlank = true) :
    wordsFrom current rest = current.reverse :: wordsFrom [] rest := by
  have collected : current.isEmpty = false := List.isEmpty_eq_false_iff.mpr notEmpty
  cases rest with
  | nil => simp [wordsFrom, collected]
  | cons first rest =>
      have blank : isBlank first = true := ends
      simp [wordsFrom, blank, collected]

/-- The words in which characters are laid out are split off them. -/
theorem LaidOut.words_eq
    {words : List String}
    {characters : List Char}
    (laidOut : LaidOut words characters) :
    (wordsFrom [] characters).map String.ofList = words := by
  induction laidOut with
  | nothing => rfl
  | blank isBlank_first _ inductionHypothesis =>
      rw [wordsFrom, if_pos isBlank_first]
      exact inductionHypothesis
  | @word word _ rest isWord ends _ inductionHypothesis =>
      have notEmpty : word.toList.reverse ++ [] ≠ [] := by simpa using isWord.notEmpty
      rw [wordsFrom_append isWord.unbroken, wordsFrom_of_ends notEmpty ends, List.map_cons,
        inductionHypothesis]
      simp

theorem LaidOut.behind_current
    {current rest : List Char}
    {words : List String}
    (unbroken : ∀ character ∈ current, isBlank character = false)
    (notEmpty : current ≠ [])
    (ends : rest.head?.all isBlank = true)
    (laidOut : LaidOut words rest) :
    LaidOut (String.ofList current.reverse :: words) (current.reverse ++ rest) := by
  have isWord : IsWord (String.ofList current.reverse) :=
    ⟨by simpa using notEmpty, by simpa using unbroken⟩
  simpa using LaidOut.word isWord ends laidOut

/-- Characters are laid out in the words that are split off them. -/
theorem laidOut_wordsFrom
    {current : List Char}
    (unbroken : ∀ character ∈ current, isBlank character = false)
    (characters : List Char) :
    LaidOut ((wordsFrom current characters).map String.ofList) (current.reverse ++ characters) := by
  induction characters generalizing current with
  | nil =>
      cases current with
      | nil => exact .nothing
      | cons last earlier => exact LaidOut.behind_current unbroken (List.cons_ne_nil _ _) rfl .nothing
  | cons first rest inductionHypothesis =>
      cases blank : isBlank first with
      | true =>
          have later : LaidOut ((wordsFrom [] rest).map String.ofList) (first :: rest) :=
            .blank blank (inductionHypothesis nofun)
          rw [wordsFrom, if_pos blank]
          cases current with
          | nil => exact later
          | cons last earlier =>
              exact LaidOut.behind_current unbroken (List.cons_ne_nil _ _) blank later
      | false =>
          have further := @inductionHypothesis (first :: current)
            (List.forall_mem_cons.mpr ⟨blank, unbroken⟩)
          rw [List.reverse_cons, List.append_assoc] at further
          rw [wordsFrom, if_neg (by simp [blank])]
          exact further

/-- The words of a text are those in which it is laid out. -/
theorem words_eq_iff
    {text : String}
    {found : List String} :
    words text = found ↔ LaidOut found text.toList := by
  constructor
  · rintro rfl
    exact laidOut_wordsFrom (List.forall_mem_nil _) text.toList
  · exact LaidOut.words_eq

/-- Characters laid out in no word are blank. -/
theorem LaidOut.isBlank_of_mem
    {characters : List Char}
    (laidOut : LaidOut [] characters) :
    ∀ character ∈ characters, isBlank character = true := by
  generalize wordless : ([] : List String) = words at laidOut
  induction laidOut with
  | nothing => exact List.forall_mem_nil _
  | blank isBlank_first _ inductionHypothesis =>
      exact List.forall_mem_cons.mpr ⟨isBlank_first, inductionHypothesis wordless⟩
  | word => cases wordless

/-- Characters that are not blank are not trimmed. -/
theorem trimLeft_append_of_unbroken
    {characters : List Char}
    (notEmpty : characters ≠ [])
    (unbroken : ∀ character ∈ characters, isBlank character = false)
    (rest : List Char) :
    trimLeft (characters ++ rest) = characters ++ rest := by
  obtain ⟨first, others, rfl⟩ := List.exists_cons_of_ne_nil notEmpty
  exact trimLeft_eq_self (unbroken first List.mem_cons_self)

/-- Trimmed on the left, characters laid out in one word begin with it. -/
theorem LaidOut.trimLeft_singleton
    {word : String}
    {characters : List Char}
    (laidOut : LaidOut [word] characters) :
    IsWord word ∧ ∃ rest, LaidOut [] rest ∧ trimLeft characters = word.toList ++ rest := by
  generalize one : [word] = words at laidOut
  induction laidOut with
  | nothing => cases one
  | blank isBlank_first _ inductionHypothesis =>
      rw [trimLeft, List.dropWhile_cons_of_pos isBlank_first]
      exact inductionHypothesis one
  | @word _ _ rest isWord _ behind _ =>
      obtain ⟨rfl, rfl⟩ := List.cons.inj one
      exact ⟨isWord, rest, behind,
        trimLeft_append_of_unbroken isWord.notEmpty isWord.unbroken rest⟩

/-- Trimming a text of one word leaves this word. -/
theorem trim_eq_of_laidOut
    {text word : String}
    (laidOut : LaidOut [word] text.toList) :
    trim text = word := by
  obtain ⟨isWord, rest, behind, trimmedLeft⟩ := laidOut.trimLeft_singleton
  have blank : ∀ character ∈ rest.reverse, isBlank character = true := fun character member =>
    behind.isBlank_of_mem character (List.mem_reverse.mp member)
  have notEmpty : word.toList.reverse ≠ [] := mt List.reverse_eq_nil_iff.mp isWord.notEmpty
  have unbroken : ∀ character ∈ word.toList.reverse, isBlank character = false :=
    fun character member => isWord.unbroken character (List.mem_reverse.mp member)
  have kept := trimLeft_append_of_unbroken notEmpty unbroken []
  rw [List.append_nil] at kept
  have trimmedRight : trimLeft (rest.reverse ++ word.toList.reverse) = word.toList.reverse :=
    (List.dropWhile_append_of_pos blank).trans kept
  rw [trim, trimmed, trimmedLeft, trimRight, List.reverse_append, trimmedRight,
    List.reverse_reverse, String.ofList_toList]

theorem equalIgnoringCase_eq_true_iff {left right : String} :
    equalIgnoringCase left right = true ↔ asciiUpper left = asciiUpper right := by
  rw [equalIgnoringCase, beq_iff_eq]

theorem equalIgnoringCase_comm (left right : String) :
    equalIgnoringCase left right = equalIgnoringCase right left :=
  Bool.beq_comm

/-- Texts that are equal but for the case of ASCII letters equal the same texts. -/
theorem equalIgnoringCase_congr
    {left right : String}
    (same : equalIgnoringCase left right = true)
    (other : String) :
    equalIgnoringCase left other = equalIgnoringCase right other := by
  rw [equalIgnoringCase, equalIgnoringCase, equalIgnoringCase_eq_true_iff.mp same]

end Text
end DataSuite

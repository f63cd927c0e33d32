import DataSuite.Text.Split
import Mathlib.Data.List.Forall2

/-!
# Sequences for a terminal

A sequence for a terminal begins with an escape character and a bracket and ends with the letter m,
with digits and semicolons between them.  A coloured text reads as a plain one if it becomes the
plain one when its sequences are deleted, whatever stands behind it.  Texts without escape
characters read as themselves, sequences read as nothing, and texts that are put together read as
what their parts read as.
-/

namespace DataSuite
namespace Text

/-- The character with which sequences begin. -/
def escape : Char :=
  '\x1b'

/-- Whether a text has no escape character. -/
def EscapeFree (text : String) : Prop :=
  escape ∉ text.toList

instance : DecidablePred EscapeFree := fun _ =>
  inferInstanceAs (Decidable (_ ∉ _))

/-- Whether a character may stand between the bracket and the end of a sequence. -/
def isParameter (character : Char) : Bool :=
  character.isDigit || character == ';'

/-- The length of the sequence that characters begin with, if they begin with one. -/
def sequenceLength? : List Char → Option Nat
  | '\x1b' :: '[' :: rest =>
      match rest.dropWhile isParameter with
      | 'm' :: _ => some ((rest.takeWhile isParameter).length + 3)
      | _ => none
  | _ => none

/-- Characters without their sequences, where the given number of characters is skipped as the rest
of a sequence. -/
def withoutSequencesFrom : Nat → List Char → List Char
  | _, [] => []
  | skipped + 1, _ :: rest => withoutSequencesFrom skipped rest
  | 0, first :: rest =>
      match sequenceLength? (first :: rest) with
      | some length => withoutSequencesFrom (length - 1) rest
      | none => first :: withoutSequencesFrom 0 rest

/-- A text without its sequences. -/
def withoutSequences (text : String) : String :=
  String.ofList (withoutSequencesFrom 0 text.toList)

/-- What is no complete sequence stays. -/
example : withoutSequences "\x1b[1;31mred\x1b[0m \x1b[x \x1b[3" = "red \x1b[x \x1b[3" := by
  decide +kernel

/-- Whether a text is one sequence. -/
def IsSequence (text : String) : Prop :=
  ∃ parameters : List Char, parameters.all isParameter = true ∧
    text.toList = '\x1b' :: '[' :: (parameters ++ ['m'])

theorem withoutSequencesFrom_length_append (passed rest : List Char) :
    withoutSequencesFrom passed.length (passed ++ rest) = withoutSequencesFrom 0 rest := by
  induction passed with
  | nil => rfl
  | cons first others inductionHypothesis => exact inductionHypothesis

/-- A sequence is deleted whatever stands behind it. -/
theorem withoutSequencesFrom_sequence
    {parameters : List Char}
    (areParameters : ∀ character ∈ parameters, isParameter character = true)
    (rest : List Char) :
    withoutSequencesFrom 0 ('\x1b' :: '[' :: (parameters ++ 'm' :: rest)) =
      withoutSequencesFrom 0 rest := by
  have ends : isParameter 'm' ≠ true := by decide
  have length : sequenceLength? ('\x1b' :: '[' :: (parameters ++ 'm' :: rest)) =
      some (parameters.length + 3) := by
    rw [sequenceLength?, List.dropWhile_append_of_pos areParameters,
      List.takeWhile_append_of_pos areParameters, List.dropWhile_cons_of_neg ends,
      List.takeWhile_cons_of_neg ends, List.append_nil]
    rfl
  -- Behind the escape character all of the sequence is skipped.
  have skips := withoutSequencesFrom_length_append ('[' :: (parameters ++ ['m'])) rest
  rw [withoutSequencesFrom, length]
  simpa using skips

/-- Characters without an escape character stay as they are. -/
theorem withoutSequencesFrom_append_of_notMem
    {literal : List Char}
    (absent : escape ∉ literal)
    (rest : List Char) :
    withoutSequencesFrom 0 (literal ++ rest) = literal ++ withoutSequencesFrom 0 rest := by
  induction literal with
  | nil => rfl
  | cons first later inductionHypothesis =>
      obtain ⟨other, absentLater⟩ := not_or.mp (mt List.mem_cons.mpr absent)
      have noSequence : sequenceLength? (first :: (later ++ rest)) = none := by
        unfold sequenceLength?
        split
        · rename_i same
          exact absurd (List.cons.inj same).1.symm other
        · rfl
      rw [List.cons_append, withoutSequencesFrom, noSequence]
      exact congrArg (first :: ·) (inductionHypothesis absentLater)

/-- Whether a coloured text becomes a plain one when its sequences are deleted, whatever stands
behind it. -/
def ReadsAs (coloured plain : String) : Prop :=
  ∀ rest, withoutSequences (coloured ++ rest) = plain ++ withoutSequences rest

theorem ReadsAs.withoutSequences_eq
    {coloured plain : String}
    (reads : ReadsAs coloured plain) :
    withoutSequences coloured = plain := by
  have alone := reads ""
  rwa [String.append_empty, show withoutSequences "" = "" from rfl, String.append_empty] at alone

theorem EscapeFree.append
    {text behind : String}
    (free : EscapeFree text)
    (freeBehind : EscapeFree behind) :
    EscapeFree (text ++ behind) := by
  rw [EscapeFree, String.toList_append, List.mem_append, not_or]
  exact ⟨free, freeBehind⟩

/-- A text without escape characters reads as itself. -/
theorem EscapeFree.readsAs
    {text : String}
    (free : EscapeFree text) :
    ReadsAs text text := by
  intro rest
  unfold withoutSequences
  rw [String.toList_append, withoutSequencesFrom_append_of_notMem free, String.ofList_append,
    String.ofList_toList]

/-- A sequence reads as nothing. -/
theorem IsSequence.readsAs
    {text : String}
    (isSequence : IsSequence text) :
    ReadsAs text "" := by
  intro rest
  obtain ⟨parameters, areParameters, whole⟩ := isSequence
  have deleted := withoutSequencesFrom_sequence (List.all_eq_true.mp areParameters) rest.toList
  unfold withoutSequences
  rw [String.toList_append, whole, String.empty_append, ← deleted]
  simp

/-- Texts that are put together read as what they read as. -/
theorem ReadsAs.append
    {coloured plain colouredBehind plainBehind : String}
    (reads : ReadsAs coloured plain)
    (readsBehind : ReadsAs colouredBehind plainBehind) :
    ReadsAs (coloured ++ colouredBehind) (plain ++ plainBehind) := by
  intro rest
  rw [String.append_assoc, reads, readsBehind, String.append_assoc]

theorem ReadsAs.join
    {coloured plain : List String}
    (reads : List.Forall₂ ReadsAs coloured plain) :
    ReadsAs (String.join coloured) (String.join plain) := by
  induction reads with
  | nil => exact EscapeFree.readsAs List.not_mem_nil
  | cons first _ inductionHypothesis =>
      rw [String.join_cons, String.join_cons]
      exact first.append inductionHypothesis

theorem readsAs_flatMap
    {Item : Type}
    {items : List Item}
    {coloured plain : Item → List String}
    (reads : ∀ item ∈ items, List.Forall₂ ReadsAs (coloured item) (plain item)) :
    List.Forall₂ ReadsAs (items.flatMap coloured) (items.flatMap plain) := by
  refine List.rel_flatten ?_
  rwa [List.forall₂_map_left_iff, List.forall₂_map_right_iff, List.forall₂_same]

theorem mem_of_mem_withoutReturn
    {line : List Char}
    {character : Char}
    (member : character ∈ withoutReturn line) :
    character ∈ line := by
  unfold withoutReturn at member
  split at member
  · exact List.mem_cons_of_mem _ member
  · exact member

theorem mem_of_mem_linesFrom (current characters : List Char) :
    ∀ line ∈ linesFrom current characters, ∀ character ∈ line,
      character ∈ current ∨ character ∈ characters := by
  fun_induction linesFrom current characters with
  | case1 current _ => exact List.forall_mem_nil _
  | case2 current _ =>
      rw [List.forall_mem_singleton]
      exact fun character member => .inl (List.mem_reverse.mp member)
  | case3 current rest inductionHypothesis =>
      refine List.forall_mem_cons.mpr ⟨fun character member => ?_, fun line member => ?_⟩
      · exact .inl (mem_of_mem_withoutReturn (List.mem_reverse.mp member))
      · intro character found
        rcases inductionHypothesis line member character found with held | later
        · cases held
        · exact .inr (List.mem_cons_of_mem _ later)
  | case4 current first rest _ inductionHypothesis =>
      intro line member character found
      rcases inductionHypothesis line member character found with held | later
      · rcases List.mem_cons.mp held with rfl | earlier
        · exact .inr List.mem_cons_self
        · exact .inl earlier
      · exact .inr (List.mem_cons_of_mem _ later)

/-- The lines of a text have no escape characters if the text has none. -/
theorem EscapeFree.lines
    {text : String}
    (free : EscapeFree text) :
    ∀ line ∈ lines text, EscapeFree line := by
  unfold Text.lines
  rw [List.forall_mem_map]
  intro line member found
  rw [String.toList_ofList] at found
  rcases mem_of_mem_linesFrom [] text.toList line member escape found with held | inText
  · cases held
  · exact free inText

end Text
end DataSuite

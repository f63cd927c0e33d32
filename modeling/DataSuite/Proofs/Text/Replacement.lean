import DataSuite.Text.Split
import Mathlib.Data.List.Find
import Mathlib.Data.List.Infix

/-!
# Replacement in one pass

Several patterns are replaced in one pass from left to right, in which what replaces a pattern is
not looked at again; one pattern is replaced as the only one of them.  Characters in which no
pattern begins stay as they are.  Where no end of a pattern begins a text, no occurrence reaches
into the text from what stands in front of it, so that both are replaced on their own.
-/

namespace DataSuite
namespace Text

/-- A pattern and what stands in its place. -/
structure Rule where
  pattern : List Char
  replacement : List Char

/-- Whether characters begin with the pattern of a rule. -/
def Rule.applies (rule : Rule) (characters : List Char) : Bool :=
  (dropPrefix? rule.pattern characters).isSome

/-- Replace each occurrence of a pattern by the first rule that applies to it, skipping the given
number of characters of an occurrence that has already been replaced. -/
def replaceEachFrom (rules : List Rule) : Nat → List Char → List Char
  | _, [] => []
  | skipped + 1, _ :: rest => replaceEachFrom rules skipped rest
  | 0, first :: rest =>
      match rules.find? fun rule => rule.applies (first :: rest) with
      | some rule => rule.replacement ++ replaceEachFrom rules (rule.pattern.length - 1) rest
      | none => first :: replaceEachFrom rules 0 rest

/-- Characters with each occurrence of a pattern replaced. -/
def replaceEach (rules : List Rule) (characters : List Char) : List Char :=
  replaceEachFrom rules 0 characters

/-- One pattern is replaced as the only one. -/
theorem replaceFrom_eq
    (pattern replacement : List Char)
    (skipped : Nat)
    (characters : List Char) :
    replaceFrom pattern replacement skipped characters =
      replaceEachFrom [⟨pattern, replacement⟩] skipped characters := by
  induction characters generalizing skipped with
  | nil => cases skipped <;> rfl
  | cons first rest inductionHypothesis =>
      cases skipped with
      | succ skipped => exact inductionHypothesis skipped
      | zero =>
          rw [replaceFrom, replaceEachFrom, List.find?_singleton]
          unfold Rule.applies
          dsimp only
          split
          · rw [inductionHypothesis]
          · rw [inductionHypothesis]

theorem Rule.applies_iff
    {rule : Rule}
    {characters : List Char} :
    rule.applies characters = true ↔ rule.pattern <+: characters := by
  rw [applies, Option.isSome_iff_exists]
  simp only [dropPrefix?_eq_some_iff, List.prefix_iff_exists_eq_append]

/-- Whether no end of a pattern begins a text. -/
def Apart (rules : List Rule) (tail : List Char) : Prop :=
  ∀ rule ∈ rules, ∀ ending, ending ≠ [] → ending <:+ rule.pattern → ¬ ending <+: tail

/-- A pattern does not reach into a text that none of its ends begins. -/
theorem Apart.applies_append
    {rules : List Rule}
    {tail : List Char}
    (apart : Apart rules tail)
    {rule : Rule}
    (member : rule ∈ rules)
    (piece : List Char) :
    rule.applies (piece ++ tail) = rule.applies piece := by
  rw [Bool.eq_iff_iff, Rule.applies_iff, Rule.applies_iff]
  constructor
  · intro begins
    rcases List.prefix_or_prefix_of_prefix begins (List.prefix_append piece tail) with
      inside | ⟨ending, whole⟩
    · exact inside
    · have beginsTail : ending <+: tail := by
        rwa [← whole, List.prefix_append_right_inj] at begins
      by_cases complete : ending = []
      · rw [← whole, complete, List.append_nil]
      · exact absurd beginsTail (apart rule member ending complete ⟨piece, whole⟩)
  · intro inside
    exact inside.trans (List.prefix_append piece tail)

/-- Replacement goes on separately behind what no pattern reaches beyond. -/
theorem Apart.replaceEachFrom_append
    {rules : List Rule}
    {tail : List Char}
    (apart : Apart rules tail)
    {skipped : Nat}
    {piece : List Char}
    (fits : skipped ≤ piece.length) :
    replaceEachFrom rules skipped (piece ++ tail) =
      replaceEachFrom rules skipped piece ++ replaceEachFrom rules 0 tail := by
  induction piece generalizing skipped with
  | nil =>
      obtain rfl := Nat.le_zero.mp fits
      rfl
  | cons first rest inductionHypothesis =>
      cases skipped with
      | succ skipped => exact inductionHypothesis (Nat.le_of_succ_le_succ fits)
      | zero =>
          have sameRule :
              rules.find? (fun rule => rule.applies (first :: rest ++ tail)) =
                rules.find? fun rule => rule.applies (first :: rest) :=
            List.find?_congr fun rule member => apart.applies_append member (first :: rest)
          rw [List.cons_append] at sameRule ⊢
          rw [replaceEachFrom, replaceEachFrom, sameRule]
          split
          · rename_i rule found
            have applies := List.find?_some found
            have inside : rule.pattern <+: first :: rest := Rule.applies_iff.mp applies
            have short : rule.pattern.length - 1 ≤ rest.length :=
              Nat.sub_le_of_le_add inside.length_le
            rw [inductionHypothesis short, List.append_assoc]
          · rw [inductionHypothesis (Nat.zero_le _), List.cons_append]

theorem Apart.replaceEach_append
    {rules : List Rule}
    {tail : List Char}
    (apart : Apart rules tail)
    (piece : List Char) :
    replaceEach rules (piece ++ tail) = replaceEach rules piece ++ replaceEach rules tail :=
  apart.replaceEachFrom_append (Nat.zero_le _)

/-- Characters in which no pattern begins stay as they are. -/
theorem replaceEach_append_of_notMem
    {rules : List Rule}
    {opening : Char}
    (opens : ∀ rule ∈ rules, ∃ inner, rule.pattern = opening :: inner)
    {literal : List Char}
    (absent : opening ∉ literal)
    (rest : List Char) :
    replaceEach rules (literal ++ rest) = literal ++ replaceEach rules rest := by
  unfold replaceEach
  induction literal with
  | nil => rfl
  | cons first later inductionHypothesis =>
      obtain ⟨other, absentLater⟩ := not_or.mp (mt List.mem_cons.mpr absent)
      have unmatched : rules.find? (fun rule => rule.applies (first :: (later ++ rest))) = none := by
        rw [List.find?_eq_none]
        intro rule member applies
        obtain ⟨inner, opened⟩ := opens rule member
        have begins := Rule.applies_iff.mp applies
        rw [opened, List.cons_prefix_cons] at begins
        exact other begins.1
      rw [List.cons_append, replaceEachFrom, unmatched]
      exact congrArg (first :: ·) (inductionHypothesis absentLater)

/-- A text stays as it is if it does not have the character with which a pattern begins. -/
theorem replace_of_notMem
    {pattern text : String}
    {opening : Char}
    {inner : List Char}
    (opens : pattern.toList = opening :: inner)
    (absent : opening ∉ text.toList)
    (replacement : String) :
    replace pattern replacement text = text := by
  have kept := @replaceEach_append_of_notMem [⟨pattern.toList, replacement.toList⟩] opening
    (List.forall_mem_singleton.mpr ⟨inner, opens⟩) text.toList absent []
  rw [List.append_nil] at kept
  rw [replace, replaceFrom_eq]
  refine (congrArg String.ofList kept).trans ?_
  rw [replaceEach, replaceEachFrom, List.append_nil, String.ofList_toList]

/-- Characters that are no pattern stay as they are if no other pattern begins in them. -/
theorem replaceEach_of_find?_eq_none
    {rules : List Rule}
    {opening : Char}
    (opens : ∀ rule ∈ rules, ∃ inner, rule.pattern = opening :: inner)
    {first : Char}
    {rest : List Char}
    (unmatched : rules.find? (fun rule => rule.applies (first :: rest)) = none)
    (absent : opening ∉ rest) :
    replaceEach rules (first :: rest) = first :: rest := by
  have kept := replaceEach_append_of_notMem opens absent []
  rw [List.append_nil] at kept
  rw [replaceEach, replaceEachFrom, unmatched]
  exact congrArg (first :: ·) (kept.trans (List.append_nil rest))

theorem replaceEachFrom_of_length_le
    {rules : List Rule}
    {skipped : Nat}
    {characters : List Char}
    (short : characters.length ≤ skipped) :
    replaceEachFrom rules skipped characters = [] := by
  induction characters generalizing skipped with
  | nil => cases skipped <;> rfl
  | cons first rest inductionHypothesis =>
      obtain ⟨skipped, rfl⟩ := Nat.exists_eq_succ_of_ne_zero (Nat.ne_zero_of_lt short)
      exact inductionHypothesis (Nat.le_of_succ_le_succ short)

/-- A pattern alone is replaced by what stands in its place. -/
theorem replaceEach_pattern
    {rules : List Rule}
    {pattern replacement : List Char}
    (nonempty : pattern ≠ [])
    (found : rules.find? (fun rule => rule.applies pattern) = some ⟨pattern, replacement⟩) :
    replaceEach rules pattern = replacement := by
  cases pattern with
  | nil => exact absurd rfl nonempty
  | cons first rest =>
      rw [replaceEach, replaceEachFrom, found]
      have nothingLeft : replaceEachFrom rules ((first :: rest).length - 1) rest = [] :=
        replaceEachFrom_of_length_le (Nat.le_refl _)
      exact (congrArg (replacement ++ ·) nothingLeft).trans (List.append_nil _)

end Text
end DataSuite

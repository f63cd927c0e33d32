import DataSuite.Text.Blank
import DataSuite.Text.Split
import Mathlib.Data.List.Infix

/-!
# The first occurrence of a separator

A text is cut where a separator occurs for the first time: the separator is not found in what
stands in front, not even where this runs into the first characters of the separator itself.  A
text that does not contain the separator is not cut, and trimming cannot bring the separator into
a text.
-/

namespace DataSuite
namespace Text

variable {separator characters before behind : List Char}

theorem dropPrefix?_eq_none_iff
    {pattern : List Char} :
    dropPrefix? pattern characters = none ↔ ¬ pattern <+: characters := by
  rw [Option.eq_none_iff_forall_ne_some]
  constructor
  · rintro notDropped ⟨rest, same⟩
    exact notDropped rest (dropPrefix?_eq_some_iff.mpr same.symm)
  · intro absent rest dropped
    exact absent ⟨rest, (dropPrefix?_eq_some_iff.mp dropped).symm⟩

/-- Up to the last character of a separator stands a part of the whole. -/
theorem prefix_append_dropLast (separator before behind : List Char) :
    before ++ separator.dropLast <+: before ++ separator ++ behind := by
  rw [List.append_assoc, List.prefix_append_right_inj]
  exact (List.dropLast_prefix separator).trans (List.prefix_append separator behind)

/-- Where a separator begins the whole, nothing stands in front of its first occurrence. -/
theorem eq_nil_of_prefix
    (absent : ¬ separator <:+: before ++ separator.dropLast)
    (begins : separator <+: before ++ separator ++ behind) :
    before = [] := by
  by_contra something
  have positive := List.length_pos_iff.mpr something
  apply absent
  apply List.IsPrefix.isInfix
  apply List.prefix_of_prefix_length_le begins (prefix_append_dropLast separator before behind)
  rw [List.length_append, List.length_dropLast]
  omega

/-- A separator is longer than what stands before its last character. -/
theorem not_infix_dropLast (nonempty : separator ≠ []) : ¬ separator <:+: separator.dropLast := by
  intro inside
  have positive := List.length_pos_iff.mpr nonempty
  have short := inside.length_le
  rw [List.length_dropLast] at short
  omega

/-- Characters are cut where a separator occurs for the first time. -/
theorem cutAt_eq_some_iff (nonempty : separator ≠ []) :
    cutAt separator characters = some (before, behind) ↔
      characters = before ++ separator ++ behind ∧
        ¬ separator <:+: before ++ separator.dropLast := by
  induction characters generalizing before with
  | nil => simp [cutAt, nonempty]
  | cons first rest inductionHypothesis =>
      unfold cutAt
      split
      · rename_i found dropped
        have whole := dropPrefix?_eq_some_iff.mp dropped
        rw [whole]
        constructor
        · rintro ⟨⟩
          exact ⟨rfl, not_infix_dropLast nonempty⟩
        · rintro ⟨same, absent⟩
          obtain rfl := eq_nil_of_prefix absent (same ▸ List.prefix_append separator found)
          rw [List.nil_append, List.append_cancel_left_eq] at same
          rw [same]
      · rename_i dropped
        have notPrefix := dropPrefix?_eq_none_iff.mp dropped
        simp only [Option.map_eq_some_iff, Prod.exists, Prod.mk.injEq]
        constructor
        · rintro ⟨inner, outer, cut, rfl, rfl⟩
          obtain ⟨rfl, absent⟩ := inductionHypothesis.mp cut
          refine ⟨rfl, fun inside => ?_⟩
          rcases List.infix_cons_iff.mp inside with begins | deeper
          · exact notPrefix (begins.trans (prefix_append_dropLast separator (first :: inner) outer))
          · exact absent deeper
        · rintro ⟨same, absent⟩
          cases before with
          | nil => exact absurd ⟨behind, same.symm⟩ notPrefix
          | cons second inner =>
              obtain ⟨rfl, rfl⟩ := List.cons.inj same
              have absentInner : ¬ separator <:+: inner ++ separator.dropLast :=
                fun inside => absent (List.infix_cons inside)
              exact ⟨inner, behind, inductionHypothesis.mpr ⟨rfl, absentInner⟩, rfl, rfl⟩

/-- Characters are not cut if a separator does not occur in them. -/
theorem cutAt_eq_none_iff (nonempty : separator ≠ []) :
    cutAt separator characters = none ↔ ¬ separator <:+: characters := by
  induction characters with
  | nil => simp [cutAt, nonempty]
  | cons first rest inductionHypothesis =>
      unfold cutAt
      rw [List.infix_cons_iff, not_or, ← inductionHypothesis, ← dropPrefix?_eq_none_iff]
      cases dropPrefix? separator (first :: rest) <;> simp

/-- A text is cut where a separator occurs for the first time. -/
theorem cut?_eq_some_iff
    {separator text before behind : String}
    (nonempty : separator.toList ≠ []) :
    cut? separator text = some (before, behind) ↔
      text = before ++ separator ++ behind ∧
        ¬ separator.toList <:+: before.toList ++ separator.toList.dropLast := by
  have sameText : text = before ++ separator ++ behind ↔
      text.toList = before.toList ++ separator.toList ++ behind.toList := by
    rw [← String.toList_inj, String.toList_append, String.toList_append]
  rw [sameText, ← cutAt_eq_some_iff nonempty]
  unfold cut?
  simp only [Option.map_eq_some_iff, Prod.exists, Prod.mk.injEq]
  constructor
  · rintro ⟨inFront, after, cut, rfl, rfl⟩
    rwa [String.toList_ofList, String.toList_ofList]
  · intro cut
    exact ⟨_, _, cut, String.ofList_toList, String.ofList_toList⟩

/-- A text is not cut if a separator does not occur in it. -/
theorem cut?_eq_none_iff
    {separator text : String}
    (nonempty : separator.toList ≠ []) :
    cut? separator text = none ↔ ¬ separator.toList <:+: text.toList := by
  rw [cut?, Option.map_eq_none_iff, cutAt_eq_none_iff nonempty]

/-- Trimming leaves a part of the characters. -/
theorem trimmed_infix (characters : List Char) : trimmed characters <:+: characters := by
  have suffix : trimLeft characters <:+ characters := List.dropWhile_suffix isBlank
  have begins : trimmed characters <+: trimLeft characters := trimRight_prefix _
  exact begins.isInfix.trans suffix.isInfix

@[simp] theorem trim_trim (text : String) : trim (trim text) = trim text :=
  trim_eq_self (unpadded_trim text)

end Text
end DataSuite

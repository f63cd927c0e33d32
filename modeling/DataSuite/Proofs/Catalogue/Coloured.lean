import DataSuite.Proofs.Catalogue.Verbatim
import DataSuite.Proofs.Text.Sequences

/-!
# Coloured messages

The catalogues have no escape characters.  A message with coloured arguments thus reads as the one
with plain arguments, if there are no braces in them by which they would change each other.
-/

namespace DataSuite
namespace Catalogue

/-- The messages of the catalogues have no escape characters. -/
theorem escapeFree_of_lookup?
    {language : Language}
    {key message : String}
    (found : lookup? language key = some message) :
    Text.EscapeFree message := by
  have free : ∀ entry ∈ english ++ japanese, ∃ characters,
      entry.2 = String.ofList characters ∧ Text.escape ∉ characters := by
    simp only [english, japanese, List.cons_append, List.nil_append, List.forall_mem_cons]
    repeat refine ⟨⟨_, rfl, by decide⟩, ?_⟩
    exact List.forall_mem_nil _
  obtain ⟨characters, rfl, absent⟩ := free _ (mem_of_lookup? found)
  rwa [Text.EscapeFree, String.toList_ofList]

/-- Arguments whose values have no opening braces do not change each other. -/
theorem undisturbed_of_braceless
    {arguments : List (String × String)}
    (braceless : ∀ argument ∈ arguments, '\x7b' ∉ argument.2.toList) :
    Undisturbed arguments := by
  intro argument member other _ _
  exact Text.replace_of_notMem (toList_placeholder other.1) (braceless argument member) other.2

namespace Template

variable {template : Template}

theorem withValues_eq_append (values : String → String) :
    template.withValues values =
      template.front ++
        String.join (template.slots.map fun slot => values slot.name ++ slot.behind) := by
  rw [← String.toList_inj]
  simp [withValues, Slot.characters, String.toList_join, List.flatMap_map]

/-- The texts of a template and the placeholders between them have no escape characters if its text
has none. -/
theorem escapeFree_parts
    (free : Text.EscapeFree template.text) :
    Text.EscapeFree template.front ∧ ∀ slot ∈ template.slots,
      Text.EscapeFree (placeholder slot.name) ∧ Text.EscapeFree slot.behind := by
  simpa [Text.EscapeFree, text, withValues, Slot.characters, not_or] using free

/-- A template with coloured values reads as the one with plain values. -/
theorem readsAs_withValues
    (free : Text.EscapeFree template.text)
    {coloured plain : String → String}
    (reads : ∀ slot ∈ template.slots, Text.ReadsAs (coloured slot.name) (plain slot.name)) :
    Text.ReadsAs (template.withValues coloured) (template.withValues plain) := by
  obtain ⟨frontFree, slotsFree⟩ := escapeFree_parts free
  rw [withValues_eq_append, withValues_eq_append]
  refine frontFree.readsAs.append (Text.ReadsAs.join ?_)
  rw [List.forall₂_map_left_iff, List.forall₂_map_right_iff, List.forall₂_same]
  exact fun slot member => (reads slot member).append (slotsFree slot member).2.readsAs

/-- Arguments that do not change each other stand in the slots of a message. -/
theorem format_eq_withValues
    {language : Language}
    {key : String}
    (found : lookup? language key = some template.text)
    {arguments : List (String × String)}
    (distinct : (arguments.map Prod.fst).Nodup)
    (spaceless : ∀ argument ∈ arguments, ' ' ∉ argument.1.toList)
    (undisturbed : Undisturbed arguments) :
    format language key arguments =
      template.withValues fun name => (valueOf? arguments name).getD (placeholder name) := by
  rw [format, get, found, Option.getD_some,
    undisturbed.fill_text distinct spaceless template (List.Perm.refl arguments),
    template.fillTogether_text spaceless]

end Template

/-- Whether two arguments have one name and the value of the first one reads as that of the
second one. -/
def ArgumentReadsAs (coloured plain : String × String) : Prop :=
  coloured.1 = plain.1 ∧ Text.ReadsAs coloured.2 plain.2

theorem readsAs_valueOf?
    {coloured plain : List (String × String)}
    (reads : List.Forall₂ ArgumentReadsAs coloured plain)
    (name : String)
    {absent : String}
    (free : Text.EscapeFree absent) :
    Text.ReadsAs ((valueOf? coloured name).getD absent) ((valueOf? plain name).getD absent) := by
  induction reads with
  | nil => exact free.readsAs
  | @cons first second _ _ same _ inductionHypothesis =>
      obtain ⟨sameName, sameValue⟩ := same
      by_cases own : second.1 = name
      · simpa [valueOf?, sameName, own] using sameValue
      · simpa [valueOf?, sameName, own] using inductionHypothesis

/-- A message with coloured arguments reads as the message with plain ones. -/
theorem readsAs_format
    {language : Language}
    {key message : String}
    (found : lookup? language key = some message)
    {coloured plain : List (String × String)}
    (reads : List.Forall₂ ArgumentReadsAs coloured plain)
    (distinct : (plain.map Prod.fst).Nodup)
    (named : ∀ name ∈ plain.map Prod.fst, IsName name.toList)
    (bracelessColoured : ∀ argument ∈ coloured, '\x7b' ∉ argument.2.toList)
    (bracelessPlain : ∀ argument ∈ plain, '\x7b' ∉ argument.2.toList) :
    Text.ReadsAs (format language key coloured) (format language key plain) := by
  have sameNames : coloured.map Prod.fst = plain.map Prod.fst := by
    rw [← List.forall₂_eq_eq_eq, List.forall₂_map_left_iff, List.forall₂_map_right_iff]
    exact reads.imp fun _ _ same => same.1
  have spaceless (arguments : List (String × String))
      (names : arguments.map Prod.fst = plain.map Prod.fst) :
      ∀ argument ∈ arguments, ' ' ∉ argument.1.toList := fun argument member =>
    (named argument.1 (names ▸ List.mem_map_of_mem member)).2
  obtain ⟨template, rfl⟩ := exists_template_of_lookup? found
  -- On both sides the values stand in the slots as they are.
  rw [template.format_eq_withValues found (sameNames ▸ distinct) (spaceless coloured sameNames)
      (undisturbed_of_braceless bracelessColoured),
    template.format_eq_withValues found distinct (spaceless plain rfl)
      (undisturbed_of_braceless bracelessPlain)]
  have free := escapeFree_of_lookup? found
  exact Template.readsAs_withValues free fun slot member =>
    readsAs_valueOf? reads slot.name ((Template.escapeFree_parts free).2 slot member).1

end Catalogue
end DataSuite

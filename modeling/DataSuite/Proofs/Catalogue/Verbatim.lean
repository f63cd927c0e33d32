import DataSuite.Catalogue.Message
import DataSuite.Proofs.Catalogue.Template
import Mathlib.Data.List.Nodup

/-!
# Arguments as they are

Arguments are filled into a message one after the other, so that an argument changes the values
that have been filled in before it.  A message thus has, in one pass, each argument with the ones
behind it filled into its value.  All messages keep the values as they are, in every order of the
arguments, if and only if no argument changes the value of another one.
-/

namespace DataSuite
namespace Catalogue

/-- The value of an argument is the one that stands there with its name. -/
theorem valueOf?_eq_some_iff
    {arguments : List (String × String)}
    (distinct : (arguments.map Prod.fst).Nodup)
    {name value : String} :
    valueOf? arguments name = some value ↔ (name, value) ∈ arguments := by
  unfold valueOf?
  rw [Option.map_eq_some_iff]
  constructor
  · rintro ⟨argument, found, rfl⟩
    have sameName := List.find?_some found
    obtain rfl : argument.1 = name := beq_iff_eq.mp sameName
    exact List.mem_of_find?_eq_some found
  · intro member
    have isFound : (arguments.find? fun argument => argument.1 == name).isSome = true :=
      List.find?_isSome.mpr ⟨(name, value), member, beq_self_eq_true name⟩
    obtain ⟨argument, found⟩ := Option.isSome_iff_exists.mp isFound
    have sameName := List.find?_some found
    have same : argument = (name, value) :=
      List.inj_on_of_nodup_map distinct (List.mem_of_find?_eq_some found) member
        (beq_iff_eq.mp sameName)
    exact ⟨argument, found, by rw [same]⟩

/-- The order of the arguments does not change their values. -/
theorem valueOf?_eq_of_perm
    {arguments order : List (String × String)}
    (distinct : (arguments.map Prod.fst).Nodup)
    (permuted : order.Perm arguments)
    (name : String) :
    valueOf? order name = valueOf? arguments name := by
  have orderDistinct : (order.map Prod.fst).Nodup := (permuted.map Prod.fst).nodup_iff.mpr distinct
  apply Option.ext
  intro value
  rw [valueOf?_eq_some_iff orderDistinct, valueOf?_eq_some_iff distinct, permuted.mem_iff]

/-- Another argument does not change a placeholder. -/
theorem replace_placeholder_of_ne
    {name other : String}
    (braceless : Braceless name.toList)
    (different : other ≠ name)
    (value : String) :
    Text.replace (placeholder other) value (placeholder name) = placeholder name := by
  rw [replace_eq_fillTogether, fillTogether_placeholder braceless]
  simp [valueOf?, different]

/-- Arguments that do not change a text one by one do not change it together. -/
theorem fill_eq_self
    {text : String}
    {arguments : List (String × String)}
    (kept : ∀ argument ∈ arguments, Text.replace (placeholder argument.1) argument.2 text = text) :
    fill text arguments = text := by
  induction arguments with
  | nil => rfl
  | cons first later inductionHypothesis =>
      obtain ⟨keptFirst, keptLater⟩ := List.forall_mem_cons.mp kept
      rw [fill_cons, ← replace_eq_fillTogether, keptFirst, inductionHypothesis keptLater]

theorem fill_append
    (text : String)
    (first later : List (String × String)) :
    fill text (first ++ later) = fill (fill text first) later :=
  List.foldl_append

/-- Arguments with the ones behind them filled into their values. -/
def refilled : List (String × String) → List (String × String)
  | [] => []
  | (name, value) :: later => (name, fill value later) :: refilled later

theorem map_fst_refilled (arguments : List (String × String)) :
    (refilled arguments).map Prod.fst = arguments.map Prod.fst := by
  induction arguments with
  | nil => rfl
  | cons first later inductionHypothesis => exact congrArg (first.1 :: ·) inductionHypothesis

/-- In the place of a placeholder stands the value of its argument with the arguments behind this
filled in. -/
theorem fill_placeholder
    {name : String}
    (braceless : Braceless name.toList)
    (arguments : List (String × String)) :
    fill (placeholder name) arguments =
      (valueOf? (refilled arguments) name).getD (placeholder name) := by
  induction arguments with
  | nil => rfl
  | cons first later inductionHypothesis =>
      obtain ⟨own, value⟩ := first
      by_cases same : own = name
      · rw [fill_cons, fillTogether_placeholder braceless]
        simp [valueOf?, refilled, same]
      · rw [fill_cons, ← replace_eq_fillTogether, replace_placeholder_of_ne braceless same,
          inductionHypothesis]
        simp [valueOf?, refilled, same]

namespace Template

variable {arguments order : List (String × String)}

/-- A slot alone. -/
def slotAlone (name : String) (named : IsName name.toList) : Template where
  front := ""
  slots := [⟨name, ""⟩]
  frontBraceless := by decide
  named := List.forall_mem_singleton.mpr named
  braceless := List.forall_mem_singleton.mpr ⟨List.not_mem_nil, List.not_mem_nil⟩
  spaced := List.isChain_singleton _

theorem text_slotAlone
    {name : String}
    (named : IsName name.toList) :
    (slotAlone name named).text = placeholder name := by
  simp [slotAlone, text, withValues, Slot.characters]

/-- In a slot stands the value of its argument. -/
theorem fillTogether_text
    (template : Template)
    (spaceless : ∀ argument ∈ arguments, ' ' ∉ argument.1.toList) :
    fillTogether template.text arguments =
      template.withValues fun name => (valueOf? arguments name).getD (placeholder name) := by
  rw [text, template.fillTogether_withValues placeholder spaceless]
  exact withValues_congr fun slot member =>
    fillTogether_placeholder (template.named slot member).1 arguments

/-- Arguments that are filled in one after the other stand in the slots with the ones behind them
filled in. -/
theorem fill_text
    (template : Template)
    (spaceless : ∀ argument ∈ arguments, ' ' ∉ argument.1.toList) :
    fill template.text arguments = fillTogether template.text (refilled arguments) := by
  have spacelessRefilled : ∀ argument ∈ refilled arguments, ' ' ∉ argument.1.toList := by
    intro argument member
    have named : argument.1 ∈ arguments.map Prod.fst :=
      map_fst_refilled arguments ▸ List.mem_map_of_mem member
    obtain ⟨original, found, same⟩ := List.mem_map.mp named
    exact same ▸ spaceless original found
  rw [template.fillTogether_text spacelessRefilled, text,
    template.fill_withValues placeholder spaceless]
  exact withValues_congr fun slot member =>
    fill_placeholder (template.named slot member).1 arguments

/-- The order of the arguments is of no account in one pass. -/
theorem fillTogether_text_of_perm
    (template : Template)
    (distinct : (arguments.map Prod.fst).Nodup)
    (spaceless : ∀ argument ∈ arguments, ' ' ∉ argument.1.toList)
    (permuted : order.Perm arguments) :
    fillTogether template.text order = fillTogether template.text arguments := by
  have spacelessOrder : ∀ argument ∈ order, ' ' ∉ argument.1.toList :=
    fun argument member => spaceless argument (permuted.subset member)
  rw [template.fillTogether_text spacelessOrder, template.fillTogether_text spaceless]
  exact withValues_congr fun slot _ => by rw [valueOf?_eq_of_perm distinct permuted]

end Template

/-- Whether no argument changes the value of another one. -/
def Undisturbed (arguments : List (String × String)) : Prop :=
  ∀ argument ∈ arguments, ∀ other ∈ arguments, argument.1 ≠ other.1 →
    Text.replace (placeholder other.1) other.2 argument.2 = argument.2

instance : DecidablePred Undisturbed := fun arguments =>
  inferInstanceAs (Decidable (∀ argument ∈ arguments, ∀ other ∈ arguments, _ → _))

section Undisturbed

variable {arguments order : List (String × String)}

theorem Undisturbed.of_perm
    (undisturbed : Undisturbed arguments)
    (permuted : order.Perm arguments) :
    Undisturbed order :=
  fun argument member other otherMember =>
    undisturbed argument (permuted.subset member) other (permuted.subset otherMember)

/-- Arguments that do not change each other keep their values. -/
theorem Undisturbed.refilled_eq
    (undisturbed : Undisturbed arguments)
    (distinct : (arguments.map Prod.fst).Nodup) :
    refilled arguments = arguments := by
  induction arguments with
  | nil => rfl
  | cons first later inductionHypothesis =>
      obtain ⟨absent, distinctLater⟩ := List.nodup_cons.mp distinct
      have kept : fill first.2 later = first.2 := by
        refine fill_eq_self fun argument member => ?_
        have different : first.1 ≠ argument.1 := by
          rintro same
          exact absent (same ▸ List.mem_map_of_mem member)
        exact undisturbed first List.mem_cons_self argument (List.mem_cons_of_mem _ member)
          different
      have later_ : Undisturbed later := fun argument member other otherMember =>
        undisturbed argument (List.mem_cons_of_mem _ member) other
          (List.mem_cons_of_mem _ otherMember)
      rw [refilled, kept, inductionHypothesis later_ distinctLater]

/-- Arguments that do not change each other are filled into a template as they are, in every
order. -/
theorem Undisturbed.fill_text
    (undisturbed : Undisturbed arguments)
    (distinct : (arguments.map Prod.fst).Nodup)
    (spaceless : ∀ argument ∈ arguments, ' ' ∉ argument.1.toList)
    (template : Template)
    (permuted : order.Perm arguments) :
    fill template.text order = fillTogether template.text arguments := by
  have orderDistinct : (order.map Prod.fst).Nodup := (permuted.map Prod.fst).nodup_iff.mpr distinct
  have spacelessOrder : ∀ argument ∈ order, ' ' ∉ argument.1.toList :=
    fun argument member => spaceless argument (permuted.subset member)
  rw [template.fill_text spacelessOrder, (undisturbed.of_perm permuted).refilled_eq orderDistinct,
    template.fillTogether_text_of_perm distinct spaceless permuted]

/-- Where arguments are filled into every template as they are, none changes another one: it would
do so in a slot alone, behind which all others have been filled in. -/
theorem undisturbed_of_fill_text
    (distinct : (arguments.map Prod.fst).Nodup)
    (named : ∀ argument ∈ arguments, IsName argument.1.toList)
    (verbatim : ∀ (template : Template) (order : List (String × String)), order.Perm arguments →
      fill template.text order = fillTogether template.text arguments) :
    Undisturbed arguments := by
  intro argument member other otherMember different
  have otherLeft : other ∈ arguments.erase argument :=
    (List.mem_erase_of_ne fun same => different (by rw [same])).mpr otherMember
  obtain ⟨rest, split⟩ : ∃ rest, arguments.Perm (argument :: other :: rest) :=
    ⟨_, (List.perm_cons_erase member).trans ((List.perm_cons_erase otherLeft).cons argument)⟩
  have splitDistinct := (split.map Prod.fst).nodup_iff.mp distinct
  have nameless : ∀ left ∈ rest, left.1 ≠ argument.1 := by
    intro left leftMember same
    refine (List.nodup_cons.mp splitDistinct).1 (List.mem_cons_of_mem _ ?_)
    exact same ▸ List.mem_map_of_mem leftMember
  have permuted : (rest ++ [argument, other]).Perm arguments :=
    List.perm_append_comm.trans split.symm
  have isName := named argument member
  have kept : fill (placeholder argument.1) rest = placeholder argument.1 :=
    fill_eq_self fun left leftMember =>
      replace_placeholder_of_ne isName.1 (nameless left leftMember) left.2
  have placed : fill (placeholder argument.1) [argument] = argument.2 := by
    rw [fill_cons, fillTogether_placeholder isName.1]
    simp [valueOf?, fill]
  have wanted := (valueOf?_eq_some_iff distinct).mpr member
  have inSlot := verbatim (.slotAlone argument.1 isName) _ permuted
  rwa [Template.text_slotAlone, fillTogether_placeholder isName.1, wanted, fill_append, kept,
    ← List.singleton_append, fill_append, placed] at inSlot

/-- Templates are filled with the arguments as they are, in every order of these, if and only if no
argument changes the value of another one.  A message of the catalogues has, in one pass, each
argument with the ones behind it filled in, and so all of them as they are where none changes
another one. -/
theorem verbatim_iff_undisturbed
    (distinct : (arguments.map Prod.fst).Nodup)
    (named : ∀ argument ∈ arguments, IsName argument.1.toList) :
    ((∀ (template : Template) (order : List (String × String)), order.Perm arguments →
        fill template.text order = fillTogether template.text arguments) ↔
      Undisturbed arguments) ∧
    ∀ language key message, lookup? language key = some message →
      format language key arguments = fillTogether message (refilled arguments) ∧
      (Undisturbed arguments → ∀ order, List.Perm order arguments →
        format language key order = fillTogether message arguments) := by
  have spaceless : ∀ argument ∈ arguments, ' ' ∉ argument.1.toList :=
    fun argument member => (named argument member).2
  refine ⟨⟨undisturbed_of_fill_text distinct named, fun undisturbed template order permuted =>
    undisturbed.fill_text distinct spaceless template permuted⟩, ?_⟩
  intro language key message found
  obtain ⟨template, rfl⟩ := exists_template_of_lookup? found
  have looked : get language key = template.text := by rw [get, found, Option.getD_some]
  unfold format
  rw [looked]
  exact ⟨template.fill_text spaceless, fun undisturbed order permuted =>
    undisturbed.fill_text distinct spaceless template permuted⟩

/-- Values that look like placeholders stay as they are where no argument has such a name. -/
theorem verbatim_of_strange_cell :
    let arguments := (Message.cell 1 "\x7b$col\x7d" "\x7b$expected" "$actual\x7d").arguments
    (arguments.map Prod.fst).Nodup ∧ (∀ argument ∈ arguments, IsName argument.1.toList) ∧
      Undisturbed arguments ∧
      ∀ order, List.Perm order arguments → format .english "failure-cell" order =
        "Row 1, column \x7b$col\x7d: expected \x7b$expected, got $actual\x7d" := by
  intro arguments
  have distinct : (arguments.map Prod.fst).Nodup := by decide
  have named : ∀ argument ∈ arguments, IsName argument.1.toList := by decide
  have undisturbed : Undisturbed arguments := by decide +kernel
  refine ⟨distinct, named, undisturbed, fun order permuted => ?_⟩
  obtain ⟨-, inCatalogues⟩ := verbatim_iff_undisturbed distinct named
  have inOnePass := (inCatalogues .english "failure-cell" _ rfl).2 undisturbed order permuted
  exact inOnePass.trans (by decide +kernel)

/-- A column that looks like a placeholder of another argument is changed. -/
theorem text_of_placeholder_column :
    let message := Message.cell 1 "\x7b$expected\x7d" "2" "1"
    message.text .english = "Row 1, column 2: expected 2, got 1" ∧
      fillTogether (get .english message.key) message.arguments =
        "Row 1, column \x7b$expected\x7d: expected 2, got 1" ∧
      format .english message.key message.arguments.reverse =
        "Row 1, column \x7b$expected\x7d: expected 2, got 1" := by
  decide +kernel

end Undisturbed

end Catalogue
end DataSuite

import DataSuite.Catalogue.Lookup
import DataSuite.Proofs.Places
import DataSuite.Proofs.Text.Replacement
import Mathlib.Data.List.Chain

/-!
# Templates

A message has slots for its arguments and texts between them.  The texts have no braces, and two
slots have a blank between them, so that no placeholder reaches from one slot into the next one,
whatever stands in the slots.  Arguments are therefore filled in slot by slot, in one pass as well
as one after the other.  All messages of the catalogues are such templates.
-/

namespace DataSuite
namespace Catalogue

/-- Whether there are no braces among characters. -/
def Braceless (characters : List Char) : Prop :=
  '\x7b' ∉ characters ∧ '\x7d' ∉ characters

instance : DecidablePred Braceless := fun _ =>
  inferInstanceAs (Decidable (_ ∧ _))

/-- Whether characters may name an argument: there are neither braces nor blanks among them. -/
def IsName (characters : List Char) : Prop :=
  Braceless characters ∧ ' ' ∉ characters

instance : DecidablePred IsName := fun _ =>
  inferInstanceAs (Decidable (_ ∧ _))

/-- The rules by which arguments replace their placeholders. -/
def rulesOf (arguments : List (String × String)) : List Text.Rule :=
  arguments.map fun argument => ⟨(placeholder argument.1).toList, argument.2.toList⟩

/-- Fill arguments into a message, all in one pass. -/
def fillTogether (message : String) (arguments : List (String × String)) : String :=
  String.ofList (Text.replaceEach (rulesOf arguments) message.toList)

/-- One argument is filled in as the only one. -/
theorem replace_eq_fillTogether
    (name value message : String) :
    Text.replace (placeholder name) value message = fillTogether message [(name, value)] := by
  rw [Text.replace, Text.replaceFrom_eq]
  rfl

theorem fill_cons
    (message name value : String)
    (later : List (String × String)) :
    fill message ((name, value) :: later) = fill (fillTogether message [(name, value)]) later := by
  rw [← replace_eq_fillTogether]
  rfl

theorem toList_placeholder (name : String) :
    (placeholder name).toList = '\x7b' :: '$' :: (name.toList ++ ['\x7d']) := by
  simp [placeholder]

theorem rulesOf_open (arguments : List (String × String)) :
    ∀ rule ∈ rulesOf arguments, ∃ inner, rule.pattern = '\x7b' :: inner := by
  intro rule member
  obtain ⟨argument, -, rfl⟩ := List.mem_map.mp member
  exact ⟨_, toList_placeholder argument.1⟩

/-- No placeholder begins another one. -/
theorem placeholder_prefix_iff
    {name other : String}
    (braceless : Braceless name.toList) :
    (placeholder other).toList <+: (placeholder name).toList ↔ other = name := by
  constructor
  · intro begins
    rw [toList_placeholder, toList_placeholder, List.cons_prefix_cons, List.cons_prefix_cons,
      List.prefix_concat_iff] at begins
    rcases begins.2.2 with same | inside
    · exact String.toList_inj.mp (List.append_cancel_right same)
    · exact absurd (inside.mem (by simp)) braceless.2
  · rintro rfl
    exact List.prefix_rfl

/-- The value of the first argument with a name. -/
def valueOf? (arguments : List (String × String)) (name : String) : Option String :=
  (arguments.find? fun argument => argument.1 == name).map Prod.snd

/-- The placeholder of an argument is replaced by its value, and another one is not. -/
theorem fillTogether_placeholder
    {name : String}
    (braceless : Braceless name.toList)
    (arguments : List (String × String)) :
    fillTogether (placeholder name) arguments =
      (valueOf? arguments name).getD (placeholder name) := by
  have sameTest (argument : String × String) :
      Text.Rule.applies ⟨(placeholder argument.1).toList, argument.2.toList⟩
        (placeholder name).toList = (argument.1 == name) := by
    rw [Bool.eq_iff_iff, Text.Rule.applies_iff, placeholder_prefix_iff braceless, beq_iff_eq]
  have ruleFound :
      (rulesOf arguments).find? (fun rule => rule.applies (placeholder name).toList) =
        (arguments.find? fun argument => argument.1 == name).map fun argument =>
          ⟨(placeholder argument.1).toList, argument.2.toList⟩ := by
    rw [rulesOf, List.find?_map]
    simp only [Function.comp_def, sameTest]
  unfold fillTogether valueOf?
  cases argumentFound : arguments.find? (fun argument => argument.1 == name) with
  | none =>
      rw [argumentFound, toList_placeholder] at ruleFound
      have absent : '\x7b' ∉ '$' :: (name.toList ++ ['\x7d']) := by
        simpa using braceless.1
      rw [toList_placeholder,
        Text.replaceEach_of_find?_eq_none (rulesOf_open arguments) ruleFound absent,
        ← toList_placeholder, String.ofList_toList]
      rfl
  | some argument =>
      have sameName := List.find?_some argumentFound
      obtain rfl : argument.1 = name := beq_iff_eq.mp sameName
      rw [argumentFound] at ruleFound
      have nonempty : (placeholder argument.1).toList ≠ [] := by
        rw [toList_placeholder]
        exact List.cons_ne_nil _ _
      have replaced := Text.replaceEach_pattern nonempty ruleFound
      rw [replaced, String.ofList_toList]
      rfl

/-- No placeholder reaches into a text without braces that is the last one or has a blank. -/
theorem apart_rulesOf
    {arguments : List (String × String)}
    (spaceless : ∀ argument ∈ arguments, ' ' ∉ argument.1.toList)
    {behind : List Char}
    (unclosed : '\x7d' ∉ behind)
    {rest : List Char}
    (spaced : rest = [] ∨ ' ' ∈ behind) :
    Text.Apart (rulesOf arguments) (behind ++ rest) := by
  intro rule member ending nonempty suffix begins
  obtain ⟨argument, found, rfl⟩ := List.mem_map.mp member
  dsimp only at suffix
  rw [toList_placeholder] at suffix
  have closes : '\x7d' ∈ ending := by
    have last : ending.getLast nonempty = '\x7d' := by
      rw [suffix.getLast nonempty]
      simp
    exact last ▸ List.getLast_mem nonempty
  have noBlank : ' ' ∉ ending := by
    intro blank
    have inside := suffix.mem blank
    simp at inside
    exact spaceless argument found inside
  rcases List.prefix_or_prefix_of_prefix begins (List.prefix_append behind rest) with
    inside | beyond
  · exact unclosed (inside.mem closes)
  · rcases spaced with rfl | blank
    · rw [List.append_nil] at begins
      exact unclosed (begins.mem closes)
    · exact noBlank (beyond.mem blank)

/-- A place for an argument and the text behind it. -/
structure Slot where
  name : String
  behind : String
deriving DecidableEq

/-- A text and slots behind it. -/
structure Template where
  front : String
  slots : List Slot
  frontBraceless : Braceless front.toList
  named : ∀ slot ∈ slots, IsName slot.name.toList
  braceless : ∀ slot ∈ slots, Braceless slot.behind.toList
  /-- There is a blank between two slots. -/
  spaced : slots.IsChain fun slot _ => ' ' ∈ slot.behind.toList

/-- The characters of slots with values in them. -/
def Slot.characters (values : String → String) (slots : List Slot) : List Char :=
  slots.flatMap fun slot => (values slot.name).toList ++ slot.behind.toList

namespace Template

/-- The text of a template with values in its slots. -/
def withValues (template : Template) (values : String → String) : String :=
  String.ofList (template.front.toList ++ Slot.characters values template.slots)

/-- The text of a template with placeholders in its slots. -/
def text (template : Template) : String :=
  template.withValues placeholder

theorem withValues_congr
    {template : Template}
    {values values' : String → String}
    (alike : ∀ slot ∈ template.slots, values slot.name = values' slot.name) :
    template.withValues values = template.withValues values' := by
  unfold withValues Slot.characters
  congr 2
  exact List.flatMap_congr fun slot member => by rw [alike slot member]

end Template

/-- Arguments are filled in slot by slot, whatever stands in the slots. -/
theorem replaceEach_slots
    {arguments : List (String × String)}
    (spaceless : ∀ argument ∈ arguments, ' ' ∉ argument.1.toList)
    (values : String → String)
    {slots : List Slot}
    (braceless : ∀ slot ∈ slots, Braceless slot.behind.toList)
    (spaced : slots.IsChain fun slot _ => ' ' ∈ slot.behind.toList) :
    Text.replaceEach (rulesOf arguments) (Slot.characters values slots) =
      Slot.characters (fun name => fillTogether (values name) arguments) slots := by
  unfold Slot.characters
  induction slots with
  | nil => rfl
  | cons slot rest inductionHypothesis =>
      obtain ⟨bracelessFirst, bracelessLater⟩ := List.forall_mem_cons.mp braceless
      have spacedLater := spaced.tail
      have blankOrLast :
          rest.flatMap (fun slot => (values slot.name).toList ++ slot.behind.toList) = [] ∨
            ' ' ∈ slot.behind.toList := by
        cases rest with
        | nil => exact .inl rfl
        | cons second others => exact .inr (List.isChain_cons_cons.mp spaced).1
      have apart := apart_rulesOf spaceless bracelessFirst.2 blankOrLast
      rw [List.flatMap_cons, List.append_assoc, apart.replaceEach_append,
        Text.replaceEach_append_of_notMem (rulesOf_open arguments) bracelessFirst.1,
        inductionHypothesis bracelessLater spacedLater, List.flatMap_cons]
      simp [fillTogether]

namespace Template

theorem fillTogether_withValues
    (template : Template)
    (values : String → String)
    {arguments : List (String × String)}
    (spaceless : ∀ argument ∈ arguments, ' ' ∉ argument.1.toList) :
    fillTogether (template.withValues values) arguments =
      template.withValues fun name => fillTogether (values name) arguments := by
  unfold withValues
  rw [fillTogether, String.toList_ofList,
    Text.replaceEach_append_of_notMem (rulesOf_open arguments) template.frontBraceless.1,
    replaceEach_slots spaceless values template.braceless template.spaced]

theorem fill_withValues
    (template : Template)
    (values : String → String)
    {arguments : List (String × String)}
    (spaceless : ∀ argument ∈ arguments, ' ' ∉ argument.1.toList) :
    fill (template.withValues values) arguments =
      template.withValues fun name => fill (values name) arguments := by
  induction arguments generalizing values with
  | nil => rfl
  | cons first later inductionHypothesis =>
      obtain ⟨name, value⟩ := first
      obtain ⟨spacelessFirst, spacelessLater⟩ := List.forall_mem_cons.mp spaceless
      have spacelessAlone : ∀ argument ∈ [(name, value)], ' ' ∉ argument.1.toList :=
        List.forall_mem_singleton.mpr spacelessFirst
      simp only [fill_cons]
      rw [template.fillTogether_withValues values spacelessAlone,
        inductionHypothesis _ spacelessLater]

end Template

/-- What has been read of a message from its end. -/
structure Scan where
  /-- The characters up to the last brace. -/
  current : List Char
  /-- The text behind the slot in which a name is read. -/
  behind : List Char
  /-- The names of the slots with the texts behind them. -/
  slots : List (List Char × List Char)

namespace Scan

/-- Read one character more. -/
def step (character : Char) (scan : Scan) : Scan :=
  if character = '\x7d' then ⟨[], scan.current, scan.slots⟩
  else if character = '\x7b' then ⟨[], [], (scan.current.drop 1, scan.behind) :: scan.slots⟩
  else ⟨character :: scan.current, scan.behind, scan.slots⟩

/-- What is read of a message. -/
def ofMessage (characters : List Char) : Scan :=
  characters.foldr step ⟨[], [], []⟩

/-- The characters of a template with what has been read. -/
def characters (scan : Scan) : List Char :=
  scan.current ++ scan.slots.flatMap fun slot => '\x7b' :: '$' :: slot.1 ++ '\x7d' :: slot.2

/-- Whether what has been read makes a template. -/
def Sound (scan : Scan) : Prop :=
  Braceless scan.current ∧ (∀ slot ∈ scan.slots, IsName slot.1 ∧ Braceless slot.2) ∧
    scan.slots.IsChain fun slot _ => ' ' ∈ slot.2

instance : DecidablePred Sound := fun _ =>
  inferInstanceAs (Decidable (_ ∧ _ ∧ _))

/-- What has been read as a template. -/
def template (scan : Scan) (sound : scan.Sound) : Template where
  front := String.ofList scan.current
  slots := scan.slots.map fun slot => ⟨String.ofList slot.1, String.ofList slot.2⟩
  frontBraceless := by simpa using sound.1
  named := by
    rw [List.forall_mem_map]
    exact fun slot member => String.toList_ofList.symm ▸ (sound.2.1 slot member).1
  braceless := by
    rw [List.forall_mem_map]
    exact fun slot member => String.toList_ofList.symm ▸ (sound.2.1 slot member).2
  spaced := by simpa [List.isChain_map] using sound.2.2

theorem text_template
    {scan : Scan}
    (sound : scan.Sound) :
    (scan.template sound).text = String.ofList scan.characters := by
  simp [template, Template.text, Template.withValues, Slot.characters, List.flatMap_map,
    toList_placeholder, characters]

end Scan

/-- The messages of the catalogues are templates. -/
theorem sound_of_mem_catalogues :
    ∀ entry ∈ english ++ japanese, ∃ characters, entry.2 = String.ofList characters ∧
      (Scan.ofMessage characters).Sound ∧ (Scan.ofMessage characters).characters = characters := by
  simp only [english, japanese, List.cons_append, List.nil_append, List.forall_mem_cons]
  repeat refine ⟨⟨_, rfl, by decide, by decide⟩, ?_⟩
  exact List.forall_mem_nil _

theorem mem_of_lookup?
    {language : Language}
    {key message : String}
    (found : lookup? language key = some message) :
    (key, message) ∈ english ++ japanese := by
  have inMessages (found : (messages language).lookup key = some message) :
      (key, message) ∈ english ++ japanese := by
    cases language with
    | english => exact List.mem_append_left japanese (mem_of_lookup found)
    | japanese => exact List.mem_append_right english (mem_of_lookup found)
  unfold lookup? at found
  split at found
  · rename_i own
    exact inMessages (own.trans found)
  · exact List.mem_append_left japanese (mem_of_lookup found)

/-- Every message that is looked up is the text of a template. -/
theorem exists_template_of_lookup?
    {language : Language}
    {key message : String}
    (found : lookup? language key = some message) :
    ∃ template : Template, template.text = message := by
  have listed : (key, message) ∈ english ++ japanese := mem_of_lookup? found
  obtain ⟨characters, same, sound, whole⟩ := sound_of_mem_catalogues _ listed
  exact ⟨(Scan.ofMessage characters).template sound, by rw [Scan.text_template, whole, ← same]⟩

end Catalogue
end DataSuite

import DataSuite.Json.Reader
import DataSuite.Proofs.Value.Number
import DataSuite.Value.Text

/-!
# Values by their texts

What is written between quotes is read back, and a number ends where no character of a number
follows.  So the text of a value ends where the value does, whatever follows in a list or an
object, and no two values have the same text.
-/

namespace DataSuite

namespace Json

theorem twoHexDigits_values :
    ∀ code < 32, ∃ high low, Value.twoHexDigits code = [high, low] ∧
      hexValue? high = some (code / 16) ∧ hexValue? low = some (code % 16) := by
  intro code small
  refine ⟨(Nat.digitChar (code / 16)), (Nat.digitChar (code % 16)), ?_⟩
  revert code
  decide

/-- A control character is read from its code. -/
theorem escapedCode?_twoHexDigits
    {character : Char}
    (control : character.toNat < 0x20)
    (rest : List Char) :
    escapedCode? ('0' :: '0' :: (Value.twoHexDigits character.toNat ++ rest)) =
      some (character, rest) := by
  obtain ⟨high, low, written, highValue, lowValue⟩ := twoHexDigits_values _ control
  have zero : hexValue? '0' = some 0 := rfl
  have code : ((0 * 16 + 0) * 16 + character.toNat / 16) * 16 + character.toNat % 16 =
      character.toNat := by omega
  have read : code? ('0' :: '0' :: high :: low :: rest) = some (character.toNat, rest) := by
    simp only [code?, zero, highValue, lowValue, Option.bind_eq_bind, Option.bind_some,
      Option.pure_def, code]
  have low : ¬ 0xdc00 ≤ character.toNat := by omega
  have lower : ¬ 0xd800 ≤ character.toNat := by omega
  simp [escapedCode?, written, read, low, lower, Char.ofNat_toNat]

/-- One escaped character is read back. -/
theorem readText?_escapedChar
    (fuel : Nat)
    (read : List Char)
    (character : Char)
    (rest : List Char) :
    readText? (fuel + 1) read (Value.escapedChar character ++ rest) =
      readText? fuel (character :: read) rest := by
  unfold Value.escapedChar
  split
  case h_8 =>
    split
    · rename_i control
      simp [readText?, escapedCode?_twoHexDigits control]
    · rename_i quote slash _ _ _ _ _ plain
      rw [List.singleton_append, readText?.eq_def]
      split <;> simp_all
  all_goals simp [readText?, escapedLetter?]

/-- A text between quotes is read back. -/
theorem readText?_flatMap_escapedChar
    (fuel : Nat)
    (characters read rest : List Char)
    (enough : characters.length < fuel) :
    readText? fuel read (characters.flatMap Value.escapedChar ++ '"' :: rest) =
      some (String.ofList (read.reverse ++ characters), rest) := by
  induction characters generalizing fuel read with
  | nil =>
      cases fuel with
      | zero => simp at enough
      | succ fuel => simp [readText?]
  | cons character others inductionHypothesis =>
      cases fuel with
      | zero => simp at enough
      | succ fuel =>
          rw [List.flatMap_cons, List.append_assoc, readText?_escapedChar,
            inductionHypothesis fuel _ (Nat.lt_of_succ_lt_succ enough)]
          simp

end Json

namespace Value

/-- The text of a number ends where no character of a number follows. -/
theorem number_text_append_injective
    {left right : Number}
    {leftRest rightRest : List Char}
    (leftStops : Decimal.Stops Decimal.isNumeral leftRest)
    (rightStops : Decimal.Stops Decimal.isNumeral rightRest)
    (same : left.toText.toList ++ leftRest = right.toText.toList ++ rightRest) :
    left = right ∧ leftRest = rightRest := by
  have runs := congrArg (List.takeWhile Decimal.isNumeral) same
  rw [leftStops.takeWhile_append left.numerals_toText,
    rightStops.takeWhile_append right.numerals_toText] at runs
  rw [runs] at same
  exact ⟨Number.toText_injective (String.toList_injective runs), List.append_cancel_left same⟩

/-- A text between quotes ends where its closing quote stands. -/
theorem escapedText_append_injective
    {left right : String}
    {leftRest rightRest : List Char}
    (same : escapedText left ++ leftRest = escapedText right ++ rightRest) :
    left = right ∧ leftRest = rightRest := by
  have inner :
      left.toList.flatMap escapedChar ++ '"' :: leftRest =
        right.toList.flatMap escapedChar ++ '"' :: rightRest := by
    simpa [escapedText] using same
  have leftRead :=
    Json.readText?_flatMap_escapedChar (left.toList.length + right.toList.length + 1)
      left.toList [] leftRest (by omega)
  rw [inner, Json.readText?_flatMap_escapedChar _ right.toList [] rightRest (by omega)]
    at leftRead
  simpa [eq_comm] using leftRead

/-- Which kind of value begins with a character. -/
def kindOfFirst : Char → Nat
  | 'n' => 0
  | 't' => 1
  | 'f' => 1
  | '"' => 3
  | '[' => 4
  | '\x7b' => 5
  | _ => 2

/-- The kind of a value. -/
def kindNumber : Value → Nat
  | .null => 0
  | .boolean _ => 1
  | .number _ => 2
  | .text _ => 3
  | .list _ => 4
  | .object _ => 5

theorem kindOfFirst_of_isNumeral
    {first : Char}
    (numeral : Decimal.isNumeral first = true) :
    kindOfFirst first = 2 ∧ first ≠ ']' := by
  refine ⟨?_, ?_⟩
  · unfold kindOfFirst
    split <;> first | rfl | exact absurd numeral (by decide)
  · rintro rfl
    exact absurd numeral (by decide)

/-- The text of a value begins as only texts of its kind do. -/
theorem render_eq_cons (value : Value) :
    ∃ first rest, render value = first :: rest ∧ kindOfFirst first = value.kindNumber ∧
      first ≠ ']' := by
  cases value with
  | null => exact ⟨_, _, rfl, rfl, by decide⟩
  | boolean value => cases value <;> exact ⟨_, _, rfl, rfl, by decide⟩
  | number value =>
      obtain ⟨first, rest, written⟩ := List.exists_cons_of_ne_nil value.toList_toText_ne_nil
      have numeral := value.numerals_toText first (by simp [written])
      exact ⟨first, rest, written, kindOfFirst_of_isNumeral numeral⟩
  | text value => exact ⟨_, _, rfl, rfl, by decide⟩
  | list items => exact ⟨_, _, rfl, rfl, by decide⟩
  | object members => exact ⟨_, _, rfl, rfl, by decide⟩

/-- Texts with a comma in front of each. -/
def afterCommas (texts : List (List Char)) : List Char :=
  texts.flatMap fun text => ',' :: text

theorem stops_afterCommas
    (texts : List (List Char))
    {closing : Char}
    (ends : Decimal.isNumeral closing = false)
    (rest : List Char) :
    Decimal.Stops Decimal.isNumeral (afterCommas texts ++ closing :: rest) := by
  cases texts with
  | nil => exact Decimal.stops_cons.mpr ends
  | cons first others =>
      simp only [afterCommas, List.flatMap_cons, List.cons_append]
      exact Decimal.stops_cons.mpr (by decide)

/-- Every text begins with a character that does not close the row of texts. -/
def Open (closing : Char) (texts : List (List Char)) : Prop :=
  ∀ text ∈ texts, ∃ first rest, text = first :: rest ∧ first ≠ closing

/-- Rows of texts that are equal with commas between them are so with a comma in front of
each. -/
theorem afterCommas_of_commaSeparated
    {closing : Char}
    {left right : List (List Char)}
    {leftRest rightRest : List Char}
    (leftOpen : Open closing left)
    (rightOpen : Open closing right)
    (same : commaSeparated left ++ closing :: leftRest =
      commaSeparated right ++ closing :: rightRest) :
    afterCommas left ++ closing :: leftRest = afterCommas right ++ closing :: rightRest := by
  cases left with
  | nil =>
      cases right with
      | nil => exact same
      | cons text others =>
          obtain ⟨first, rest, rfl, notClosing⟩ := rightOpen text (by simp)
          exact absurd (List.cons.inj same).1.symm notClosing
  | cons leftText leftOthers =>
      cases right with
      | nil =>
          obtain ⟨first, rest, rfl, notClosing⟩ := leftOpen leftText (by simp)
          exact absurd (List.cons.inj same).1 notClosing
      | cons rightText rightOthers => simpa [afterCommas, commaSeparated] using same

theorem open_renderItems (items : List Value) : Open ']' (renderItems items) := by
  induction items with
  | nil => simp [renderItems, Open]
  | cons item others inductionHypothesis =>
      obtain ⟨first, rest, written, _, notClosing⟩ := render_eq_cons item
      exact List.forall_mem_cons.mpr ⟨⟨first, rest, written, notClosing⟩, inductionHypothesis⟩

theorem open_renderMembers (members : List (String × Value)) :
    Open '\x7d' (renderMembers members) := by
  induction members with
  | nil => simp [renderMembers, Open]
  | cons member others inductionHypothesis =>
      exact List.forall_mem_cons.mpr ⟨⟨_, _, rfl, by decide⟩, inductionHypothesis⟩

mutual

/-- The text of a value ends where the value does. -/
theorem render_append_injective
    (left right : Value)
    {leftRest rightRest : List Char}
    (leftStops : Decimal.Stops Decimal.isNumeral leftRest)
    (rightStops : Decimal.Stops Decimal.isNumeral rightRest)
    (same : render left ++ leftRest = render right ++ rightRest) :
    left = right ∧ leftRest = rightRest := by
  have kinds : left.kindNumber = right.kindNumber := by
    obtain ⟨leftFirst, _, leftText, leftKind, _⟩ := render_eq_cons left
    obtain ⟨rightFirst, _, rightText, rightKind, _⟩ := render_eq_cons right
    rw [leftText, rightText] at same
    rw [← leftKind, ← rightKind, (List.cons.inj same).1]
  -- The first characters leave only values of one kind.
  match left, right with
  | .null, .null => simpa [render] using same
  | .boolean left, .boolean right =>
      cases left <;> cases right <;> simp [render] at same <;> simp [same]
  | .number left, .number right =>
      simpa using number_text_append_injective leftStops rightStops same
  | .text left, .text right => simpa using escapedText_append_injective same
  | .list left, .list right =>
      have separated :
          commaSeparated (renderItems left) ++ ']' :: leftRest =
            commaSeparated (renderItems right) ++ ']' :: rightRest := by
        simpa [render] using same
      simpa using
        renderItems_append_injective left right
          (afterCommas_of_commaSeparated (open_renderItems left) (open_renderItems right)
            separated)
  | .object left, .object right =>
      have separated :
          commaSeparated (renderMembers left) ++ '\x7d' :: leftRest =
            commaSeparated (renderMembers right) ++ '\x7d' :: rightRest := by
        simpa [render] using same
      simpa using
        renderMembers_append_injective left right
          (afterCommas_of_commaSeparated (open_renderMembers left) (open_renderMembers right)
            separated)

/-- The texts of the values of a list end where the list does. -/
theorem renderItems_append_injective
    (left right : List Value)
    {leftRest rightRest : List Char}
    (same :
      afterCommas (renderItems left) ++ ']' :: leftRest =
        afterCommas (renderItems right) ++ ']' :: rightRest) :
    left = right ∧ leftRest = rightRest := by
  match left, right with
  | [], [] => simpa [renderItems, afterCommas] using same
  | [], _ :: _ => simp [renderItems, afterCommas] at same
  | _ :: _, [] => simp [renderItems, afterCommas] at same
  | left :: leftOthers, right :: rightOthers =>
      have separated :
          render left ++ (afterCommas (renderItems leftOthers) ++ ']' :: leftRest) =
            render right ++ (afterCommas (renderItems rightOthers) ++ ']' :: rightRest) := by
        simpa [renderItems, afterCommas] using same
      have ends : Decimal.isNumeral ']' = false := by decide
      obtain ⟨sameFirst, others⟩ :=
        render_append_injective left right (stops_afterCommas _ ends _)
          (stops_afterCommas _ ends _) separated
      obtain ⟨sameOthers, sameRest⟩ :=
        renderItems_append_injective leftOthers rightOthers others
      exact ⟨by rw [sameFirst, sameOthers], sameRest⟩

/-- The texts of the members of an object end where the object does. -/
theorem renderMembers_append_injective
    (left right : List (String × Value))
    {leftRest rightRest : List Char}
    (same :
      afterCommas (renderMembers left) ++ '\x7d' :: leftRest =
        afterCommas (renderMembers right) ++ '\x7d' :: rightRest) :
    left = right ∧ leftRest = rightRest := by
  match left, right with
  | [], [] => simpa [renderMembers, afterCommas] using same
  | [], _ :: _ => simp [renderMembers, afterCommas] at same
  | _ :: _, [] => simp [renderMembers, afterCommas] at same
  | (leftName, left) :: leftOthers, (rightName, right) :: rightOthers =>
      have separated :
          escapedText leftName ++
              ':' :: (render left ++ (afterCommas (renderMembers leftOthers) ++ '\x7d' :: leftRest)) =
            escapedText rightName ++
              ':' :: (render right ++
                (afterCommas (renderMembers rightOthers) ++ '\x7d' :: rightRest)) := by
        simpa [renderMembers, afterCommas] using same
      obtain ⟨sameName, values⟩ := escapedText_append_injective separated
      have ends : Decimal.isNumeral '\x7d' = false := by decide
      obtain ⟨sameFirst, others⟩ :=
        render_append_injective left right (stops_afterCommas _ ends _)
          (stops_afterCommas _ ends _) (List.cons.inj values).2
      obtain ⟨sameOthers, sameRest⟩ :=
        renderMembers_append_injective leftOthers rightOthers others
      exact ⟨by rw [sameName, sameFirst, sameOthers], sameRest⟩

end

/-- The text of a value determines it. -/
theorem toText_injective : Function.Injective toText := by
  intro left right same
  have written : render left ++ [] = render right ++ [] := by
    simpa [toText, String.ofList_inj] using same
  exact (render_append_injective left right (Decimal.stops_nil _) (Decimal.stops_nil _) written).1

end Value
end DataSuite

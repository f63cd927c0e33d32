import DataSuite.Proofs.Fallible
import DataSuite.Suite.Basic

/-!
# What values describe

Which directives, expectations and steps of cases values describe is said by relations, one case
for each way of writing.  Reading finds what a value describes, and nothing else.
-/

namespace DataSuite

/-! ## Titles -/

namespace Title

/-- The title that a value describes. -/
inductive DescribedBy : Title → Value → Prop where
  /-- A text is a title. -/
  | text (text : String) : DescribedBy (.text text) (.text text)
  /-- Members that are all texts are a title for each locale. -/
  | localized (texts : List (String × String)) :
      DescribedBy (.localized texts) (.object (texts.map fun (locale, content) => (locale, .text content)))

theorem textsOf?_eq_some_iff
    {members : Members}
    {texts : List (String × String)} :
    textsOf? members = some texts ↔
      members = texts.map fun (locale, content) => (locale, .text content) := by
  induction members generalizing texts with
  | nil => cases texts <;> simp [textsOf?]
  | cons first rest inductionHypothesis =>
      obtain ⟨locale, value⟩ := first
      cases texts with
      | nil => cases value <;> simp [textsOf?]
      | cons text texts =>
          cases value <;> simp [textsOf?, inductionHypothesis, Prod.ext_iff, and_comm]

theorem ofValue?_eq_some_iff
    {value : Value}
    {title : Title} :
    ofValue? value = some title ↔ title.DescribedBy value := by
  constructor
  · intro read
    unfold ofValue? at read
    split at read
    · obtain rfl := Option.some.inj read
      exact .text _
    · obtain ⟨texts, found, rfl⟩ := Option.map_eq_some_iff.mp read
      obtain rfl := textsOf?_eq_some_iff.mp found
      exact .localized texts
    · cases read
  · rintro (text | texts)
    · rfl
    · exact Option.map_eq_some_iff.mpr ⟨texts, textsOf?_eq_some_iff.mpr rfl, rfl⟩

end Title

/-! ## Directives -/

namespace Directive

/-- The directive that a value describes, where paths are as they are written. -/
inductive DescribedBy : Directive → Value → Prop where
  /-- A text without an at sign in front is a query. -/
  | query {text : String} (plain : ∀ rest, text ≠ "@" ++ rest) :
      DescribedBy (.inlineQuery text) (.text text)
  /-- Behind an at sign stands the path of a file of queries. -/
  | queryFile {reference : String} (whole : Text.cut? into reference = none)
      (queries : Path.extension (Text.trim reference) = "sql") :
      DescribedBy (.fileQuery (Text.trim reference)) (.text ("@" ++ reference))
  /-- Behind an at sign stand the path of a table and the name of the table to fill. -/
  | load {reference path table : String} (parts : Text.cut? into reference = some (path, table))
      (rows : Path.extension (Text.trim path) = "csv") (named : Text.trim table ≠ "") :
      DescribedBy (.fileLoad (Text.trim path) (Text.trim table)) (.text ("@" ++ reference))
  /-- The query of a plan is written out. -/
  | plan {members : Members} {text : String} (found : members.get? "plan" = some (.text text))
      (plain : ∀ rest, text ≠ "@" ++ rest) :
      DescribedBy (.inlinePlan text) (.object members)
  /-- The queries of plans are in a file. -/
  | planFile {members : Members} {reference : String}
      (found : members.get? "plan" = some (.text ("@" ++ reference))) :
      DescribedBy (.filePlan (Text.trim reference)) (.object members)

/-- Reading finds the directive that a value describes. -/
theorem ofValue_eq_ok_iff
    {value : Value}
    {directive : Directive} :
    ofValue none value = .ok directive ↔ directive.DescribedBy value := by
  constructor
  · intro read
    cases value with
    | text text =>
        change ofText none text = .ok directive at read
        unfold ofText at read
        split at read
        · rename_i plain
          obtain rfl := Except.ok.inj read
          exact .query (Text.afterPrefix?_eq_none_iff.mp plain)
        · rename_i reference marked
          obtain rfl := Text.afterPrefix?_eq_some_iff.mp marked
          unfold ofReference at read
          split at read
          · rename_i path table parts
            dsimp only at read
            split at read
            · rename_i rows
              obtain rfl := Except.ok.inj read
              exact .load parts rows.1 rows.2
            · split at read <;> cases read
          · rename_i whole
            dsimp only at read
            split at read
            · rename_i queries
              obtain rfl := Except.ok.inj read
              exact .queryFile whole queries
            · cases read
    | object members =>
        unfold ofValue at read
        dsimp only at read
        split at read
        · rename_i plan found
          obtain rfl := Except.ok.inj read
          unfold ofPlan
          split
          · rename_i plain
            exact .plan found (Text.afterPrefix?_eq_none_iff.mp plain)
          · rename_i reference marked
            obtain rfl := Text.afterPrefix?_eq_some_iff.mp marked
            exact .planFile found
        · cases read
    | null => cases read
    | boolean _ => cases read
    | number _ => cases read
    | list _ => cases read
  · intro described
    cases described with
    | query plain => simp [ofValue, ofText, Text.afterPrefix?_eq_none_iff.mpr plain]
    | queryFile whole queries =>
        simp [ofValue, ofText, ofReference, whole, queries, Path.resolve]
    | load parts rows named =>
        simp [ofValue, ofText, ofReference, parts, rows, named, Path.resolve]
    | plan found plain => simp [ofValue, found, ofPlan, Text.afterPrefix?_eq_none_iff.mpr plain]
    | planFile found => simp [ofValue, found, ofPlan, Path.resolve]

end Directive

/-! ## What rows are compared with -/

namespace Expected

/-- The path of the table to which a text refers, with or without an at sign in front. -/
inductive NamesTable : String → String → Prop where
  | marked {reference : String} (rows : Path.extension (Text.trim reference) = "csv") :
      NamesTable ("@" ++ reference) (Text.trim reference)
  | plain {text : String} (plain : ∀ rest, text ≠ "@" ++ rest)
      (rows : Path.extension (Text.trim text) = "csv") :
      NamesTable text (Text.trim text)

theorem tablePath?_eq_some_iff
    {text path : String} :
    Expectation.tablePath? none text = some path ↔ NamesTable text path := by
  constructor
  · intro read
    unfold Expectation.tablePath? at read
    dsimp only at read
    split at read
    · rename_i rows
      obtain rfl := Option.some.inj read
      cases marked : Text.afterPrefix? "@" text with
      | none =>
          rw [marked] at rows
          exact .plain (Text.afterPrefix?_eq_none_iff.mp marked) rows
      | some reference =>
          rw [marked] at rows
          obtain rfl := Text.afterPrefix?_eq_some_iff.mp marked
          exact .marked rows
    · cases read
  · rintro (rows | ⟨plain, rows⟩)
    · simp [Expectation.tablePath?, rows, Path.resolve]
    · simp [Expectation.tablePath?, Text.afterPrefix?_eq_none_iff.mpr plain, rows, Path.resolve]

/-- What a value gives to compare with, where paths are as they are written. -/
inductive DescribedBy : Expected → Value → Prop where
  /-- A list of objects is rows. -/
  | rows (objects : List Members) :
      DescribedBy (.rows (objects.map Row.ofPairs)) (.list (objects.map .object))
  /-- A text refers to a table. -/
  | table {text path : String} (names : NamesTable text path) :
      DescribedBy (.table path) (.text text)

theorem mapM_row_eq_ok_iff
    {items : List Value}
    {rows : List Row} :
    items.mapM Expectation.row = .ok rows ↔
      ∃ objects : List Members, items = objects.map .object ∧ rows = objects.map Row.ofPairs := by
  rw [mapM_eq_ok_iff_forall₂]
  constructor
  · intro described
    induction described with
    | nil => exact ⟨[], rfl, rfl⟩
    | @cons item row items rows first _ inductionHypothesis =>
        obtain ⟨objects, rfl, rfl⟩ := inductionHypothesis
        cases item with
        | object members =>
            obtain rfl := Except.ok.inj first
            exact ⟨members :: objects, rfl, rfl⟩
        | _ => cases first
  · rintro ⟨objects, rfl, rfl⟩
    rw [List.forall₂_map_left_iff, List.forall₂_map_right_iff, List.forall₂_same]
    exact fun members _ => rfl

/-- Reading finds what a value gives to compare with. -/
theorem expected_eq_ok_iff
    {value : Value}
    {expected : Expected} :
    Expectation.expected none value = .ok expected ↔ expected.DescribedBy value := by
  constructor
  · intro read
    unfold Expectation.expected at read
    split at read
    · obtain ⟨rows, found, rfl⟩ := map_eq_ok_iff.mp read
      obtain ⟨objects, rfl, rfl⟩ := mapM_row_eq_ok_iff.mp found
      exact .rows objects
    · split at read
      · rename_i path named
        obtain rfl := Except.ok.inj read
        exact .table (tablePath?_eq_some_iff.mp named)
      · cases read
    · cases read
  · rintro (objects | names)
    · exact map_eq_ok_iff.mpr ⟨_, mapM_row_eq_ok_iff.mpr ⟨objects, rfl, rfl⟩, rfl⟩
    · unfold Expectation.expected
      simp only [tablePath?_eq_some_iff.mpr names]

end Expected

/-! ## Expectations -/

namespace Expectation

/-- The columns that a value lists: none where it is absent, and else a single one or several. -/
inductive ListsColumns : Option Value → Option (List String) → Prop where
  | absent : ListsColumns none none
  | null : ListsColumns (some .null) none
  | one (name : String) : ListsColumns (some (.text name)) (some [Text.trim name])
  | many (names : List String) :
      ListsColumns (some (.list (names.map .text))) (some (names.map Text.trim))

theorem mapM_column_eq_ok_iff
    {key : String}
    {items : List Value}
    {named : List String} :
    items.mapM (column key) = .ok named ↔
      ∃ names : List String, items = names.map .text ∧ named = names.map Text.trim := by
  rw [mapM_eq_ok_iff_forall₂]
  constructor
  · intro listed
    induction listed with
    | nil => exact ⟨[], rfl, rfl⟩
    | @cons item name items named first _ inductionHypothesis =>
        obtain ⟨names, rfl, rfl⟩ := inductionHypothesis
        cases item with
        | text text =>
            obtain rfl := Except.ok.inj first
            exact ⟨text :: names, rfl, rfl⟩
        | _ => cases first
  · rintro ⟨names, rfl, rfl⟩
    rw [List.forall₂_map_left_iff, List.forall₂_map_right_iff, List.forall₂_same]
    exact fun name _ => rfl

/-- Reading finds the columns that a value lists. -/
theorem columns_eq_ok_iff
    {key : String}
    {value : Option Value}
    {named : Option (List String)} :
    columns key value = .ok named ↔ ListsColumns value named := by
  constructor
  · intro read
    unfold columns at read
    split at read
    · obtain rfl := Except.ok.inj read
      exact .absent
    · obtain rfl := Except.ok.inj read
      exact .null
    · obtain rfl := Except.ok.inj read
      exact .one _
    · obtain ⟨found, listed, rfl⟩ := map_eq_ok_iff.mp read
      obtain ⟨names, rfl, rfl⟩ := mapM_column_eq_ok_iff.mp listed
      exact .many names
    · cases read
  · rintro (_ | _ | name | names)
    · rfl
    · rfl
    · rfl
    · exact map_eq_ok_iff.mpr ⟨_, mapM_column_eq_ok_iff.mpr ⟨names, rfl, rfl⟩, rfl⟩

/-- The expectation that a value describes, where paths are as they are written. -/
inductive DescribedBy : Expectation → Value → Prop where
  /-- No value expects no rows. -/
  | null : DescribedBy .nothing .null
  /-- An object without members expects no rows. -/
  | noMembers : DescribedBy .nothing (.object [])
  /-- A text refers to a table. -/
  | table {text path : String} (names : Expected.NamesTable text path) :
      DescribedBy (.table path) (.text text)
  /-- A member names a table that is not to be read as a whole, whatever the others are. -/
  | noFullScan {members : Members} {text : String}
      (found : members.get? "noFullscan" = some (.text text)) (named : Text.trim text ≠ "") :
      DescribedBy (.noFullScan (Text.trim text)) (.object members)
  /-- Members say what rows are compared with, and how. -/
  | comparison {members : Members} {equalTo : Value} {wanted : Comparison}
      (noScan : members.get? "noFullscan" = none)
      (found : members.get? "equalTo" = some equalTo)
      (described : wanted.equalTo.DescribedBy equalTo)
      (shown : ListsColumns (members.get? "columns") wanted.columns)
      (without : ListsColumns (members.get? "without") wanted.without)
      (orderBy : ListsColumns (members.get? "orderBy") wanted.orderBy) :
      DescribedBy (.comparison wanted) (.object members)

theorem fullScan_eq_ok_iff
    {value : Value}
    {expectation : Expectation} :
    fullScan value = .ok expectation ↔
      ∃ text, value = .text text ∧ Text.trim text ≠ "" ∧
        expectation = .noFullScan (Text.trim text) := by
  constructor
  · intro read
    unfold fullScan at read
    split at read
    · dsimp only at read
      split at read
      · cases read
      · rename_i named
        exact ⟨_, rfl, named, (Except.ok.inj read).symm⟩
    · cases read
  · rintro ⟨text, rfl, named, rfl⟩
    exact if_neg named

theorem comparing_eq_ok_iff
    {members : Members}
    {equalTo : Value}
    {expectation : Expectation} :
    comparing none members equalTo = .ok expectation ↔
      ∃ wanted : Comparison, expectation = .comparison wanted ∧
        wanted.equalTo.DescribedBy equalTo ∧
          ListsColumns (members.get? "columns") wanted.columns ∧
          ListsColumns (members.get? "without") wanted.without ∧
          ListsColumns (members.get? "orderBy") wanted.orderBy := by
  unfold comparing
  simp only [bind_eq_ok_iff, Expected.expected_eq_ok_iff, columns_eq_ok_iff]
  constructor
  · rintro ⟨expected, described, shown, listsShown, without, listsWithout, orderBy, listsOrderBy,
      ⟨⟩⟩
    exact ⟨_, rfl, described, listsShown, listsWithout, listsOrderBy⟩
  · rintro ⟨wanted, rfl, described, shown, without, orderBy⟩
    exact ⟨_, described, _, shown, _, without, _, orderBy, rfl⟩

/-- Reading finds the expectation that a value describes. -/
theorem ofValue_eq_ok_iff
    {value : Value}
    {expectation : Expectation} :
    ofValue none value = .ok expectation ↔ expectation.DescribedBy value := by
  constructor
  · intro read
    unfold ofValue at read
    split at read
    · obtain rfl := Except.ok.inj read
      exact .null
    · split at read
      · rename_i path named
        obtain rfl := Except.ok.inj read
        exact .table (Expected.tablePath?_eq_some_iff.mp named)
      · cases read
    · obtain rfl := Except.ok.inj read
      exact .noMembers
    · split at read
      · rename_i hint found
        obtain ⟨text, rfl, named, rfl⟩ := fullScan_eq_ok_iff.mp read
        exact .noFullScan found named
      · rename_i noScan
        split at read
        · rename_i equalTo found
          obtain ⟨wanted, rfl, described, shown, without, orderBy⟩ := comparing_eq_ok_iff.mp read
          exact .comparison noScan found described shown without orderBy
        · cases read
    · cases read
  · intro described
    cases described with
    | null => rfl
    | noMembers => rfl
    | table names =>
        unfold ofValue
        simp only [Expected.tablePath?_eq_some_iff.mpr names]
    | @noFullScan members text found named =>
        have reads : fullScan (.text text) = .ok (.noFullScan (Text.trim text)) :=
          fullScan_eq_ok_iff.mpr ⟨text, rfl, named, rfl⟩
        cases members with
        | nil => cases found
        | cons first rest =>
            unfold ofValue
            simp only [found, reads]
    | @comparison members equalTo wanted noScan found described shown without orderBy =>
        have reads : comparing none members equalTo = .ok (.comparison wanted) :=
          comparing_eq_ok_iff.mpr ⟨wanted, rfl, described, shown, without, orderBy⟩
        cases members with
        | nil => cases found
        | cons first rest =>
            unfold ofValue
            simp only [noScan, found, reads]

end Expectation

/-! ## Cases -/

theorem directivesOf_eq_ok_iff
    {value : Option Value}
    {directives : List Directive} :
    directivesOf none value = .ok directives ↔
      List.Forall₂ (fun value directive => Directive.DescribedBy directive value) (valuesOf value)
        directives := by
  unfold directivesOf
  rw [mapM_eq_ok_iff_forall₂]
  simp only [mapError_eq_ok_iff, Directive.ofValue_eq_ok_iff]

theorem expectationsOf_eq_ok_iff
    {value : Option Value}
    {expectations : List Expectation} :
    expectationsOf none value = .ok expectations ↔
      List.Forall₂ (fun value expectation => Expectation.DescribedBy expectation value)
        (valuesOf value) expectations := by
  unfold expectationsOf
  rw [mapM_eq_ok_iff_forall₂]
  simp only [mapError_eq_ok_iff, Expectation.ofValue_eq_ok_iff]

/-- The steps that the parts of a case describe, where paths are as they are written. -/
structure Steps.DescribedBy (steps : Steps) (parts : CaseParts) : Prop where
  /-- Something is executed. -/
  acts : valuesOf parts.act ≠ []
  arrange : List.Forall₂ (fun value directive => Directive.DescribedBy directive value)
    (valuesOf parts.arrange) steps.arrange
  act : List.Forall₂ (fun value directive => Directive.DescribedBy directive value)
    (valuesOf parts.act) steps.act
  expect : List.Forall₂ (fun value expectation => Expectation.DescribedBy expectation value)
    (valuesOf parts.expect) steps.expect

/-- Reading finds the steps that the parts of a case describe. -/
theorem Steps.ofParts_eq_ok_iff
    {parts : CaseParts}
    {steps : Steps} :
    ofParts none parts = .ok steps ↔ steps.DescribedBy parts := by
  unfold ofParts
  by_cases acts : valuesOf parts.act = []
  · rw [if_pos (List.isEmpty_iff.mpr acts)]
    exact iff_of_false nofun fun described => described.acts acts
  · rw [if_neg fun idle => acts (List.isEmpty_iff.mp idle)]
    simp only [bind_eq_ok_iff, directivesOf_eq_ok_iff, expectationsOf_eq_ok_iff]
    constructor
    · rintro ⟨arrange, describedArrange, act, describedAct, expect, describedExpect, ⟨⟩⟩
      exact ⟨acts, describedArrange, describedAct, describedExpect⟩
    · rintro ⟨-, arrange, act, expect⟩
      exact ⟨_, arrange, _, act, _, expect, rfl⟩

namespace CaseParts

/-- The parts of the case that a value describes. -/
inductive DescribedBy : CaseParts → Value → Prop where
  /-- The parts have names, and there is no title. -/
  | untitled {members : Members} (absent : members.get? "title" = none) :
      DescribedBy
        ⟨.text "", members.get? "arrange", members.get? "act", members.get? "assert"⟩
        (.object members)
  /-- The parts have names, the title among them. -/
  | titled {members : Members} {value : Value} {title : Title}
      (found : members.get? "title" = some value) (described : title.DescribedBy value) :
      DescribedBy ⟨title, members.get? "arrange", members.get? "act", members.get? "assert"⟩
        (.object members)
  /-- There are four parts in a list, of which the title is the first. -/
  | listed {value arrange act expect : Value} {title : Title}
      (described : title.DescribedBy value) :
      DescribedBy ⟨title, some arrange, some act, some expect⟩
        (.list [value, arrange, act, expect])

theorem titleOf_some_eq_ok_iff
    {value : Value}
    {title : Title} :
    titleOf (some value) = .ok title ↔ title.DescribedBy value := by
  unfold titleOf
  rw [← Title.ofValue?_eq_some_iff]
  dsimp only
  cases Title.ofValue? value <;> simp

/-- Reading finds the parts of the case that a value describes. -/
theorem ofValue_eq_ok_iff
    {value : Value}
    {parts : CaseParts} :
    ofValue value = .ok parts ↔ parts.DescribedBy value := by
  constructor
  · intro read
    cases value with
    | object members =>
        obtain ⟨title, titled, rfl⟩ := map_eq_ok_iff.mp read
        cases found : Members.get? members "title" with
        | none =>
            rw [found] at titled
            obtain rfl := Except.ok.inj titled
            exact .untitled found
        | some value =>
            rw [found] at titled
            exact .titled found (titleOf_some_eq_ok_iff.mp titled)
    | list items =>
        obtain ⟨title, titled, listed⟩ := bind_eq_ok_iff.mp read
        match items, titled, listed with
        | [_, _, _, _], titled, listed =>
            obtain rfl := Except.ok.inj listed
            exact .listed (titleOf_some_eq_ok_iff.mp titled)
        | _ :: _ :: _ :: _ :: _ :: _, _, listed => cases listed
        | [], _, listed => cases listed
        | [_], _, listed => cases listed
        | [_, _], _, listed => cases listed
        | [_, _, _], _, listed => cases listed
    | null => cases read
    | boolean _ => cases read
    | number _ => cases read
    | text _ => cases read
  · intro described
    cases described with
    | untitled absent =>
        refine map_eq_ok_iff.mpr ⟨.text "", ?_, rfl⟩
        rw [absent]
        rfl
    | titled found described =>
        refine map_eq_ok_iff.mpr ⟨_, ?_, rfl⟩
        rw [found]
        exact titleOf_some_eq_ok_iff.mpr described
    | listed described =>
        exact bind_eq_ok_iff.mpr ⟨_, titleOf_some_eq_ok_iff.mpr described, rfl⟩

end CaseParts

/-- A case has steps if and only if its value describes parts that describe them. -/
theorem TestCase.steps_ofValue_eq_ok_iff
    {index : Nat}
    {value : Value}
    {steps : Steps} :
    (ofValue none index value).steps = .ok steps ↔
      ∃ parts : CaseParts, parts.DescribedBy value ∧ steps.DescribedBy parts := by
  simp only [← CaseParts.ofValue_eq_ok_iff, ← Steps.ofParts_eq_ok_iff]
  unfold ofValue
  cases CaseParts.ofValue value <;> simp

/-! ## Suites -/

namespace SuiteParts

/-- The parts of the suite that a value describes. -/
inductive DescribedBy : SuiteParts → Value → Prop where
  /-- A list is the cases. -/
  | cases (tests : List Value) : DescribedBy ⟨none, none, tests⟩ (.list tests)
  /-- No value is no parts. -/
  | null : DescribedBy ⟨none, none, []⟩ .null
  /-- The parts have names, and there are no cases. -/
  | untested {members : Members} (absent : members.get? "tests" = none) :
      DescribedBy ⟨members.get? "installations", members.get? "cleanups", []⟩ (.object members)
  /-- The parts have names, and the cases are listed. -/
  | tested {members : Members} {tests : List Value}
      (found : members.get? "tests" = some (.list tests)) :
      DescribedBy ⟨members.get? "installations", members.get? "cleanups", tests⟩ (.object members)

/-- Reading finds the parts of the suite that a value describes. -/
theorem ofValue_eq_ok_iff
    {value : Value}
    {parts : SuiteParts} :
    ofValue value = .ok parts ↔ parts.DescribedBy value := by
  constructor
  · intro read
    cases value with
    | object members =>
        change ofMembers members = .ok parts at read
        unfold ofMembers at read
        split at read
        · rename_i absent
          obtain rfl := Except.ok.inj read
          exact .untested absent
        · rename_i tests found
          obtain rfl := Except.ok.inj read
          exact .tested found
        · cases read
    | list tests =>
        obtain rfl := Except.ok.inj read
        exact .cases tests
    | null =>
        obtain rfl := Except.ok.inj read
        exact .null
    | boolean _ => cases read
    | number _ => cases read
    | text _ => cases read
  · intro described
    cases described with
    | cases tests => rfl
    | null => rfl
    | untested absent => simp [ofValue, ofMembers, absent]
    | tested found => simp [ofValue, ofMembers, found]

end SuiteParts

/-- What a suite consists of that has been read. -/
theorem Suite.ofValue_eq_ok_iff
    {name : String}
    {base : Option String}
    {value : Value}
    {suite : Suite} :
    ofValue name base value = .ok suite ↔
      ∃ parts : SuiteParts, parts.DescribedBy value ∧
        directivesOf base parts.installations = .ok suite.installations ∧
          directivesOf base parts.cleanups = .ok suite.cleanups ∧
            suite.name = name ∧ suite.tests = TestCase.ofValues base parts.tests := by
  unfold ofValue
  simp only [bind_eq_ok_iff, mapError_eq_ok_iff, SuiteParts.ofValue_eq_ok_iff]
  constructor
  · rintro ⟨parts, described, installations, install, cleanups, cleanUp, ⟨⟩⟩
    exact ⟨parts, described, install, cleanUp, rfl, rfl⟩
  · obtain ⟨name', installations, cleanups, tests⟩ := suite
    rintro ⟨parts, described, install, cleanUp, rfl, rfl⟩
    exact ⟨parts, described, _, install, _, cleanUp, rfl⟩

end DataSuite

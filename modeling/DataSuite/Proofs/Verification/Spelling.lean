import DataSuite.Proofs.Suite.Description
import DataSuite.Proofs.Verification.Target

/-!
# Spellings of an expectation

A table may be named alone or as that what rows are compared with.  That there are no rows is
said by no value, by an object without members, or by a comparison with no rows, whatever
columns this shows, leaves out or sorts by.  Expectations that are spelled in different ways
judge every result alike.
-/

namespace DataSuite

/-- Whether a result has no rows. -/
inductive ResultSet.NoRows : ResultSet → Prop where
  /-- There are no records. -/
  | rows : NoRows (.rows [])
  /-- The plan has no steps. -/
  | plan : NoRows (.plan [])
  /-- The place has stayed empty. -/
  | empty : NoRows .empty

namespace ResultSet

theorem noRows_iff_toRows_eq_nil
    {actual : ResultSet} :
    actual.NoRows ↔ actual.toRows = [] := by
  constructor
  · rintro (_ | _ | _) <;> rfl
  · intro rowless
    cases actual with
    | rows found =>
        obtain rfl : found = [] := rowless
        exact .rows
    | plan steps =>
        obtain rfl : steps = [] := List.map_eq_nil_iff.mp rowless
        exact .plan
    | empty => exact .empty

theorem isEmpty_iff_noRows
    {actual : ResultSet} :
    actual.isEmpty = true ↔ actual.NoRows := by
  rw [noRows_iff_toRows_eq_nil]
  cases actual <;> simp [isEmpty, toRows]

end ResultSet

/-- As many rows pass as are expected. -/
theorem Target.length_eq_of_check
    {target : Target}
    {keys : Option (List String)}
    {actual : List Row}
    (passes : target.check keys actual = .ok ()) :
    actual.length = target.rows.length := by
  cases keys with
  | none => exact (check_none_eq_ok_iff.mp passes).length_eq
  | some keys =>
      obtain ⟨-, -, pairs, matching⟩ := check_some_eq_ok_iff.mp passes
      rw [← matching.permutes_left.length_eq, ← matching.permutes_right.length_eq]
      simp

/-- No rows pass where none are expected, whatever they are sorted by. -/
theorem Target.check_nil
    {target : Target}
    (noRows : target.rows = [])
    (keys : Option (List String)) :
    target.check keys [] = .ok () := by
  cases keys with
  | none =>
      rw [check_none_eq_ok_iff, noRows]
      exact .nil
  | some keys =>
      rw [check_some_eq_ok_iff, noRows]
      exact ⟨.inl rfl, .inl rfl, [], .nil, .nil, by simp, by simp⟩

/-- A comparison with no rows succeeds if and only if there are none. -/
theorem Comparison.verify_eq_ok_iff_eq_nil
    {files : FileTree}
    {comparison : Comparison}
    {rows : List Row}
    (noRows : comparison.equalTo = .rows []) :
    comparison.verify files rows = .ok () ↔ rows = [] := by
  rw [verify_eq_ok_iff, noRows]
  constructor
  · rintro ⟨target, actual, found, shows, passes⟩
    obtain rfl := Except.ok.inj found
    obtain rfl : actual = [] := List.eq_nil_of_length_eq_zero (Target.length_eq_of_check passes)
    exact List.forall₂_nil_right_iff.mp shows
  · rintro rfl
    exact ⟨_, [], rfl, .nil, Target.check_nil rfl comparison.orderBy⟩

namespace Expectation

/-- Whether a value names columns: one or a list of them, or none where it is absent. -/
inductive NamesColumns : Option Value → Prop where
  | absent : NamesColumns none
  | null : NamesColumns (some .null)
  | one (name : String) : NamesColumns (some (.text name))
  | many (names : List String) : NamesColumns (some (.list (names.map .text)))

/-- Columns are understood if and only if they are named. -/
theorem exists_columns_iff
    {key : String}
    {value : Option Value} :
    (∃ named, columns key value = .ok named) ↔ NamesColumns value := by
  simp only [columns_eq_ok_iff]
  constructor
  · rintro ⟨_, _ | _ | name | names⟩
    · exact .absent
    · exact .null
    · exact .one name
    · exact .many names
  · rintro (_ | _ | name | names)
    · exact ⟨_, .absent⟩
    · exact ⟨_, .null⟩
    · exact ⟨_, .one name⟩
    · exact ⟨_, .many names⟩

theorem verify_of_not_demandsRows
    {files : FileTree}
    {actual : ResultSet}
    {expectation : Expectation}
    (modest : expectation.demandsRows = false) :
    expectation.verify files actual = expectation.judge files actual := by
  cases actual <;> simp [verify, modest]

/-- That there is nothing holds of the results without rows. -/
theorem verify_nothing_eq_ok_iff
    {files : FileTree}
    {actual : ResultSet} :
    nothing.verify files actual = .ok () ↔ actual.NoRows := by
  rw [verify_of_not_demandsRows rfl, ← ResultSet.isEmpty_iff_noRows]
  simp [judge]

/-- A comparison with no rows holds of the results without rows, whatever it shows, leaves out
and sorts by. -/
theorem verify_comparison_eq_ok_iff
    {files : FileTree}
    {actual : ResultSet}
    {wanted : Comparison}
    (noRows : wanted.equalTo = .rows []) :
    (comparison wanted).verify files actual = .ok () ↔ actual.NoRows := by
  rw [verify_of_not_demandsRows (demandsRows_comparison_eq_false_iff.mpr noRows),
    ResultSet.noRows_iff_toRows_eq_nil]
  exact Comparison.verify_eq_ok_iff_eq_nil noRows

/-- A table is judged in the same way whether it is named alone or as what rows are compared
with. -/
theorem verify_table_eq_verify_comparison
    (files : FileTree)
    (actual : ResultSet)
    (path : String) :
    (table path).verify files actual =
      (comparison ⟨.table path, none, none, none⟩).verify files actual := by
  cases actual <;> rfl

/-- Members that say what to compare with describe a comparison. -/
theorem ofValue_eq_comparing
    (base : Option String)
    {members : Members}
    {equalTo : Value}
    (noScan : members.get? "noFullscan" = none)
    (found : members.get? "equalTo" = some equalTo) :
    ofValue base (.object members) = comparing base members equalTo := by
  cases members with
  | nil => cases found
  | cons first rest =>
      unfold ofValue
      simp only [noScan, found]

/-- The members that say that rows are compared with what a text names. -/
def comparedWith (text : String) : Members :=
  [("equalTo", .text text)]

theorem ofValue_comparedWith
    (base : Option String)
    (text : String) :
    ofValue base (.object (comparedWith text)) =
      (expected base (.text text)).map fun equalTo => .comparison ⟨equalTo, none, none, none⟩ := by
  have noScan : (comparedWith text).get? "noFullscan" = none := by
    simp [comparedWith, Members.get?]
  have found : (comparedWith text).get? "equalTo" = some (.text text) := by
    simp [comparedWith, Members.get?]
  have noColumns (key : String) (other : "equalTo" ≠ key) :
      columns key ((comparedWith text).get? key) = .ok none := by
    simp [comparedWith, Members.get?, other, columns]
  rw [ofValue_eq_comparing base noScan found]
  unfold comparing
  rw [noColumns "columns" (by simp), noColumns "without" (by simp),
    noColumns "orderBy" (by simp)]
  cases expected base (.text text) <;> rfl

/-- A text names the same table alone and where rows are compared with it, or none. -/
theorem ofValue_text_or_comparedWith
    (base : Option String)
    (text : String) :
    (∃ path, ofValue base (.text text) = .ok (.table path) ∧
      ofValue base (.object (comparedWith text)) =
        .ok (.comparison ⟨.table path, none, none, none⟩)) ∨
      ∃ fault fault', ofValue base (.text text) = .error fault ∧
        ofValue base (.object (comparedWith text)) = .error fault' := by
  rw [ofValue_comparedWith]
  unfold ofValue expected
  cases named : tablePath? base text with
  | none => simp [named, Except.map]
  | some path => simp [named, Except.map]

/-- What members describe that compare with no rows. -/
theorem ofValue_noRows_eq_ok_iff
    {base : Option String}
    {members : Members}
    {parsed : Expectation}
    (noScan : members.get? "noFullscan" = none)
    (noRows : members.get? "equalTo" = some (.list [])) :
    ofValue base (.object members) = .ok parsed ↔
      ∃ shown without orderBy,
        columns "columns" (members.get? "columns") = .ok shown ∧
          columns "without" (members.get? "without") = .ok without ∧
          columns "orderBy" (members.get? "orderBy") = .ok orderBy ∧
          parsed = .comparison ⟨.rows [], shown, without, orderBy⟩ := by
  rw [ofValue_eq_comparing base noScan noRows]
  have nothingExpected : expected base (.list []) = .ok (.rows []) := rfl
  unfold comparing
  simp only [nothingExpected, bind_eq_ok_iff]
  constructor
  · rintro ⟨_, ⟨⟩, shown, foundShown, without, foundWithout, orderBy, foundOrderBy, ⟨⟩⟩
    exact ⟨shown, without, orderBy, foundShown, foundWithout, foundOrderBy, rfl⟩
  · rintro ⟨shown, without, orderBy, foundShown, foundWithout, foundOrderBy, rfl⟩
    exact ⟨_, rfl, shown, foundShown, without, foundWithout, orderBy, foundOrderBy, rfl⟩

/-- Whether a value describes an expectation that holds of the results without rows and of no
others. -/
def ExpectsNoRows (base : Option String) (value : Value) : Prop :=
  ∃ parsed, ofValue base value = .ok parsed ∧
    ∀ files actual, parsed.verify files actual = .ok () ↔ actual.NoRows

/-- Members that compare with no rows expect none if and only if they name columns wherever they
speak of some. -/
theorem expectsNoRows_iff
    {base : Option String}
    {members : Members}
    (noScan : members.get? "noFullscan" = none)
    (noRows : members.get? "equalTo" = some (.list [])) :
    ExpectsNoRows base (.object members) ↔
      NamesColumns (members.get? "columns") ∧ NamesColumns (members.get? "without") ∧
        NamesColumns (members.get? "orderBy") := by
  simp only [ExpectsNoRows, ofValue_noRows_eq_ok_iff noScan noRows]
  constructor
  · rintro ⟨_, ⟨shown, without, orderBy, foundShown, foundWithout, foundOrderBy, -⟩, -⟩
    exact ⟨exists_columns_iff.mp ⟨shown, foundShown⟩,
      exists_columns_iff.mp ⟨without, foundWithout⟩,
      exists_columns_iff.mp ⟨orderBy, foundOrderBy⟩⟩
  · rintro ⟨namesShown, namesWithout, namesOrderBy⟩
    obtain ⟨shown, foundShown⟩ := exists_columns_iff.mpr namesShown
    obtain ⟨without, foundWithout⟩ := exists_columns_iff.mpr namesWithout
    obtain ⟨orderBy, foundOrderBy⟩ := exists_columns_iff.mpr namesOrderBy
    exact ⟨_, ⟨shown, without, orderBy, foundShown, foundWithout, foundOrderBy, rfl⟩,
      fun _ _ => verify_comparison_eq_ok_iff rfl⟩

/-- The spellings of one expectation judge every result alike.  A text names a table if and only
if it does so where rows are compared with it, and then both have the same outcome, be it a
success or the same failure.  Nothing, an object without members and a comparison with no rows
hold of the results without rows and of no others. -/
theorem spellings_judge_alike (base : Option String) :
    (∀ text,
      ((∃ parsed, ofValue base (.text text) = .ok parsed) ↔
        ∃ parsed, ofValue base (.object (comparedWith text)) = .ok parsed) ∧
      ∀ alone compared, ofValue base (.text text) = .ok alone →
        ofValue base (.object (comparedWith text)) = .ok compared →
          (∃ path, alone = .table path ∧
            compared = .comparison ⟨.table path, none, none, none⟩) ∧
          ∀ files actual, alone.verify files actual = compared.verify files actual) ∧
      ExpectsNoRows base .null ∧
      ExpectsNoRows base (.object []) ∧
      ∀ members, Members.get? members "noFullscan" = none →
        Members.get? members "equalTo" = some (.list []) →
          (ExpectsNoRows base (.object members) ↔
            NamesColumns (members.get? "columns") ∧ NamesColumns (members.get? "without") ∧
              NamesColumns (members.get? "orderBy")) := by
  have expectsNothing (value : Value) (described : ofValue base value = .ok .nothing) :
      ExpectsNoRows base value :=
    ⟨.nothing, described, fun _ _ => verify_nothing_eq_ok_iff⟩
  refine ⟨fun text => ?_, expectsNothing .null rfl, expectsNothing (.object []) rfl,
    fun _ noScan noRows => expectsNoRows_iff noScan noRows⟩
  rcases ofValue_text_or_comparedWith base text with
    ⟨path, alone, compared⟩ | ⟨fault, fault', alone, compared⟩
  · rw [alone, compared]
    refine ⟨iff_of_true ⟨_, rfl⟩ ⟨_, rfl⟩, ?_⟩
    rintro _ _ ⟨⟩ ⟨⟩
    exact ⟨⟨path, rfl, rfl⟩, fun files actual =>
      verify_table_eq_verify_comparison files actual path⟩
  · rw [alone, compared]
    exact ⟨iff_of_false nofun nofun, fun _ _ => nofun⟩

/-- The members that compare with no rows, after showing one column and sorting by another. -/
def sortedNames : Members :=
  [("orderBy", .list [.text " id "]), ("columns", .text "name"), ("equalTo", .list []),
    ("without", .null)]

/-- A table behind a base is judged alike in both spellings, and sorted names expect no rows. -/
theorem spellings_of_wanted_table :
    let alone := table "suites/want.csv"
    let compared := comparison ⟨.table "suites/want.csv", none, none, none⟩
    ofValue (some "suites") (.text "@ want.csv") = .ok alone ∧
      ofValue (some "suites") (.object (comparedWith "@ want.csv")) = .ok compared ∧
      (∀ files actual, alone.verify files actual = compared.verify files actual) ∧
      sortedNames.get? "noFullscan" = none ∧ sortedNames.get? "equalTo" = some (.list []) ∧
      ExpectsNoRows (some "suites") (.object sortedNames) := by
  intro alone compared
  have named : tablePath? (some "suites") "@ want.csv" = some "suites/want.csv" := by decide
  have readsAlone : ofValue (some "suites") (.text "@ want.csv") = .ok alone := by
    unfold ofValue
    simp [named, alone]
  have readsCompared :
      ofValue (some "suites") (.object (comparedWith "@ want.csv")) = .ok compared := by
    rw [ofValue_comparedWith]
    unfold expected
    simp [named, compared, Except.map]
  have noScan : sortedNames.get? "noFullscan" = none := by simp [sortedNames, Members.get?]
  have noRows : sortedNames.get? "equalTo" = some (.list []) := by
    simp [sortedNames, Members.get?]
  have namesAll : NamesColumns (sortedNames.get? "columns") ∧
      NamesColumns (sortedNames.get? "without") ∧ NamesColumns (sortedNames.get? "orderBy") := by
    simp only [sortedNames, Members.get?, String.reduceEq, if_true, if_false]
    exact ⟨.one "name", .null, .many [" id "]⟩
  obtain ⟨tables, -, -, noRowsExpected⟩ := spellings_judge_alike (some "suites")
  exact ⟨readsAlone, readsCompared, ((tables "@ want.csv").2 _ _ readsAlone readsCompared).2,
    noScan, noRows, (noRowsExpected sortedNames noScan noRows).mpr namesAll⟩

end Expectation
end DataSuite

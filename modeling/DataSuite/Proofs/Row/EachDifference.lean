import DataSuite.Proofs.Row.Difference

/-!
# Each difference once

Rows differ in a column if only one of them has it or if their values do not agree.  Comparing
literal rows finds, row by row, one difference for each column in which the rows differ and no
other one.  The message lists the first twenty of them, each with its row, its column and the texts
that were expected and found, and counts those that are left.
-/

namespace DataSuite

namespace Difference

/-- The row and the column that a difference is in, if it is in a single column. -/
def site? : Difference → Option (Nat × String)
  | rowCount _ _ => none
  | cell row column _ _ => some (row, column)
  | missingColumn row column => some (row, column)
  | extraColumn row column => some (row, column)
  | columnOrder _ _ _ => none

/-- The line that tells a difference: what its kind says in a language, with its row, its column and
the texts that were expected and found, or with the numbers of rows or all columns of both sides. -/
def line (language : Language) : Difference → String
  | rowCount expected actual =>
      Catalogue.format language "failure-row-count"
        [("expected", toString expected), ("actual", toString actual)]
  | cell row column expected actual =>
      Catalogue.format language "failure-cell"
        [("row", toString row), ("column", column), ("expected", expected), ("actual", actual)]
  | missingColumn row column =>
      Catalogue.format language "failure-missing-column"
        [("row", toString row), ("column", column)]
  | extraColumn row column =>
      Catalogue.format language "failure-extra-column"
        [("row", toString row), ("column", column)]
  | columnOrder row expected actual =>
      Catalogue.format language "failure-column-order"
        [ ("row", toString row), ("expected", ", ".intercalate expected),
          ("actual", ", ".intercalate actual) ]

theorem text_message
    (language : Language)
    (difference : Difference) :
    difference.message.text language = difference.line language := by
  cases difference <;> rfl

/-- Whether a difference is in an earlier row than another one, or in another column of the same
row. -/
def Precedes (first second : Difference) : Prop :=
  ∃ row column row' column', first.site? = some (row, column) ∧
    second.site? = some (row', column') ∧ (row < row' ∨ row = row' ∧ column ≠ column')

end Difference

namespace Row

/-- Whether this is how two rows differ in a column. -/
inductive DiffersIn (number : Nat) (actual expected : Row) (column : String) :
    Difference → Prop where
  /-- Both rows have the column, with values that do not agree. -/
  | cell {value wanted : Value} (found : actual.get? column = some value)
      (foundWanted : expected.get? column = some wanted) (apart : value.agree wanted = false) :
      DiffersIn number actual expected column (.cell number column wanted.toText value.toText)
  /-- Only the expected row has the column. -/
  | missing {wanted : Value} (absent : actual.get? column = none)
      (foundWanted : expected.get? column = some wanted) :
      DiffersIn number actual expected column (.missingColumn number column)
  /-- Only the actual row has the column. -/
  | extra {value : Value} (found : actual.get? column = some value)
      (unwanted : expected.get? column = none) :
      DiffersIn number actual expected column (.extraColumn number column)

/-- Whether two rows have the same columns, in any order, with values that agree. -/
def AgreeEverywhere (actual expected : Row) : Prop :=
  ∀ column, Option.Rel (fun value wanted => value.agree wanted = true) (actual.get? column)
    (expected.get? column)

section Rows

variable {number : Nat} {actual expected : Row} {column : String} {difference : Difference}

theorem DiffersIn.site?_eq (differs : DiffersIn number actual expected column difference) :
    difference.site? = some (number, column) := by
  cases differs <;> rfl

/-- Rows differ in a column unless they agree there. -/
theorem forall_not_differsIn_iff :
    (∀ difference, ¬ DiffersIn number actual expected column difference) ↔
      Option.Rel (fun value wanted => value.agree wanted = true) (actual.get? column)
        (expected.get? column) := by
  constructor
  · intro alike
    cases found : actual.get? column with
    | none =>
        cases foundWanted : expected.get? column with
        | none => exact .none
        | some wanted => exact absurd (.missing found foundWanted) (alike _)
    | some value =>
        cases foundWanted : expected.get? column with
        | none => exact absurd (.extra found foundWanted) (alike _)
        | some wanted =>
            refine .some (eq_true_of_ne_false fun apart => ?_)
            exact alike _ (.cell found foundWanted apart)
  · rintro agrees difference (⟨found, foundWanted, apart⟩ | ⟨absent, foundWanted⟩ |
      ⟨found, unwanted⟩)
    · rw [found, foundWanted] at agrees
      cases agrees with
      | some agree => exact Bool.false_ne_true (apart.symm.trans agree)
    · rw [absent, foundWanted] at agrees
      cases agrees
    · rw [found, unwanted] at agrees
      cases agrees

/-- The first pass finds the columns expected in which the rows differ. -/
theorem cellDifference?_eq_some_iff
    {wanted : Value}
    (foundWanted : expected.get? column = some wanted) :
    cellDifference? number actual column wanted = some difference ↔
      DiffersIn number actual expected column difference := by
  unfold cellDifference?
  constructor
  · intro differs
    split at differs
    · rename_i absent
      obtain rfl := Option.some.inj differs
      exact .missing absent foundWanted
    · rename_i value found
      split at differs
      · cases differs
      · rename_i apart
        obtain rfl := Option.some.inj differs
        exact .cell found foundWanted (eq_false_of_ne_true apart)
  · rintro (⟨found, foundAgain, apart⟩ | ⟨absent, -⟩ | ⟨-, unwanted⟩)
    · obtain rfl := Option.some.inj (foundWanted.symm.trans foundAgain)
      simp [found, apart]
    · simp [absent]
    · rw [foundWanted] at unwanted
      cases unwanted

/-- The second pass finds the other columns. -/
theorem differsIn_extraColumn_iff :
    DiffersIn number actual expected column (.extraColumn number column) ↔
      column ∈ actual.columns.filter fun column => !expected.has column := by
  rw [List.mem_filter, Bool.not_eq_true', has, Option.isSome_eq_false_iff, Option.isNone_iff_eq_none,
    columns, ← Members.isSome_get?, Option.isSome_iff_exists]
  constructor
  · rintro (_ | _ | ⟨found, unwanted⟩)
    exact ⟨⟨_, found⟩, unwanted⟩
  · rintro ⟨⟨value, found⟩, unwanted⟩
    exact .extra found unwanted

/-- Both passes together find each column in which the rows differ. -/
theorem mem_literalDifferences_iff :
    difference ∈ literalDifferences number actual expected ↔
      ∃ column, DiffersIn number actual expected column difference := by
  unfold literalDifferences
  rw [List.mem_append, List.mem_filterMap, List.mem_map]
  constructor
  · rintro (⟨cell, member, differs⟩ | ⟨column, member, rfl⟩)
    · have foundWanted := (Members.get?_eq_some_iff expected.distinct).mpr member
      exact ⟨cell.1, (cellDifference?_eq_some_iff foundWanted).mp differs⟩
    · exact ⟨column, differsIn_extraColumn_iff.mpr member⟩
  · rintro ⟨column, differs⟩
    cases foundWanted : expected.get? column with
    | some wanted =>
        exact .inl ⟨(column, wanted), Members.mem_of_get? foundWanted,
          (cellDifference?_eq_some_iff foundWanted).mpr differs⟩
    | none =>
        have extra := differs
        cases differs with
        | cell _ foundAgain _ => cases foundWanted.symm.trans foundAgain
        | missing _ foundAgain => cases foundWanted.symm.trans foundAgain
        | extra _ _ => exact .inr ⟨column, differsIn_extraColumn_iff.mp extra, rfl⟩

/-- A row agrees with a literal row if and only if it does so in each column. -/
theorem agreesWith_iff_agreeEverywhere :
    actual.AgreesWith expected ↔ actual.AgreeEverywhere expected := by
  rw [← @literalDifferences_eq_nil_iff 1, List.eq_nil_iff_forall_not_mem]
  simp only [mem_literalDifferences_iff, not_exists]
  rw [forall_comm]
  exact forall_congr' fun _ => forall_not_differsIn_iff

theorem DiffersIn.precedes
    {column' : String}
    {difference' : Difference}
    (differs : DiffersIn number actual expected column difference)
    (differsAgain : DiffersIn number actual expected column' difference')
    (other : column ≠ column') :
    difference.Precedes difference' :=
  ⟨number, column, number, column', differs.site?_eq, differsAgain.site?_eq, .inr ⟨rfl, other⟩⟩

end Rows

/-- No column of a row is told twice. -/
theorem pairwise_literalDifferences (number : Nat) (actual expected : Row) :
    (literalDifferences number actual expected).Pairwise Difference.Precedes := by
  have foundWanted {cell : String × Value} (member : cell ∈ expected.cells) :
      expected.get? cell.1 = some cell.2 :=
    (Members.get?_eq_some_iff expected.distinct).mpr member
  have differs {cell : String × Value} {difference : Difference} (member : cell ∈ expected.cells)
      (found : cellDifference? number actual cell.1 cell.2 = some difference) :
      DiffersIn number actual expected cell.1 difference :=
    (cellDifference?_eq_some_iff (foundWanted member)).mp found
  unfold literalDifferences
  refine List.pairwise_append.mpr ⟨?_, ?_, ?_⟩
  · rw [List.pairwise_filterMap]
    refine List.Pairwise.imp_of_mem ?_ (List.pairwise_map.mp expected.distinct)
    intro first second firstMember secondMember other difference found difference' foundAgain
    exact (differs firstMember found).precedes (differs secondMember foundAgain) other
  · rw [List.pairwise_map]
    refine List.Pairwise.imp_of_mem ?_ (actual.distinct.filter fun column => !expected.has column)
    intro first second firstMember secondMember other
    exact (differsIn_extraColumn_iff.mpr firstMember).precedes
      (differsIn_extraColumn_iff.mpr secondMember) other
  · intro first firstMember second secondMember
    obtain ⟨cell, member, found⟩ := List.mem_filterMap.mp firstMember
    obtain ⟨column, extra, rfl⟩ := List.mem_map.mp secondMember
    have differsExtra : DiffersIn number actual expected column (.extraColumn number column) :=
      differsIn_extraColumn_iff.mpr extra
    refine (differs member found).precedes differsExtra ?_
    -- The column of the cell is expected, and the other one is not.
    rintro rfl
    cases differsExtra with
    | extra _ unwanted => cases (foundWanted member).symm.trans unwanted

/-- Rows that do not pass against as many others fail with their differences. -/
theorem checkWith_eq_error_iff
    {compare : Nat → Row → Row → List Difference}
    {actual expected : List Row}
    {mismatch : Mismatch} :
    checkWith compare actual expected = .error mismatch ↔
      differences compare actual expected ≠ [] ∧
        mismatch = .rows (differences compare actual expected) expected actual := by
  unfold checkWith
  split
  · rename_i alike
    simp [alike]
  · rename_i different
    exact ⟨fun fails => ⟨different, (Except.error.inj fails).symm⟩,
      fun ⟨_, same⟩ => congrArg Except.error same.symm⟩

/-- Each column in which rows in the same place differ is told, and no other one is. -/
theorem mem_differences_iff
    {actual expected : List Row}
    (sameLength : actual.length = expected.length)
    {difference : Difference} :
    difference ∈ differences literalDifferences actual expected ↔
      ∃ place actualRow expectedRow column, actual[place]? = some actualRow ∧
        expected[place]? = some expectedRow ∧
          DiffersIn (place + 1) actualRow expectedRow column difference := by
  rw [differences, if_pos sameLength, differencesFrom_eq, List.mem_flatMap]
  simp only [mem_numberedPairs_iff, mem_literalDifferences_iff]
  constructor
  · rintro ⟨_, ⟨place, actualRow, expectedRow, foundActual, foundExpected, rfl⟩, column, differs⟩
    rw [Nat.add_comm] at differs
    exact ⟨place, actualRow, expectedRow, column, foundActual, foundExpected, differs⟩
  · rintro ⟨place, actualRow, expectedRow, column, foundActual, foundExpected, differs⟩
    rw [Nat.add_comm] at differs
    exact ⟨_, ⟨place, actualRow, expectedRow, foundActual, foundExpected, rfl⟩, column, differs⟩

/-- Rows are told in their order, and no column of a row is told twice. -/
theorem pairwise_differences
    {actual expected : List Row}
    (sameLength : actual.length = expected.length) :
    (differences literalDifferences actual expected).Pairwise Difference.Precedes := by
  rw [differences, if_pos sameLength, differencesFrom_eq, List.pairwise_flatMap]
  refine ⟨fun pair _ => pairwise_literalDifferences pair.2 pair.1.1 pair.1.2, ?_⟩
  refine (pairwise_numberedPairs 1 actual expected).imp ?_
  intro earlier later rises difference found difference' foundLater
  obtain ⟨column, differs⟩ := mem_literalDifferences_iff.mp found
  obtain ⟨column', differsLater⟩ := mem_literalDifferences_iff.mp foundLater
  exact ⟨_, _, _, _, differs.site?_eq, differsLater.site?_eq, .inl rises⟩

end Row

/-- The lines of a message are the first twenty differences and, if there are more, one that counts
the others. -/
theorem Mismatch.lines_eq
    (language : Language)
    (found : List Difference) :
    lines language found =
      (found.take (min 20 found.length)).map (fun difference => difference.message.text language) ++
        if 20 < found.length then [(Message.moreDifferences (found.length - 20)).text language]
        else [] := by
  have twenty : found.take (min 20 found.length) = found.take 20 :=
    List.take_eq_take_iff.mpr (by omega)
  unfold lines listed
  rw [twenty]
  split
  · rfl
  · exact (List.append_nil _).symm

namespace Row

/-- Literal rows pass if and only if they agree in each column, place by place.  Otherwise either
their numbers differ and nothing else is told, or each column in which rows differ is told once,
row by row, and no other one is.  The message lists the first twenty differences and counts the
others, and the line of each difference is the one of its kind with its row, column and texts. -/
theorem checkLiteral_tells_each_difference
    (language : Language)
    (actual expected : List Row) :
    (checkLiteral actual expected = .ok () ↔ List.Forall₂ AgreeEverywhere actual expected) ∧
      (actual.length ≠ expected.length → checkLiteral actual expected =
        .error (.rows [.rowCount expected.length actual.length] expected actual)) ∧
      (∀ mismatch, actual.length = expected.length →
        checkLiteral actual expected = .error mismatch →
          ∃ found, mismatch = .rows found expected actual ∧ found.Pairwise Difference.Precedes ∧
            ∀ difference, difference ∈ found ↔
              ∃ place actualRow expectedRow column, actual[place]? = some actualRow ∧
                expected[place]? = some expectedRow ∧
                  DiffersIn (place + 1) actualRow expectedRow column difference) ∧
      ∀ found, (Mismatch.rows found expected actual).message language =
        Text.joined "\n"
          ((found.take (min 20 found.length)).map
              (fun difference => difference.message.text language) ++
            if 20 < found.length then
              [(Message.moreDifferences (found.length - 20)).text language]
            else []) ∧
        ∀ difference ∈ found, difference.message.text language = difference.line language := by
  refine ⟨?_, fun otherLength => ?_, fun mismatch sameLength fails => ?_, fun found => ⟨?_, ?_⟩⟩
  · have passes := @Standard.checkWith_eq_ok_iff .literal actual expected
    refine passes.trans ?_
    exact ⟨.imp fun _ _ => agreesWith_iff_agreeEverywhere.mp,
      .imp fun _ _ => agreesWith_iff_agreeEverywhere.mpr⟩
  · refine checkWith_eq_error_iff.mpr ?_
    rw [differences, if_neg otherLength]
    exact ⟨List.cons_ne_nil _ _, rfl⟩
  · obtain ⟨-, same⟩ := checkWith_eq_error_iff.mp fails
    exact ⟨_, same, pairwise_differences sameLength, fun _ => mem_differences_iff sameLength⟩
  · exact congrArg (Text.joined "\n") (Mismatch.lines_eq language found)
  · exact fun difference _ => difference.text_message language

/-- Two rows that are not as expected: in the first one a number differs, and the second one has
another column. -/
def changedRows : List Row :=
  [.ofPairs [("id", .number (.integer 1)), ("n", .number (.integer 2))],
    .ofPairs [("id", .number (.integer 2)), ("y", .null)]]

/-- What has been expected of them, in another order of the columns. -/
def unchangedRows : List Row :=
  [.ofPairs [("n", .number (.integer 3)), ("id", .number (.integer 1))],
    .ofPairs [("x", .null), ("id", .number (.integer 2))]]

/-- Rows in which a number, a column and another column are not as expected have three differences,
and rows of another number have one. -/
theorem checkLiteral_tells_changedRows :
    let found := [.cell 1 "n" "3" "2", .missingColumn 2 "x", .extraColumn 2 "y"]
    changedRows.length = unchangedRows.length ∧ changedRows.length ≠ ([] : List Row).length ∧
      checkLiteral changedRows unchangedRows =
        .error (.rows found unchangedRows changedRows) ∧
      found.Pairwise Difference.Precedes ∧
      (∃ place actualRow expectedRow column, changedRows[place]? = some actualRow ∧
        unchangedRows[place]? = some expectedRow ∧
          DiffersIn (place + 1) actualRow expectedRow column (.missingColumn 2 "x")) ∧
      checkLiteral changedRows [] = .error (.rows [.rowCount 0 2] [] changedRows) := by
  intro found
  have sameLength : changedRows.length = unchangedRows.length := rfl
  have otherLength : changedRows.length ≠ ([] : List Row).length := by decide
  have same : differences literalDifferences changedRows unchangedRows = found := by decide +kernel
  have fails : checkLiteral changedRows unchangedRows =
      .error (.rows found unchangedRows changedRows) :=
    checkWith_eq_error_iff.mpr ⟨same ▸ List.cons_ne_nil _ _, same ▸ rfl⟩
  obtain ⟨-, -, told, -⟩ :=
    checkLiteral_tells_each_difference .english changedRows unchangedRows
  obtain ⟨-, counted, -, -⟩ := checkLiteral_tells_each_difference .english changedRows []
  obtain ⟨listed, rows, ordered, all⟩ := told _ sameLength fails
  obtain rfl : found = listed := (Mismatch.rows.inj rows).1
  exact ⟨sameLength, otherLength, fails, ordered, (all _).mp (.tail _ (.head _)),
    counted otherLength⟩

end Row
end DataSuite

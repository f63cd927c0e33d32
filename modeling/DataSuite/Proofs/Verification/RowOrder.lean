import DataSuite.Proofs.Verification.Target

/-!
# The order of rows in a comparison

A comparison that sorts by key columns does not depend on the order of the rows on either
side, and what passes after sorting passes without it in some order of the rows.  The
converse holds for rows in an order that passes and in which the two sides are ordered
alike.  Without the last condition it fails: the order of rows tells apart numbers that are
written in different ways, although they agree.
-/

namespace DataSuite

theorem exists_perm_forall₂
    {α β : Type}
    {relation : α → β → Prop}
    {left : List α}
    {right permuted : List β}
    (related : List.Forall₂ relation left right)
    (permutes : permuted.Perm right) :
    ∃ reordered, reordered.Perm left ∧ List.Forall₂ relation reordered permuted := by
  have composed : Relation.Comp (List.Forall₂ relation) List.Perm left permuted :=
    ⟨right, related, permutes.symm⟩
  rw [List.forall₂_comp_perm_eq_perm_comp_forall₂] at composed
  obtain ⟨reordered, reorders, relatedAgain⟩ := composed
  exact ⟨reordered, reorders.symm, relatedAgain⟩

/-! ## Expected rows in another order -/

/-- Whether one expectation is another one with its rows in some order. -/
inductive Expected.Reorders : Expected → Expected → Prop where
  /-- Literal rows may stand in any order. -/
  | rows {permuted expected : List Row} (permutes : permuted.Perm expected) :
      Reorders (.rows permuted) (.rows expected)
  /-- A table is the same table. -/
  | table (path : String) : Reorders (.table path) (.table path)

/-- Whether rows pass as they stand, without being sorted. -/
def Expected.PassesInPlace (files : FileTree) (rows : List Row) : Expected → Prop
  | .rows expected => Row.checkLiteral rows expected = .ok ()
  | .table path =>
      ∃ table, loadTable files path = .ok table ∧
        Row.checkTable table.headers (rows.map Row.asText) table.toRows = .ok ()

theorem Expected.Reorders.symm
    {left right : Expected}
    (reorders : left.Reorders right) :
    right.Reorders left := by
  cases reorders with
  | rows permutes => exact .rows permutes.symm
  | table path => exact .table path

/-- Reordered rows have the same target but for the order of its rows. -/
theorem Expected.Reorders.target
    {files : FileTree}
    {left right : Expected}
    {target : Target}
    (reorders : left.Reorders right)
    (found : right.target files = .ok target) :
    ∃ expected, left.target files = .ok { target with rows := expected } ∧
      expected.Perm target.rows := by
  cases reorders with
  | rows permutes =>
      obtain rfl := Except.ok.inj found
      exact ⟨_, rfl, permutes⟩
  | table path => exact ⟨_, found, .refl _⟩

/-- A target passes rows in place if they agree with its own place by place. -/
theorem Expected.passesInPlace_of_target
    {files : FileTree}
    {equalTo : Expected}
    {target : Target}
    {rows : List Row}
    (found : equalTo.target files = .ok target)
    (agreeing : List.Forall₂ target.standard.Agree (rows.map target.shown) target.rows) :
    equalTo.PassesInPlace files rows := by
  rw [← target.standard.checkWith_eq_ok_iff] at agreeing
  cases equalTo with
  | rows expected =>
      obtain rfl := Except.ok.inj found
      rw [List.map_id] at agreeing
      exact agreeing
  | table path =>
      obtain ⟨table, loaded, rfl⟩ := map_eq_ok_iff.mp found
      exact ⟨table, loaded, agreeing⟩

/-- Sorted rows pass in every order of either side. -/
theorem Target.check_some_of_perm
    {target : Target}
    {keys : List String}
    {actual permuted expected : List Row}
    (passes : target.check (some keys) actual = .ok ())
    (permutesActual : permuted.Perm actual)
    (permutesExpected : expected.Perm target.rows) :
    { target with rows := expected }.check (some keys) permuted = .ok () := by
  rw [check_some_eq_ok_iff] at passes ⊢
  obtain ⟨actualCarried, expectedCarried, pairs, matching⟩ := passes
  exact ⟨actualCarried.of_perm permutesActual.symm, expectedCarried.of_perm permutesExpected.symm,
    pairs, matching.of_perm permutesActual.symm permutesExpected.symm⟩

namespace Comparison

variable {files : FileTree} {equalTo : Expected} {columns without : Option (List String)}
variable {keys : List String} {rows : List Row}

/-! ## Comparisons that sort -/

theorem verify_of_reordered
    {reordered : Expected}
    {permuted : List Row}
    (passes : verify files ⟨equalTo, columns, without, some keys⟩ rows = .ok ())
    (reorders : reordered.Reorders equalTo)
    (permutes : permuted.Perm rows) :
    verify files ⟨reordered, columns, without, some keys⟩ permuted = .ok () := by
  rw [verify_eq_ok_iff] at passes ⊢
  obtain ⟨target, actual, found, shows, passes⟩ := passes
  obtain ⟨expected, foundAgain, permutesExpected⟩ := reorders.target found
  obtain ⟨shownAgain, showsAgain, permutesActual⟩ := List.perm_comp_forall₂ permutes shows
  exact ⟨_, shownAgain, foundAgain, showsAgain,
    Target.check_some_of_perm passes permutesActual permutesExpected⟩

/-- What passes after sorting passes without it in some order of the reshaped rows. -/
theorem exists_passesInPlace
    (passes : verify files ⟨equalTo, columns, without, some keys⟩ rows = .ok ()) :
    ∃ reshaped placed,
      reshape ⟨equalTo, columns, without, some keys⟩ rows = .ok reshaped ∧
        placed.Perm reshaped ∧ equalTo.PassesInPlace files placed := by
  rw [verify_eq_ok_iff] at passes
  obtain ⟨target, actual, found, shows, passes⟩ := passes
  obtain ⟨reshaped, same, rfl⟩ := shows_iff.mp shows
  obtain ⟨-, -, matched⟩ := Target.check_some_eq_ok_iff.mp passes
  obtain ⟨permuted, permutes, agreeing, -⟩ := Sorted.exists_matching_iff.mp matched
  have shown : List.Forall₂ (fun row shown => target.shown row = shown) reshaped
      (reshaped.map target.shown) := by
    rw [List.forall₂_map_right_iff, List.forall₂_same]
    exact fun _ _ => rfl
  obtain ⟨placed, places, shownAgain⟩ := exists_perm_forall₂ shown permutes
  have placedShown : placed.map target.shown = permuted := by
    rw [← List.forall₂_eq_eq_eq, List.forall₂_map_left_iff]
    exact shownAgain
  refine ⟨reshaped, placed, same, places, Expected.passesInPlace_of_target found ?_⟩
  rw [placedShown]
  exact agreeing

/-- A target shows rows as one list of rows. -/
theorem Shows.unique
    {comparison : Comparison}
    {target : Target}
    {first second : List Row}
    (shows : comparison.Shows target rows first)
    (showsAgain : comparison.Shows target rows second) :
    first = second := by
  obtain ⟨reshaped, same, rfl⟩ := shows_iff.mp shows
  obtain ⟨reshapedAgain, sameAgain, rfl⟩ := shows_iff.mp showsAgain
  rw [Except.ok.inj (same.symm.trans sameAgain)]

/-- Whether each key column is in some reshaped row and in some row expected, unless there are
none. -/
def KeysCarried
    (files : FileTree)
    (comparison : Comparison)
    (keys : List String)
    (rows : List Row) : Prop :=
  ∀ target reshaped, comparison.equalTo.target files = .ok target →
    comparison.reshape rows = .ok reshaped →
      Row.Carried keys reshaped ∧ Row.Carried keys target.rows

/-- Whether no two of the rows compared are ordered one way by the key columns while the rows
expected in their places are ordered the other way. -/
def OrderedAlike
    (files : FileTree)
    (comparison : Comparison)
    (keys : List String)
    (rows : List Row) : Prop :=
  ∀ target actual, comparison.equalTo.target files = .ok target →
    comparison.Shows target rows actual →
      Sorted.OrderedAlike (Row.compareBy keys) actual target.rows

end Comparison

/-- A target shows a row with the columns it has. -/
theorem Expected.has_shown
    {files : FileTree}
    {equalTo : Expected}
    {target : Target}
    (found : equalTo.target files = .ok target)
    (row : Row)
    (column : String) :
    (target.shown row).has column = row.has column := by
  cases equalTo with
  | rows expected =>
      obtain rfl := Except.ok.inj found
      rfl
  | table path =>
      obtain ⟨table, -, rfl⟩ := map_eq_ok_iff.mp found
      rw [Bool.eq_iff_iff]
      unfold Row.has Row.get?
      rw [Members.isSome_get?, Members.isSome_get?]
      exact iff_of_eq (congrArg (column ∈ ·) (Row.columns_mapValues _ row))

theorem Row.Carried.map_shown
    {files : FileTree}
    {equalTo : Expected}
    {target : Target}
    {keys : List String}
    {rows : List Row}
    (carried : Row.Carried keys rows)
    (found : equalTo.target files = .ok target) :
    Row.Carried keys (rows.map target.shown) := by
  rcases carried with rfl | carried
  · exact .inl rfl
  · right
    intro key member
    obtain ⟨row, rowMember, has⟩ := carried key member
    exact ⟨_, List.mem_map_of_mem rowMember, (Expected.has_shown found row key).trans has⟩

namespace Comparison

variable {files : FileTree} {equalTo : Expected} {columns without : Option (List String)}
variable {keys : List String} {rows : List Row}

/-- What passes after sorting passes without it in an order in which both sides are ordered
alike. -/
theorem exists_orderedAlike
    (passes : verify files ⟨equalTo, columns, without, some keys⟩ rows = .ok ()) :
    ∃ permuted, permuted.Perm rows ∧
      verify files ⟨equalTo, columns, without, none⟩ permuted = .ok () ∧
        OrderedAlike files ⟨equalTo, columns, without, none⟩ keys permuted := by
  rw [verify_eq_ok_iff] at passes
  obtain ⟨target, actual, found, shows, passes⟩ := passes
  obtain ⟨-, -, matched⟩ := Target.check_some_eq_ok_iff.mp passes
  obtain ⟨placed, places, agreeing, alike⟩ := Sorted.exists_matching_iff.mp matched
  obtain ⟨permuted, permutes, showsPlaced⟩ := exists_perm_forall₂ shows places
  refine ⟨permuted, permutes, ?_, ?_⟩
  · rw [verify_eq_ok_iff]
    exact ⟨target, placed, found, showsPlaced, Target.check_none_eq_ok_iff.mpr agreeing⟩
  · intro other others foundOther showsOthers
    obtain rfl := Except.ok.inj (found.symm.trans foundOther)
    obtain rfl := Shows.unique showsPlaced showsOthers
    exact alike

/-- Rows that pass without sorting in an order in which both sides are ordered alike pass
after it. -/
theorem verify_of_orderedAlike
    {permuted : List Row}
    (carried : KeysCarried files ⟨equalTo, columns, without, none⟩ keys rows)
    (permutes : permuted.Perm rows)
    (passes : verify files ⟨equalTo, columns, without, none⟩ permuted = .ok ())
    (alike : OrderedAlike files ⟨equalTo, columns, without, none⟩ keys permuted) :
    verify files ⟨equalTo, columns, without, some keys⟩ rows = .ok () := by
  rw [verify_eq_ok_iff] at passes ⊢
  obtain ⟨target, placed, found, shows, passes⟩ := passes
  have agreeing := Target.check_none_eq_ok_iff.mp passes
  obtain ⟨actual, showsActual, permutesActual⟩ := List.perm_comp_forall₂ permutes.symm shows
  obtain ⟨reshaped, same, rfl⟩ := shows_iff.mp showsActual
  obtain ⟨reshapedCarried, expectedCarried⟩ := carried target reshaped found same
  refine ⟨target, _, found, showsActual, Target.check_some_eq_ok_iff.mpr ?_⟩
  exact ⟨reshapedCarried.map_shown found, expectedCarried, Sorted.exists_matching_iff.mpr
    ⟨placed, permutesActual.symm, agreeing, alike target placed found shows⟩⟩

/-- Rows that are not reshaped pass against literal rows if and only if they agree place by
place. -/
theorem verify_literal_eq_ok_iff {expected : List Row} :
    verify files ⟨.rows expected, none, none, none⟩ rows = .ok () ↔
      List.Forall₂ Row.AgreesWith rows expected :=
  mapError_eq_ok_iff.trans Row.Standard.literal.checkWith_eq_ok_iff

/-! ## Two numbers that agree -/

section Samples

/-- The integer one. -/
def integerOne : Number :=
  .integer 1

/-- The double one. -/
def doubleOne : Number :=
  .double ⟨false, 1023 * 2 ^ 52, by decide⟩ (by decide)

/-- A row with a number and a text. -/
def sample (number : Number) (text : String) : Row :=
  ⟨[("k", .number number), ("v", .text text)], by simp [Members.names]⟩

theorem sample_agreesWith_iff
    {left right : Number}
    {leftText rightText : String} :
    (sample left leftText).AgreesWith (sample right rightText) ↔
      left.agree right = true ∧ leftText = rightText := by
  rw [← @Row.literalDifferences_eq_nil_iff 1]
  simp [Row.literalDifferences, Row.cellDifference?_eq_none_iff, sample, Row.get?, Members.get?,
    Row.columns, Members.names, Row.has, Value.agree]

/-- Of two samples with different texts one agrees with a sample only by its text. -/
theorem eq_sample_of_agreesWith
    {row : Row}
    {number number' other : Number}
    {text text' : String}
    (member : row = sample number text ∨ row = sample number' text')
    (agrees : row.AgreesWith (sample other text))
    (distinct : text' ≠ text) :
    row = sample number text := by
  rcases member with same | rfl
  · exact same
  · exact absurd (sample_agreesWith_iff.mp agrees).2 distinct

/-- The integer stands before the double. -/
theorem compareBy_integerOne_doubleOne (left right : String) :
    Row.compareBy ["k"] (sample integerOne left) (sample doubleOne right) = .lt := by
  have below : (Value.number integerOne).compare (.number doubleOne) = .lt := by
    decide +kernel
  simp [Row.compareBy, Row.compareIn, Row.compareCells, sample, Row.get?, Members.get?, below]

theorem keysCarried_sample
    {number number' : Number}
    {text text' : String}
    {rest rest' : List Row} :
    KeysCarried files ⟨.rows (sample number text :: rest), none, none, none⟩ ["k"]
      (sample number' text' :: rest') := by
  have has (number : Number) (text : String) : (sample number text).has "k" = true := rfl
  intro target reshaped found same
  obtain rfl := Except.ok.inj found
  obtain rfl := Except.ok.inj same
  exact ⟨.inr (by simp [has]), .inr (by simp [has])⟩

/-- Two rows with the integer and the double pass in their order against themselves. -/
theorem samples_pass (files : FileTree) :
    verify files ⟨.rows [sample integerOne "a", sample doubleOne "b"], none, none, none⟩
      [sample integerOne "a", sample doubleOne "b"] = .ok () := by
  have integerAgrees : integerOne.agree integerOne = true := by decide +kernel
  have doubleAgrees : doubleOne.agree doubleOne = true := by decide +kernel
  rw [verify_literal_eq_ok_iff]
  exact .cons (sample_agreesWith_iff.mpr ⟨integerAgrees, rfl⟩)
    (.cons (sample_agreesWith_iff.mpr ⟨doubleAgrees, rfl⟩) .nil)

theorem samples_orderedAlike :
    OrderedAlike files
      ⟨.rows [sample integerOne "a", sample doubleOne "b"], none, none, none⟩ ["k"]
      [sample integerOne "a", sample doubleOne "b"] := by
  intro target actual found shows
  obtain rfl := Except.ok.inj found
  obtain ⟨reshaped, same, rfl⟩ := shows_iff.mp shows
  obtain rfl := Except.ok.inj same
  rw [List.map_id]
  exact Sorted.orderedAlike_self _

end Samples

/-! ## Sorting and order -/

/-- Sorting by key columns makes a comparison blind to the order of the rows on both sides, and
whatever then passes also passes place by place once the reshaped rows are brought into some
order. -/
theorem verify_orderBy_blind_and_sound
    (files : FileTree)
    (columns without : Option (List String))
    (keys : List String)
    {equalTo reordered : Expected}
    {rows permuted : List Row}
    (reorders : reordered.Reorders equalTo)
    (permutes : permuted.Perm rows) :
    (Expectation.verify files (.rows permuted)
          (.comparison ⟨reordered, columns, without, some keys⟩) = .ok () ↔
        Expectation.verify files (.rows rows)
          (.comparison ⟨equalTo, columns, without, some keys⟩) = .ok ()) ∧
      (Expectation.verify files (.rows rows)
          (.comparison ⟨equalTo, columns, without, some keys⟩) = .ok () →
        ∃ reshaped placed,
          reshape ⟨equalTo, columns, without, some keys⟩ rows = .ok reshaped ∧
            placed.Perm reshaped ∧ equalTo.PassesInPlace files placed) := by
  refine ⟨⟨?_, ?_⟩, exists_passesInPlace⟩
  · exact fun passes => verify_of_reordered passes reorders.symm permutes.symm
  · exact fun passes => verify_of_reordered passes reorders permutes

/-- Two rows in the wrong order pass after sorting, against rows in either order. -/
theorem verify_orderBy_two_rows :
    Expectation.verify ⟨[], []⟩ (.rows [sample doubleOne "b", sample integerOne "a"])
        (.comparison
          ⟨.rows [sample doubleOne "b", sample integerOne "a"], none, none, some ["k"]⟩) =
      .ok () ∧
    ∃ placed : List Row, placed.Perm [sample doubleOne "b", sample integerOne "a"] ∧
      Row.checkLiteral placed [sample integerOne "a", sample doubleOne "b"] = .ok () := by
  have passes :
      verify ⟨[], []⟩
        ⟨.rows [sample integerOne "a", sample doubleOne "b"], none, none, some ["k"]⟩
        [sample doubleOne "b", sample integerOne "a"] = .ok () :=
    verify_of_orderedAlike keysCarried_sample (.swap _ _ _) (samples_pass _)
      samples_orderedAlike
  obtain ⟨blind, sound⟩ := verify_orderBy_blind_and_sound ⟨[], []⟩ none none ["k"]
    (.rows (.swap (sample integerOne "a") (sample doubleOne "b") []))
    (.refl [sample doubleOne "b", sample integerOne "a"])
  obtain ⟨reshaped, placed, same, places, placedPasses⟩ := sound passes
  obtain rfl := Except.ok.inj same
  exact ⟨blind.mpr passes, placed, places, placedPasses⟩

/-- Sorting by key columns keeps exactly what passes without it in some order of the rows in
which both sides are ordered alike. -/
theorem verify_orderBy_iff_exists_orderedAlike
    (files : FileTree)
    (equalTo : Expected)
    (columns without : Option (List String))
    (keys : List String)
    (rows : List Row)
    (carried : KeysCarried files ⟨equalTo, columns, without, none⟩ keys rows) :
    Expectation.verify files (.rows rows)
        (.comparison ⟨equalTo, columns, without, some keys⟩) = .ok () ↔
      ∃ permuted, permuted.Perm rows ∧
        Expectation.verify files (.rows permuted)
          (.comparison ⟨equalTo, columns, without, none⟩) = .ok () ∧
        OrderedAlike files ⟨equalTo, columns, without, none⟩ keys permuted := by
  constructor
  · exact exists_orderedAlike
  · rintro ⟨permuted, permutes, passes, alike⟩
    exact verify_of_orderedAlike carried permutes passes alike

/-- Rows that pass in another order, in which both sides are ordered alike, pass after
sorting. -/
theorem verify_orderBy_two_rows_orderedAlike :
    Expectation.verify ⟨[], []⟩ (.rows [sample doubleOne "b", sample integerOne "a"])
      (.comparison
        ⟨.rows [sample integerOne "a", sample doubleOne "b"], none, none, some ["k"]⟩) =
      .ok () :=
  (verify_orderBy_iff_exists_orderedAlike ⟨[], []⟩ _ none none ["k"] _ keysCarried_sample).mpr
    ⟨_, .swap _ _ _, samples_pass ⟨[], []⟩, samples_orderedAlike⟩

/-- Rows that pass as they stand may fail once both sides are sorted: numbers that agree are
ordered by their texts before the other columns are looked at. -/
theorem verify_orderBy_rejects_agreeing_rows :
    KeysCarried ⟨[], []⟩
        ⟨.rows [sample doubleOne "b", sample integerOne "a"], none, none, none⟩ ["k"]
        [sample integerOne "b", sample doubleOne "a"] ∧
      Expectation.verify ⟨[], []⟩ (.rows [sample integerOne "b", sample doubleOne "a"])
        (.comparison ⟨.rows [sample doubleOne "b", sample integerOne "a"], none, none, none⟩) =
        .ok () ∧
      Expectation.verify ⟨[], []⟩ (.rows [sample integerOne "b", sample doubleOne "a"])
        (.comparison
          ⟨.rows [sample doubleOne "b", sample integerOne "a"], none, none, some ["k"]⟩) ≠
        .ok () := by
  have integerAgrees : integerOne.agree doubleOne = true := by decide +kernel
  have doubleAgrees : doubleOne.agree integerOne = true := by decide +kernel
  refine ⟨keysCarried_sample, ?_, ?_⟩
  · change verify ⟨[], []⟩ _ _ = _
    rw [verify_literal_eq_ok_iff]
    exact .cons (sample_agreesWith_iff.mpr ⟨integerAgrees, rfl⟩)
      (.cons (sample_agreesWith_iff.mpr ⟨doubleAgrees, rfl⟩) .nil)
  · intro passes
    change verify ⟨[], []⟩ _ _ = _ at passes
    obtain ⟨permuted, permutes, passes, alike⟩ := exists_orderedAlike passes
    -- The texts leave one order of the rows that passes, and in it the two numbers of each side
    -- stand in opposite orders.
    cases verify_literal_eq_ok_iff.mp passes with
    | @cons first _ _ _ agrees rest =>
        cases rest with
        | @cons second _ _ _ agrees' rest =>
            cases rest
            have members (row : Row) (member : row ∈ [first, second]) :
                row = sample integerOne "b" ∨ row = sample doubleOne "a" := by
              simpa [ResultSet.toRows] using permutes.mem_iff.mp member
            obtain rfl := eq_sample_of_agreesWith (members first (.head _)) agrees (by decide)
            obtain rfl := eq_sample_of_agreesWith (members second (.tail _ (.head _))).symm
              agrees' (by decide)
            have alike := alike _ _ rfl (.cons rfl (.cons rfl .nil))
            exact alike _ (.tail _ (.head _)) _ (.head _) (compareBy_integerOne_doubleOne _ _)
              (Std.OrientedCmp.gt_of_lt (compareBy_integerOne_doubleOne _ _))

end Comparison
end DataSuite

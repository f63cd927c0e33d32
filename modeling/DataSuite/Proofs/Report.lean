import DataSuite.Proofs.Catalogue.Coloured
import DataSuite.Report

/-!
# Colours and hidden cases

Every line of a coloured report reads as the line of the plain one, and so does the whole report.
The texts of a summary stand in its lines as they are; only the counts are filled into a message,
and neither digits nor sequences have braces.  To hide cases is to leave them out of the summary
whose counts are kept.
-/

namespace DataSuite

/-- Whether the texts of a result have no escape characters. -/
structure CaseResult.EscapeFree (result : CaseResult) : Prop where
  title : Text.EscapeFree result.title
  error : ∀ error ∈ result.error, Text.EscapeFree error
  failures : ∀ failure ∈ result.failures, Text.EscapeFree failure.message

instance : DecidablePred CaseResult.EscapeFree := fun result =>
  decidable_of_iff
    (Text.EscapeFree result.title ∧ (∀ error ∈ result.error, Text.EscapeFree error) ∧
      ∀ failure ∈ result.failures, Text.EscapeFree failure.message)
    ⟨fun ⟨title, error, failures⟩ => ⟨title, error, failures⟩,
      fun ⟨title, error, failures⟩ => ⟨title, error, failures⟩⟩

/-- Whether the name of a summary and the texts of its results have no escape characters. -/
structure Summary.EscapeFree (summary : Summary) : Prop where
  name : Text.EscapeFree summary.name
  results : ∀ result ∈ summary.cases, result.EscapeFree

instance : DecidablePred Summary.EscapeFree := fun summary =>
  decidable_of_iff
    (Text.EscapeFree summary.name ∧ ∀ result ∈ summary.cases, result.EscapeFree)
    ⟨fun ⟨name, results⟩ => ⟨name, results⟩, fun ⟨name, results⟩ => ⟨name, results⟩⟩

namespace Report

open Text (ReadsAs)

/-- The text of a number has digits only. -/
theorem notMem_toString
    {character : Char}
    (noDigit : character.isDigit = false)
    (number : Nat) :
    character ∉ (toString number).toList := by
  intro member
  rw [Nat.toString_eq_ofList_toDigits, String.toList_ofList] at member
  have digit := Nat.isDigit_of_mem_toDigits (by decide) (by decide) member
  rw [noDigit] at digit
  cases digit

theorem escapeFree_toString (number : Nat) : Text.EscapeFree (toString number) :=
  notMem_toString (by decide) number

theorem isSequence_reset : Text.IsSequence Style.reset :=
  ⟨['0'], rfl, rfl⟩

theorem isSequence_opening (style : Style) : Text.IsSequence style.opening := by
  cases style with
  | heading => exact ⟨['1', ';', '4'], rfl, rfl⟩
  | goodMark => exact ⟨['1', ';', '3', '2'], rfl, rfl⟩
  | badMark => exact ⟨['1', ';', '3', '1'], rfl, rfl⟩
  | good => exact ⟨['3', '2'], rfl, rfl⟩
  | bad => exact ⟨['3', '1'], rfl, rfl⟩
  | label => exact ⟨['1'], rfl, rfl⟩

/-- A style does not end inside a text without escape characters. -/
theorem paint_of_escapeFree
    (style : Style)
    {text : String}
    (free : Text.EscapeFree text) :
    paint true style text = style.opening ++ text ++ Style.reset := by
  have opens : Style.reset.toList = Text.escape :: ['[', '0', 'm'] := rfl
  rw [paint, if_pos rfl, Text.replace_of_notMem opens free]

/-- A painted text reads as the text. -/
theorem readsAs_paint
    (style : Style)
    {text : String}
    (free : Text.EscapeFree text) :
    ReadsAs (paint true style text) (paint false style text) := by
  have whole := ((isSequence_opening style).readsAs.append free.readsAs).append
    isSequence_reset.readsAs
  rw [String.empty_append, String.append_empty] at whole
  rw [paint_of_escapeFree style free]
  exact whole

/-- There are no braces in painted numbers. -/
theorem braceless_paint
    (coloured : Bool)
    (style : Style)
    (number : Nat) :
    '\x7b' ∉ (paint coloured style (toString number)).toList := by
  have plain : '\x7b' ∉ (toString number).toList := notMem_toString (by decide) number
  cases coloured with
  | false => exact plain
  | true =>
      have inOpening : '\x7b' ∉ style.opening.toList := by
        cases style <;> decide
      have inReset : '\x7b' ∉ Style.reset.toList := by
        decide
      rw [paint_of_escapeFree style (escapeFree_toString number), String.toList_append,
        String.toList_append, List.mem_append, List.mem_append]
      exact not_or.mpr ⟨not_or.mpr ⟨inOpening, plain⟩, inReset⟩

theorem readsAs_blank : ReadsAs " " " " :=
  Text.EscapeFree.readsAs (by decide)

theorem readsAs_break : ReadsAs "\n" "\n" :=
  Text.EscapeFree.readsAs (by decide)

theorem readsAs_indent : ReadsAs "  " "  " :=
  Text.EscapeFree.readsAs (by decide)

variable {result : CaseResult} {failure : CaseFailure} {summary : Summary}

theorem readsAs_passLine
    (free : Text.EscapeFree result.title) :
    ReadsAs (passLine true result) (passLine false result) :=
  (((readsAs_paint .goodMark (by decide)).append readsAs_blank).append
    (readsAs_paint .good free)).append readsAs_break

theorem escapeFree_failureLabel (failure : CaseFailure) :
    Text.EscapeFree (failureLabel failure) := by
  unfold failureLabel
  split
  · rename_i place _
    exact ((by decide : Text.EscapeFree "assert[").append (escapeFree_toString place)).append
      (by decide)
  · decide

/-- The lines of a failure with a coloured label read as those with a plain one. -/
theorem readsAs_failureLines
    (free : Text.EscapeFree failure.message) :
    List.Forall₂ ReadsAs (failureLines true failure) (failureLines false failure) := by
  have linesFree := free.lines
  unfold failureLines
  cases split : Text.lines failure.message with
  | nil => exact .nil
  | cons first rest =>
      obtain ⟨firstFree, restFree⟩ := List.forall_mem_cons.mp (split ▸ linesFree)
      have label := readsAs_paint .label (escapeFree_failureLabel failure)
      refine .cons ?_ (List.forall₂_same.mpr (List.forall_mem_map.mpr fun line member => ?_))
      · exact (((readsAs_indent.append label).append readsAs_blank).append
          firstFree.readsAs).append readsAs_break
      · exact (((by decide : Text.EscapeFree "    ").readsAs.append
          (restFree line member).readsAs).append readsAs_break)

theorem readsAs_errorLines
    (free : ∀ error ∈ result.error, Text.EscapeFree error) :
    List.Forall₂ ReadsAs (errorLines true result.error) (errorLines false result.error) := by
  cases present : result.error with
  | none => exact .nil
  | some error =>
      have label := readsAs_paint .label (by decide : Text.EscapeFree "error   :")
      have painted := readsAs_paint .bad (free error present)
      exact .cons ((((readsAs_indent.append label).append readsAs_blank).append
        painted).append readsAs_break) .nil

theorem readsAs_failLines
    (free : result.EscapeFree) :
    List.Forall₂ ReadsAs (failLines true result) (failLines false result) := by
  have mark := readsAs_paint .badMark (by decide : Text.EscapeFree "[FAIL]")
  have title := readsAs_paint .badMark free.title
  refine .cons (((mark.append readsAs_blank).append title).append readsAs_break) ?_
  exact List.rel_append (readsAs_errorLines free.error)
    (Text.readsAs_flatMap fun failure member => readsAs_failureLines (free.failures failure member))

/-- The lines of a case read alike whether they are coloured or not. -/
theorem readsAs_caseLines
    (options : ReportOptions)
    (free : result.EscapeFree) :
    List.Forall₂ ReadsAs (caseLines { options with coloured := true } result)
      (caseLines { options with coloured := false } result) := by
  have sameShown : shows { options with coloured := true } result =
      shows { options with coloured := false } result := rfl
  unfold caseLines
  rw [sameShown]
  split
  · exact .nil
  · split
    · exact .cons (readsAs_passLine free.title) .nil
    · exact readsAs_failLines free

theorem readsAs_headingLines
    {name : String}
    (free : Text.EscapeFree name) :
    List.Forall₂ ReadsAs (headingLines true name) (headingLines false name) := by
  unfold headingLines
  split
  · exact .nil
  · exact .cons ((readsAs_paint .heading free).append readsAs_break) .nil

/-- Counts do not change each other when they are filled into a message, coloured or not. -/
theorem readsAs_format_counts
    {language : Language}
    {key message : String}
    (found : Catalogue.lookup? language key = some message)
    {coloured plain : List (String × String)}
    (reads : List.Forall₂ Catalogue.ArgumentReadsAs coloured plain)
    (names : plain.map Prod.fst = ["total", "passed", "failed"])
    (bracelessColoured : ∀ argument ∈ coloured, '\x7b' ∉ argument.2.toList)
    (bracelessPlain : ∀ argument ∈ plain, '\x7b' ∉ argument.2.toList) :
    ReadsAs (Catalogue.format language key coloured) (Catalogue.format language key plain) := by
  have distinct : (plain.map Prod.fst).Nodup := by
    rw [names]
    decide
  have named : ∀ name ∈ plain.map Prod.fst, Catalogue.IsName name.toList := by
    rw [names]
    decide
  exact Catalogue.readsAs_format found reads distinct named bracelessColoured bracelessPlain

theorem readsAs_totalsLine
    (language : Language)
    (summary : Summary) :
    ReadsAs (totalsLine language true summary) (totalsLine language false summary) := by
  obtain ⟨message, found⟩ :
      ∃ message, Catalogue.lookup? language "report-totals" = some message := by
    cases language <;> exact ⟨_, rfl⟩
  have painted (style : Style) (number : Nat) := readsAs_paint style (escapeFree_toString number)
  -- The counts are painted before they are filled in, so sequences must not have braces either.
  have braceless (coloured : Bool) (failedStyle : Style) :
      ∀ argument ∈ (Message.reportTotals (toString summary.total)
        (paint coloured .good (toString summary.passed))
        (paint coloured failedStyle (toString summary.failed))).arguments,
        '\x7b' ∉ argument.2.toList := by
    simp only [Message.arguments, List.forall_mem_cons]
    exact ⟨notMem_toString rfl _, braceless_paint _ _ _, braceless_paint _ _ _,
      List.forall_mem_nil _⟩
  refine (readsAs_format_counts found ?_ rfl (braceless _ _) (braceless _ _)).append readsAs_break
  exact .cons ⟨rfl, (escapeFree_toString _).readsAs⟩
    (.cons ⟨rfl, painted _ _⟩ (.cons ⟨rfl, painted _ _⟩ .nil))

theorem readsAs_expectationLines
    (language : Language)
    (summary : Summary) :
    List.Forall₂ ReadsAs (expectationLines language summary)
      (expectationLines language summary) := by
  obtain ⟨message, found⟩ :
      ∃ message, Catalogue.lookup? language "report-expectations" = some message := by
    cases language <;> exact ⟨_, rfl⟩
  have number (number : Nat) := (escapeFree_toString number).readsAs
  have braceless : ∀ argument ∈ (Message.reportExpectations summary.totalExpectations
      summary.passedExpectations summary.failedExpectations).arguments,
      '\x7b' ∉ argument.2.toList := by
    simp only [Message.arguments, List.forall_mem_cons]
    exact ⟨notMem_toString rfl _, notMem_toString rfl _, notMem_toString rfl _,
      List.forall_mem_nil _⟩
  unfold expectationLines
  split
  · refine .cons ((readsAs_format_counts found ?_ rfl braceless braceless).append
      readsAs_break) .nil
    exact .cons ⟨rfl, number _⟩ (.cons ⟨rfl, number _⟩ (.cons ⟨rfl, number _⟩ .nil))
  · exact .nil

/-- A coloured report reads as the plain one. -/
theorem readsAs_render
    (language : Language)
    (options : ReportOptions)
    (free : summary.EscapeFree) :
    ReadsAs (render language { options with coloured := true } summary)
      (render language { options with coloured := false } summary) := by
  have caseLines := Text.readsAs_flatMap fun result member =>
    readsAs_caseLines options (free.results result member)
  exact ReadsAs.join (List.rel_append
    (List.rel_append (readsAs_headingLines free.name) caseLines)
    (.cons (readsAs_totalsLine language summary) (readsAs_expectationLines language summary)))

/-- A case that is hidden has no lines, and another one has the lines that it always has. -/
theorem caseLines_eq
    (options : ReportOptions)
    (result : CaseResult) :
    caseLines options result =
      if shows options result then
        caseLines { options with hidePasses := false, hideFails := false } result
      else [] := by
  have alwaysShown :
      shows { options with hidePasses := false, hideFails := false } result = true := by
    simp [shows]
  cases shown : shows options result with
  | false => simp [caseLines, shown]
  | true => simp [caseLines, shown, alwaysShown]

/-- Hidden cases are cases that are left out. -/
theorem flatMap_caseLines
    (options : ReportOptions)
    (results : List CaseResult) :
    results.flatMap (caseLines options) =
      (results.filter (shows options)).flatMap
        (caseLines { options with hidePasses := false, hideFails := false }) := by
  induction results with
  | nil => rfl
  | cons first later inductionHypothesis =>
      rw [List.flatMap_cons, inductionHypothesis, caseLines_eq]
      cases shown : shows options first with
      | false => simp [shown]
      | true => simp [shown]

/-- A coloured report becomes the plain one when its sequences are deleted, and a report with hidden
cases is the one of the summary that lacks these cases and has the same counts. -/
theorem colours_and_hiding_change_nothing_else
    (language : Language)
    (options : ReportOptions)
    (summary : Summary) :
    (summary.EscapeFree →
      Text.withoutSequences (render language { options with coloured := true } summary) =
        render language { options with coloured := false } summary) ∧
    render language options summary =
      render language { options with hidePasses := false, hideFails := false }
        { summary with
          cases := summary.cases.filter fun result =>
            if result.passed then !options.hidePasses else !options.hideFails } := by
  constructor
  · intro free
    exact (readsAs_render language options free).withoutSequences_eq
  · have kept := flatMap_caseLines options summary.cases
    unfold render
    rw [kept]
    rfl

/-- The results of three cases: one of them passed, one has a failure of two lines, and one has no
title and has ended early. -/
def lodgings : Summary :=
  ⟨"lodgings", 3, 1, 2,
    [ ⟨"a guest is there", [], none, 2, true⟩,
      ⟨"a room is free", [⟨some 0, "rows:\n1 instead of 2"⟩], none, 1, false⟩,
      ⟨"", [⟨none, ""⟩], some "no such table", 1, false⟩ ],
    4, 2, 2⟩

theorem colours_and_hiding_change_nothing_else_lodgings :
    Text.withoutSequences (render .japanese ⟨true, false, true⟩ lodgings) =
        "lodgings\n[FAIL] a room is free\n  assert[0]: rows:\n    1 instead of 2\n" ++
          "[FAIL] \n  error   : no such table\n" ++
          "合計: 3、成功: 1、失敗: 2\n検証: 4、成功: 2、失敗: 2\n" ∧
      render .japanese ⟨true, false, true⟩ lodgings =
        render .japanese ⟨false, false, true⟩
          { lodgings with cases := lodgings.cases.drop 1 } :=
  have both := colours_and_hiding_change_nothing_else .japanese ⟨true, false, true⟩ lodgings
  ⟨(both.1 (by decide)).trans (by decide +kernel), both.2⟩

end Report
end DataSuite

import DataSuite.Proofs.Text.Words
import DataSuite.Verification

/-!
# Full scans in plans

A step whose line begins with the word for a scan reads all of the table that is named behind it,
or all of the index that is named behind the word for one.  A plan is refused for a name if and
only if one of its steps reads all of what has this name, so that a plan passes if and only if its
parts do.
-/

namespace DataSuite

namespace PlanStep

/-- Whether a step has been told from its line. -/
def Classified (step : PlanStep) : Prop :=
  step = ofDetail step.id step.parent step.detail

/-- Whether the line of a step is laid out in some words. -/
def Reads (step : PlanStep) (words : List String) : Prop :=
  Text.LaidOut words step.detail.toList

/-- Whether a word is a given one but for the case of its letters. -/
abbrev Same (word other : String) : Prop :=
  Text.equalIgnoringCase word other = true

/-- Whether words tell of a scan of a table, whose name may stand behind the word for one. -/
inductive ScansTable (name : String) : List String → Prop where
  | plain {scan : String} (rest : List String) (isScan : Same scan "SCAN") :
      ScansTable name (scan :: name :: rest)
  | legacy {scan table : String} (rest : List String) (isScan : Same scan "SCAN")
      (isTable : Same table "TABLE") :
      ScansTable name (scan :: table :: name :: rest)

/-- Whether words tell of a scan of a table by means of an index. -/
inductive ScansIndex (name index : String) : List String → Prop where
  | plain {scan means word : String} (rest : List String) (isScan : Same scan "SCAN")
      (isMeans : Same means "USING") (isIndex : Same word "INDEX") :
      ScansIndex name index (scan :: name :: means :: word :: index :: rest)
  | covering {scan means covering word : String} (rest : List String) (isScan : Same scan "SCAN")
      (isMeans : Same means "USING") (isCovering : Same covering "COVERING")
      (isIndex : Same word "INDEX") :
      ScansIndex name index (scan :: name :: means :: covering :: word :: index :: rest)

/-- Whether a text is a name, with any blanks around it and in any case. -/
def Names (hint name : String) : Prop :=
  ∃ spelled, Text.LaidOut [spelled] hint.toList ∧ Same spelled name

variable {step : PlanStep} {words : List String} {hint name index : String}

theorem accessOf_of_same
    {first : String}
    (isScan : Same first "SCAN")
    (rest : List String) :
    accessOf (first :: rest) = .fullScan := by
  rw [accessOf, if_pos isScan]

theorem accessOf_eq_fullScan_iff :
    accessOf words = .fullScan ↔ ∃ first rest, words = first :: rest ∧ Same first "SCAN" := by
  constructor
  · intro access
    cases words with
    | nil => cases access
    | cons first rest =>
        refine ⟨first, rest, rfl, by_contra fun notScan => ?_⟩
        rw [accessOf, if_neg notScan] at access
        split at access <;> cases access
  · rintro ⟨first, rest, rfl, isScan⟩
    exact accessOf_of_same isScan rest

/-- A step that has been told from its line is what its words tell. -/
theorem Classified.scans_iff
    (classified : step.Classified)
    (reads : step.Reads words) :
    step.scans hint = true ↔
      accessOf words = .fullScan ∧
        (isNamed hint (tableOf words) = true ∨ isNamed hint (indexOf words) = true) := by
  have split : Text.words step.detail = words := Text.words_eq_iff.mpr reads
  rw [scans, classified, ofDetail]
  simp [split]

/-- A name is found by each text that is this name. -/
theorem Names.isNamed
    (names : Names hint name) :
    isNamed hint (some name) = true := by
  obtain ⟨spelled, laidOut, same⟩ := names
  rw [PlanStep.isNamed, Option.any_some, Text.trim_eq_of_laidOut laidOut,
    Text.equalIgnoringCase_comm]
  exact same

/-- One word is not two different ones. -/
theorem not_same_of_same
    {word first second : String}
    (same : Same word first)
    (different : Text.equalIgnoringCase first second = false) :
    ¬ Same word second := by
  rw [Same, Text.equalIgnoringCase_congr same, different]
  exact Bool.false_ne_true

/-- The table is the first word that is not the word for a table. -/
theorem ScansTable.tableOf_eq
    (scans : ScansTable name words)
    (notTable : ¬ Same name "TABLE") :
    accessOf words = .fullScan ∧ tableOf words = some name := by
  have other : Text.equalIgnoringCase name "TABLE" = false := Bool.eq_false_iff.mpr notTable
  cases scans with
  | plain rest isScan =>
      rw [tableOf, accessOf_of_same isScan]
      simp [other]
  | legacy rest isScan isTable =>
      rw [tableOf, accessOf_of_same isScan]
      simp [other, isTable]

/-- What stands behind the first word for an index is its name. -/
theorem indexOf_append
    {before : List String}
    {word : String}
    (others : ∀ word ∈ before, ¬ Same word "INDEX")
    (isIndex : Same word "INDEX")
    (rest : List String) :
    indexOf (before ++ word :: index :: rest) = some index := by
  induction before with
  | nil =>
      rw [List.nil_append, indexOf, if_pos isIndex]
      rfl
  | cons first before inductionHypothesis =>
      rw [List.forall_mem_cons] at others
      rw [List.cons_append, indexOf, if_neg others.1]
      exact inductionHypothesis others.2

/-- The index is found behind the name of the table. -/
theorem ScansIndex.indexOf_eq
    (scans : ScansIndex name index words)
    (notIndex : ¬ Same name "INDEX") :
    accessOf words = .fullScan ∧ indexOf words = some index := by
  cases scans with
  | @plain scan means _ rest isScan isMeans isIndex =>
      have others : ∀ word ∈ [scan, name, means], ¬ Same word "INDEX" := by
        simpa only [List.forall_mem_cons] using
          ⟨not_same_of_same isScan (by decide), notIndex,
            not_same_of_same isMeans (by decide), List.forall_mem_nil _⟩
      exact ⟨accessOf_of_same isScan _, indexOf_append others isIndex rest⟩
  | @covering scan means covering _ rest isScan isMeans isCovering isIndex =>
      have others : ∀ word ∈ [scan, name, means, covering], ¬ Same word "INDEX" := by
        simpa only [List.forall_mem_cons] using
          ⟨not_same_of_same isScan (by decide), notIndex,
            not_same_of_same isMeans (by decide), not_same_of_same isCovering (by decide),
            List.forall_mem_nil _⟩
      exact ⟨accessOf_of_same isScan _, indexOf_append others isIndex rest⟩

end PlanStep

/-- Whether all steps of a plan have been told from their lines. -/
def Plan.Classified (plan : Plan) : Prop :=
  ∀ step ∈ plan, step.Classified

section Plan

variable {plan : Plan} {step : PlanStep} {words : List String} {hint name index : String}

theorem checkNoFullScan_of_filter_eq_nil
    (unscanned : plan.filter (PlanStep.scans hint) = []) :
    checkNoFullScan plan hint = .ok () := by
  rw [checkNoFullScan, unscanned]

/-- A plan is refused with the lines of all steps that read all of what has the name. -/
theorem checkNoFullScan_of_filter_ne_nil
    (found : plan.filter (PlanStep.scans hint) ≠ []) :
    checkNoFullScan plan hint =
      .error (.fullScan hint ((plan.filter (PlanStep.scans hint)).map PlanStep.detail)
        (plan.map PlanStep.detail)) := by
  unfold checkNoFullScan
  split
  · contradiction
  · rfl

/-- A plan passes if and only if none of its steps reads all of what has the name. -/
theorem checkNoFullScan_eq_ok_iff :
    checkNoFullScan plan hint = .ok () ↔ ∀ step ∈ plan, step.scans hint = false := by
  have filtered : plan.filter (PlanStep.scans hint) = [] ↔
      ∀ step ∈ plan, step.scans hint = false := by
    simp only [List.filter_eq_nil_iff, Bool.not_eq_true]
  rw [← filtered]
  refine ⟨fun passes => by_contra fun found => ?_, checkNoFullScan_of_filter_eq_nil⟩
  rw [checkNoFullScan_of_filter_ne_nil found] at passes
  cases passes

/-- Whether a plan is refused for a name, and this step is told as one of those that read all of
what has the name. -/
def Plan.RefusedFor (plan : Plan) (hint : String) (step : PlanStep) : Prop :=
  ∃ scans, checkNoFullScan plan hint =
    .error (.fullScan hint scans (plan.map PlanStep.detail)) ∧ step.detail ∈ scans

/-- A plan is refused for a name if one of its steps reads all of what has this name. -/
theorem refusedFor_of_scans
    (member : step ∈ plan)
    (scans : step.scans hint = true) :
    plan.RefusedFor hint step := by
  have found : step ∈ plan.filter (PlanStep.scans hint) := List.mem_filter.mpr ⟨member, scans⟩
  exact ⟨_, checkNoFullScan_of_filter_ne_nil (List.ne_nil_of_mem found), List.mem_map_of_mem found⟩

theorem refusedFor_of_scansTable
    (classified : plan.Classified)
    (member : step ∈ plan)
    (reads : step.Reads words)
    (scans : PlanStep.ScansTable name words)
    (notTable : ¬ PlanStep.Same name "TABLE")
    (names : PlanStep.Names hint name) :
    plan.RefusedFor hint step := by
  obtain ⟨access, table⟩ := scans.tableOf_eq notTable
  refine refusedFor_of_scans member (((classified step member).scans_iff reads).mpr ?_)
  exact ⟨access, .inl (table ▸ names.isNamed)⟩

theorem refusedFor_of_scansIndex
    (classified : plan.Classified)
    (member : step ∈ plan)
    (reads : step.Reads words)
    (scans : PlanStep.ScansIndex name index words)
    (notIndex : ¬ PlanStep.Same name "INDEX")
    (names : PlanStep.Names hint index) :
    plan.RefusedFor hint step := by
  obtain ⟨access, found⟩ := scans.indexOf_eq notIndex
  refine refusedFor_of_scans member (((classified step member).scans_iff reads).mpr ?_)
  exact ⟨access, .inr (found ▸ names.isNamed)⟩

/-- A plan in which no line begins with the word for a scan passes for every name. -/
theorem checkNoFullScan_of_no_scan
    (classified : plan.Classified)
    (noScan : ∀ step ∈ plan, ∀ first rest, step.Reads (first :: rest) →
      ¬ PlanStep.Same first "SCAN")
    (hint : String) :
    checkNoFullScan plan hint = .ok () := by
  refine checkNoFullScan_eq_ok_iff.mpr fun step member => Bool.eq_false_iff.mpr fun scans => ?_
  have reads : step.Reads (Text.words step.detail) := Text.words_eq_iff.mp rfl
  obtain ⟨access, -⟩ := ((classified step member).scans_iff reads).mp scans
  obtain ⟨first, rest, split, isScan⟩ := PlanStep.accessOf_eq_fullScan_iff.mp access
  exact noScan step member first rest (split ▸ reads) isScan

/-- A plan passes if and only if its parts do. -/
theorem checkNoFullScan_append_eq_ok_iff {first second : Plan} :
    checkNoFullScan (first ++ second) hint = .ok () ↔
      checkNoFullScan first hint = .ok () ∧ checkNoFullScan second hint = .ok () := by
  simp only [checkNoFullScan_eq_ok_iff, List.forall_mem_append]

end Plan

/-- Full scans are found, and nothing else is taken for one.  A plan told from its lines is refused
if one of them tells of a scan of a table, for every text that names this table, and if it tells of
a scan by means of an index, for every text that names this index, and the line is reported.  It
passes for every name if no line begins with the word for a scan.  Any plan passes if and only if
its parts do. -/
theorem full_scans_found_and_only_these :
    (∀ plan : Plan, plan.Classified → ∀ step ∈ plan, ∀ words, step.Reads words →
      ∀ name, ¬ PlanStep.Same name "TABLE" → ¬ PlanStep.Same name "INDEX" →
        (PlanStep.ScansTable name words →
          ∀ hint, PlanStep.Names hint name → plan.RefusedFor hint step) ∧
        ∀ index, PlanStep.ScansIndex name index words →
          ∀ hint, PlanStep.Names hint index → plan.RefusedFor hint step) ∧
      (∀ plan : Plan, plan.Classified →
        (∀ step ∈ plan, ∀ first rest, step.Reads (first :: rest) →
          ¬ PlanStep.Same first "SCAN") →
        ∀ hint, checkNoFullScan plan hint = .ok ()) ∧
      ∀ (first second : Plan) (hint : String),
        checkNoFullScan (first ++ second) hint = .ok () ↔
          checkNoFullScan first hint = .ok () ∧ checkNoFullScan second hint = .ok () := by
  refine ⟨fun plan classified step member words reads name notTable notIndex => ⟨?_, ?_⟩,
    fun plan => checkNoFullScan_of_no_scan, fun first second hint =>
      checkNoFullScan_append_eq_ok_iff⟩
  · exact fun scans hint => refusedFor_of_scansTable classified member reads scans notTable
  · exact fun index scans hint =>
      refusedFor_of_scansIndex classified member reads scans notIndex

/-- A plan that reads all of a table and then all of an index. -/
def readingAll : Plan :=
  [.ofDetail 2 0 " scan\ttable Hotels ", .ofDetail 3 0 "SCAN t  using Covering INDEX t_v"]

/-- Both scans are found, in any case and with blanks around the name. -/
theorem full_scans_found_readingAll :
    readingAll.Classified ∧
      readingAll.RefusedFor " HOTELS\n" (.ofDetail 2 0 " scan\ttable Hotels ") ∧
      readingAll.RefusedFor "T_V" (.ofDetail 3 0 "SCAN t  using Covering INDEX t_v") ∧
      checkNoFullScan [.ofDetail 4 0 "SEARCH t USING INDEX t_id (id=?)"] "t" = .ok () := by
  have classified : readingAll.Classified := by
    simp [readingAll, Plan.Classified, PlanStep.Classified, PlanStep.ofDetail]
  obtain ⟨finds, passes, -⟩ := full_scans_found_and_only_these
  refine ⟨classified, ?_, ?_, ?_⟩
  · have reads : PlanStep.Reads (.ofDetail 2 0 " scan\ttable Hotels ") ["scan", "table", "Hotels"] :=
      Text.words_eq_iff.mp (by decide)
    obtain ⟨table, -⟩ := finds _ classified _ (.head _) _ reads "Hotels" (by decide) (by decide)
    exact table (.legacy [] (by decide) (by decide)) _
      ⟨"HOTELS", Text.words_eq_iff.mp (by decide), by decide⟩
  · have reads : PlanStep.Reads (.ofDetail 3 0 "SCAN t  using Covering INDEX t_v")
        ["SCAN", "t", "using", "Covering", "INDEX", "t_v"] :=
      Text.words_eq_iff.mp (by decide)
    obtain ⟨-, index⟩ :=
      finds _ classified _ (.tail _ (.head _)) _ reads "t" (by decide) (by decide)
    exact index "t_v" (.covering [] (by decide) (by decide) (by decide) (by decide)) _
      ⟨"T_V", Text.words_eq_iff.mp (by decide), by decide⟩
  · refine passes _ (by simp [Plan.Classified, PlanStep.Classified, PlanStep.ofDetail]) ?_ "t"
    intro step member first rest reads
    obtain rfl := List.mem_singleton.mp member
    have split : ["SEARCH", "t", "USING", "INDEX", "t_id", "(id=?)"] = first :: rest :=
      Eq.trans (by decide) (Text.words_eq_iff.mpr reads)
    rw [← (List.cons.inj split).1]
    decide

end DataSuite

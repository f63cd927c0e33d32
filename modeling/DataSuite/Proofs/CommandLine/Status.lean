import DataSuite.CommandLine.Program
import DataSuite.Proofs.Fallible
import DataSuite.Proofs.Run.Wording
import DataSuite.Proofs.Summary

/-!
# The exit code

The exit code tells whether all suites can be loaded and whether all their cases pass.  A visit to
a suite that cannot be loaded does nothing but set a mark and add an entry to the log, so that the
other suites are listed or checked as they are without it.  What is shown, in which language and
in which order does not matter for the code.
-/

namespace DataSuite

/-! ## Files that load -/

namespace FileTree

variable (files : FileTree) (paths : List String)

/-- The suites at some paths that can be loaded. -/
def loadedSuites : List Suite :=
  paths.filterMap fun path => (Suite.load files path).toOption

/-- Whether there are paths and all suites at them can be loaded. -/
def AllLoad : Prop :=
  paths ≠ [] ∧ ∀ path ∈ paths, ∃ suite, Suite.load files path = .ok suite

/-- Whether all cases pass in the suites at some paths that can be loaded. -/
def AllPass (language titles : Language) : Prop :=
  ∀ suite ∈ files.loadedSuites paths, (suite.check language titles).AllPassed

instance : Decidable (files.AllLoad paths) :=
  decidable_of_iff (paths ≠ [] ∧ ∀ path ∈ paths, (Suite.load files path).isOk = true) (by
    simp only [AllLoad, isOk_iff])

instance (language titles : Language) : Decidable (files.AllPass paths language titles) :=
  inferInstanceAs (Decidable (∀ suite ∈ files.loadedSuites paths, _))

variable {files paths}

theorem loadedSuites_cons_of_ok
    {path : String}
    {suite : Suite}
    (loaded : Suite.load files path = .ok suite) :
    files.loadedSuites (path :: paths) = suite :: files.loadedSuites paths :=
  List.filterMap_cons_some (congrArg Except.toOption loaded)

theorem loadedSuites_cons_of_error
    {path : String}
    {failure : Failure}
    (failed : Suite.load files path = .error failure) :
    files.loadedSuites (path :: paths) = files.loadedSuites paths :=
  List.filterMap_cons_none (congrArg Except.toOption failed)

theorem AllLoad.of_perm
    {order : List String}
    (permuted : order.Perm paths)
    (loads : files.AllLoad paths) :
    files.AllLoad order := by
  refine ⟨fun pathless => loads.1 ?_, fun path member => loads.2 path (permuted.subset member)⟩
  exact (pathless ▸ permuted).nil_eq.symm

theorem AllPass.of_perm
    {order : List String}
    {language titles : Language}
    (permuted : order.Perm paths)
    (passes : files.AllPass paths language titles) :
    files.AllPass order language titles :=
  fun suite member => passes suite ((permuted.filterMap _).subset member)

/-- The languages do not matter for whether all cases pass. -/
theorem allPass_iff (language language' titles titles' : Language) :
    files.AllPass paths language titles ↔ files.AllPass paths language' titles' :=
  forall₂_congr fun suite _ =>
    (suite.sameVerdicts_check language language' titles titles').allPassed_iff

end FileTree

/-! ## What is shown -/

namespace CommandLine

/-- The texts among what is printed, apart from the log. -/
def texts (printed : List Printed) : List String :=
  printed.filterMap fun
    | .text content => some content
    | .entry _ _ => none

@[simp] theorem texts_append (first later : List Printed) :
    texts (first ++ later) = texts first ++ texts later :=
  List.filterMap_append

namespace Work

variable (work : Work)

/-- The lists of the titles in suites, numbered on from a number. -/
def listings : Nat → List Suite → List Printed
  | _, [] => []
  | listed, suite :: rest =>
      (work.line (.availableTests suite.name) :: work.titleLines listed suite.tests) ++
        listings (listed + suite.tests.length) rest

/-- The reports on suites. -/
def reports (suites : List Suite) : List Printed :=
  suites.flatMap fun suite => work.report (suite.check work.language work.titles)

/-- What is shown of suites: their titles are listed, numbered on from a number, or they are
reported on. -/
def shown (listed : Nat) (suites : List Suite) : List Printed :=
  if work.options.has .list then work.listings listed suites else work.reports suites

/-- The results of the cases that are checked in suites. -/
def results (suites : List Suite) : List CaseResult :=
  if work.options.has .list then []
  else suites.flatMap fun suite => (suite.check work.language work.titles).cases

@[simp] theorem shown_nil (listed : Nat) : work.shown listed [] = [] := by
  unfold shown
  split <;> rfl

@[simp] theorem results_nil : work.results [] = [] := by
  unfold results
  split <;> rfl

theorem results_append (first later : List Suite) :
    work.results (first ++ later) = work.results first ++ work.results later := by
  unfold results
  split
  · rfl
  · exact List.flatMap_append

@[simp] theorem texts_tell (area : Area) (entry : LogEntry) :
    texts (work.tell area entry) = [] := by
  unfold tell
  split <;> rfl

@[simp] theorem texts_inform (message : Message) : texts (work.inform message) = [] := by
  unfold inform
  split
  · exact work.texts_tell _ _
  · rfl

@[simp] theorem texts_complain (message : Message) : texts (work.complain message) = [] :=
  work.texts_tell _ _

end Work

/-- The suites among what has been loaded. -/
def suitesIn (loaded : List (String × Except Failure Suite)) : List Suite :=
  loaded.filterMap fun item => item.2.toOption

theorem suitesIn_append (first later : List (String × Except Failure Suite)) :
    suitesIn (first ++ later) = suitesIn first ++ suitesIn later :=
  List.filterMap_append

/-! ## Visits to suites -/

/-- What visits to suites do: they show and check the suites that have been loaded, and mark
whether there is none in some place. -/
structure Visits
    (work : Work)
    (before : Progress)
    (loaded : List (String × Except Failure Suite))
    (after : Progress) : Prop where
  texts : texts after.printed =
    texts before.printed ++ texts (work.shown before.listed (suitesIn loaded))
  /-- Other suites are shown from where these end. -/
  shown : ∀ more, work.shown before.listed (suitesIn loaded ++ more) =
    work.shown before.listed (suitesIn loaded) ++ work.shown after.listed more
  checked : ∀ name results, before.checked = .tally name results →
    after.checked = .tally name (results ++ work.results (suitesIn loaded))
  loadFailed : after.loadFailed = (before.loadFailed || loaded.any fun item => !item.2.isOk)

namespace Visits

variable {work : Work} {before between after : Progress}

/-- Where there is nothing to visit, nothing changes. -/
theorem nil : Visits work before [] before where
  texts := by simp [suitesIn, CommandLine.texts]
  shown := by simp [suitesIn]
  checked := by simp [suitesIn]
  loadFailed := by simp

theorem append
    {first later : List (String × Except Failure Suite)}
    (visitsFirst : Visits work before first between)
    (visitsLater : Visits work between later after) :
    Visits work before (first ++ later) after where
  texts := by
    rw [visitsLater.texts, visitsFirst.texts, suitesIn_append, visitsFirst.shown, texts_append,
      List.append_assoc]
  shown more := by
    rw [suitesIn_append, List.append_assoc, visitsFirst.shown, visitsLater.shown,
      visitsFirst.shown, List.append_assoc]
  checked name results begun := by
    rw [visitsLater.checked name _ (visitsFirst.checked name results begun), suitesIn_append,
      work.results_append, List.append_assoc]
  loadFailed := by
    rw [visitsLater.loadFailed, visitsFirst.loadFailed, List.any_append, Bool.or_assoc]

/-- A suite that cannot be loaded is only marked and complained about. -/
theorem of_failure
    (path : String)
    (failure : Failure) :
    Visits work before [(path, .error failure)]
      (Progress.visit work before (path, .error failure)) := by
  have noSuite : suitesIn [(path, .error failure)] = [] := rfl
  exact
    { texts := by
        rw [noSuite, work.shown_nil]
        exact (texts_append _ _).trans (congrArg (_ ++ ·) (work.texts_complain _))
      shown := by simp [noSuite, Progress.visit, Progress.print]
      checked := by simp [noSuite, Progress.visit, Progress.print]
      loadFailed := by simp [Progress.visit, Except.isOk, Except.toBool] }

/-- The titles in a suite are listed. -/
theorem of_list
    (listing : work.options.has .list = true)
    (path : String)
    (suite : Suite) :
    Visits work before [(path, .ok suite)] (before.list work suite) := by
  have oneSuite : suitesIn [(path, .ok suite)] = [suite] := rfl
  exact
    { texts := by
        simp [oneSuite, Progress.list, Progress.print, Work.shown, Work.listings, listing]
      shown := by simp [oneSuite, Progress.list, Work.shown, Work.listings, listing]
      checked := by simp [Progress.list, Progress.print, Work.results, listing]
      loadFailed := by simp [Progress.list, Progress.print, Except.isOk, Except.toBool] }

/-- A suite is checked and reported on. -/
theorem of_check
    (checking : work.options.has .list = false)
    (path : String)
    (suite : Suite) :
    Visits work before [(path, .ok suite)] (before.check work suite) := by
  have oneSuite : suitesIn [(path, .ok suite)] = [suite] := rfl
  have counted : suite.check work.language work.titles =
      .tally suite.name (suite.check work.language work.titles).cases := by
    rw [Suite.check, Summary.cases_ofCases, Summary.ofCases_eq_tally]
  exact
    { texts := by
        simp [oneSuite, Progress.check, Progress.print, Work.shown, Work.reports, checking]
      shown := by simp [oneSuite, Work.shown, Work.reports, checking]
      checked := by
        intro name results begun
        change before.checked.absorb (suite.check work.language work.titles) = _
        rw [begun, counted, Summary.absorb_tally, oneSuite]
        simp [Work.results, checking]
      loadFailed := by simp [Progress.check, Progress.print, Except.isOk, Except.toBool] }

/-- One visit does what visits do. -/
theorem visit
    (work : Work)
    (before : Progress)
    (loaded : String × Except Failure Suite) :
    Visits work before [loaded] (Progress.visit work before loaded) := by
  obtain ⟨path, result⟩ := loaded
  cases result with
  | error failure => exact of_failure path failure
  | ok suite =>
      by_cases listing : work.options.has .list = true
      · have visited : Progress.visit work before (path, .ok suite) = before.list work suite :=
          if_pos listing
        exact visited ▸ of_list listing path suite
      · have visited : Progress.visit work before (path, .ok suite) = before.check work suite :=
          if_neg listing
        exact visited ▸ of_check (eq_false_of_ne_true listing) path suite

/-- So do all visits, one after the other. -/
theorem foldl_visit
    (work : Work)
    (before : Progress)
    (loaded : List (String × Except Failure Suite)) :
    Visits work before loaded (loaded.foldl (Progress.visit work) before) := by
  induction loaded generalizing before with
  | nil => exact nil
  | cons first rest inductionHypothesis =>
      exact (visit work before first).append (inductionHypothesis _)

end Visits

/-! ## What a code tells -/

/-- What a code tells: 2, that not all suites can be loaded or that there are none; 1, that all can
be loaded and are checked but not all cases pass; and 0, that all can be loaded and titles are
only listed or all cases pass. -/
structure Tells (code : Nat) (loads : Prop) (listing : Bool) (passes : Prop) : Prop where
  two : code = 2 ↔ ¬ loads
  one : code = 1 ↔ loads ∧ listing = false ∧ ¬ passes
  zero : code = 0 ↔ loads ∧ (listing = true ∨ passes)

/-- What is told determines the code. -/
theorem Tells.unique
    {code code' : Nat}
    {loads passes : Prop}
    {listing : Bool}
    (tells : Tells code loads listing passes)
    (tells' : Tells code' loads listing passes) :
    code = code' := by
  by_cases load : loads
  · by_cases good : listing = true ∨ passes
    · rw [tells.zero.mpr ⟨load, good⟩, tells'.zero.mpr ⟨load, good⟩]
    · obtain ⟨checking, bad⟩ := not_or.mp good
      have failing := And.intro load (And.intro (eq_false_of_ne_true checking) bad)
      rw [tells.one.mpr failing, tells'.one.mpr failing]
  · rw [tells.two.mpr load, tells'.two.mpr load]

/-- The code tells what has been marked and counted. -/
theorem Progress.tells_code
    {progress : Progress}
    {loads passes : Prop}
    {listing : Bool}
    (marked : progress.loadFailed = true ↔ ¬ loads)
    (counted : 0 < progress.checked.failed ↔ ¬ (listing = true ∨ passes)) :
    Tells progress.code loads listing passes := by
  by_cases load : loads
  · by_cases good : listing = true ∨ passes
    · have code : progress.code = 0 := by simp [Progress.code, marked, counted, load, good]
      refine ⟨by simp [code, load], ?_, by simp [code, load, good]⟩
      rw [code]
      refine iff_of_false nofun ?_
      rintro ⟨-, checking, bad⟩
      exact bad (good.resolve_left (ne_true_of_eq_false checking))
    · have code : progress.code = 1 := by simp [Progress.code, marked, counted, load, good]
      obtain ⟨checking, bad⟩ := not_or.mp good
      exact ⟨by simp [code, load], by simp [code, load, checking, bad], by simp [code, good]⟩
  · have code : progress.code = 2 := by simp [Progress.code, marked, load]
    exact ⟨by simp [code, load], by simp [code, load], by simp [code, load]⟩

namespace Work

variable (work : Work) (files : FileTree)

/-- The results that are checked have all passed if and only if all cases pass, where these are
checked. -/
theorem results_passed_iff (paths : List String) :
    (∀ result ∈ work.results (files.loadedSuites paths), result.passed = true) ↔
      work.options.has .list = true ∨ files.AllPass paths work.language work.titles := by
  unfold results
  split
  · rename_i listing
    simp [listing]
  · rename_i checking
    rw [List.forall_mem_flatMap]
    exact ⟨.inr, fun passes => passes.resolve_left checking⟩

/-- What is told of all suites that have been loaded shows no text. -/
theorem texts_loadedEntries (loaded : List (String × Except Failure Suite)) :
    texts (work.loadedEntries loaded) = [] := by
  induction loaded with
  | nil => rfl
  | cons first rest inductionHypothesis =>
      obtain ⟨path, result⟩ := first
      cases result with
      | error failure => exact inductionHypothesis
      | ok suite =>
          exact (texts_append _ _).trans
            (congrArg₂ (· ++ ·) (work.texts_tell _ _) inductionHypothesis)

/-- Where there are suites, the texts shown are those of the suites that can be loaded, and the
code tells of all. -/
theorem visitAll_shows_and_tells
    {paths : List String}
    (nonempty : paths ≠ []) :
    texts (work.visitAll files paths).printed = texts (work.shown 0 (files.loadedSuites paths)) ∧
      Tells (work.visitAll files paths).code (files.AllLoad paths) (work.options.has .list)
        (files.AllPass paths work.language work.titles) := by
  let loaded := paths.map fun path => (path, Suite.load files path)
  let start := work.inform (.programVersion programName programVersion)
  let begun : Progress := ⟨start ++ work.loadedEntries loaded, .empty "", false, 0⟩
  have sameSuites : suitesIn loaded = files.loadedSuites paths := List.filterMap_map
  have visits := Visits.foldl_visit work begun loaded
  constructor
  · have nothingYet : texts begun.printed = [] := by
      rw [texts_append, work.texts_inform, work.texts_loadedEntries, List.append_nil]
    have printed := visits.texts
    rw [sameSuites, nothingYet, List.nil_append] at printed
    unfold visitAll
    rw [texts_append, work.texts_inform, List.append_nil]
    exact printed
  · refine Progress.tells_code ?_ ?_
    · rw [visits.loadFailed, Bool.false_or, List.any_map, List.any_eq_true]
      simp [FileTree.AllLoad, nonempty, ← isOk_iff]
    · have counted := visits.checked "" [] rfl
      rw [sameSuites, List.nil_append] at counted
      rw [counted, Summary.failed_tally_pos_iff, results_passed_iff]

/-- The texts shown are those of the suites that can be loaded, and the code tells of all. -/
theorem run_shows_and_tells :
    let paths := files.suites work.options.paths
    texts (work.run files).printed = texts (work.shown 0 (files.loadedSuites paths)) ∧
      Tells (work.run files).code (files.AllLoad paths) (work.options.has .list)
        (files.AllPass paths work.language work.titles) := by
  intro paths
  unfold run
  split
  · rename_i noSuites
    have nothing : paths = [] := noSuites
    have missing : ¬ files.AllLoad paths := fun loads => loads.1 nothing
    constructor
    · rw [work.texts_complain, nothing]
      exact (congrArg texts (work.shown_nil 0)).symm
    · exact ⟨by simp [missing], by simp [missing], by simp [missing]⟩
  · rename_i nonempty
    exact work.visitAll_shows_and_tells files nonempty

end Work

/-! ## Command lines -/

section Arguments

variable (files : FileTree) {arguments : List String} {options : Options}

theorem run_of_valid
    (environment : String → Option String)
    (valid : Options.ofArguments arguments = .ok options) :
    run environment files arguments = (Work.ofOptions environment options).run files := by
  rw [run, valid]

/-- The code tells of the suites at paths in any order, in whatever languages they are checked. -/
theorem tells_of_perm
    (environment : String → Option String)
    (language titles : Language)
    (valid : Options.ofArguments arguments = .ok options)
    {order : List String}
    (permuted : options.paths.Perm order) :
    let paths := files.suites order
    Tells (run environment files arguments).code (files.AllLoad paths) (options.has .list)
      (files.AllPass paths language titles) := by
  intro paths
  have samePaths : (files.suites options.paths).Perm paths := permuted.flatMap_right _
  have sameLoads : files.AllLoad (files.suites options.paths) ↔ files.AllLoad paths :=
    ⟨.of_perm samePaths.symm, .of_perm samePaths⟩
  have samePasses (language' titles' : Language) :
      files.AllPass (files.suites options.paths) language' titles' ↔
        files.AllPass paths language titles :=
    (FileTree.allPass_iff _ _ _ _).trans ⟨.of_perm samePaths.symm, .of_perm samePaths⟩
  obtain ⟨-, tells⟩ := (Work.ofOptions environment options).run_shows_and_tells files
  rw [run_of_valid files environment valid]
  exact propext sameLoads ▸ propext (samePasses _ _) ▸ tells

/-- For arguments that make sense the code tells whether there are suites, all of them can be loaded
and all their cases pass.  It depends on the paths and on whether titles are only listed, but
neither on the order of the paths nor on the environment and the other options.  Whatever else
cannot be loaded, the titles in each suite that can be are listed or its report is shown. -/
theorem code_tells_soundness
    (environment : String → Option String)
    (language titles : Language)
    (valid : Options.ofArguments arguments = .ok options) :
    let paths := files.suites options.paths
    let outcome := run environment files arguments
    Tells outcome.code (files.AllLoad paths) (options.has .list)
        (files.AllPass paths language titles) ∧
      (∀ environment' arguments' options', Options.ofArguments arguments' = .ok options' →
        options'.paths.Perm options.paths → options'.has .list = options.has .list →
          (run environment' files arguments').code = outcome.code) ∧
      texts outcome.printed =
        texts ((Work.ofOptions environment options).shown 0 (files.loadedSuites paths)) := by
  intro paths outcome
  have tells := tells_of_perm files environment language titles valid (.refl _)
  refine ⟨tells, ?_, ?_⟩
  · intro environment' arguments' options' valid' permuted sameList
    have tells' := tells_of_perm files environment' language titles valid' permuted
    exact (sameList ▸ tells').unique tells
  · obtain ⟨shows, -⟩ := (Work.ofOptions environment options).run_shows_and_tells files
    exact (congrArg (texts ·.printed) (run_of_valid files environment valid)).trans shows

/-- A suite with a case that has nothing to do, beside a file that is no suite. -/
def brokenFiles : FileTree :=
  ⟨[("case.json", .file (Utf8.encode "[\x7b\x7d]")), ("none.json", .file (Utf8.encode "7"))], []⟩

/-- A case that does not pass makes the code 1, whatever else is asked for, unless titles are only
listed; a file that is no suite makes it 2, and the case is reported on all the same. -/
theorem codes_of_brokenFiles :
    let codeOf := fun arguments => (run (fun _ => none) brokenFiles arguments).code
    codeOf ["case.json"] = 1 ∧ codeOf ["-q", "--locale=en", "case.json"] = 1 ∧
      codeOf ["-l", "case.json"] = 0 ∧ codeOf ["none.json", "case.json"] = 2 ∧
      ∃ suite, Suite.load brokenFiles "case.json" = .ok suite ∧
        texts (run (fun _ => none) brokenFiles ["none.json", "case.json"]).printed =
          [Report.render .japanese ⟨false, false, true⟩ (suite.check .japanese .japanese)] := by
  intro codeOf
  have valid : Options.ofArguments ["case.json"] = .ok ⟨["case.json"], none, []⟩ := by
    decide +kernel
  have validQuiet : Options.ofArguments ["-q", "--locale=en", "case.json"] =
      .ok ⟨["case.json"], some "en", [.silent]⟩ := by
    decide +kernel
  have validListed : Options.ofArguments ["-l", "case.json"] =
      .ok ⟨["case.json"], none, [.list]⟩ := by
    decide +kernel
  have validBoth : Options.ofArguments ["none.json", "case.json"] =
      .ok ⟨["none.json", "case.json"], none, []⟩ := by
    decide +kernel
  have loads : brokenFiles.AllLoad (brokenFiles.suites ["case.json"]) := by decide +kernel
  have fails : ¬ brokenFiles.AllPass (brokenFiles.suites ["case.json"]) .english .english := by
    decide +kernel
  have missing : ¬ brokenFiles.AllLoad (brokenFiles.suites ["none.json", "case.json"]) := by
    decide +kernel
  obtain ⟨tells, sameCode, -⟩ :=
    code_tells_soundness brokenFiles (fun _ => none) .english .english valid
  obtain ⟨tellsListed, -, -⟩ :=
    code_tells_soundness brokenFiles (fun _ => none) .english .english validListed
  obtain ⟨tellsBoth, -, shows⟩ :=
    code_tells_soundness brokenFiles (fun _ => none) .english .english validBoth
  have one := tells.one.mpr ⟨loads, rfl, fails⟩
  refine ⟨one, (sameCode _ _ _ validQuiet (.refl _) rfl).trans one,
    tellsListed.zero.mpr ⟨loads, .inl rfl⟩, tellsBoth.two.mpr missing, ?_⟩
  have samePaths : brokenFiles.suites ["none.json", "case.json"] = ["none.json", "case.json"] := by
    decide +kernel
  have isSuite : (Suite.load brokenFiles "case.json").isOk = true := by decide +kernel
  have isNoSuite : (Suite.load brokenFiles "none.json").isOk = false := by decide +kernel
  obtain ⟨suite, loaded⟩ := isOk_iff.mp isSuite
  obtain ⟨failure, failed⟩ := isOk_eq_false_iff.mp isNoSuite
  have oneSuite : brokenFiles.loadedSuites ["none.json", "case.json"] = [suite] := by
    rw [FileTree.loadedSuites_cons_of_error failed, FileTree.loadedSuites_cons_of_ok loaded]
    rfl
  refine ⟨suite, loaded, ?_⟩
  rw [samePaths, oneSuite] at shows
  exact shows

end Arguments

end CommandLine
end DataSuite

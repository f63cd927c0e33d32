import DataSuite.CommandLine.LogFilter
import DataSuite.CommandLine.Options
import DataSuite.Report
import DataSuite.Run.Settings
import DataSuite.Suite.Check
import DataSuite.Suite.Discovery

/-!
# The program

The program loads the suites that its arguments name, and lists the titles in them or
checks them and reports on each.  It ends with 2 when a suite cannot be loaded or there is
nothing to do, with 1 when a case cannot pass, and else with 0.
-/

namespace DataSuite
namespace CommandLine

/-- The name of the program. -/
def programName : String :=
  "query-test"

/-- The version of the program. -/
def programVersion : String :=
  "0.1.0"

/-- What entries of the log are about. -/
inductive Area where
  | program
  | suites
deriving DecidableEq

/-- The name of an area. -/
def Area.name : Area → String
  | program => "query_test"
  | suites => "query_test::suite"

/-- A piece of what the program prints. -/
inductive Printed where
  | text (text : String)
  /-- An entry of the log. -/
  | entry (area : Area) (entry : LogEntry)
deriving DecidableEq

/-- The text of a piece.  An entry has a line of its own. -/
def Printed.toText : Printed → String
  | text content => content
  | entry area told =>
      let name := told.level.name
      let padding := String.ofList (List.replicate (5 - name.length) ' ')
      padding ++ name ++ " " ++ area.name ++ ": " ++ told.text ++ "\n"

/-- How the program ends. -/
structure Outcome where
  /-- What it has printed, in order. -/
  printed : List Printed
  code : Nat
deriving DecidableEq

/-- All that the program has printed. -/
def Outcome.text (outcome : Outcome) : String :=
  String.join (outcome.printed.map Printed.toText)

/-- What the program works with once its arguments are understood. -/
structure Work where
  options : Options
  language : Language
  /-- The language of titles. -/
  titles : Language
  filter : LogFilter

namespace Work

/-- The variable that may hold a filter. -/
def filterVariable : String :=
  "RUST_LOG"

/-- The filter without the variable. -/
def defaultFilter (verbose : Bool) : String :=
  if verbose then "query_test=info" else "query_test=warn"

/-- The work that options ask for in an environment. -/
def ofOptions (environment : String → Option String) (options : Options) : Work :=
  let settings := Settings.ofEnvironment environment
  let settings :=
    match options.locale with
    | some locale => { settings with locale := Text.trim locale }
    | none => settings
  let filter := (environment filterVariable).getD (defaultFilter (options.has .verbose))
  { options := options
    language := Language.detect environment
    titles := settings.titles
    filter := LogFilter.ofText filter }

/-- An entry of the log where it is printed. -/
def tell (work : Work) (area : Area) (entry : LogEntry) : List Printed :=
  if work.filter.prints area.name entry.level then [.entry area entry] else []

/-- A message about the progress where it is wanted. -/
def inform (work : Work) (message : Message) : List Printed :=
  if work.options.has .verbose && !work.options.has .silent then
    work.tell .program ⟨.info, message.text work.language⟩
  else []

/-- A message about what cannot be done. -/
def complain (work : Work) (message : Message) : List Printed :=
  work.tell .program ⟨.error, message.text work.language⟩

/-- A message in a line of its own. -/
def line (work : Work) (message : Message) : Printed :=
  .text (message.text work.language ++ "\n")

/-- How reports are shown. -/
def reportOptions (work : Work) : ReportOptions :=
  ⟨work.options.has .hidePasses, work.options.has .hideFails, !work.options.has .noColour⟩

/-- The numbered titles of cases. -/
def titleLines (work : Work) (index : Nat) : List TestCase → List Printed
  | [] => []
  | test :: rest =>
      work.line (.testItem (index + 1) (test.title.resolve work.titles)) ::
        work.titleLines (index + 1) rest

/-- The report of a check. -/
def report (work : Work) (summary : Summary) : List Printed :=
  if work.options.has .silent then []
  else [.text (Report.render work.language work.reportOptions summary)]

end Work

/-- What has been done so far. -/
structure Progress where
  /-- What has been printed. -/
  printed : List Printed
  /-- The cases that have been checked. -/
  checked : Summary
  /-- Whether a suite could not be loaded. -/
  loadFailed : Bool
  /-- The number of titles listed. -/
  listed : Nat

namespace Progress

/-- Print something more. -/
def print (progress : Progress) (printed : List Printed) : Progress :=
  { progress with printed := progress.printed ++ printed }

/-- List the titles in a suite. -/
def list (progress : Progress) (work : Work) (suite : Suite) : Progress :=
  let heading := work.line (.availableTests suite.name)
  let lines := work.titleLines progress.listed suite.tests
  { progress.print (heading :: lines) with listed := progress.listed + suite.tests.length }

/-- Check a suite. -/
def check (progress : Progress) (work : Work) (suite : Suite) : Progress :=
  let size := Message.suiteSize suite.name suite.installations.length suite.tests.length
  let summary := suite.check work.language work.titles
  { progress.print (work.inform size ++ work.report summary) with
    checked := progress.checked.absorb summary }

/-- Deal with the suite at a path, if it could be loaded. -/
def visit (work : Work) (progress : Progress) (loaded : String × Except Failure Suite) :
    Progress :=
  match loaded with
  | (path, .error failure) =>
      let message := Message.suiteNotLoaded path (failure.display work.language)
      { progress.print (work.complain message) with loadFailed := true }
  | (_, .ok suite) =>
      if work.options.has .list then progress.list work suite else progress.check work suite

/-- The exit code. -/
def code (progress : Progress) : Nat :=
  if progress.loadFailed then 2 else if 0 < progress.checked.failed then 1 else 0

end Progress

namespace Work

/-- What is told about suites that have been loaded. -/
def loadedEntries (work : Work) (loaded : List (String × Except Failure Suite)) :
    List Printed :=
  loaded.flatMap fun (path, suite) =>
    match suite with
    | .ok suite => work.tell .suites (suite.loadedEntry work.language path)
    | .error _ => []

/-- Deal with the suites at some paths. -/
def visitAll (work : Work) (files : FileTree) (paths : List String) : Outcome :=
  let loaded := paths.map fun path => (path, Suite.load files path)
  let start := work.inform (.programVersion programName programVersion)
  let begun : Progress := ⟨start ++ work.loadedEntries loaded, .empty "", false, 0⟩
  let progress := loaded.foldl (Progress.visit work) begun
  let summary := progress.checked
  let finished := Message.allFinished summary.total summary.passed summary.failed
  ⟨progress.printed ++ work.inform finished, progress.code⟩

/-- Find the suites and deal with them. -/
def run (work : Work) (files : FileTree) : Outcome :=
  match files.suites work.options.paths with
  | [] => ⟨work.complain .noSuites, 2⟩
  | paths => work.visitAll files paths

end Work

/-- The flags with their keys in the catalogues. -/
def help : List (String × String) :=
  [ ("    --locale <LOCALE>", "cli-locale"),
    ("-l, --list", "cli-list"),
    ("-q, --silent", "cli-silent"),
    ("    --no-color", "cli-no-color"),
    ("-v, --verbose", "cli-verbose"),
    ("-f, --hide-fails", "cli-hide-fails"),
    ("-p, --hide-passes", "cli-hide-passes") ]

/-- How the program is called. -/
def usage : String :=
  "Usage: " ++ programName ++ " [OPTIONS] <TEST_PATHS>..."

/-- What is printed as help. -/
def helpText (language : Language) : String :=
  let lines := help.map fun (flag, key) => "  " ++ flag ++ "  " ++ Catalogue.get language key
  Text.joined "\n" ([Catalogue.get language "cli-about", "", usage, ""] ++ lines) ++ "\n"

/-- How the program ends when there is nothing to do. -/
def refuse (language : Language) : Refusal → Outcome
  | .usage => ⟨[], 2⟩
  | .help => ⟨[.text (helpText language)], 0⟩
  | .version => ⟨[.text (programName ++ " " ++ programVersion ++ "\n")], 0⟩

/-- Run the program in an environment with files. -/
def run (environment : String → Option String) (files : FileTree) (arguments : List String) :
    Outcome :=
  match Options.ofArguments arguments with
  | .error refusal => refuse (Language.detect environment) refusal
  | .ok options => (Work.ofOptions environment options).run files

end CommandLine
end DataSuite

import DataSuite.Catalogue.Lookup

/-!
# Messages

Each message of the program is a constructor with its arguments.  Its text is the entry of
the catalogue under its key, with the arguments filled in.
-/

namespace DataSuite

/-- A message that the catalogues have. -/
inductive Message where
  | availableTests (suite : String)
  | testItem (index : Nat) (title : String)
  | programVersion (name version : String)
  | suiteSize (name : String) (installations tests : Nat)
  | allFinished (total passed failed : Nat)
  | installing (suite : String) (count : Nat)
  | suiteFinished (suite : String) (passed failed : Nat)
  | cleaningUp (suite : String) (count : Nat)
  | suiteLoaded (file : String) (count : Nat)
  | executing (directive : String)
  | executed (count : Nat)
  | casePassed (title : String)
  | caseFailed (title : String)
  | cleanupFailed (error : String)
  | installationFailed (error : String)
  | discoveryFailed
  | noSuites
  | suiteNotLoaded (file error : String)
  /-- The step that connects to a backend. -/
  | connecting
  /-- The step that releases a connection. -/
  | releasing
  | reportTotals (total passed failed : String)
  | reportExpectations (total passed failed : Nat)
  /-- There are more or fewer results than expectations. -/
  | countMismatch (expected actual : Nat)
  | rowCount (expected actual : Nat)
  /-- A cell is not as expected. -/
  | cell (row : Nat) (column expected actual : String)
  | missingColumn (row : Nat) (column : String)
  | extraColumn (row : Nat) (column : String)
  /-- The columns of a row are not the headers. -/
  | columnOrder (row : Nat) (expected actual : String)
  | unknownColumn (column available : String)
  /-- Further differences are not listed. -/
  | moreDifferences (count : Nat)
  /-- A plan reads a whole table. -/
  | fullScan (table detail : String)
  /-- There are rows where none are expected. -/
  | rowsUnexpected
  /-- A table is not to be read as a whole. -/
  | noFullScan (table : String)
  /-- Rows are expected of a step without results. -/
  | emptySlot
  /-- Rows are expected of some loads. -/
  | rowsAfterLoad (indexes : String)
  /-- Only a plan can be checked for full scans. -/
  | planNeeded (table : String)
  | wrongPhase (expected actual : String)
deriving DecidableEq

namespace Message

/-- The key of a message in the catalogues. -/
def key : Message → String
  | .availableTests _ => "available-tests-in"
  | .testItem _ _ => "test-list-item"
  | .programVersion _ _ => "info-version"
  | .suiteSize _ _ _ => "info-suite"
  | .allFinished _ _ _ => "info-all-finished"
  | .installing _ _ => "info-installing"
  | .suiteFinished _ _ _ => "info-suite-finished"
  | .cleaningUp _ _ => "info-cleanup"
  | .suiteLoaded _ _ => "debug-suite-loaded"
  | .executing _ => "debug-directive"
  | .executed _ => "debug-directive-done"
  | .casePassed _ => "debug-case-passed"
  | .caseFailed _ => "warn-case-failed"
  | .cleanupFailed _ => "warn-cleanup-failed"
  | .installationFailed _ => "error-installation-failed"
  | .discoveryFailed => "error-discover"
  | .noSuites => "error-no-suites"
  | .suiteNotLoaded _ _ => "error-suite-load"
  | .connecting => "step-connect"
  | .releasing => "step-release"
  | .reportTotals _ _ _ => "report-totals"
  | .reportExpectations _ _ _ => "report-expectations"
  | .countMismatch _ _ => "failure-count-mismatch"
  | .rowCount _ _ => "failure-row-count"
  | .cell _ _ _ _ => "failure-cell"
  | .missingColumn _ _ => "failure-missing-column"
  | .extraColumn _ _ => "failure-extra-column"
  | .columnOrder _ _ _ => "failure-column-order"
  | .unknownColumn _ _ => "failure-unknown-column"
  | .moreDifferences _ => "failure-more-diffs"
  | .fullScan _ _ => "failure-full-scan"
  | .rowsUnexpected => "failure-expected-nothing"
  | .noFullScan _ => "expected-no-full-scan"
  | .emptySlot => "invalid-expectation-for-empty"
  | .rowsAfterLoad _ => "invalid-expectation-after-load"
  | .planNeeded _ => "invalid-fullscan-target"
  | .wrongPhase _ _ => "invalid-phase"

/-- The arguments of a message in the order in which they are filled in. -/
def arguments : Message → List (String × String)
  | .availableTests suite => [("suite", suite)]
  | .testItem index title => [("index", toString index), ("title", title)]
  | .programVersion name version => [("name", name), ("version", version)]
  | .suiteSize name installations tests =>
      [("name", name), ("installations", toString installations), ("tests", toString tests)]
  | .allFinished total passed failed =>
      [("total", toString total), ("passed", toString passed), ("failed", toString failed)]
  | .installing suite count => [("suite", suite), ("count", toString count)]
  | .suiteFinished suite passed failed =>
      [("suite", suite), ("passed", toString passed), ("failed", toString failed)]
  | .cleaningUp suite count => [("suite", suite), ("count", toString count)]
  | .suiteLoaded file count => [("file", file), ("count", toString count)]
  | .executing directive => [("directive", directive)]
  | .executed count => [("count", toString count)]
  | .casePassed title => [("title", title)]
  | .caseFailed title => [("title", title)]
  | .cleanupFailed error => [("error", error)]
  | .installationFailed error => [("error", error)]
  | .suiteNotLoaded file error => [("file", file), ("error", error)]
  | .reportTotals total passed failed =>
      [("total", total), ("passed", passed), ("failed", failed)]
  | .reportExpectations total passed failed =>
      [("total", toString total), ("passed", toString passed), ("failed", toString failed)]
  | .countMismatch expected actual =>
      [("expected", toString expected), ("actual", toString actual)]
  | .rowCount expected actual => [("expected", toString expected), ("actual", toString actual)]
  | .cell row column expected actual =>
      [("row", toString row), ("column", column), ("expected", expected), ("actual", actual)]
  | .missingColumn row column => [("row", toString row), ("column", column)]
  | .extraColumn row column => [("row", toString row), ("column", column)]
  | .columnOrder row expected actual =>
      [("row", toString row), ("expected", expected), ("actual", actual)]
  | .unknownColumn column available => [("column", column), ("available", available)]
  | .moreDifferences count => [("count", toString count)]
  | .fullScan table detail => [("table", table), ("detail", detail)]
  | .noFullScan table => [("table", table)]
  | .rowsAfterLoad indexes => [("indexes", indexes)]
  | .planNeeded table => [("table", table)]
  | .wrongPhase expected actual => [("expected", expected), ("actual", actual)]
  | _ => []

/-- The text of a message in a language. -/
def text (language : Language) (message : Message) : String :=
  Catalogue.format language message.key message.arguments

end Message
end DataSuite

import DataSuite.Catalogue.Message
import DataSuite.Summary

/-!
# Reports

A report shows a summary to a reader: its name, a line for each case that passed, a few
lines for each case that failed, and the counts.  Passed or failed cases may be hidden.
A coloured report puts sequences for a terminal around some of its texts.
-/

namespace DataSuite

/-- How a text stands out. -/
inductive Style where
  /-- The name of a summary. -/
  | heading
  /-- The mark of what is good. -/
  | goodMark
  /-- The mark of what is bad. -/
  | badMark
  | good
  | bad
  /-- The label of a line. -/
  | label
deriving DecidableEq

/-- The sequence that a terminal ends a style with. -/
def Style.reset : String :=
  "\x1b[0m"

/-- The sequence that a terminal begins a style with. -/
def Style.opening : Style → String
  | heading => "\x1b[1;4m"
  | goodMark => "\x1b[1;32m"
  | badMark => "\x1b[1;31m"
  | good => "\x1b[32m"
  | bad => "\x1b[31m"
  | label => "\x1b[1m"

/-- How a summary is shown. -/
structure ReportOptions where
  /-- Whether the cases that passed are left out. -/
  hidePasses : Bool
  /-- Whether the cases that failed are left out. -/
  hideFails : Bool
  /-- Whether texts are coloured. -/
  coloured : Bool
deriving DecidableEq

namespace Report

/-- A text in a style.  A style that ends inside the text begins again behind that place. -/
def paint (coloured : Bool) (style : Style) (text : String) : String :=
  if coloured then
    style.opening ++ Text.replace Style.reset (Style.reset ++ style.opening) text ++ Style.reset
  else text

/-- The line of a case that passed. -/
def passLine (coloured : Bool) (result : CaseResult) : String :=
  paint coloured .goodMark "[OK]" ++ " " ++ paint coloured .good result.title ++ "\n"

/-- The label of a failure. -/
def failureLabel (failure : CaseFailure) : String :=
  match failure.place with
  | some place => "assert[" ++ toString place ++ "]:"
  | none => "assert   :"

/-- The lines of a failure: its label stands in front of the first one. -/
def failureLines (coloured : Bool) (failure : CaseFailure) : List String :=
  match Text.lines failure.message with
  | [] => []
  | first :: rest =>
      ("  " ++ paint coloured .label (failureLabel failure) ++ " " ++ first ++ "\n") ::
        rest.map fun line => "    " ++ line ++ "\n"

/-- The line of what has ended a case early. -/
def errorLines (coloured : Bool) (error : Option String) : List String :=
  match error with
  | none => []
  | some error =>
      ["  " ++ paint coloured .label "error   :" ++ " " ++ paint coloured .bad error ++ "\n"]

/-- The lines of a case that failed. -/
def failLines (coloured : Bool) (result : CaseResult) : List String :=
  (paint coloured .badMark "[FAIL]" ++ " " ++ paint coloured .badMark result.title ++ "\n") ::
    (errorLines coloured result.error ++ result.failures.flatMap (failureLines coloured))

/-- Whether a case is shown. -/
def shows (options : ReportOptions) (result : CaseResult) : Bool :=
  if result.passed then !options.hidePasses else !options.hideFails

/-- The lines of a case. -/
def caseLines (options : ReportOptions) (result : CaseResult) : List String :=
  if !shows options result then []
  else if result.passed then [passLine options.coloured result]
  else failLines options.coloured result

/-- The line of a name. -/
def headingLines (coloured : Bool) (name : String) : List String :=
  if name = "" then [] else [paint coloured .heading name ++ "\n"]

/-- The line of the counts of cases. -/
def totalsLine (language : Language) (coloured : Bool) (summary : Summary) : String :=
  let failedStyle := if 0 < summary.failed then Style.badMark else Style.good
  (Message.reportTotals (toString summary.total)
    (paint coloured .good (toString summary.passed))
    (paint coloured failedStyle (toString summary.failed))).text language ++ "\n"

/-- The line of the counts of expectations, if there are any. -/
def expectationLines (language : Language) (summary : Summary) : List String :=
  if 0 < summary.totalExpectations then
    [ (Message.reportExpectations summary.totalExpectations summary.passedExpectations
        summary.failedExpectations).text language ++ "\n" ]
  else []

/-- The text of a report. -/
def render (language : Language) (options : ReportOptions) (summary : Summary) : String :=
  String.join
    (headingLines options.coloured summary.name ++
      summary.cases.flatMap (caseLines options) ++
      totalsLine language options.coloured summary :: expectationLines language summary)

end Report
end DataSuite

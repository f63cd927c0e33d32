/-!
# The English catalogue

The messages of the program in English.  A name in braces behind a dollar sign stands for an
argument.
-/

namespace DataSuite
namespace Catalogue

/-- The messages in English with their keys. -/
def english : List (String × String) :=
  [ ("cli-about", "Run declarative arrange/act/assert test suites against a data backend"),
    ("cli-locale",
      "Locale test titles are shown in (default: $CHALLENGE_LANGUAGE, then LANG, then ja)"),
    ("cli-list", "Only list the test titles of every suite"),
    ("cli-silent", "Print nothing but errors"),
    ("cli-no-color", "Disable colored output"),
    ("cli-verbose", "Show progress information"),
    ("cli-hide-fails", "Do not show failing test cases"),
    ("cli-hide-passes", "Do not show passing test cases"),
    ("available-tests-in", "Tests in \x7b$suite\x7d:"),
    ("test-list-item", "\x7b$index\x7d: \x7b$title\x7d"),
    ("info-version", "\x7b$name\x7d \x7b$version\x7d"),
    ("info-suite",
      "Suite \x7b$name\x7d: \x7b$installations\x7d installation step(s), \x7b$tests\x7d test case(s)"),
    ("info-all-finished",
      "All suites finished: \x7b$total\x7d test case(s), \x7b$passed\x7d passed, \x7b$failed\x7d failed"),
    ("info-installing",
      "Initializing database for \x7b$suite\x7d (\x7b$count\x7d installation step(s))..."),
    ("info-suite-finished",
      "Suite \x7b$suite\x7d finished: \x7b$passed\x7d passed, \x7b$failed\x7d failed"),
    ("info-cleanup", "Cleaning up \x7b$suite\x7d (\x7b$count\x7d step(s))..."),
    ("debug-suite-loaded", "Loaded \x7b$file\x7d with \x7b$count\x7d test case(s)"),
    ("debug-directive", "Executing \x7b$directive\x7d"),
    ("debug-directive-done", "Directive produced \x7b$count\x7d result set(s)"),
    ("debug-case-passed", "Passed: \x7b$title\x7d"),
    ("warn-case-failed", "Failed: \x7b$title\x7d"),
    ("warn-cleanup-failed", "Cleanup failed: \x7b$error\x7d"),
    ("error-installation-failed", "Installation failed, no test case will run: \x7b$error\x7d"),
    ("error-discover", "Could not collect suite files"),
    ("error-no-suites", "No suite files found"),
    ("error-suite-load", "Could not load \x7b$file\x7d: \x7b$error\x7d"),
    ("step-connect", "connect"),
    ("step-release", "release connection"),
    ("report-totals", "Total: \x7b$total\x7d, Passed: \x7b$passed\x7d, Failed: \x7b$failed\x7d"),
    ("report-expectations",
      "Expectations: \x7b$total\x7d, Passed: \x7b$passed\x7d, Failed: \x7b$failed\x7d"),
    ("failure-count-mismatch",
      "Invalid number of queries is executed: \x7b$expected\x7d expectation(s) for \x7b$actual\x7d result set(s)"),
    ("failure-row-count", "Expected \x7b$expected\x7d row(s), got \x7b$actual\x7d"),
    ("failure-cell",
      "Row \x7b$row\x7d, column \x7b$column\x7d: expected \x7b$expected\x7d, got \x7b$actual\x7d"),
    ("failure-missing-column", "Row \x7b$row\x7d: column \x7b$column\x7d is missing"),
    ("failure-extra-column", "Row \x7b$row\x7d: unexpected column \x7b$column\x7d"),
    ("failure-column-order",
      "Row \x7b$row\x7d: expected columns [\x7b$expected\x7d], got [\x7b$actual\x7d]"),
    ("failure-unknown-column",
      "Column \x7b$column\x7d is not in the result (available: \x7b$available\x7d)"),
    ("failure-more-diffs", "... and \x7b$count\x7d more difference(s)"),
    ("failure-full-scan", "Plan performs a full scan of \x7b$table\x7d: \x7b$detail\x7d"),
    ("failure-expected-nothing", "Expected no rows"),
    ("expected-no-full-scan", "no full scan of \x7b$table\x7d"),
    ("invalid-expectation-for-empty",
      "the step produced no result set, its expectation must be empty"),
    ("invalid-expectation-after-load",
      "assert[\x7b$indexes\x7d] follows a CSV load, which yields no rows; the expectation must be empty"),
    ("invalid-fullscan-target", "noFullscan (\x7b$table\x7d) can only be checked against a plan"),
    ("invalid-phase", "Suite is in phase \x7b$actual\x7d, expected \x7b$expected\x7d") ]

end Catalogue
end DataSuite

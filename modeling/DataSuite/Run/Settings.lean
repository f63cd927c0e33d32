import DataSuite.Catalogue.Language
import DataSuite.FileTree
import DataSuite.Suite.Basic

/-!
# Settings of a run

A run shows titles in a locale and may clean up after the last case.  It tells messages in
a language and reads tables from files.
-/

namespace DataSuite

/-- What can be set for a run. -/
structure Settings where
  /-- The locale of titles. -/
  locale : String
  /-- Whether the suite cleans up after its last case. -/
  cleanups : Bool
deriving DecidableEq

/-- The settings that an environment gives. -/
def Settings.ofEnvironment (environment : String → Option String) : Settings :=
  ⟨(Language.detect environment).name, false⟩

/-- The language of titles. -/
def Settings.titles (settings : Settings) : Language :=
  .ofLocale settings.locale

/-- What a run works with. -/
structure Session where
  suite : Suite
  /-- What has been set. -/
  settings : Settings
  language : Language
  /-- The files with the tables. -/
  files : FileTree

namespace Session

/-- The title of a case. -/
def titleOf (session : Session) (test : TestCase) : String :=
  test.title.resolve session.settings.titles

/-- The titles of all cases. -/
def titles (session : Session) : List String :=
  session.suite.tests.map session.titleOf

end Session
end DataSuite

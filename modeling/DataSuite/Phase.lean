/-!
# Phases of a run

A run installs its suite, then runs the cases, and is done.  If the installation fails the
run is aborted.
-/

namespace DataSuite

/-- How far a run has come. -/
inductive Phase where
  /-- Nothing has been done. -/
  | uninitialized
  /-- The suite is installed. -/
  | installed
  /-- All cases have been run. -/
  | done
  /-- The installation has failed, and no case has been run. -/
  | aborted
deriving DecidableEq

/-- The name of a phase. -/
def Phase.name : Phase → String
  | uninitialized => "Uninitialized"
  | installed => "Installed"
  | done => "Done"
  | aborted => "Aborted"

end DataSuite

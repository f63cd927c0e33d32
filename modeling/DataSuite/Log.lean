/-!
# Log entries

What the program tells about its work is a list of entries, each with a level.  The levels
are ordered by how much is told at them.
-/

namespace DataSuite

/-- The level of a log entry, the gravest one first. -/
inductive Level where
  /-- Something could not be done. -/
  | error
  /-- Something went wrong, and the work goes on. -/
  | warning
  /-- The course of the work. -/
  | info
  /-- The single steps of the work. -/
  | debug
deriving DecidableEq

namespace Level

/-- The name of a level. -/
def name : Level → String
  | error => "ERROR"
  | warning => "WARN"
  | info => "INFO"
  | debug => "DEBUG"

/-- The rank of a level, which grows with the number of entries told. -/
def rank : Level → Nat
  | error => 1
  | warning => 2
  | info => 3
  | debug => 4

end Level

/-- An entry of the log. -/
structure LogEntry where
  level : Level
  /-- What is told. -/
  text : String
deriving DecidableEq

/-- An entry in one line. -/
def LogEntry.line (entry : LogEntry) : String :=
  entry.level.name ++ ": " ++ entry.text

end DataSuite

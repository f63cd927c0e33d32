import DataSuite.Failure
import DataSuite.Json.Reader
import DataSuite.Log
import DataSuite.Suite.Basic
import DataSuite.Yaml.Document

/-!
# Loading suites

A suite is kept in a document, whose format is told by the extension of its path.  The
paths in it are resolved against the directory of the document.
-/

namespace DataSuite

/-- A format of documents. -/
inductive Format where
  | yaml
  | json
deriving DecidableEq

/-- The format of the document at a path. -/
def Format.ofPath? (path : String) : Option Format :=
  match Path.extension path with
  | "yaml" => some .yaml
  | "yml" => some .yaml
  | "json" => some .json
  | _ => none

/-- The greatest depth to which lists and objects are nested in a document in JSON. -/
def jsonDepth : Nat :=
  127

/-- The value of a document. -/
def Format.read? : Format → String → Option Value
  | yaml, text => Yaml.read? text
  | json, text => Json.read? jsonDepth text

/-- The value of the document at a path. -/
def loadDocument (files : FileTree) (path : String) : Except Failure Value :=
  match Format.ofPath? path with
  | none => .error (.specification (.format path))
  | some format =>
      match files.readText path with
      | .error cause => .error (.file path cause)
      | .ok text =>
          match format.read? text with
          | none => .error (.content path .document)
          | some value => .ok value

/-- The suite in the document at a path, which is named after the file. -/
def Suite.load (files : FileTree) (path : String) : Except Failure Suite := do
  let value ← loadDocument files path
  let suite := Suite.ofValue (Path.fileName path) (some (Path.parent path)) value
  suite.mapError .specification

/-- The path that stands for a document which is no file. -/
def inlinePath : String :=
  "<yaml>"

/-- The suite in a document in YAML that is given as a text. -/
def Suite.ofYaml (name : String) (base : Option String) (text : String) :
    Except Failure Suite :=
  match Yaml.read? text with
  | none => .error (.content inlinePath .document)
  | some value => (Suite.ofValue name base value).mapError .specification

/-- What is told about a suite that has been loaded. -/
def Suite.loadedEntry (language : Language) (path : String) (suite : Suite) : LogEntry :=
  ⟨.debug, (Message.suiteLoaded path suite.tests.length).text language⟩

end DataSuite

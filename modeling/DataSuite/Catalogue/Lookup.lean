import DataSuite.Catalogue.English
import DataSuite.Catalogue.Japanese
import DataSuite.Catalogue.Language

/-!
# Looking up messages

A message is looked up in the catalogue of a language and then in the English one.  The
arguments of a message are filled in one after the other.
-/

namespace DataSuite
namespace Catalogue

/-- The messages in a language. -/
def messages : Language → List (String × String)
  | .english => english
  | .japanese => japanese

/-- The message with a key, if any catalogue has it. -/
def lookup? (language : Language) (key : String) : Option String :=
  match (messages language).lookup key with
  | some message => some message
  | none => english.lookup key

/-- What stands in the place of a message that is missing. -/
def missing (key : String) : String :=
  "MISSING: " ++ key

/-- The warning about a message that is missing. -/
def missingWarning (key : String) : String :=
  "Missing translation key: " ++ key

/-- The message with a key. -/
def get (language : Language) (key : String) : String :=
  (lookup? language key).getD (missing key)

/-- The place of an argument in a message. -/
def placeholder (name : String) : String :=
  "\x7b$" ++ name ++ "\x7d"

/-- Fill arguments into a message, one after the other. -/
def fill (message : String) (arguments : List (String × String)) : String :=
  arguments.foldl
    (fun message (name, value) => Text.replace (placeholder name) value message) message

/-- The message with a key and with its arguments filled in. -/
def format (language : Language) (key : String) (arguments : List (String × String)) : String :=
  fill (get language key) arguments

end Catalogue
end DataSuite

import DataSuite.Text.Split

/-!
# Languages

Messages exist in English and in Japanese.  A locale names a language by what stands in
front of its encoding and its region; without a locale that does, the language is
Japanese.
-/

namespace DataSuite

/-- A language that has a catalogue. -/
inductive Language where
  | english
  | japanese
deriving DecidableEq

namespace Language

/-- The name of a language in locales. -/
def name : Language → String
  | english => "en"
  | japanese => "ja"

/-- What a locale says of its language, in lower case. -/
def tagOf (locale : String) : String :=
  let withoutEncoding := Text.before (· == '.') locale
  let tag := Text.before (fun character => character == '_' || character == '-') withoutEncoding
  String.ofList (tag.toList.map Char.toLower)

/-- The language that a locale names. -/
def ofLocale? (locale : String) : Option Language :=
  let tag := tagOf locale
  if tag = "ja" ∨ tag = "jpn" then some japanese
  else if tag = "en" ∨ tag = "eng" then some english
  else none

/-- The language that a locale names, or Japanese. -/
def ofLocale (locale : String) : Language :=
  (ofLocale? locale).getD japanese

/-- The variables that may hold the locale, the most important one first. -/
def localeVariables : List String :=
  ["CHALLENGE_LANGUAGE", "LC_ALL", "LC_MESSAGES", "LANG"]

/-- The language that the first variable with a known locale names, or Japanese. -/
def detect (environment : String → Option String) : Language :=
  (localeVariables.findSome? fun name => (environment name).bind ofLocale?).getD japanese

@[simp] theorem ofLocale_name (language : Language) : ofLocale language.name = language := by
  cases language <;> rfl

end Language
end DataSuite

/-!
# Command-line options

The arguments of the program are flags, one option with a value, and the paths of suites.
They are read from left to right; behind a pair of hyphens all arguments are paths.  No
flag stands there twice.
-/

namespace DataSuite

/-- A flag of the program. -/
inductive Flag where
  /-- Only list titles. -/
  | list
  /-- Print nothing but errors. -/
  | silent
  /-- Print plain text. -/
  | noColour
  /-- Tell about the progress. -/
  | verbose
  /-- Leave out the cases that fail. -/
  | hideFails
  /-- Leave out the cases that pass. -/
  | hidePasses
deriving DecidableEq

namespace Flag

/-- The flag with a long name. -/
def ofName? : String → Option Flag
  | "list" => some list
  | "silent" => some silent
  | "no-color" => some noColour
  | "verbose" => some verbose
  | "hide-fails" => some hideFails
  | "hide-passes" => some hidePasses
  | _ => none

/-- The flag with a letter. -/
def ofLetter? : Char → Option Flag
  | 'l' => some list
  | 'q' => some silent
  | 'v' => some verbose
  | 'f' => some hideFails
  | 'p' => some hidePasses
  | _ => none

end Flag

/-- Why there is nothing to do for some arguments. -/
inductive Refusal where
  /-- The arguments make no sense. -/
  | usage
  | help
  | version
deriving DecidableEq

/-- What the arguments say. -/
structure Options where
  /-- The paths of suites and of directories with suites. -/
  paths : List String
  locale : Option String
  flags : List Flag
deriving DecidableEq

namespace Options

/-- No arguments. -/
def initial : Options :=
  ⟨[], none, []⟩

/-- Whether a flag is given. -/
def has (options : Options) (flag : Flag) : Bool :=
  options.flags.contains flag

/-- Add a flag. -/
def addFlag (options : Options) (flag : Flag) : Except Refusal Options :=
  if options.has flag then .error .usage else .ok { options with flags := flag :: options.flags }

/-- Set the locale. -/
def setLocale (options : Options) (locale : String) : Except Refusal Options :=
  if options.locale.isSome then .error .usage else .ok { options with locale := some locale }

/-- Add a path. -/
def addPath (options : Options) (path : String) : Except Refusal Options :=
  if path = "" then .error .usage else .ok { options with paths := options.paths ++ [path] }

/-- What a letter behind a hyphen says. -/
def addLetter (options : Options) (letter : Char) : Except Refusal Options :=
  match Flag.ofLetter? letter with
  | some flag => options.addFlag flag
  | none =>
      if letter = 'h' then .error .help
      else if letter = 'V' then .error .version
      else .error .usage

/-- The option that takes a value. -/
def localeName : String :=
  "locale"

/-- What a long name without a value says. -/
def addName (options : Options) (name : String) : Except Refusal Options :=
  match Flag.ofName? name with
  | some flag => options.addFlag flag
  | none =>
      if name = "help" then .error .help
      else if name = "version" then .error .version
      else .error .usage

/-- What a long name with a value says. -/
def addValue (options : Options) (name value : String) : Except Refusal Options :=
  if name = localeName then options.setLocale value else .error .usage

/-- Whether an argument can be a value or a path: it is a single hyphen or begins with
another character. -/
def isPlain (argument : List Char) : Bool :=
  argument.head? != some '-' || argument == ['-']

/-- The options once the paths in the arguments are added, all of which are paths. -/
def addPaths (options : Options) (arguments : List String) : Except Refusal Options :=
  arguments.foldlM addPath options

/-- What stands before and behind the first equals sign of a long name. -/
def nameAndValue (text : List Char) : String × Option String :=
  let name := text.takeWhile (· != '=')
  match text.dropWhile (· != '=') with
  | [] => (String.ofList name, none)
  | _ :: value => (String.ofList name, some (String.ofList value))

/-- The options that arguments add. -/
def addAll (options : Options) : List String → Except Refusal Options
  | [] => .ok options
  | argument :: rest =>
      match argument.toList with
      | ['-', '-'] => options.addPaths rest
      | '-' :: '-' :: text =>
          match nameAndValue text with
          | (name, some value) => do addAll (← options.addValue name value) rest
          | (name, none) =>
              if name = localeName then
                match rest with
                | [] => .error .usage
                | value :: rest =>
                    if isPlain value.toList then do addAll (← options.setLocale value) rest
                    else .error .usage
              else do addAll (← options.addName name) rest
      | ['-'] => do addAll (← options.addPath argument) rest
      | '-' :: letters => do addAll (← letters.foldlM addLetter options) rest
      | _ => do addAll (← options.addPath argument) rest

/-- Whether options make sense together: there are paths, and not all cases are hidden. -/
def isComplete (options : Options) : Bool :=
  !options.paths.isEmpty && !(options.has .hideFails && options.has .hidePasses)

/-- The options that arguments give. -/
def ofArguments (arguments : List String) : Except Refusal Options := do
  let options ← initial.addAll arguments
  if options.isComplete then return options else .error .usage

end Options
end DataSuite

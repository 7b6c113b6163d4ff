import RuleText.Table

/-!
# Command line options

The arguments of the command are read from left to right. Words that begin with a dash are options, up to
a word that is nothing but two dashes; the first other word is the source. Letters may be put together
behind one dash, and the value of an option may stand behind an equals sign, directly behind the letter,
or in a word of its own, which then must not look like an option. Asking for help or for the version takes
effect at once, unless something before it is wrong.

Main definitions:

- `Options`: what a run is asked to do;
- `Request`: what the arguments ask for;
- `Request.ofArguments`: reads the arguments.
-/

namespace RuleText

/-- What a run is asked to do. -/
structure Options where
  /-- The path of the document; a dash is standard input. -/
  source : String
  /-- The path to write to instead of standard output. -/
  output : Option String := none
  /-- Properties given as `NAME=VALUE`, in order. -/
  assignments : List String := []
  /-- The path of a JSON object of properties. -/
  propertiesFile : Option String := none
  /-- Only finds out whether the document is well formed. -/
  checkOnly : Bool := false
  /-- Asks for more to be said about a run. -/
  verbose : Bool := false
deriving Repr, DecidableEq

/-- What the arguments of the command ask for. -/
inductive Request where
  | run (options : Options)
  | help
  | version
  /-- The arguments make no sense. -/
  | misuse
deriving Repr, DecidableEq

namespace CommandLine

/-- Options that a value belongs to. -/
inductive Setting where
  | output
  | assignment
  | propertiesFile
deriving Repr, DecidableEq

/-- Options that stand alone. -/
inductive Switch where
  | checkOnly
  | verbose
  | help
  | version
deriving Repr, DecidableEq

/-- Either sort of option. -/
abbrev OptionName := Setting ⊕ Switch

/-- The option of a word. -/
def ofWord? : List Char → Option OptionName
  | ['o', 'u', 't', 'p', 'u', 't'] => some (.inl .output)
  | ['p', 'r', 'o', 'p', 'e', 'r', 't', 'y'] => some (.inl .assignment)
  | ['p', 'r', 'o', 'p', 'e', 'r', 't', 'i', 'e', 's'] => some (.inl .propertiesFile)
  | ['c', 'h', 'e', 'c', 'k'] => some (.inr .checkOnly)
  | ['v', 'e', 'r', 'b', 'o', 's', 'e'] => some (.inr .verbose)
  | ['h', 'e', 'l', 'p'] => some (.inr .help)
  | ['v', 'e', 'r', 's', 'i', 'o', 'n'] => some (.inr .version)
  | _ => none

/-- The option of a letter. -/
def ofLetter? : Char → Option OptionName
  | 'o' => some (.inl .output)
  | 'p' => some (.inl .assignment)
  | 'c' => some (.inl .propertiesFile)
  | 'v' => some (.inr .verbose)
  | 'h' => some (.inr .help)
  | 'V' => some (.inr .version)
  | _ => none

/-- The options read so far; the source may still be missing. -/
structure Draft where
  source : Option String := none
  output : Option String := none
  assignments : List String := []
  propertiesFile : Option String := none
  checkOnly : Bool := false
  verbose : Bool := false
deriving Repr, DecidableEq

namespace Draft

/-- A path given for the first time; it must not be empty. -/
def freshPath (given : Option String) (path : String) : Except Request (Option String) :=
  if given.isSome || path.isEmpty then .error .misuse else .ok (some path)

/-- Puts the value of an option into a draft. Only assignments may be repeated. -/
def set (d : Draft) (setting : Setting) (value : String) : Except Request Draft :=
  match setting with
  | .output =>
    match freshPath d.output value with
    | .ok path => .ok { d with output := path }
    | .error stop => .error stop
  | .propertiesFile =>
    match freshPath d.propertiesFile value with
    | .ok path => .ok { d with propertiesFile := path }
    | .error stop => .error stop
  | .assignment => .ok { d with assignments := d.assignments ++ [value] }

/-- Turns on an option that stands alone. -/
def turnOn (d : Draft) : Switch → Except Request Draft
  | .checkOnly => if d.checkOnly then .error .misuse else .ok { d with checkOnly := true }
  | .verbose => if d.verbose then .error .misuse else .ok { d with verbose := true }
  | .help => .error .help
  | .version => .error .version

/-- Takes a word that is no option. -/
def setSource (d : Draft) (word : String) : Except Request Draft :=
  match freshPath d.source word with
  | .ok path => .ok { d with source := path }
  | .error stop => .error stop

/-- The run that a draft asks for. -/
def toRequest (d : Draft) : Request :=
  match d.source with
  | none => .misuse
  | some source =>
    .run {
      source := source
      output := d.output
      assignments := d.assignments
      propertiesFile := d.propertiesFile
      checkOnly := d.checkOnly
      verbose := d.verbose }

end Draft

/-- A draft, and the option that still waits for its value. -/
abbrev Awaiting := Draft × Option Setting

/-- Reads the letters behind a dash. What follows the letter of an option with a value is the value. -/
def readLetters (d : Draft) : List Char → Except Request Awaiting
  | [] => .ok (d, none)
  | letter :: rest =>
    match ofLetter? letter with
    | none => .error .misuse
    | some (.inr switch) =>
      match d.turnOn switch with
      | .ok d => readLetters d rest
      | .error stop => .error stop
    | some (.inl setting) =>
      match rest with
      | [] => .ok (d, some setting)
      | '=' :: value => (d.set setting (String.ofList value)).map fun d => (d, none)
      | value => (d.set setting (String.ofList value)).map fun d => (d, none)

/-- Reads the word behind two dashes. -/
def readWord (d : Draft) (word : List Char) : Except Request Awaiting :=
  let name := word.takeWhile (· != '=')
  match ofWord? name, word.drop name.length with
  | some (.inr switch), [] => (d.turnOn switch).map fun d => (d, none)
  | some (.inl setting), [] => .ok (d, some setting)
  | some (.inl setting), _ :: value =>
    (d.set setting (String.ofList value)).map fun d => (d, none)
  | some (.inr _), _ :: _ => .error .misuse
  | none, _ => .error .misuse

/-- Reads one argument that is not just two dashes. -/
def readArgument (d : Draft) (argument : String) : Except Request Awaiting :=
  match argument.toList with
  | '-' :: '-' :: word => readWord d word
  | '-' :: letter :: letters => readLetters d (letter :: letters)
  | _ => (d.setSource argument).map fun d => (d, none)

/-- Whether an argument can be the value of the option before it. A dash alone can. -/
def isValue (argument : String) : Bool :=
  argument == "-" || argument.toList.head? != some '-'

/-- Reads arguments none of which is an option. -/
def readSources (d : Draft) : List String → Except Request Draft
  | [] => .ok d
  | argument :: rest =>
    match d.setSource argument with
    | .ok d => readSources d rest
    | .error stop => .error stop

/-- Reads arguments. -/
def readArguments (d : Draft) : List String → Except Request Draft
  | [] => .ok d
  | argument :: rest =>
    if argument = "--" then readSources d rest
    else
      match readArgument d argument with
      | .error stop => .error stop
      | .ok (d, none) => readArguments d rest
      | .ok (d, some setting) =>
        -- the value is the next argument, which must not look like an option
        match rest with
        | [] => .error .misuse
        | value :: rest =>
          if isValue value then
            match d.set setting value with
            | .ok d => readArguments d rest
            | .error stop => .error stop
          else .error .misuse

end CommandLine

/-- What a list of arguments asks for. -/
def Request.ofArguments (arguments : List String) : Request :=
  match CommandLine.readArguments {} arguments with
  | .ok draft => draft.toRequest
  | .error stop => stop

end RuleText

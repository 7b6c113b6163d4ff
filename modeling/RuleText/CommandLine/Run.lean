import RuleText.CommandLine.Host
import RuleText.CommandLine.Options

/-!
# Running the command

A run takes these steps, and the first that fails ends it: load the properties, open the source, then
either check the document, or create the output file, compile, and write what was emitted. The output file
is thus emptied before the document is read; a document with a fault leaves it empty, and a document that
is its own output file is read as empty.

Main definitions:

- `Properties.assign`: assignments on top of properties;
- `checkSource`: the check of a document;
- `run`: a whole run on a host;
- `RunError.report`, `exitCode`: what a failed run says, and the code that a run ends with.
-/

namespace RuleText

/-- Puts assignments into properties, one after the other. -/
def Properties.assign (properties : Properties) : List String → Except PropertiesError Properties
  | [] => .ok properties
  | text :: others =>
    match readAssignment text with
    | none => .error (.invalidAssignment text)
    | some (name, value) => Properties.assign (properties.insert name value) others

/-- The properties of a file that has been read. -/
def Source.properties (source : Source) : Except PropertiesError Properties :=
  match source.failure with
  | some reason => .error (.interrupted reason)
  | none => Properties.ofJsonBytes? source.bytes

/-- Whether a document is well formed. A document that is no text counts as one that cannot be read. -/
def checkSource (source : Source) : Except RunError Unit :=
  match source.program with
  | .ok _ => .ok ()
  | .error (.encoding _) => .error (.transfer "stream did not contain valid UTF-8")
  | .error e => .error e

variable {m : Type → Type} [Monad m] {η : Type} (host : Host m η)

/-- The properties of a file, or none if there is no file. -/
def loadPropertiesFile : Option String → m (Except PropertiesError Properties)
  | none => return .ok {}
  | some path => do
    match ← host.openFile path with
    | .error reason => return .error (.unreadable reason)
    | .ok file => return (← host.readAll file).properties

/-- The properties of a run: those of the file, with the assignments on top. -/
def loadProperties (options : Options) : m (Except PropertiesError Properties) := do
  match ← loadPropertiesFile host options.propertiesFile with
  | .error e => return .error e
  | .ok properties => return properties.assign options.assignments

/-- Opens the document of a run. -/
def openSource (options : Options) : m (Except String η) :=
  if options.source = "-" then return .ok host.standardInput else host.openFile options.source

/-- Opens the place that a run writes to. -/
def openOutput (options : Options) : m (Except String η) :=
  match options.output with
  | none => return .ok host.standardOutput
  | some path => host.createFile path

/-- The sink that an output is which takes so many bytes and refuses more. -/
def refusingSink (taken : Nat) (reason : String) : Sink where
  limit := some taken
  refusal := .system reason

/-- Compiles from one open file into another. How much an output takes shows only when it is written to; what a
run comes to is what it comes to with a sink that takes as much. -/
def compileBetween (properties : Properties) (source output : η) : m (Except RunError Unit) := do
  let document ← host.readAll source
  let (answer, sink) := compile document properties {}
  match ← host.write output sink.taken with
  | .ok () => return answer.map fun _ => ()
  | .error (taken, reason) =>
    return (compile document properties (refusingSink taken reason)).1.map fun _ => ()

/-- A whole run. -/
def run (options : Options) : m (Except RunError Unit) := do
  match ← loadProperties host options with
  | .error e => return .error (.properties e)
  | .ok properties =>
    match ← openSource host options with
    | .error reason => return .error (.transfer reason)
    | .ok source =>
      if options.checkOnly then return checkSource (← host.readAll source)
      else
        -- the output is opened before the source is read
        match ← openOutput host options with
        | .error reason => return .error (.transfer reason)
        | .ok output => compileBetween host properties source output

/-- What the command says when it is asked for its version. -/
def versionLine : String := "empire 0.1.0\n"

/-- What a failed run says on the error stream. -/
def RunError.report (e : RunError) : String :=
  s!"Error: {e.message}\n"

/-- The code that a run ends with. -/
def exitCode : Except RunError Unit → UInt8
  | .ok () => 0
  | .error _ => 1

end RuleText

import RuleText.CommandLine.Run

/-!
# The command

Runs on the real file system. Everything that a run does is said in terms of a host; here is the host that
the system is, and the command around it.
-/

namespace RuleText.Main

/-- Why the system refused, in its own words and with its number. -/
def reason : IO.Error → String
  | .noFileOrDirectory _ code details => numbered details code
  | .permissionDenied _ code details => numbered details code
  | .inappropriateType _ code details => numbered details code
  | .invalidArgument _ code details => numbered details code
  | .resourceExhausted _ code details => numbered details code
  | .resourceBusy code details => numbered details code
  | .resourceVanished code details => numbered details code
  | .unsupportedOperation code details => numbered details code
  | .hardwareFault code details => numbered details code
  | .otherError code details => numbered details code
  | other => toString other
where
  /-- A reason with its number. -/
  numbered (details : String) (code : UInt32) : String :=
    s!"{details} (os error {code})"

/-- Does something with the system and keeps the reason if it refuses. -/
def guarded {α : Type} (action : IO α) : IO (Except String α) := do
  try
    return .ok (← action)
  catch e =>
    return .error (reason e)

/-- Reads everything that a stream gives. -/
partial def drain (stream : IO.FS.Stream) (before : ByteArray) : IO Source := do
  match ← guarded (stream.read 65536) with
  | .error why => return { bytes := before.toList, failure := some why }
  | .ok bytes =>
    if bytes.isEmpty then return { bytes := before.toList } else drain stream (before ++ bytes)

/-- The length of the pieces that are written. -/
def pieceLength : Nat := 512

/-- Writes bytes to a stream, piece by piece. What went before the piece that failed counts as taken. -/
partial def writePieces (stream : IO.FS.Stream) (taken : Nat) (bytes : Bytes) :
    IO (Except (Nat × String) Unit) := do
  if bytes.isEmpty then return .ok ()
  let piece := bytes.take pieceLength
  let written ← guarded do
    stream.write ⟨piece.toArray⟩
    stream.flush
  match written with
  | .error why => return .error (taken, why)
  | .ok () => writePieces stream (taken + piece.length) (bytes.drop pieceLength)

/-- A file as a stream. -/
def openStream (path : String) (mode : IO.FS.Mode) : IO IO.FS.Stream := do
  return IO.FS.Stream.ofHandle (← IO.FS.Handle.mk path mode)

/-- The system as the host of a run. -/
def system (input output : IO.FS.Stream) : Host IO IO.FS.Stream where
  standardInput := input
  standardOutput := output
  openFile path := guarded (openStream path .read)
  createFile path := guarded (openStream path .write)
  readAll stream := drain stream .empty
  write stream bytes := writePieces stream 0 bytes

/-- How the command is used. -/
def usage : String :=
  "\n".intercalate [
    "Usage: empire [OPTIONS] <SOURCE>",
    "",
    "Arguments:",
    "  <SOURCE>  Rule document to compile, - reads standard input",
    "",
    "Options:",
    "  -o, --output <OUTPUT>       Write output to this file instead of standard output",
    "  -p, --property <KEY=VALUE>  Property as KEY=VALUE, may be repeated",
    "  -c, --properties <FILE>     JSON file with an object of property values",
    "      --check                 Only check that the document parses",
    "  -v, --verbose               Enable debug logging",
    "  -h, --help                  Print help",
    "  -V, --version               Print version",
    ""]

end RuleText.Main

open RuleText in
/-- The command. It ends with 0 after a run that went well, with 1 after any other, and with 2 if the
arguments ask for nothing that it can do. -/
def main (arguments : List String) : IO UInt32 := do
  let output ← IO.getStdout
  let errors ← IO.getStderr
  match Request.ofArguments arguments with
  | .help =>
    output.putStr Main.usage
    return 0
  | .version =>
    output.putStr versionLine
    return 0
  | .misuse =>
    errors.putStr Main.usage
    return 2
  | .run options =>
    let answer ← run (Main.system (← IO.getStdin) output) options
    if let .error e := answer then errors.putStr e.report
    return (exitCode answer).toUInt32

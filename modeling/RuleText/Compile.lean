import RuleText.Evaluation.Run
import RuleText.Program.Grammar
import RuleText.Property.Json
import RuleText.Sink.Staged

/-!
# From a document to its output

A document comes in as bytes, and what its program emits goes out through a staged sink. The document is
read to its end, decoded and parsed before anything is emitted, so a document with a fault emits nothing;
what stops a run later leaves the output of the statements before it.

Main definitions:

- `RunError`: everything that can go wrong;
- `Source`: the bytes of a document, and whether reading them fails;
- `compile`: from a source to a sink;
- `compileText`: from text to text.
-/

namespace RuleText

/-- Everything that can go wrong with a document. -/
inductive RunError where
  /-- Reading or writing failed; with the reason of the system. -/
  | transfer (reason : String)
  /-- The document is no text. -/
  | encoding (e : Utf8Error)
  | scan (e : ScanError)
  | parse (e : ParseError) (span : Option Span)
  | eval (e : EvalError)
  | properties (e : PropertiesError)
deriving Repr, DecidableEq

namespace RunError

/-- The error as a message. -/
def message : RunError → String
  | transfer reason => s!"I/O error: {reason}"
  | encoding e => s!"Source is not valid UTF-8: {e.message}"
  | scan e => s!"Tokenize error: {e.message}"
  | parse e span =>
    let place := match span with
      | some span => s!" ({span.describe})"
      | none => ""
    s!"Parse error: {e.message}{place}"
  | eval e => s!"Eval error: {e.message}"
  | properties e => s!"Properties error: {e.message}"

/-- The error of a text that is no program. -/
def ofRead : ReadError → RunError
  | .scan e => scan e
  | .parse e span => parse e span

end RunError

/-- The bytes of a document, and the reason why reading fails behind them, if it does. -/
structure Source where
  bytes : Bytes
  failure : Option String := none
deriving Repr, DecidableEq

/-- The program of a source. -/
def Source.program (source : Source) : Except RunError Program :=
  match source.failure with
  | some reason => .error (.transfer reason)
  | none =>
    match decodeUtf8 source.bytes with
    | .error e => .error (.encoding e)
    | .ok text =>
      match Program.ofText? text with
      | .error e => .error (.ofRead e)
      | .ok program => .ok program

/-- Evaluates the program of a source into a sink. The stage in front of the sink is given up whether the
run ends well or not. -/
def compile (source : Source) (properties : Properties) (sink : Sink) :
    Except RunError Stats × Sink :=
  match source.program with
  | .error e => (.error e, sink)
  | .ok program =>
    let stage : Staged := { sink := sink }
    match program.evaluate properties stage with
    | (.error e, stage) => (.error (.eval e), stage.abandon)
    | (.ok stats, stage) =>
      match stage.finish with
      | (.error fault, stage) => (.error (.transfer fault.message), stage.abandon)
      | (.ok (), stage) => (.ok stats, stage.abandon)

/-- The output of the program of a text. -/
def compileText (text : String) (properties : Properties) : Except RunError String :=
  match compile { bytes := encodeUtf8 text.toList } properties {} with
  | (.error e, _) => .error e
  | (.ok _, sink) =>
    match decodeUtf8 sink.taken with
    | .error e => .error (.encoding e)
    | .ok output => .ok (String.ofList output)

end RuleText

import RuleText.Text.Trim

/-!
# Why no token could be read

A lexer that gives up leaves a trace: what was missing and where, then the constructs it was in the middle
of, from the inside out. A refusal is soft when another kind of token may still be tried and hard when the
construct was entered for good, such as a literal that is never closed.

Main definitions:

- `TraceEntry`, `Refusal`: traces;
- `renderTrace`: a trace as text, with the line and a caret under the place for each entry.
-/

namespace RuleText

/-- What went wrong, or which construct it went wrong in. -/
inductive TraceCause where
  /-- A certain character was missing. -/
  | expectedChar (c : Char)
  /-- A fixed text was missing. -/
  | fixedText
  /-- A text was missing that may stand anywhere further on. -/
  | missingEnd
  /-- At least one character of a class was missing. -/
  | someChars
  /-- Something stood where it must not. -/
  | absence
  /-- No alternative fitted. -/
  | choice
  /-- The construct being read. -/
  | within (construct : String)
deriving Repr, DecidableEq

/-- The name of a cause in a rendered trace. -/
def TraceCause.label : TraceCause → String
  | expectedChar c => s!"expected '{c}'"
  | fixedText => "Tag"
  | missingEnd => "TakeUntil"
  | someChars => "TakeWhile1"
  | absence => "Not"
  | choice => "Alt"
  | within construct => construct

/-- An entry of a trace: the text left where the cause arose, and the cause. -/
structure TraceEntry where
  rest : List Char
  cause : TraceCause
deriving Repr, DecidableEq

/-- Why a lexer gave up; a hard refusal rules out all alternatives. -/
structure Refusal where
  hard : Bool
  trace : List TraceEntry
deriving Repr, DecidableEq

/-! ### Rendering -/

/-- The line that holds a place, given the text before and from it, and the bytes of the line before the
place. White space at the end of the line is left out. -/
def lineAround (before rest : List Char) : List Char × Nat :=
  let start := (before.reverse.takeWhile (· != '\n')).reverse
  (trimEnd ((start ++ rest).takeWhile (· != '\n')), byteLength start)

/-- One entry of a trace over a text: its number, its place by line and caret, and its cause. The caret is put
as far out as the place is. Padding has no limit here, as in standard libraries that take widths as machine
words; one that holds them in 16 bits gives up on lines of more than 65535 bytes. -/
def TraceEntry.render (input : List Char) (index : Nat) (entry : TraceEntry) : String :=
  if input.isEmpty then
    match entry.cause with
    | .expectedChar _ => s!"{index}: {entry.cause.label}, got empty input\n\n"
    | _ => s!"{index}: in {entry.cause.label}, got empty input\n\n"
  else
    let before := input.take (input.length - entry.rest.length)
    let lineNumber := before.count '\n' + 1
    let (line, column) := lineAround before entry.rest
    let place := String.ofList (line ++ '\n' :: List.replicate column ' ' ++ ['^'])
    match entry.cause with
    | .expectedChar _ =>
      let found := match entry.rest with
        | c :: _ => s!"found {c}"
        | [] => "got end of input"
      s!"{index}: at line {lineNumber}:\n{place}\n{entry.cause.label}, {found}\n\n"
    | _ => s!"{index}: at line {lineNumber}, in {entry.cause.label}:\n{place}\n\n"

/-- A trace over a text. -/
def renderTrace (input : List Char) (trace : List TraceEntry) : String :=
  String.join (trace.mapIdx fun index entry => entry.render input index)

end RuleText

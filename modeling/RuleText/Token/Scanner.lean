import RuleText.Token.Lexer

/-!
# Splitting a text into tokens

A scanner splits one text after another into tokens and keeps count of its place throughout, so the spans
of a later text continue where the earlier one stopped. Where no token can be read it stops, at the
beginning of the offending text, and reports what it found there.

Main definitions:

- `ScanError`: where and why a text could not be split;
- `scan`: splits a text from a position, and returns the position reached;
- `tokenize`: splits a text of its own.
-/

namespace RuleText

/-- Where no token could be read, the text left there, and the trace of the attempt. -/
structure ScanError where
  place : Position
  rest : List Char
  trace : List TraceEntry
deriving Repr, DecidableEq

namespace ScanError

/-- The trace as text. -/
def detail (e : ScanError) : String :=
  renderTrace e.rest e.trace

/-- The first characters of the text that could not be split. -/
def found (e : ScanError) : String :=
  String.ofList (e.rest.take 20)

/-- The span that the error points at, one byte long. -/
def span (e : ScanError) : Span :=
  ⟨e.place.offset, e.place.offset + 1, e.place.line, e.place.column⟩

/-- The error as a message. -/
def message (e : ScanError) : String :=
  s!"Parse error: {e.detail} at position {e.span.describe}"

end ScanError

/-- Splits a text into tokens from a position on, at most `fuel` of them; `done` holds the tokens read,
the last one first. The position in the answer is behind the last token read, in any case. -/
def scanLoop : (fuel : Nat) → Position → List Char → (done : List PlacedToken) →
    Except ScanError (List PlacedToken) × Position
  | 0, place, _, done => (.ok done.reverse, place)
  | _ + 1, place, [], done => (.ok done.reverse, place)
  | fuel + 1, place, text@(_ :: _), done =>
    match lexToken text with
    | .ok taken =>
      let next := place.advance taken.lexeme
      scanLoop fuel next taken.rest (⟨taken.value, place.to next⟩ :: done)
    | .error refusal => (.error ⟨place, text, refusal.trace⟩, place)

/-- Splits a text into tokens from a position on, and returns the position reached. A token is at least
one character long, so the length of the text bounds their number. -/
def scan (place : Position) (text : List Char) :
    Except ScanError (List PlacedToken) × Position :=
  scanLoop text.length place text []

/-- Splits texts one after the other, each from where the one before it stopped. -/
def scanAll (place : Position) : List (List Char) → List (Except ScanError (List PlacedToken))
  | [] => []
  | text :: others =>
    let (answer, next) := scan place text
    answer :: scanAll next others

/-- Splits a text into tokens. -/
def tokenize (text : List Char) : Except ScanError (List PlacedToken) :=
  (scan {} text).1

end RuleText

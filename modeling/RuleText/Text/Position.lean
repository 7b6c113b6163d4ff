import RuleText.Text.Trim

/-!
# Places in a text

A position counts bytes from the start of a text, and lines and characters the way a reader does, from
one. A span is a stretch of text with the line and column where it begins. Only a line feed ends a line;
a carriage return is a character like any other.
-/

namespace RuleText

/-- A place in a text: its byte offset, and its line and column counted from one. -/
structure Position where
  offset : Nat := 0
  line : Nat := 1
  column : Nat := 1
deriving Repr, DecidableEq

namespace Position

/-- The position behind a character. -/
def next (p : Position) (c : Char) : Position :=
  if c = '\n' then ⟨p.offset + c.utf8Size, p.line + 1, 1⟩
  else ⟨p.offset + c.utf8Size, p.line, p.column + 1⟩

/-- The position behind a text. -/
def advance (p : Position) (text : List Char) : Position :=
  text.foldl next p

@[simp] theorem advance_nil (p : Position) : p.advance [] = p := rfl

theorem advance_append (p : Position) (a b : List Char) :
    p.advance (a ++ b) = (p.advance a).advance b := by
  simp [advance, List.foldl_append]

theorem offset_advance (p : Position) (text : List Char) :
    (p.advance text).offset = p.offset + byteLength text := by
  induction text generalizing p with
  | nil => simp [advance, byteLength]
  | cons c rest ih =>
    have step : p.advance (c :: rest) = (p.next c).advance rest := rfl
    rw [step, ih]
    by_cases h : c = '\n' <;> simp [next, byteLength, h, Nat.add_assoc]

end Position

/-- A stretch of text by its byte offsets, with the line and column of its start. -/
structure Span where
  start : Nat
  stop : Nat
  line : Nat
  column : Nat
deriving Repr, DecidableEq

/-- The span between two positions. -/
def Position.to (start stop : Position) : Span :=
  ⟨start.offset, stop.offset, start.line, start.column⟩

/-- A span as messages show it. -/
def Span.describe (span : Span) : String :=
  s!"line: {span.line}, column: {span.column}, start: {span.start}, end: {span.stop}"

end RuleText

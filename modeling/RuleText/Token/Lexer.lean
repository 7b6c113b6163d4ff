import RuleText.Token.Basic
import RuleText.Token.Trace

/-!
# Lexers

One lexer for each kind of token. A lexer takes a token off the front of a text, or refuses. What it takes
is handed on in three parts: the token, the characters that it was read from, and the text that is left.
The last two make up the text again, so that places can be counted along the characters that were read.

No two lexers accept the same text, apart from the keyword, which is also a word; so the order in which
they are tried bears only on the trace of a refusal.

Main definitions:

- `Taken`, `Lexer`: what a lexer takes off a text, and lexers in general;
- `lexWhitespace`, `lexNewline`, `lexComment`, `lexLiteral`, `lexKeyword`, `lexDelimiter`,
  `lexIdentifier`: the lexers;
- `lexToken`: the first of them that accepts.
-/

namespace RuleText

/-- A value taken off the front of a text, the characters that it was read from, and the text left. -/
structure Taken (α : Type) where
  value : α
  lexeme : List Char
  rest : List Char
deriving Repr, DecidableEq

/-- A lexer takes a value off the front of a text, or refuses. -/
abbrev Lexer (α : Type) := List Char → Except Refusal (Taken α)

/-- Puts characters in front of those that a value was read from, and changes the value. -/
def Taken.behind {α β : Type} (read : List Char) (f : α → β) (taken : Taken α) : Taken β :=
  ⟨f taken.value, read ++ taken.lexeme, taken.rest⟩

namespace Lexer

variable {α β : Type}

/-- Gives up at a place for a reason. -/
def refuse (rest : List Char) (cause : TraceCause) : Except Refusal (Taken α) :=
  .error ⟨false, [⟨rest, cause⟩]⟩

/-- Names the construct that a lexer reads, for traces. -/
def named (construct : String) (lexer : Lexer α) : Lexer α := fun input =>
  match lexer input with
  | .ok answer => .ok answer
  | .error refusal => .error { refusal with trace := refusal.trace ++ [⟨input, .within construct⟩] }

/-- Applies a function to what a lexer reads. -/
def map (f : α → β) (lexer : Lexer α) : Lexer β := fun input =>
  match lexer input with
  | .ok taken => .ok (taken.behind [] f)
  | .error refusal => .error refusal

/-- A lexer, then one that may depend on what it read. -/
def andThen (lexer : Lexer α) (next : α → Lexer β) : Lexer β := fun input =>
  match lexer input with
  | .ok taken =>
    match next taken.value taken.rest with
    | .ok further => .ok (further.behind taken.lexeme id)
    | .error refusal => .error refusal
  | .error refusal => .error refusal

/-- A lexer that reads as `take` does and never refuses. -/
def taking (take : List Char → Taken α) : Lexer α := fun input =>
  .ok (take input)

/-- Tries lexers in order, given the trace of the last one that was tried and refused. -/
def firstOfFrom (trace : List TraceEntry) : List (Lexer α) → Lexer α
  | [], input => .error ⟨false, trace ++ [⟨input, .choice⟩]⟩
  | lexer :: others, input =>
    match lexer input with
    | .ok answer => .ok answer
    | .error refusal =>
      if refusal.hard then .error refusal else firstOfFrom refusal.trace others input

/-- Tries lexers in order. A hard refusal ends the search, and of soft ones the last is reported. -/
def firstOf (lexers : List (Lexer α)) : Lexer α :=
  firstOfFrom [] lexers

/-- A fixed text. -/
def fixed (text : List Char) : Lexer Unit := fun input =>
  if text.isPrefixOf input then .ok ⟨(), text, input.drop text.length⟩
  else refuse input .fixedText

/-- The longest run out of a class, which may be empty. -/
def takeRun (p : Char → Bool) (input : List Char) : Taken (List Char) :=
  let (read, rest) := input.span p
  ⟨read, read, rest⟩

/-- A longest run, at least one character long, out of a class. -/
def run (p : Char → Bool) : Lexer (List Char) := fun input =>
  let taken := takeRun p input
  if taken.lexeme.isEmpty then refuse input .someChars else .ok taken

/-- An opening character. -/
def opening (c : Char) : Lexer Unit := fun input =>
  match input with
  | d :: rest => if c = d then .ok ⟨(), [c], rest⟩ else refuse input (.expectedChar c)
  | [] => refuse input (.expectedChar c)

/-- A closing character that must be there, once its literal has been opened. -/
def closing (c : Char) : Lexer Unit := fun input =>
  match input with
  | d :: rest => if c = d then .ok ⟨(), [c], rest⟩ else .error ⟨true, [⟨input, .expectedChar c⟩]⟩
  | [] => .error ⟨true, [⟨input, .expectedChar c⟩]⟩

end Lexer

open Lexer

/-! ### White space and comments -/

/-- Spaces and tabs. -/
def isBlank (c : Char) : Bool := c == ' ' || c == '\t'

/-- A run of spaces and tabs. -/
def lexWhitespace : Lexer Token :=
  named "whitespace expected" <| map (fun text => .whitespace (String.ofList text)) (run isBlank)

/-- A line feed, with a carriage return before it or not. -/
def lexNewline : Lexer Token :=
  named "newline expected" <|
    map (fun _ => .newline) (firstOf [fixed ['\r', '\n'], fixed ['\n']])

/-- Characters that end a line comment. -/
def endsLine (c : Char) : Bool := c == '\n' || c == '\r'

/-- A comment up to the end of the line; white space around its content does not count. -/
def lexLineComment : Lexer Token :=
  named "line comment" <| (fixed ['/', '/']).andThen fun _ =>
    map (fun content => .comment .line (String.ofList (trim content)))
      (taking (takeRun (!endsLine ·)))

/-- A comment between marks; it ends at the first closing mark. -/
def lexBlockComment : Lexer Token :=
  named "block comment" <| (fixed ['/', '*']).andThen fun _ input =>
    match splitAtMark ['*', '/'] input with
    | some (content, rest) =>
      .ok ⟨.comment .block (String.ofList content), content ++ ['*', '/'], rest⟩
    | none => refuse input .missingEnd

/-- A comment of either sort. -/
def lexComment : Lexer Token :=
  named "comment" (firstOf [lexBlockComment, lexLineComment])

/-! ### Literals -/

/-- The body of a regular expression up to a slash that no backslash precedes. A slash written with a
backslash stands for itself; a backslash before any other character is kept with it. -/
def takeRegexBody : List Char → Taken (List Char)
  | [] => ⟨[], [], []⟩
  | '/' :: rest => ⟨[], [], '/' :: rest⟩
  -- a backslash with nothing behind it escapes nothing and is no part of the body
  | ['\\'] => ⟨[], [], ['\\']⟩
  | '\\' :: '/' :: rest => (takeRegexBody rest).behind ['\\', '/'] ('/' :: ·)
  | '\\' :: c :: rest => (takeRegexBody rest).behind ['\\', c] (['\\', c] ++ ·)
  | c :: rest => (takeRegexBody rest).behind [c] (c :: ·)

/-- The text of an output block up to a closing brace that no backslash precedes. A brace or a backslash
written with a backslash stands for itself, and a backslash before anything else too. -/
def takeBlockText : List Char → Taken (List Char)
  | [] => ⟨[], [], []⟩
  | '}' :: rest => ⟨[], [], '}' :: rest⟩
  | '\\' :: '\\' :: rest => (takeBlockText rest).behind ['\\', '\\'] ('\\' :: ·)
  | '\\' :: '}' :: rest => (takeBlockText rest).behind ['\\', '}'] ('}' :: ·)
  | c :: rest => (takeBlockText rest).behind [c] (c :: ·)

/-- A regular expression between slashes, behind a tilde. -/
def lexRegex : Lexer Token :=
  named "regex literal" <| (fixed ['~', '/']).andThen fun _ =>
    (taking takeRegexBody).andThen fun body =>
      map (fun _ => .regex (String.ofList body)) (closing '/')

/-- An output block between braces. -/
def lexBlock : Lexer Token :=
  named "output block" <| (opening '{').andThen fun _ =>
    (taking takeBlockText).andThen fun text =>
      map (fun _ => .block (String.ofList ('{' :: text ++ ['}']))) (closing '}')

/-- A literal of either sort. -/
def lexLiteral : Lexer Token :=
  named "literal" (firstOf [lexRegex, lexBlock])

/-! ### Words and delimiters -/

/-- Characters of names and literal patterns. -/
def isIdentifierChar (c : Char) : Bool :=
  isAlphanumeric c || c == '_' || c == '.' || c == '-'

/-- A keyword that does not run on into a longer word. -/
def lexKeyword : Lexer Token :=
  named "keyword" <| (fixed Keyword.bind.text.toList).andThen fun _ input =>
    if input.head?.any isIdentifierChar then refuse input .absence
    else .ok ⟨.keyword .bind, [], input⟩

/-- A delimiter. -/
def lexDelimiter : Lexer Token :=
  named "delimiter" <| firstOf <|
    [Delimiter.openParen, .closeParen, .comma, .equal].map fun d =>
      map (fun _ => .delimiter d) (fixed [d.char])

/-- A word, which is a keyword or an identifier. -/
def lexIdentifier : Lexer Token :=
  map (fun word =>
    match Keyword.ofText? (String.ofList word) with
    | some keyword => .keyword keyword
    | none => .identifier (String.ofList word))
  (named "identifier" (run isIdentifierChar))

/-- The lexers of all kinds of token. -/
def tokenLexers : List (Lexer Token) :=
  [lexWhitespace, lexNewline, lexComment, lexLiteral, lexKeyword, lexDelimiter, lexIdentifier]

/-- A token of any kind. -/
def lexToken : Lexer Token :=
  firstOf tokenLexers

end RuleText

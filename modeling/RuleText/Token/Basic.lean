import RuleText.Text.Position

/-!
# Tokens of rule documents

A rule document is made of words, four delimiters, two kinds of literal text, white space and comments.
White space and comments are tokens too, so that the tokens of a document cover all of it; they are
layout, which the grammar never sees.

Main definitions:

- `Token`, and `Token.describe`, its name in messages;
- `Token.isLayout`: white space, line breaks and comments;
- `PlacedToken`: a token with its span.
-/

namespace RuleText

/-- Words with a meaning of their own. -/
inductive Keyword where
  | bind
deriving Repr, DecidableEq

/-- How a keyword is written. -/
def Keyword.text : Keyword → String
  | bind => "bind"

/-- The keyword that is written in a given way. -/
def Keyword.ofText? (text : String) : Option Keyword :=
  if text = "bind" then some bind else none

/-- The symbols that structure a document. -/
inductive Delimiter where
  | openParen
  | closeParen
  | comma
  | equal
deriving Repr, DecidableEq

/-- The character of a delimiter. -/
def Delimiter.char : Delimiter → Char
  | openParen => '('
  | closeParen => ')'
  | comma => ','
  | equal => '='

/-- How a delimiter is written. -/
def Delimiter.text (d : Delimiter) : String :=
  String.singleton d.char

/-- The delimiter of a character. -/
def Delimiter.ofChar? : Char → Option Delimiter
  | '(' => some openParen
  | ')' => some closeParen
  | ',' => some comma
  | '=' => some equal
  | _ => none

/-- The delimiter that is written in a given way. -/
def Delimiter.ofText? (text : String) : Option Delimiter :=
  match text.toList with
  | [c] => ofChar? c
  | _ => none

/-- The two sorts of comment: up to the end of the line, and between marks. -/
inductive CommentStyle where
  | line
  | block
deriving Repr, DecidableEq

/-- The tokens of a rule document. -/
inductive Token where
  | keyword (word : Keyword)
  /-- A name, or a literal pattern. -/
  | identifier (text : String)
  | delimiter (symbol : Delimiter)
  /-- A regular expression, without its slashes and with `\/` decoded. -/
  | regex (body : String)
  /-- The text of an output block, decoded, with its braces. -/
  | block (text : String)
  | whitespace (text : String)
  | newline
  | comment (style : CommentStyle) (content : String)
deriving Repr, DecidableEq

namespace Token

def isWhitespace : Token → Bool
  | whitespace _ => true
  | _ => false

def isNewline : Token → Bool
  | newline => true
  | _ => false

def isComment : Token → Bool
  | comment _ _ => true
  | _ => false

/-- White space, line breaks and comments. -/
def isLayout (t : Token) : Bool :=
  t.isWhitespace || t.isNewline || t.isComment

/-- A token as messages name it. -/
def describe : Token → String
  | keyword word => s!"keyword `{word.text}`"
  | identifier text => s!"identifier `{text}`"
  | delimiter symbol => s!"`{symbol.text}`"
  | regex body => s!"regex literal `~/{body}/`"
  | block _ => "output block"
  | whitespace _ => "whitespace"
  | newline => "newline"
  | comment _ _ => "comment"

end Token

/-- A token with the span of its text. -/
structure PlacedToken where
  token : Token
  span : Span
deriving Repr, DecidableEq

/-- The tokens that the grammar sees. -/
def significant (tokens : List PlacedToken) : List PlacedToken :=
  tokens.filter fun placed => !placed.token.isLayout

end RuleText

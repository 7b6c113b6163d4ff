import RuleText.Text.Trim

/-!
# Rule programs

A rule program is a list of bindings and statements in document order. A binding gives a property a local
name; a statement emits the text of its output block when all its conditions hold. Bindings do not belong
to the statement behind them, so the order of items is all the structure there is.

Main definitions:

- `Pattern`, `Condition`, `OutputBlock`, `Statement`, `Binding`, `Item`, `Program`;
- `Pattern.describe`: a pattern as it is written in a document;
- `OutputBlock.text`: what a block emits.
-/

namespace RuleText

/-- The pattern of a condition. Both sorts are regular expressions that the whole value has to match;
a literal is not escaped, so `1.0` is matched by `1x0` too. -/
inductive Pattern where
  | literal (text : String)
  | regex (text : String)
deriving Repr, DecidableEq

namespace Pattern

/-- The text of the regular expression. -/
def source : Pattern → String
  | literal text => text
  | regex text => text

/-- A text with a backslash before every slash. -/
def escapeSlashes (text : List Char) : List Char :=
  text.flatMap fun c => if c = '/' then ['\\', '/'] else [c]

/-- A pattern as it is written in a document. -/
def describe : Pattern → String
  | literal text => text
  | regex text => String.ofList ('~' :: '/' :: escapeSlashes text.toList ++ ['/'])

end Pattern

/-- A condition: the value bound to a name has to match a pattern. -/
structure Condition where
  name : String
  pattern : Pattern
deriving Repr, DecidableEq

/-- An output block as it was read, braces included. -/
structure OutputBlock where
  raw : String
deriving Repr, DecidableEq

namespace OutputBlock

/-- A text without the braces around it; if one of them is missing, both count as text. -/
def inner : List Char → List Char
  | '{' :: rest => if rest.getLast? = some '}' then rest.dropLast else '{' :: rest
  | text => text

/-- What a block emits: its text without the braces and the white space around it. -/
def text (block : OutputBlock) : String :=
  String.ofList (trim (inner block.raw.toList))

/-- The braces around a text are taken off, whatever braces there are inside. -/
@[simp] theorem inner_braces (content : List Char) : inner ('{' :: (content ++ ['}'])) = content := by
  rw [inner, List.getLast?_concat, if_pos rfl, List.dropLast_concat]

/-- A block emits what stands between its braces, without the white space around it. -/
theorem text_braces (content : List Char) :
    text ⟨String.ofList ('{' :: (content ++ ['}']))⟩ = String.ofList (trim content) := by
  rw [text, String.toList_ofList, inner_braces]

end OutputBlock

/-- A statement: conditions that guard an output block. -/
structure Statement where
  conditions : List Condition
  output : OutputBlock
deriving Repr, DecidableEq

/-- A binding makes a property known under a local name. -/
structure Binding where
  name : String
  property : String
deriving Repr, DecidableEq

/-- An entry of a program. -/
inductive Item where
  | binding (b : Binding)
  | statement (s : Statement)
deriving Repr, DecidableEq

/-- A rule program. -/
structure Program where
  items : List Item := []
deriving Repr, DecidableEq

/-- The statements of a program in order. -/
def Program.statements (p : Program) : List Statement :=
  p.items.filterMap fun
    | .statement s => some s
    | .binding _ => none

end RuleText

import RuleText.Grammar.Parser
import RuleText.Program.Basic
import RuleText.Token.Scanner

/-!
# The grammar of rule programs

    program   := item*
    item      := binding | statement
    binding   := "bind" identifier "=" identifier
    statement := "(" [condition ("," condition)*] ")" block
    condition := identifier "=" (identifier | regex)

Main definitions:

- `Program.binding`, `Program.statement` and so on: the parsers of the constructs;
- `Program.ofTokens?`: a whole program; every token must belong to an item;
- `Program.ofText?`: from the text of a document.
-/

namespace RuleText

instance : Describe Token := ⟨Token.describe⟩

namespace Program

open RuleText.Parser

/-- A delimiter. -/
def delimiter (d : Delimiter) : Parser Token Unit :=
  unit (equal (.delimiter d))

/-- A name. -/
def identifier : Parser Token String :=
  satisfy "identifier" fun
    | .identifier text => some text
    | _ => none

/-- A pattern: a bare word is a literal. -/
def pattern : Parser Token Pattern :=
  satisfy "identifier or regex literal" fun
    | .identifier text => some (.literal text)
    | .regex body => some (.regex body)
    | _ => none

/-- An output block. -/
def outputBlock : Parser Token OutputBlock :=
  satisfy "output block" fun
    | .block text => some ⟨text⟩
    | _ => none

/-- A binding. -/
def binding : Parser Token Binding :=
  inContext "binding" <|
    map (fun (name, _, property) => ⟨name, property⟩) <|
      preceded (equal (.keyword .bind)) (triple identifier (delimiter .equal) identifier)

/-- A condition. -/
def condition : Parser Token Condition :=
  inContext "condition" <|
    map (fun (name, _, pattern) => ⟨name, pattern⟩) <|
      triple identifier (delimiter .equal) pattern

/-- The conditions of a statement between their parentheses. -/
def conditions : Parser Token (List Condition) :=
  delimited (delimiter .openParen) (separatedList condition (delimiter .comma))
    (delimiter .closeParen)

/-- A statement. -/
def statement : Parser Token Statement :=
  inContext "statement" <|
    map (fun (conditions, output) => ⟨conditions, output⟩) (pair conditions outputBlock)

/-- An item. -/
def item : Parser Token Item :=
  choice [map .binding binding, map .statement statement]

/-- Items up to the end of the input, at most `fuel` of them. -/
def itemsFrom (tokens : Array Token) : (fuel : Nat) → (pos : Nat) → Except ParseError (List Item)
  | 0, _ => .ok []
  | fuel + 1, pos =>
    if pos < tokens.size then
      match item tokens pos with
      | .error e => .error (e.within "program")
      | .ok (next, first) =>
        match itemsFrom tokens fuel next with
        | .error e => .error e
        | .ok others => .ok (first :: others)
    else .ok []

/-- The program of a list of tokens. An item has at least one token, which bounds the number of items. -/
def ofTokens? (tokens : List Token) : Except ParseError Program :=
  match itemsFrom tokens.toArray tokens.length 0 with
  | .ok items => .ok ⟨items⟩
  | .error e => .error e

end Program

/-- The span of the token that an error points at; none at the end of the input. -/
def ParseError.span? (e : ParseError) (tokens : List PlacedToken) : Option Span :=
  tokens[e.position]?.map (·.span)

/-- Why a text is no rule program. -/
inductive ReadError where
  /-- The text does not split into tokens. -/
  | scan (e : ScanError)
  /-- The tokens are no program; with the span of the offending one. -/
  | parse (e : ParseError) (span : Option Span)
deriving Repr, DecidableEq

/-- The program of a text. -/
def Program.ofText? (text : List Char) : Except ReadError Program :=
  match tokenize text with
  | .error e => .error (.scan e)
  | .ok tokens =>
    let tokens := significant tokens
    match Program.ofTokens? (tokens.map (·.token)) with
    | .error e => .error (.parse e (e.span? tokens))
    | .ok program => .ok program

end RuleText

import RuleText.Json.Basic
import RuleText.Text.Quoted

/-!
# Writing JSON

Scalars in their canonical form. A string is written with the escapes that JSON demands and no others:
quotes, backslashes and control characters, the usual ones by letter and the rest by code.
-/

namespace RuleText.Json

/-- A character inside a JSON string. -/
def escape (c : Char) : List Char :=
  match c with
  | '"' => ['\\', '"']
  | '\\' => ['\\', '\\']
  | '\x08' => ['\\', 'b']
  | '\t' => ['\\', 't']
  | '\n' => ['\\', 'n']
  | '\x0c' => ['\\', 'f']
  | '\r' => ['\\', 'r']
  | _ =>
    if c.toNat < 0x20 then
      let digits := hexText c.toNat
      ['\\', 'u'] ++ List.replicate (4 - digits.length) '0' ++ digits
    else [c]

/-- A JSON string. -/
def stringText (text : List Char) : List Char :=
  '"' :: text.flatMap escape ++ ['"']

/-- A floating point number. -/
def realText (x : Binary64) : List Char :=
  (jsonNumbers.write x).toList

/-- Either truth value. -/
def booleanText (b : Bool) : List Char :=
  if b then ['t', 'r', 'u', 'e'] else ['f', 'a', 'l', 's', 'e']

end RuleText.Json

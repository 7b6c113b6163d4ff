import RuleText.CharClass.Property
import RuleText.Text.Digits

/-!
# Quoted text

A text between double quotes, with everything that could be misread written as an escape: quotes and
backslashes, the usual control characters by letter, and by code every character that has no visible form
or that would join with the character before it.
-/

namespace RuleText

/-- A character as it stands between quotes. -/
def escapeChar (c : Char) : List Char :=
  match c with
  | '\x00' => ['\\', '0']
  | '\t' => ['\\', 't']
  | '\r' => ['\\', 'r']
  | '\n' => ['\\', 'n']
  | '\\' => ['\\', '\\']
  | '"' => ['\\', '"']
  | _ =>
    if extendsGrapheme c || !isPrintable c then
      ['\\', 'u', '{'] ++ hexText c.toNat ++ ['}']
    else [c]

/-- A text between quotes. -/
def quoted (text : String) : String :=
  String.ofList ('"' :: text.toList.flatMap escapeChar ++ ['"'])

/-- A text between quotes that may be missing. -/
def quotedOption : Option String → String
  | none => "None"
  | some text => s!"Some({quoted text})"

end RuleText

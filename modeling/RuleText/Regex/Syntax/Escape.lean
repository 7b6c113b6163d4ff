import RuleText.Regex.Basic
import RuleText.Regex.Syntax.Flags
import RuleText.CharClass.Named
import RuleText.Text.Digits
import RuleText.Text.Trim

/-!
# Escapes in patterns

A backslash makes a literal of a character with a meaning, names a character by its code, a class, or an
assertion about a position. What is read is an atom, and whether an atom may stand where it was read,
outside or inside brackets, is for the reader of that place to say.

Main definitions:

- `Atom`: what one character or escape denotes;
- `readEscape`: reads what follows a backslash;
- `Flags.literal?`, `Flags.member?`: a character on its own and as a member of a
  bracketed class. Without Unicode a class holds ASCII only, and no code of a single byte may lie beyond
  it, since such a byte is not text.
-/

namespace RuleText.Regex

/-- What one character or escape denotes. -/
inductive Atom where
  /-- A character; `byte` is set when it was written as a code of two hexadecimal digits. -/
  | char (c : Char) (byte : Bool)
  | cls (c : CharClass)
  | assertion (claim : Assertion)

/-- The words that the flags select. -/
def Flags.wordRule (flags : Flags) : WordRule :=
  if flags.unicode then .unicode else .ascii

/-- A class with the case variants that the flags ask for. -/
def Flags.closeCase (flags : Flags) (c : CharClass) : CharClass :=
  if flags.ignoreCase then .caseClosed (if flags.unicode then .simple else .ascii) c else c

/-- The complement of a class, where asked for. Without Unicode a complement would hold bytes that are
not text, so there is none. -/
def Flags.negate? (flags : Flags) (negated : Bool) (c : CharClass) : Option CharClass :=
  if negated then (if flags.unicode then some (.compl c) else none) else some c

/-- What a character on its own matches. -/
def Flags.literal? (flags : Flags) (c : Char) (byte : Bool) : Option CharClass :=
  if !flags.unicode && byte && 0x80 ≤ c.toNat then none
  else some (flags.closeCase (.single c))

/-- A character as an end of an interval in brackets. -/
def Flags.member? (flags : Flags) (c : Char) : Option Nat :=
  if !flags.unicode && 0x80 ≤ c.toNat then none else some c.toNat

/-! ### Classes named by a letter or a property -/

/-- The class of one of the letters `d`, `s` and `w`, or its complement for the letter in upper case. -/
def Flags.letterClass? (flags : Flags) (letter : Char) : Option CharClass :=
  let base : CharClass := match letter.toLower with
    | 'd' => if flags.unicode then .digit else .between 0x30 0x39
    | 's' => if flags.unicode then .white else .union (.between 0x09 0x0D) (.single ' ')
    | _ => if flags.unicode then .word
      else .unions [.between 0x30 0x39, .between 0x41 0x5A, .single '_', .between 0x61 0x7A]
  flags.negate? letter.isUpper base

/-- The property that the text between braces names: alone, or with a value after `:` or `=`. A value
after `!=` is one that is not to hold; the Boolean of the answer says so. The operator counts towards the
negation of the class, so `\p{x!=y}` and `\P{x=y}` are the same class, and `\P{x!=y}` is negated twice. -/
def propertyClass? (text : List Char) : Option (Bool × CharClass) :=
  match splitAtMark ['!', '='] text with
  | some (name, value) => (CharClass.valued? name value).map (true, ·)
  | none =>
    match (splitAtMark [':'] text).or (splitAtMark ['='] text) with
    | some (name, value) => (CharClass.valued? name value).map (false, ·)
    | none => (CharClass.named? text).map (false, ·)

/-- Reads what follows `\p` or `\P`: one letter, or a name between braces. -/
def readProperty (flags : Flags) (negated : Bool) (text : List Char) :
    Option (CharClass × List Char) := do
  let ((differs, cls), rest) ← match skipLayout flags text with
    | [] => none
    | '{' :: rest => do
      let (name, rest) ← takeBraced flags.extended false rest
      some (← propertyClass? name, rest)
    | c :: rest =>
      if c == '\\' then none else do some ((false, ← CharClass.named? [c]), skipLayout flags rest)
  if flags.unicode then
    some (← flags.negate? (negated != differs) (flags.closeCase cls), rest)
  else none

/-! ### Codes of characters -/

/-- The character of a code, if it is one. -/
def charOfCode? (n : Nat) : Option Char :=
  if h : n.isValidChar then some (Char.ofNatAux n h) else none

/-- Reads exactly `count` hexadecimal digits, with layout between them. -/
def takeHexDigits (flags : Flags) : (count : Nat) → List Char → Option (List Char × List Char)
  | 0, text => some ([], text)
  | count + 1, text =>
    match skipLayout flags text with
    | [] => none
    | c :: rest =>
      if (hexDigit? c).isSome then
        (takeHexDigits flags count rest).map fun (digits, after) => (c :: digits, after)
      else none

/-- Reads the code of a character: `count` digits, or any number between braces. -/
def readCode (flags : Flags) (count : Nat) (text : List Char) : Option (Atom × List Char) := do
  match skipLayout flags text with
  | '{' :: rest =>
    let (digits, rest) ← takeBraced flags.extended false rest
    if digits.isEmpty then none
    else some (.char (← charOfCode? (← hexValue? digits)) false, skipLayout flags rest)
  | text =>
    let (digits, rest) ← takeHexDigits flags count text
    some (.char (← charOfCode? (← hexValue? digits)) (count == 2), skipLayout flags rest)

/-! ### Assertions -/

/-- Reads what may follow `\b`: the name of another word assertion between braces. Braces whose first
character cannot belong to a name are a repetition and stay unread. -/
def readWordAssertion (flags : Flags) (text : List Char) : Option (Assertion × List Char) :=
  match text with
  | '{' :: rest =>
    let nameChar (c : Char) : Bool := c.isAlpha || c == '-'
    match skipLayout flags rest with
    | [] => none
    | c :: more =>
      if nameChar c then
        match takeLayoutFree nameChar flags.extended false (c :: more) with
        | (name, '}' :: after) =>
          match String.ofList name with
          | "start" => some (.wordStart flags.wordRule, after)
          | "end" => some (.wordEnd flags.wordRule, after)
          | "start-half" => some (.wordStartHalf flags.wordRule, after)
          | "end-half" => some (.wordEndHalf flags.wordRule, after)
          | _ => none
        | _ => none
      else some (.wordBoundary flags.wordRule, text)
  | _ => some (.wordBoundary flags.wordRule, text)

/-- Reads what follows a backslash. Letters and digits without a meaning are refused, and so is anything
outside ASCII; every other character stands for itself. -/
def readEscape (flags : Flags) (text : List Char) : Option (Atom × List Char) := do
  match text with
  | [] => none
  | c :: rest =>
    match c with
    | 'x' => readCode flags 2 rest
    | 'u' => readCode flags 4 rest
    | 'U' => readCode flags 8 rest
    | 'p' | 'P' =>
      let (cls, rest) ← readProperty flags (c == 'P') rest
      some (.cls cls, rest)
    | 'd' | 's' | 'w' | 'D' | 'S' | 'W' => some (.cls (← flags.letterClass? c), rest)
    | 'a' => some (.char '\x07' false, rest)
    | 'f' => some (.char '\x0c' false, rest)
    | 't' => some (.char '\t' false, rest)
    | 'n' => some (.char '\n' false, rest)
    | 'r' => some (.char '\r' false, rest)
    | 'v' => some (.char '\x0b' false, rest)
    | 'A' => some (.assertion .textStart, rest)
    | 'z' => some (.assertion .textEnd, rest)
    | 'b' =>
      let (claim, rest) ← readWordAssertion flags rest
      some (.assertion claim, rest)
    | 'B' => some (.assertion (.notWordBoundary flags.wordRule), rest)
    | '<' => some (.assertion (.wordStart flags.wordRule), rest)
    | '>' => some (.assertion (.wordEnd flags.wordRule), rest)
    | _ => if c.toNat < 0x80 && !c.isAlphanum then some (.char c false, rest) else none

end RuleText.Regex

import RuleText.Regex.Syntax.Flags
import RuleText.Text.Digits

/-!
# Openings of groups and counts of repetitions

What may follow an opening parenthesis: nothing (a plain group), a name, flags for the group, or flags for
the rest of the group around it. And what may stand between the braces of a repetition.

Main definitions:

- `Opening`, `readOpening`: the openings of groups;
- `readCounts`: the bounds of a counted repetition.
-/

namespace RuleText.Regex

/-- What an opening parenthesis turns out to begin. -/
inductive Opening where
  /-- A group that records what it matches, with its name. -/
  | recording (name : Option String)
  /-- A group that does not, with the flags it sets for itself. -/
  | group (change : FlagChange)
  /-- A change of flags up to the end of the group around it. -/
  | flags (change : FlagChange)
deriving Repr

/-- Whether a character may stand in the name of a group, at its start or after it. -/
def isGroupNameChar (first : Bool) (c : Char) : Bool :=
  c == '_' || if first then isAlphabetic c else isAlphanumeric c || c == '.' || c == '[' || c == ']'

/-- Reads the name of a group up to the closing angle bracket. -/
def readGroupName (text : List Char) : Option (String × List Char) :=
  match text.span (· != '>') with
  | (c :: more, _ :: rest) =>
    if isGroupNameChar true c && more.all (isGroupNameChar false) then
      some (String.ofList (c :: more), rest)
    else none
  | _ => none

/-- Reads what follows an opening parenthesis. Looking ahead or behind is not supported. -/
def readOpening (flags : Flags) (text : List Char) : Option (Opening × List Char) :=
  match skipLayout flags text with
  | '?' :: 'P' :: '<' :: rest => (readGroupName rest).map fun (name, rest) => (.recording name, rest)
  | '?' :: '<' :: '=' :: _ => none
  | '?' :: '<' :: '!' :: _ => none
  | '?' :: '<' :: rest => (readGroupName rest).map fun (name, rest) => (.recording name, rest)
  | '?' :: rest => do
    let (change, isGroup, rest) ← readFlags [] false false rest
    if isGroup then some (.group change, rest)
    else if change.isEmpty then none
    else some (.flags change, rest)
  | text => some (.recording none, text)

/-! ### Counted repetitions -/

/-- The largest count of a repetition. -/
def maxCount : Nat := 4294967295

/-- Reads a decimal number, with blanks around it and layout among its digits. -/
def readCount (flags : Flags) (text : List Char) : Option (Nat × List Char) :=
  let (digits, rest) :=
    takeLayoutFree Char.isDigit flags.extended false (text.dropWhile isWhite)
  let value := decimalValue digits
  if digits.isEmpty || maxCount < value then none
  else some (value, if flags.extended then rest else rest.dropWhile isWhite)

/-- Reads the bounds of a repetition from behind the opening brace: `n}`, `n,}` or `n,m}`. -/
def readCounts (flags : Flags) (text : List Char) : Option (Nat × Option Nat × List Char) := do
  let (least, rest) ← readCount flags (skipLayout flags text)
  match rest with
  | '}' :: rest => some (least, some least, rest)
  | ',' :: rest =>
    match skipLayout flags rest with
    | '}' :: rest => some (least, none, rest)
    | rest => do
      let (most, rest) ← readCount flags rest
      match rest with
      | '}' :: rest => if least ≤ most then some (least, some most, rest) else none
      | _ => none
  | _ => none

end RuleText.Regex

import RuleText.CharClass.Property

/-!
# Flags and layout of patterns

A pattern may switch flags on and off as it goes, for the rest of a group or for a group of its own. In
extended patterns blanks and comments are layout, skipped wherever the syntax allows it.

Main definitions:

- `Flags`: the flags in force;
- `readFlags`: the letters between `(?` and `:` or `)`;
- `skipLayout`: what is left after blanks and comments;
- `takeBraced`, `takeLayoutFree`: text with the layout in it left out.
-/

namespace RuleText.Regex

/-- The flags in force at a place of a pattern. -/
structure Flags where
  /-- Letters stand for all their case variants. -/
  ignoreCase : Bool := false
  /-- `^` and `$` hold at the ends of lines as well. -/
  multiLine : Bool := false
  /-- A dot also stands for the characters that end lines. -/
  dotMatchesNewline : Bool := false
  /-- Repetitions prefer few rounds, and many with a question mark. -/
  swapGreed : Bool := false
  /-- A carriage return ends a line too. -/
  crlf : Bool := false
  /-- Classes and case variants are those of Unicode rather than of ASCII. -/
  unicode : Bool := true
  /-- Blanks and comments are layout. -/
  extended : Bool := false
deriving Repr, DecidableEq

/-- The flags that a pattern can name. -/
inductive Flag where
  | ignoreCase
  | multiLine
  | dotMatchesNewline
  | swapGreed
  | unicode
  | crlf
  | extended
deriving Repr, DecidableEq

/-- The flag that a letter names. -/
def Flag.ofLetter? : Char → Option Flag
  | 'i' => some ignoreCase
  | 'm' => some multiLine
  | 's' => some dotMatchesNewline
  | 'U' => some swapGreed
  | 'u' => some unicode
  | 'R' => some crlf
  | 'x' => some extended
  | _ => none

/-- The flags with one of them set to a value. -/
def Flags.set (flags : Flags) (flag : Flag) (value : Bool) : Flags :=
  match flag with
  | .ignoreCase => { flags with ignoreCase := value }
  | .multiLine => { flags with multiLine := value }
  | .dotMatchesNewline => { flags with dotMatchesNewline := value }
  | .swapGreed => { flags with swapGreed := value }
  | .unicode => { flags with unicode := value }
  | .crlf => { flags with crlf := value }
  | .extended => { flags with extended := value }

/-- Flags to set, each with its value. -/
abbrev FlagChange := List (Flag × Bool)

/-- The flags after a change. -/
def Flags.apply (flags : Flags) (change : FlagChange) : Flags :=
  change.foldl (fun flags (flag, value) => flags.set flag value) flags

/-- Reads flag letters up to the `:` that opens a group or the `)` that ends a bare change; the Boolean
of the answer says which (true for `:`). No flag may be named twice, and a minus sign, of which there is
at most one, needs a flag after it. `seen` holds the flags read so far, the last one first. -/
def readFlags (seen : FlagChange) (negated dangling : Bool) :
    List Char → Option (FlagChange × Bool × List Char)
  | [] => none
  | ':' :: rest => if dangling then none else some (seen.reverse, true, rest)
  | ')' :: rest => if dangling then none else some (seen.reverse, false, rest)
  | '-' :: rest => if negated then none else readFlags seen true true rest
  | c :: rest =>
    match Flag.ofLetter? c with
    | none => none
    | some flag =>
      if seen.any (·.1 == flag) then none
      else readFlags ((flag, !negated) :: seen) negated false rest

/-! ### Layout -/

/-- What is left after blanks and comments; a comment runs from `#` to the end of its line. -/
def dropLayout (inComment : Bool) : List Char → List Char
  | [] => []
  | c :: rest =>
    if inComment then dropLayout (c != '\n') rest
    else if isWhite c then dropLayout false rest
    else if c == '#' then dropLayout true rest
    else c :: rest

/-- Skips layout where the flags say that there is any. -/
def skipLayout (flags : Flags) (text : List Char) : List Char :=
  if flags.extended then dropLayout false text else text

/-- The characters up to a closing brace, without layout, and what follows the brace. -/
def takeBraced (extended inComment : Bool) : List Char → Option (List Char × List Char)
  | [] => none
  | c :: rest =>
    if inComment then takeBraced extended (c != '\n') rest
    else if extended && isWhite c then takeBraced extended false rest
    else if extended && c == '#' then takeBraced extended true rest
    else if c == '}' then some ([], rest)
    else (takeBraced extended false rest).map fun (taken, after) => (c :: taken, after)

/-- The longest run of characters that satisfy a predicate, with layout allowed among and after them
but left out, and what follows. -/
def takeLayoutFree (p : Char → Bool) (extended inComment : Bool) :
    List Char → List Char × List Char
  | [] => ([], [])
  | c :: rest =>
    if inComment then takeLayoutFree p extended (c != '\n') rest
    else if extended && isWhite c then takeLayoutFree p extended false rest
    else if extended && c == '#' then takeLayoutFree p extended true rest
    else if p c then
      let (taken, after) := takeLayoutFree p extended false rest
      (c :: taken, after)
    else ([], c :: rest)

end RuleText.Regex

import RuleText.Regex.Footprint
import RuleText.Regex.Syntax.Bracket
import RuleText.Regex.Syntax.Group

/-!
# Reading patterns

A pattern is read from left to right with the open groups on a stack. Each round takes one item of syntax
off the text (an atom, a bracketed class, a repetition, an opening or closing parenthesis, a bar) and
changes only the branch under way and the top of the stack; what lies deeper is untouched until its group
closes. Flags belong to the group they were set in and to all its later branches.

Two bounds keep patterns from being absurdly large: the nesting depth of the syntax, where groups,
repetitions, brackets, choices and sequences of two or more items each add one, and the memory that the
automata of the pattern take. What is read is therefore kept twice, as the expression that says what
matches and as the blueprint that says how it is laid out.

Main definitions:

- `Piece`, `Branch`, `Frame`, `Reading`: what has been read so far;
- `Reading.step`: one round;
- `CharRegex.ofText?`: the expression that a pattern denotes, if it is a pattern.
-/

namespace RuleText.Regex

/-- One item of a branch with its blueprint and the nesting depth of its text. A change of flags is an
item too, which matches the empty stretch and cannot be repeated. -/
structure Piece where
  regex : CharRegex
  blueprint : Blueprint
  depth : Nat := 0
  repeatable : Bool := true

/-- The item that matches the empty stretch. -/
def Piece.empty : Piece := { regex := .empty, blueprint := .empty }

/-- A character out of a class. -/
def Piece.one (flags : Flags) (cls : CharClass) : Piece :=
  { regex := .one cls, blueprint := .ofClass (!flags.unicode) cls }

/-- An assertion. -/
def Piece.assert (claim : Assertion) : Piece :=
  { regex := .assert claim, blueprint := .assert claim }

/-- The items of a branch as one. -/
def Piece.join (pieces : List Piece) : Piece where
  regex := .seqs (pieces.map (·.regex))
  blueprint := .sequence (pieces.map (·.blueprint))
  depth :=
    let deepest := pieces.foldl (fun d piece => max d piece.depth) 0
    if pieces.length ≤ 1 then deepest else deepest + 1

/-- The branches of a group under way: those that are complete and the items of the last one, both with
the latest in front. -/
structure Branch where
  complete : List Piece := []
  items : List Piece := []

namespace Branch

/-- One item more. -/
def push (branch : Branch) (piece : Piece) : Branch :=
  { branch with items := piece :: branch.items }

/-- A bar completes a branch. -/
def bar (branch : Branch) : Branch :=
  { complete := Piece.join branch.items.reverse :: branch.complete }

/-- All branches as one item. -/
def close (branch : Branch) : Piece :=
  match branch.bar.complete.reverse with
  | [] => .empty
  | [only] => only
  | first :: others =>
    { regex := .alts first.regex (others.map (·.regex))
      blueprint := .choice (first.blueprint :: others.map (·.blueprint))
      depth := others.foldl (fun d piece => max d piece.depth) first.depth + 1 }

/-- Repeats the last item of the branch, if there is one that can be repeated. Rounds that change nothing
are left out. -/
def repeatLast (branch : Branch) (least : Nat) (most : Option Nat) (eager : Bool) : Option Branch :=
  match branch.items with
  | [] => none
  | last :: before =>
    if last.repeatable then
      let (least, most) := last.blueprint.usefulBounds least most
      let repetition : Piece :=
        { regex := .times last.regex least most
          blueprint := last.blueprint.repeated least most eager
          depth := last.depth + 1 }
      some { branch with items := repetition :: before }
    else none

end Branch

/-- A group whose end has not been reached: what was read around it before it opened, the flags in force
there, and the number of the group if it records what it matches. -/
structure Frame where
  around : Branch
  flags : Flags
  number : Option Nat

/-- What has been read of a pattern: the open groups, the innermost first, the branches of the innermost
one, the flags in force, the names of groups given so far and the number of recording groups. -/
structure Reading where
  frames : List Frame := []
  branch : Branch := {}
  flags : Flags := {}
  names : List String := []
  groups : Nat := 0

namespace Reading

/-- The reading with one item more. -/
def push (reading : Reading) (piece : Piece) : Reading :=
  { reading with branch := reading.branch.push piece }

/-- The reading inside a new group. The flags in force come back when the group closes. -/
def enter (reading : Reading) (number : Option Nat) (change : FlagChange) : Reading :=
  { reading with
    frames := ⟨reading.branch, reading.flags, number⟩ :: reading.frames
    branch := {}
    flags := reading.flags.apply change }

/-- Opens a group, or changes the flags of the one that is open. A name may be given only once. -/
def opening (reading : Reading) : Opening → Option Reading
  | .flags change =>
    some { reading.push { Piece.empty with repeatable := false } with
      flags := reading.flags.apply change }
  | .group change => some (reading.enter none change)
  | .recording name =>
    if name.any reading.names.contains then none
    else
      let number := reading.groups + 1
      some { reading.enter (some number) [] with
        names := name.toList ++ reading.names
        groups := number }

/-- Closes the innermost group. -/
def closing (reading : Reading) : Option Reading :=
  match reading.frames with
  | [] => none
  | frame :: frames =>
    let group := reading.branch.close
    some { reading with
      frames := frames
      branch := frame.around.push
        { regex := group.regex
          blueprint := group.blueprint.group frame.number
          depth := group.depth + 1 }
      flags := frame.flags }

/-- A repetition of the last item, and the text behind it. A question mark swaps the preference for many
rounds. -/
def repeatLast (reading : Reading) (least : Nat) (most : Option Nat) (text : List Char) :
    Option (Reading × List Char) :=
  let (swapped, rest) := match text with
    | '?' :: rest => (true, rest)
    | _ => (false, text)
  (reading.branch.repeatLast least most (swapped == reading.flags.swapGreed)).map fun branch =>
    ({ reading with branch := branch }, rest)

/-- An atom under the flags in force. -/
def atom? (flags : Flags) : Atom → Option Piece
  | .char c byte => (flags.literal? c byte).map (Piece.one flags)
  | .cls cls => some (.one flags cls)
  | .assertion claim => some (.assert claim)

/-- What a dot matches. Without Unicode it would match single bytes that are no text. -/
def dot? (flags : Flags) : Option CharClass :=
  if !flags.unicode then none
  else if flags.dotMatchesNewline then some .any
  else if flags.crlf then some (.compl (.union (.single '\n') (.single '\r')))
  else some (.compl (.single '\n'))

/-- The assertion of `^` under the flags in force. -/
def lineStart (flags : Flags) : Assertion :=
  if !flags.multiLine then .textStart else if flags.crlf then .anyLineStart else .lineStart

/-- The assertion of `$` under the flags in force. -/
def lineEnd (flags : Flags) : Assertion :=
  if !flags.multiLine then .textEnd else if flags.crlf then .anyLineEnd else .lineEnd

/-- One round: takes one item of syntax off the text, whose length `bound` exceeds. -/
def step (reading : Reading) (bound : Nat) (c : Char) (rest : List Char) :
    Option (Reading × List Char) := do
  let flags := reading.flags
  match c with
  | '(' =>
    let (opening, rest) ← readOpening flags rest
    some (← reading.opening opening, rest)
  | ')' => some (← reading.closing, rest)
  | '|' => some ({ reading with branch := reading.branch.bar }, rest)
  | '[' =>
    let (cls, rest) ← readBracket flags bound rest
    some (reading.push { Piece.one flags cls.cls with depth := cls.depth }, rest)
  | '?' => reading.repeatLast 0 (some 1) rest
  | '*' => reading.repeatLast 0 none rest
  | '+' => reading.repeatLast 1 none rest
  | '{' =>
    let (least, most, rest) ← readCounts flags rest
    reading.repeatLast least most (skipLayout flags rest)
  | '\\' =>
    let (atom, rest) ← readEscape flags rest
    some (reading.push (← atom? flags atom), rest)
  | '.' => some (reading.push (.one flags (← dot? flags)), rest)
  | '^' => some (reading.push (.assert (lineStart flags)), rest)
  | '$' => some (reading.push (.assert (lineEnd flags)), rest)
  | c => some (reading.push (← atom? flags (.char c false)), rest)

/-- Rounds until the text is used up. Every round takes at least one character, so the length of the
text is fuel enough. -/
def run (reading : Reading) : (fuel : Nat) → List Char → Option Reading
  | 0, _ => none
  | fuel + 1, text =>
    match skipLayout reading.flags text with
    | [] => some reading
    | c :: rest => do
      let (reading, rest) ← reading.step fuel c rest
      reading.run fuel rest

/-- The whole pattern, once every group is closed. -/
def finish? (reading : Reading) : Option Piece :=
  if reading.frames.isEmpty then some reading.branch.close else none

end Reading

/-- The deepest nesting that a pattern may have. -/
def maxDepth : Nat := 250

end RuleText.Regex

namespace RuleText

open Regex

/-- The expression that a pattern denotes; none if the text is no pattern or exceeds the bounds. -/
def CharRegex.ofText? (text : List Char) : Option CharRegex := do
  let reading ← Reading.run {} (text.length + 1) text
  let whole ← reading.finish?
  if whole.depth ≤ maxDepth && whole.blueprint.fits then some whole.regex else none

end RuleText

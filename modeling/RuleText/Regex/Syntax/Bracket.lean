import RuleText.Regex.Syntax.Escape

/-!
# Bracketed classes

A class in brackets is a union of items, that is characters, intervals, named classes and further brackets,
and unions may be joined by the operators `&&`, `--` and `~~`, all of the same rank and grouped from the
left. The reader keeps the open brackets on a stack, so it is one loop over the text however deep the
brackets nest, and it counts that depth the way patterns bound it: a bracket, an operator and a union of
two or more items each add one.

Main definitions:

- `ClassLevel`: what has been read of one open bracket;
- `readBracket`: reads a class from behind its opening bracket.
-/

namespace RuleText.Regex

/-- The operators that join two unions. -/
inductive SetOperator where
  | inter
  | diff
  | symDiff
deriving Repr, DecidableEq

/-- The class that an operator makes of two. -/
def SetOperator.combine : SetOperator → CharClass → CharClass → CharClass
  | inter => .inter
  | diff => .diff
  | symDiff => .symDiff

/-- A class together with the nesting depth of its text. -/
structure DeepClass where
  cls : CharClass := .empty
  depth : Nat := 0

/-- What has been read of one open bracket: whether it is negated, the operator that waits for its right
side with the left side it has, and the union under way with the number of its items. -/
structure ClassLevel where
  negated : Bool := false
  pending : Option (DeepClass × SetOperator) := none
  items : DeepClass := {}
  count : Nat := 0

namespace ClassLevel

/-- One item more. -/
def push (level : ClassLevel) (item : CharClass) (depth : Nat := 0) : ClassLevel :=
  { level with
    items := ⟨if level.count = 0 then item else .union level.items.cls item, max level.items.depth depth⟩
    count := level.count + 1 }

/-- Everything read so far, the pending operator applied. -/
def side (level : ClassLevel) : DeepClass :=
  let right := { level.items with
    depth := if level.count ≤ 1 then level.items.depth else level.items.depth + 1 }
  match level.pending with
  | none => right
  | some (left, operator) =>
    ⟨operator.combine left.cls right.cls, max left.depth right.depth + 1⟩

/-- An operator closes what is on its left and starts a new union. -/
def operate (level : ClassLevel) (operator : SetOperator) : ClassLevel :=
  { negated := level.negated, pending := some (level.side, operator) }

end ClassLevel

/-! ### Items -/

/-- Reads a class of ASCII, `[:name:]` or `[:^name:]`, from behind its opening bracket. The answer is
`none` when the text is none of them and the bracket opens a nested class. -/
def readAsciiClass (text : List Char) : Option (Bool × CharClass × List Char) :=
  match text with
  | ':' :: rest =>
    let (negated, rest) := match rest with
      | '^' :: rest => (true, rest)
      | _ => (false, rest)
    match rest.span (· != ':') with
    | (name, ':' :: ']' :: after) =>
      (CharClass.ascii? (String.ofList name)).map fun cls => (negated, cls, after)
    | _ => none
  | _ => none

/-- Reads one character or escape. -/
def readClassAtom (flags : Flags) : List Char → Option (Atom × List Char)
  | [] => none
  | c :: rest => if c == '\\' then readEscape flags rest else some (.char c false, rest)

/-- The first character that is no layout, looking into a comment only as far as its first word. -/
def peekPastLayout (flags : Flags) (text : List Char) : Option Char :=
  if flags.extended then
    match text.dropWhile isWhite with
    | [] => text.head?
    | c :: rest =>
      if c != '#' then some c
      else match rest.dropWhile isWhite with
        | [] => text.head?
        | d :: _ => some d
  else text.head?

/-- Reads a character, an interval or a class named by an escape. A hyphen makes an interval unless a
closing bracket or another hyphen follows it. -/
def readClassItem (flags : Flags) (text : List Char) : Option (CharClass × List Char) := do
  let (first, rest) ← readClassAtom flags text
  match skipLayout flags rest with
  | [] => none
  | c :: more =>
    let next := peekPastLayout flags more
    if c != '-' || next == some ']' || next == some '-' then
      match first with
      | .char a _ => do
        let a ← flags.member? a
        some (flags.closeCase (.between a a), c :: more)
      | .cls cls => some (cls, c :: more)
      | .assertion _ => none
    else do
      let (last, rest) ← readClassAtom flags (skipLayout flags more)
      match first, last with
      | .char a _, .char b _ => do
        let a ← flags.member? a
        let b ← flags.member? b
        if a ≤ b then some (flags.closeCase (.between a b), rest) else none
      | _, _ => none

/-! ### Brackets -/

/-- Reads leading hyphens, which stand for themselves. -/
def readHyphens (flags : Flags) : (fuel : Nat) → ClassLevel → List Char → ClassLevel × List Char
  | fuel + 1, level, '-' :: rest =>
    readHyphens flags fuel (level.push (flags.closeCase (.single '-'))) (skipLayout flags rest)
  | _, level, text => (level, text)

/-- Reads what may stand only at the start of a bracket: the negation, leading hyphens, and a closing
bracket that stands for itself because nothing is before it. -/
def readBracketStart (flags : Flags) (fuel : Nat) (text : List Char) : ClassLevel × List Char :=
  let (level, text) : ClassLevel × List Char := match skipLayout flags text with
    | '^' :: rest => ({ negated := true }, skipLayout flags rest)
    | text => ({}, text)
  match readHyphens flags fuel level text with
  | (level, ']' :: rest) =>
    if level.count = 0 then
      (level.push (flags.closeCase (.single ']')), skipLayout flags rest)
    else (level, ']' :: rest)
  | answer => answer

/-- Reads the inside of the brackets, the innermost open one in `here` and the others in `outer`, up to
the closing bracket of the outermost. Every round takes at least one character, so the length of the
text is fuel enough. -/
def readBrackets (flags : Flags) : (fuel : Nat) → (outer : List ClassLevel) → (here : ClassLevel) →
    List Char → Option (DeepClass × List Char)
  | 0, _, _, _ => none
  | fuel + 1, outer, here, text =>
    match skipLayout flags text with
    | [] => none
    | '[' :: rest =>
      match readAsciiClass rest with
      | some (negated, cls, rest) => do
        let cls ← flags.negate? negated (flags.closeCase cls)
        readBrackets flags fuel outer (here.push cls) rest
      | none =>
        let (inner, rest) := readBracketStart flags fuel rest
        readBrackets flags fuel (here :: outer) inner rest
    | ']' :: rest => do
      -- the negation comes last: it covers what the operators made
      let side := here.side
      let cls ← flags.negate? here.negated side.cls
      match outer with
      | [] => some (⟨cls, side.depth + 1⟩, rest)
      | parent :: outer => readBrackets flags fuel outer (parent.push cls (side.depth + 1)) rest
    | '&' :: '&' :: rest => readBrackets flags fuel outer (here.operate .inter) rest
    | '-' :: '-' :: rest => readBrackets flags fuel outer (here.operate .diff) rest
    | '~' :: '~' :: rest => readBrackets flags fuel outer (here.operate .symDiff) rest
    | text => do
      let (item, rest) ← readClassItem flags text
      readBrackets flags fuel outer (here.push item) rest

/-- Reads a class from behind its opening bracket, in a text whose length `bound` exceeds. -/
def readBracket (flags : Flags) (bound : Nat) (text : List Char) : Option (DeepClass × List Char) :=
  let (level, rest) := readBracketStart flags bound text
  readBrackets flags bound [] level rest

end RuleText.Regex

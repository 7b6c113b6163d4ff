import RuleText.Regex.Blueprint
import RuleText.Text.ByteRange
import Std.Data.HashMap

/-!
# The memory that patterns take

A pattern stands for two automata over bytes, one that reads a text forwards and records what the groups
match, and one that reads it backwards and does not. Here both are laid out, as far as this is needed to
tell their size: a state takes 32 bytes, and a state with several branches takes more for each of them, 8
bytes for a branch on a range of bytes and 4 for a branch taken without reading.

Classes beyond ASCII share states. A state that is wanted again is found in a table that has room for few
states, where a newcomer displaces the state that had its slot, and slots go by the numbers of the states
involved. So the size of a class depends on how many states were laid out before it, and a repetition
cannot be laid out once and multiplied.

Main definitions:

- `Layout`: how much has been laid out;
- `Layout.forwardClass`, `Layout.backwardClass`: classes beyond ASCII;
- `Layout.trie`: choices between literals;
- `Blueprint.lay`: blueprints;
- `Blueprint.fits`: whether both automata keep within the bound.
-/

namespace RuleText

/-- The memory that the automaton of a pattern may take, in bytes. -/
def maxMemory : Nat := 10485760

/-- How much of an automaton has been laid out: the number of its states, which is also the number of
the next one, and the bytes that their branches take. -/
structure Layout where
  states : Nat := 0
  branchBytes : Nat := 0
deriving Repr

namespace Layout

/-- The bytes taken by all of it. -/
def memory (layout : Layout) : Nat :=
  32 * layout.states + layout.branchBytes

/-- States more, with the bytes of their branches. -/
def add (layout : Layout) (states branchBytes : Nat) : Layout :=
  ⟨layout.states + states, layout.branchBytes + branchBytes⟩

/-- Lays something out a number of times; once the bound is exceeded the rest does not matter. -/
def iterate (lay : Layout → Layout) : (count : Nat) → Layout → Layout
  | 0, layout => layout
  | count + 1, layout =>
    if maxMemory < layout.memory then layout else iterate lay count (lay layout)

/-! ### Classes beyond ASCII -/

/-- The slot of a state in a table with `size` slots, given the numbers that describe the state. -/
def slot (size : UInt64) (description : List Nat) : UInt64 :=
  description.foldl (fun hash n => (hash ^^^ n.toUInt64) * 1099511628211) 14695981039346656037 % size

/-- A layout under way together with a table of the states that can be found again: in each slot the
description of a state and its number. -/
structure Sharing where
  layout : Layout
  table : Std.HashMap UInt64 (List Nat × Nat) := {}

/-- Adds a state, with the bytes of its branches, and notes it in a slot. -/
def Sharing.push (sharing : Sharing) (place : UInt64) (description : List Nat) (branchBytes : Nat) :
    Nat × Sharing :=
  let number := sharing.layout.states
  (number, ⟨sharing.layout.add 1 branchBytes, sharing.table.insert place (description, number)⟩)

/-- Finds a state by its description or adds it. -/
def Sharing.state (sharing : Sharing) (size : UInt64) (description : List Nat) (branchBytes : Nat) :
    Nat × Sharing :=
  let place := slot size description
  match sharing.table[place]? with
  | some (known, earlier) =>
    if known == description then (earlier, sharing)
    else sharing.push place description branchBytes
  | none => sharing.push place description branchBytes

/-- Lays out the tree of byte sequences that share their first ranges. The children of a node come before
the node, `depth` bounds the length of the sequences, and all of them end in the state `target`. -/
def tree (target : Nat) : (depth : Nat) → List ByteSequence → Sharing → Nat × Sharing
  | 0, _, sharing => (target, sharing)
  | depth + 1, sequences, sharing =>
    if sequences.all (·.isEmpty) then (target, sharing)
    else
      let alike := sequences.splitBy fun s t => s.head? == t.head?
      let (description, sharing) := alike.foldl
        (fun (description, sharing) group =>
          let (child, sharing) := tree target depth (group.map List.tail) sharing
          match group.head?.bind List.head? with
          | some range => (child :: range.last.toNat :: range.first.toNat :: description, sharing)
          | none => (description, sharing))
        (([], sharing) : List Nat × Sharing)
      sharing.state 10000 description.reverse (8 * alike.length)

/-- A class read forwards: the common target, then a tree. -/
def forwardClass (members : List CodeInterval) (layout : Layout) : Layout :=
  let (_, sharing) := tree layout.states 4 (members.flatMap (·.byteSequences)) ⟨layout.add 1 0, {}⟩
  sharing.layout

/-- A class read backwards: a fork, the common target, and for every byte sequence a chain from its first
byte on, which leaves from the fork with its last byte and shares what it can. -/
def backwardClass (members : List CodeInterval) (layout : Layout) : Layout :=
  let target := layout.states + 1
  let sharing := (members.flatMap (·.byteSequences)).foldl
    (fun sharing sequence =>
      let (_, sharing) := sequence.foldl
        (fun ((next, sharing) : Nat × Sharing) range =>
          sharing.state 1000 [next, range.first.toNat, range.last.toNat] 0)
        (target, sharing)
      { sharing with layout := sharing.layout.add 0 4 })
    (⟨layout.add 2 0, {}⟩ : Sharing)
  sharing.layout

/-! ### Choices between literals -/

/-- Cuts a list of byte strings wherever an empty one stands, and says how many do. Empty ones before
all others count once. -/
def cutAtEnds (strings : List (List UInt8)) : Nat × List (List (List UInt8)) :=
  let fromFirst := strings.dropWhile (·.isEmpty)
  let leading := if fromFirst.length < strings.length then 1 else 0
  (leading + fromFirst.countP (·.isEmpty),
    (fromFirst.splitBy fun s t => s.isEmpty == t.isEmpty).filter fun part => part.any (!·.isEmpty))

/-- Lays out what is left of the literals at a node of their tree: a fork to a state for every stretch of
literals that go on, and to the end for every literal that stops here. A node where all literals stop is
the end itself. -/
def trie : (fuel : Nat) → List (List UInt8) → Layout → Layout
  | 0, _, layout => layout
  | fuel + 1, strings, layout =>
    if strings.all (·.isEmpty) then layout
    else
      let (stops, stretches) := cutAtEnds strings
      stretches.foldl
        (fun layout stretch =>
          let alike :=
            (stretch.mergeSort fun s t => s.headD 0 ≤ t.headD 0).splitBy fun s t => s.head? == t.head?
          let layout := alike.foldl (fun layout group => trie fuel (group.map List.tail) layout) layout
          layout.add 1 (if alike.length = 1 then 0 else 8 * alike.length))
        (layout.add 1 (4 * (stops + stretches.length)))

end Layout

/-! ### Blueprints -/

/-- The two ways to read a text. -/
inductive Direction where
  | forwards
  | backwards
deriving Repr, DecidableEq

namespace Blueprint

/-- The text of a literal. -/
def asLiteral? : Blueprint → Option (List Char)
  | literal text => some text
  | _ => none

mutual

/-- Whether the last state that is laid out for a blueprint is a fork, which gets one branch more when
something follows. -/
def endsInFork (direction : Direction) : Blueprint → Bool
  | times body least most _ =>
    match most with
    | none => least != 0 || body.consumes? == some true
    | some most => least == most && body.endsInFork direction
  | recorded _ body => direction == .backwards && body.endsInFork direction
  | sequenced parts =>
    match direction with
    | .forwards => lastEndsInFork direction parts
    | .backwards => firstEndsInFork direction parts
  | _ => false

/-- Whether the last blueprint of a list ends in a fork. -/
def lastEndsInFork (direction : Direction) : List Blueprint → Bool
  | [] => false
  | [part] => part.endsInFork direction
  | _ :: parts => lastEndsInFork direction parts

/-- Whether the first blueprint of a list ends in a fork. -/
def firstEndsInFork (direction : Direction) : List Blueprint → Bool
  | [] => false
  | part :: _ => part.endsInFork direction

end

/-- The bytes of the branches that the forks at the ends of blueprints get when something follows. -/
def forkBytes (direction : Direction) (blueprints : List Blueprint) : Nat :=
  4 * blueprints.countP (·.endsInFork direction)

/-- Lays out a choice between literals as their tree. -/
def layLiterals (direction : Direction) (texts : List (List Char)) (layout : Layout) : Layout :=
  let strings := texts.map fun text =>
    match direction with
    | .forwards => utf8Bytes text
    | .backwards => (utf8Bytes text).reverse
  let longest := strings.foldl (fun longest bytes => max longest bytes.length) 0
  Layout.trie (longest + 1) strings (layout.add 1 0)

mutual

/-- Lays out a blueprint. -/
def lay (direction : Direction) : Blueprint → Layout → Layout
  | empty, layout | assert _, layout => layout.add 1 0
  | literal text, layout => layout.add (utf8Bytes text).length 0
  | oneOf _ members, layout =>
    if members.all (·.last < 0x80) then layout.add 2 (8 * members.length)
    else match direction with
      | .forwards => layout.forwardClass members
      | .backwards => layout.backwardClass members
  | recorded _ body, layout =>
    match direction with
    | .forwards =>
      (body.lay direction (layout.add 1 0)).add 1 (forkBytes direction [body])
    | .backwards => body.lay direction layout
  | sequenced parts, layout =>
    let inOrder := layAll direction parts []
    match direction with
    | .forwards =>
      (inOrder.reverse.foldl (fun layout lay => lay layout) layout).add 0
        (forkBytes direction parts.dropLast)
    | .backwards =>
      (inOrder.foldl (fun layout lay => lay layout) layout).add 0 (forkBytes direction parts.tail)
  | chosen branches, layout =>
    match branches.mapM asLiteral? with
    | some texts => layLiterals direction texts layout
    | none =>
      -- the fork and the end come behind the first two branches
      let ends := 4 * branches.length + forkBytes direction branches
      match (layAll direction branches []).reverse with
      | first :: second :: others =>
        others.foldl (fun layout lay => lay layout) ((second (first layout)).add 2 ends)
      | _ => layout
  | times body least most _, layout =>
    let once := body.lay direction
    let fork := forkBytes direction [body]
    match least, most with
    | 0, some 1 => (once (layout.add 1 8)).add 1 fork
    | 0, none =>
      if body.consumes? == some true then (once (layout.add 1 (4 + fork)))
      else (once layout).add 3 (16 + fork)
    | least, none => (Layout.iterate once least layout).add 1 (4 + fork * least)
    | least, some most =>
      if least = most then (Layout.iterate once least layout).add 0 (fork * (least - 1))
      else
        -- nothing at all takes a state of its own
        let start := if least = 0 then layout.add 1 0 else Layout.iterate once least layout
        Layout.iterate (fun layout => once (layout.add 1 8)) (most - least)
          (start.add 1 (fork * most))

/-- The functions that lay out the blueprints of a list, the last one first, put in front of others. -/
def layAll (direction : Direction) : List Blueprint → List (Layout → Layout) → List (Layout → Layout)
  | [], before => before
  | part :: parts, before => layAll direction parts (part.lay direction :: before)

end

/-- The automaton of a whole pattern: a start, which skips any bytes unless all matches are bound to the
side of the text where reading begins, the pattern, recorded as a group, and an end. -/
def automaton (direction : Direction) (blueprint : Blueprint) : Layout :=
  let bound := match direction with
    | .forwards => blueprint.startsText
    | .backwards => blueprint.endsText
  let start : Layout := if bound then ⟨1, 0⟩ else ⟨3, 16⟩
  ((recorded 0 blueprint).lay direction start).add 1
    (match direction with
      | .forwards => 0
      | .backwards => forkBytes direction [blueprint])

/-- Whether both automata keep within the bound. -/
def fits (blueprint : Blueprint) : Bool :=
  (blueprint.automaton .forwards).memory ≤ maxMemory &&
    (blueprint.automaton .backwards).memory ≤ maxMemory

end Blueprint

end RuleText

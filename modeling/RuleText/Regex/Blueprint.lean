import RuleText.CharClass.CodeInterval
import RuleText.Regex.Basic

/-!
# Blueprints

What bears on the size of a pattern: its expression with the groups that record what they match, and with
everything that can be written more simply written so. Sequences and choices are flat, neighbouring
characters are one literal, a choice between characters or between classes is a class, a choice takes out
what all its branches begin with, and nothing that matches the empty stretch only is repeated.

A blueprint is put together by `Blueprint.ofClass`, `Blueprint.sequence`, `Blueprint.choice`,
`Blueprint.repeated` and `Blueprint.group`, each of which keeps that form, provided that it is given
blueprints of that form.

Main definitions:

- `Blueprint` and the functions above;
- `Blueprint.consumes?`, `Blueprint.isBlank`: whether all matches, or no match, take a character;
- `Blueprint.startsText`, `Blueprint.endsText`: whether every match begins where the text begins, or ends
  where it ends.
-/

namespace RuleText

/-- A pattern as it is laid out. -/
inductive Blueprint where
  | empty
  /-- One character after the other. -/
  | literal (text : List Char)
  /-- A character out of intervals that rise and do not touch. Classes of bytes are told apart from
  classes of characters even if they have the same members. -/
  | oneOf (bytes : Bool) (members : List CodeInterval)
  | assert (claim : Assertion)
  /-- A repetition, which may prefer many rounds or few. -/
  | times (body : Blueprint) (least : Nat) (most : Option Nat) (eager : Bool)
  /-- A group that records what it matches. -/
  | recorded (index : Nat) (body : Blueprint)
  | sequenced (parts : List Blueprint)
  | chosen (branches : List Blueprint)

namespace Blueprint

/-! ### Properties -/

mutual

/-- Whether two blueprints are the same. -/
def same : Blueprint → Blueprint → Bool
  | empty, empty => true
  | literal s, literal t => s == t
  | oneOf bytes members, oneOf bytes' members' => bytes == bytes' && members == members'
  | assert claim, assert claim' => claim == claim'
  | times body least most eager, times body' least' most' eager' =>
    least == least' && most == most' && eager == eager' && body.same body'
  | recorded index body, recorded index' body' => index == index' && body.same body'
  | sequenced parts, sequenced parts' => sameAll parts parts'
  | chosen branches, chosen branches' => sameAll branches branches'
  | _, _ => false

/-- Whether two lists of blueprints are the same. -/
def sameAll : List Blueprint → List Blueprint → Bool
  | [], [] => true
  | a :: as, b :: bs => a.same b && sameAll as bs
  | _, _ => false

end

mutual

/-- How many nodes a blueprint has. -/
def size : Blueprint → Nat
  | times body _ _ _ | recorded _ body => body.size + 1
  | sequenced parts | chosen parts => sizeAll parts 1
  | _ => 1

/-- How many nodes the blueprints of a list have, added to a number. -/
def sizeAll : List Blueprint → Nat → Nat
  | [], n => n
  | part :: parts, n => sizeAll parts (part.size + n)

end

mutual

/-- Whether the empty stretch is all that can match. -/
def isBlank : Blueprint → Bool
  | empty | assert _ => true
  | literal _ | oneOf _ _ => false
  | times body _ most _ => most.isSome && body.isBlank
  | recorded _ body => body.isBlank
  | sequenced parts | chosen parts => allBlank parts

/-- Whether the empty stretch is all that can match any blueprint of a list. -/
def allBlank : List Blueprint → Bool
  | [] => true
  | part :: parts => part.isBlank && allBlank parts

end

mutual

/-- Whether every match takes a character; none if a part of it matches nothing at all. -/
def consumes? : Blueprint → Option Bool
  | empty | assert _ => some false
  | literal _ => some true
  | oneOf _ members => if members.isEmpty then none else some true
  | times body least _ _ => body.consumes?.map (least != 0 && ·)
  | recorded _ body => body.consumes?
  | sequenced parts => someConsumes? parts false
  | chosen branches => allConsume? branches true

/-- Whether one of the blueprints of a list takes a character, or one before them did. -/
def someConsumes? : List Blueprint → Bool → Option Bool
  | [], before => some before
  | part :: parts, before =>
    match part.consumes? with
    | none => none
    | some consumes => someConsumes? parts (before || consumes)

/-- Whether all blueprints of a list take a character, and all before them did. -/
def allConsume? : List Blueprint → Bool → Option Bool
  | [], before => some before
  | branch :: branches, before =>
    match branch.consumes? with
    | none => none
    | some consumes => allConsume? branches (before && consumes)

end

mutual

/-- Whether every match begins at the beginning of the text. -/
def startsText : Blueprint → Bool
  | assert claim => claim == .textStart
  | times body least _ _ => least != 0 && body.startsText
  | recorded _ body => body.startsText
  | sequenced parts => firstStartsText parts
  | chosen branches => allStartText branches
  | _ => false

/-- Whether some blueprint of a sequence, before which only blank ones stand, says so. -/
def firstStartsText : List Blueprint → Bool
  | [] => false
  | part :: parts => part.startsText || (part.isBlank && firstStartsText parts)

/-- Whether all blueprints of a list say so. -/
def allStartText : List Blueprint → Bool
  | [] => true
  | branch :: branches => branch.startsText && allStartText branches

end

mutual

/-- Whether every match ends at the end of the text. -/
def endsText : Blueprint → Bool
  | assert claim => claim == .textEnd
  | times body least _ _ => least != 0 && body.endsText
  | recorded _ body => body.endsText
  | sequenced parts => lastEndsText parts false
  | chosen branches => allEndText branches
  | _ => false

/-- Whether some blueprint of a sequence, behind which only blank ones stand, says so; `before` tells
whether one did that stands in front of the list. -/
def lastEndsText : List Blueprint → (before : Bool) → Bool
  | [], before => before
  | part :: parts, before => lastEndsText parts (part.endsText || (part.isBlank && before))

/-- Whether all blueprints of a list say so. -/
def allEndText : List Blueprint → Bool
  | [] => true
  | branch :: branches => branch.endsText && allEndText branches

end

/-! ### Putting blueprints together -/

/-- What matches nothing at all. -/
def never : Blueprint := oneOf true []

/-- A character out of a class. A class of one character is a literal. -/
def ofIntervals (bytes : Bool) (members : List CodeInterval) : Blueprint :=
  match members with
  | [] => never
  | [⟨first, last⟩] => if first = last then literal [Char.ofNat first] else oneOf bytes members
  | _ => oneOf bytes members

/-- A character out of a class. -/
def ofClass (bytes : Bool) (c : CharClass) : Blueprint :=
  ofIntervals bytes c.intervals

/-- The bounds of a repetition as far as they matter: rounds beyond the first of what takes no character
change nothing. -/
def usefulBounds (body : Blueprint) (least : Nat) (most : Option Nat) : Nat × Option Nat :=
  if body.isBlank then (min least 1, some (min (most.getD 1) 1)) else (least, most)

/-- A repetition within useful bounds. -/
def repeated (body : Blueprint) (least : Nat) (most : Option Nat) (eager : Bool) : Blueprint :=
  if most = some 0 then empty
  else if least = 1 ∧ most = some 1 then body
  else times body least most eager

/-- A group, recorded under a number if it has one. -/
def group (index : Option Nat) (body : Blueprint) : Blueprint :=
  match index with
  | none => body
  | some index => recorded index body

/-- The parts that a blueprint brings into a sequence. -/
def parts : Blueprint → List Blueprint
  | empty => []
  | sequenced parts => parts
  | part => [part]

/-- Puts a part in front of a sequence, joining literals. -/
def pushFront (part : Blueprint) (rest : List Blueprint) : List Blueprint :=
  match part, rest with
  | literal s, literal t :: rest => literal (s ++ t) :: rest
  | _, _ => part :: rest

/-- One blueprint after the other. -/
def sequence (blueprints : List Blueprint) : Blueprint :=
  match (blueprints.flatMap parts).foldr pushFront [] with
  | [] => empty
  | [part] => part
  | parts => sequenced parts

/-- The branches that a blueprint brings into a choice. -/
def branches : Blueprint → List Blueprint
  | chosen branches => branches
  | branch => [branch]

/-- The interval of a literal of one character. -/
def asCharacter? : Blueprint → Option (List CodeInterval)
  | literal [c] => some [⟨c.toNat, c.toNat⟩]
  | _ => none

/-- The members of a class. -/
def asClass? : Blueprint → Option (List CodeInterval)
  | oneOf _ members => some members
  | _ => none

/-- The parts of a sequence of two or more. -/
def asSequence? : Blueprint → Option (List Blueprint)
  | sequenced parts => some parts
  | _ => none

/-- The longest list that two lists begin with. -/
def commonStart : List Blueprint → List Blueprint → List Blueprint
  | a :: as, b :: bs => if a.same b then a :: commonStart as bs else []
  | _, _ => []

/-- A choice. Characters alone and classes alone make a class; of sequences that begin alike, what they
begin with is taken out, and the rests are a choice again. These have fewer nodes, so the number of nodes
is fuel enough. -/
def choiceWithin : (fuel : Nat) → List Blueprint → Blueprint
  | 0, branches => chosen branches
  | fuel + 1, blueprints =>
    match blueprints.flatMap branches with
    | [] => never
    | [branch] => branch
    | branches =>
      match (branches.mapM asCharacter?).or (branches.mapM asClass?) with
      | some members => ofIntervals false (CodeInterval.normalize members.flatten)
      | none =>
        match branches.mapM asSequence? with
        | some (first :: others) =>
          match others.foldl commonStart first with
          | [] => chosen branches
          | start =>
            let rests := (first :: others).map fun parts => sequence (parts.drop start.length)
            sequence (start ++ [choiceWithin fuel rests])
        | _ => chosen branches

/-- A choice between blueprints. -/
def choice (blueprints : List Blueprint) : Blueprint :=
  choiceWithin (sizeAll blueprints 1) blueprints

end Blueprint

end RuleText

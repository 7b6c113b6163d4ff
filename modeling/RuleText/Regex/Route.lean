import RuleText.Regex.Reach

/-!
# Loops within loops

A repetition without an upper bound starts its body anew from every position that it finds. If the body
holds such a repetition too, and that one another, the work would double with every level. So each of
these loops remembers the positions at which it has been entered, and passes on only those that are new:
what is asked for in the end is where matches of the whole expression end, and a position entered again
leads nowhere else. No loop is entered twice at one position, so the work is bounded by the size of the
expression times the length of the text.

An expression is cut up for this purpose. What holds no loop stays a function on sets of positions, and a
counted repetition whose body holds a loop is written out, since each of its rounds remembers for itself.

Main definitions:

- `Route`, `Regex.route`: an expression cut up at its loops;
- `Track`, `Route.advance`: entering a route at further positions, given the track of those before;
- `CharRegex.foundIn`: the decision.
-/

namespace RuleText

/-- An expression cut up at its loops, over sets of positions. -/
inductive Route where
  /-- An expression without loops. -/
  | leap (r : Regex Nat Nat)
  | seq (q r : Route)
  | alt (q r : Route)
  /-- One round or more. -/
  | loop (body : Route)

namespace Route

/-- A route or nothing. -/
def optional (r : Route) : Route :=
  alt (leap .empty) r

/-- One route after the other, without a cut where there is no loop. -/
def andThen : Route → Route → Route
  | leap q, leap r => leap (.seq q r)
  | q, r => seq q r

/-- Either of two routes, without a cut where there is no loop. -/
def orElse : Route → Route → Route
  | leap q, leap r => leap (.alt q r)
  | q, r => alt q r

/-- A route `n` times in a row, written out. -/
def inRow : (n : Nat) → Route → Route
  | 0, _ => leap .empty
  | n + 1, r => seq r (inRow n r)

/-- A route `n` times in a row. -/
def exactly (n : Nat) : Route → Route
  | leap r => leap (.times r n (some n))
  | r => inRow n r

/-- A route at most `n` times in a row, written out. -/
def atMost : (n : Nat) → Route → Route
  | 0, _ => leap .empty
  | n + 1, r => optional (seq r (atMost n r))

/-- A repetition of a route. -/
def times (r : Route) (least : Nat) : (most : Option Nat) → Route
  | none =>
    match least with
    | 0 => optional (loop r)
    | 1 => loop r
    | n + 1 => seq (exactly n r) (loop r)
  | some most =>
    match r with
    | leap r => leap (.times r least (some most))
    | r =>
      if most < least then leap (.times .empty least (some most))
      else seq (exactly least r) (atMost (most - least) r)

end Route

/-- An expression cut up at its loops. -/
def Regex.route : Regex Nat Nat → Route
  | seq q r => q.route.andThen r.route
  | alt q r => q.route.orElse r.route
  | times r least most => r.route.times least most
  | r => .leap r

/-! ### Following a route -/

/-- Where the loops of a route have been entered. -/
inductive Track where
  /-- Nowhere yet. -/
  | fresh
  | pair (first second : Track)
  | loop (entered : Nat) (body : Track)

namespace Track

/-- The track of the first part of a route. -/
def first : Track → Track
  | pair q _ => q
  | _ => fresh

/-- The track of the second part of a route. -/
def second : Track → Track
  | pair _ r => r
  | _ => fresh

/-- Where a loop has been entered. -/
def entered : Track → Nat
  | loop entered _ => entered
  | _ => 0

/-- The track of the body of a loop. -/
def body : Track → Track
  | loop _ body => body
  | _ => fresh

end Track

/-- Rounds of a loop: enters the body at the positions not entered before, and goes on from where that
leads, `found` being where the earlier rounds have led. Each round enters at least one position more, so
as many rounds as there are positions are enough. -/
def Track.rounds (enter : Track → Nat → Nat × Track) :
    (fuel : Nat) → (entered : Nat) → (body : Track) → (next found : Nat) → Nat × Track
  | 0, entered, body, _, found => (found, loop entered body)
  | fuel + 1, entered, body, next, found =>
    let new := minus next entered
    if new = 0 then (found, loop entered body)
    else
      let (exits, body) := enter body new
      rounds enter fuel (entered ||| new) body exits (found ||| exits)

/-- Enters a route at further positions. The answer holds every end position that was not reachable from
the positions entered before, and only end positions. -/
def Route.advance (count : Nat) : Route → Track → (next : Nat) → Nat × Track
  | leap r, track, next => (r.reach count next, track)
  | seq q r, track, next =>
    if next = 0 then (0, track)
    else
      let (middle, first) := q.advance count track.first next
      let (exits, second) := r.advance count track.second middle
      (exits, .pair first second)
  | alt q r, track, next =>
    if next = 0 then (0, track)
    else
      let (exits, first) := q.advance count track.first next
      let (exits', second) := r.advance count track.second next
      (exits ||| exits', .pair first second)
  | loop body, track, next =>
    Track.rounds (body.advance count) (count + 1) track.entered track.body next 0

/-- Whether the expression matches some stretch of a text. -/
def CharRegex.foundIn (r : CharRegex) (text : List Char) : Bool :=
  let places := Places.ofText text
  let placed : Regex Nat Nat :=
    Regex.mapLeaves (fun cls => places.of fun c => cls.has c.toNat) places.holding r
  (placed.route.advance (text.length + 1) .fresh places.all).1 != 0

end RuleText

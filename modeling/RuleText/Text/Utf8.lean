/-!
# Reading bytes as text

A sequence of bytes is text when it splits into the encodings of characters. Where it does not, the first
place that fits no character is reported: either some bytes there can begin no character, or the bytes end
before the character does.

Main definitions:

- `utf8Head`: the first character of a sequence, or how many bytes of it are wrong;
- `decodeUtf8`: a whole sequence, or the first error in it;
- `decodeMarked`: a whole sequence with a mark in place of every byte that is no part of a character.
-/

namespace RuleText

/-- Bytes as they are read and written. -/
abbrev Bytes := List UInt8

/-- The bytes of a text. -/
def encodeUtf8 (text : List Char) : Bytes :=
  text.flatMap String.utf8EncodeChar

/-- Why the bytes at a place begin no character: so many of them are wrong, or the rest is missing. -/
inductive Utf8Fault where
  | invalid (length : Nat)
  | incomplete
deriving Repr, DecidableEq

/-- The first byte that does not continue a character, among the `bounds` for the bytes to come, with the
number of bytes before it; or that all of them fit. -/
def continuation (taken : Nat) : List (Nat × Nat) → Bytes → Except Utf8Fault Unit
  | [], _ => .ok ()
  | _ :: _, [] => .error .incomplete
  | (low, high) :: bounds, b :: rest =>
    if low ≤ b.toNat ∧ b.toNat ≤ high then continuation (taken + 1) bounds rest
    else .error (.invalid taken)

/-- The bounds for the bytes that have to follow a first byte; none if it begins no character. -/
def continuationBounds? (first : Nat) : Option (List (Nat × Nat)) :=
  let tail := (0x80, 0xBF)
  if first ≤ 0x7F then some []
  else if 0xC2 ≤ first ∧ first ≤ 0xDF then some [tail]
  else if first = 0xE0 then some [(0xA0, 0xBF), tail]
  else if first = 0xED then some [(0x80, 0x9F), tail]
  else if 0xE1 ≤ first ∧ first ≤ 0xEF then some [tail, tail]
  else if first = 0xF0 then some [(0x90, 0xBF), tail, tail]
  else if 0xF1 ≤ first ∧ first ≤ 0xF3 then some [tail, tail, tail]
  else if first = 0xF4 then some [(0x80, 0x8F), tail, tail]
  else none

/-- The code point of a first byte and those that follow it. -/
def codePoint (first : Nat) (tail : List Nat) : Nat :=
  let lead := match tail.length with
    | 0 => first
    | 1 => first - 0xC0
    | 2 => first - 0xE0
    | _ => first - 0xF0
  tail.foldl (fun n b => 64 * n + (b - 0x80)) lead

/-- The first character of a sequence that begins with `first`, and the bytes behind it. -/
def utf8Head (first : UInt8) (rest : Bytes) : Except Utf8Fault (Char × Bytes) :=
  match continuationBounds? first.toNat with
  | none => .error (.invalid 1)
  | some bounds =>
    match continuation 1 bounds rest with
    | .error fault => .error fault
    | .ok () =>
      let tail := (rest.take bounds.length).map (·.toNat)
      .ok (Char.ofNat (codePoint first.toNat tail), rest.drop bounds.length)

/-- The first error in a sequence: its place and what is wrong there. -/
structure Utf8Error where
  index : Nat
  fault : Utf8Fault
deriving Repr, DecidableEq

/-- The error as a message. -/
def Utf8Error.message (e : Utf8Error) : String :=
  match e.fault with
  | .invalid length => s!"invalid utf-8 sequence of {length} bytes from index {e.index}"
  | .incomplete => s!"incomplete utf-8 byte sequence from index {e.index}"

/-- The characters of a sequence from an index on. -/
def decodeFrom : (fuel index : Nat) → Bytes → Except Utf8Error (List Char)
  | 0, _, _ => .ok []
  | _ + 1, _, [] => .ok []
  | fuel + 1, index, b :: rest =>
    match utf8Head b rest with
    | .error fault => .error ⟨index, fault⟩
    | .ok (c, after) =>
      match decodeFrom fuel (index + c.utf8Size) after with
      | .error e => .error e
      | .ok text => .ok (c :: text)

/-- The text that a sequence encodes. -/
def decodeUtf8 (bytes : Bytes) : Except Utf8Error (List Char) :=
  decodeFrom bytes.length 0 bytes

/-- The characters of a sequence, with `none` for every byte that is no part of one. -/
def decodeMarkedFrom : (fuel : Nat) → Bytes → List (Option Char)
  | 0, _ => []
  | _ + 1, [] => []
  | fuel + 1, b :: rest =>
    match utf8Head b rest with
    | .error _ => none :: decodeMarkedFrom fuel rest
    | .ok (c, after) => some c :: decodeMarkedFrom fuel after

/-- The characters of a sequence, with `none` for every byte that is no part of one. -/
def decodeMarked (bytes : Bytes) : List (Option Char) :=
  decodeMarkedFrom bytes.length bytes

end RuleText

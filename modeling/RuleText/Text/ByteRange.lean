import RuleText.CharClass.CodeInterval

/-!
# Characters as bytes

In bytes, an interval of characters becomes a union of products: sequences of byte ranges, such that a
character lies in the interval exactly if its bytes lie in the ranges of one sequence, one byte in each.
The sequences are as few as possible and come in the order of the characters.

Main definitions:

- `ByteRange`, `ByteSequence`;
- `CodeInterval.blocks`: an interval cut where the trailing bytes do not run through all their values;
- `CodeInterval.byteSequences`: the sequences of an interval.
-/

namespace RuleText

/-- The bytes from `first` to `last`. -/
structure ByteRange where
  first : UInt8
  last : UInt8
deriving Repr, DecidableEq

/-- One range for each byte of a character. -/
abbrev ByteSequence := List ByteRange

/-- The bytes of a text. -/
def utf8Bytes (text : List Char) : List UInt8 :=
  text.flatMap String.utf8EncodeChar

namespace CodeInterval

/-- Cuts an interval, whose characters have `trailing` trailing bytes each, so that in every part the
bytes behind the first one that varies run through all their values. A trailing byte has 64 values. -/
def blocks : (trailing : Nat) → CodeInterval → List CodeInterval
  | 0, interval => [interval]
  | trailing + 1, ⟨first, last⟩ =>
    let size := Nat.pow 64 (trailing + 1)
    if first / size = last / size then blocks trailing ⟨first, last⟩
    else
      -- the block that `first` lies in, if it starts within, and likewise for `last`
      let (before, start) :=
        if first % size = 0 then ([], first)
        else (blocks trailing ⟨first, first / size * size + size - 1⟩, (first / size + 1) * size)
      let (after, stop) :=
        if (last + 1) % size = 0 then ([], last + 1)
        else (blocks trailing ⟨last / size * size, last⟩, last / size * size)
      before ++ (if start < stop then [⟨start, stop - 1⟩] else []) ++ after

/-- The intervals of characters that are equally long in bytes, each with the number of trailing
bytes. -/
def byLength : List (CodeInterval × Nat) :=
  [(⟨0, 0x7F⟩, 0), (⟨0x80, 0x7FF⟩, 1), (⟨0x800, 0xD7FF⟩, 2), (⟨0xE000, 0xFFFF⟩, 2),
    (⟨0x10000, lastCode⟩, 3)]

/-- The byte sequences of an interval. -/
def byteSequences (interval : CodeInterval) : List ByteSequence :=
  byLength.flatMap fun (zone, trailing) =>
    let first := max interval.first zone.first
    let last := min interval.last zone.last
    if last < first then []
    else (blocks trailing ⟨first, last⟩).map fun block =>
      (String.utf8EncodeChar (Char.ofNat block.first)).zipWith ByteRange.mk
        (String.utf8EncodeChar (Char.ofNat block.last))

end CodeInterval

end RuleText

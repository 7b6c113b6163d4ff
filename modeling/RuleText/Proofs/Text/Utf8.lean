import Mathlib.Data.List.Forall2
import RuleText.Text.Utf8

/-!
# Texts come back from their bytes

Every text is read back from its encoding. A decoder goes through the bytes one character at a time, so it
is enough that it finds the character at the front and the right number of bytes behind it
(`utf8Head_encode`). The first byte tells how many bytes belong to a character and between which bounds they
lie, and the bounds are narrower where a longer form would encode what a shorter one does already, in front
of the surrogates, and at the end of the code points. What makes the encoding of a character pass is that the
character is none of those.

Main statements:

- `utf8Head_of_fits`: bytes within their bounds are a character;
- `utf8Head_encode`: the character at the front of a text;
- `decodeUtf8_encode`, `decodeMarked_encode`: a whole text.
-/

namespace RuleText

/-! ### One character -/

/-- The number of a byte lies between bounds. -/
def Fits (bounds : Nat × Nat) (byte : Nat) : Prop :=
  bounds.1 ≤ byte ∧ byte ≤ bounds.2 ∧ byte < 256

theorem toNat_ofNat_byte {n : Nat} (h : n < 256) : (UInt8.ofNat n).toNat = n :=
  UInt8.toNat_ofNat_of_lt' h

theorem continuation_of_fits {bounds : List (Nat × Nat)} {tail : List Nat}
    (h : List.Forall₂ Fits bounds tail) (taken : Nat) (rest : Bytes) :
    continuation taken bounds (tail.map UInt8.ofNat ++ rest) = .ok () := by
  induction h generalizing taken with
  | nil => rfl
  | cons hfits _ ih =>
    obtain ⟨hlow, hhigh, hbyte⟩ := hfits
    rw [List.map_cons, List.cons_append, continuation, toNat_ofNat_byte hbyte, if_pos ⟨hlow, hhigh⟩]
    exact ih (taken + 1)

theorem map_toNat_of_fits {bounds : List (Nat × Nat)} {tail : List Nat}
    (h : List.Forall₂ Fits bounds tail) : (tail.map UInt8.ofNat).map (·.toNat) = tail := by
  induction h with
  | nil => rfl
  | cons hfits _ ih => rw [List.map_cons, List.map_cons, toNat_ofNat_byte hfits.2.2, ih]

/-- Bytes that the first one asks for, each within its bounds, are those of a character. -/
theorem utf8Head_of_fits {first : Nat} {bounds : List (Nat × Nat)} {tail : List Nat} (hfirst : first < 256)
    (hbounds : continuationBounds? first = some bounds) (h : List.Forall₂ Fits bounds tail) (rest : Bytes) :
    utf8Head (.ofNat first) (tail.map UInt8.ofNat ++ rest) =
      .ok (Char.ofNat (codePoint first tail), rest) := by
  have hlength : bounds.length = (tail.map UInt8.ofNat).length := by rw [List.length_map, h.length_eq]
  unfold utf8Head
  rw [toNat_ofNat_byte hfirst, hbounds]
  simp only [continuation_of_fits h, hlength, List.take_left, List.drop_left, map_toNat_of_fits h]

section Encode

variable {v : Nat} (rest : Bytes)

theorem utf8Head_one (hv : v ≤ 0x7F) : utf8Head (.ofNat v) rest = .ok (Char.ofNat v, rest) := by
  have hbounds : continuationBounds? v = some [] := by
    unfold continuationBounds?
    rw [if_pos hv]
  exact utf8Head_of_fits (by omega) hbounds .nil rest

theorem utf8Head_two (hlow : 0x7F < v) (hhigh : v ≤ 0x7FF) :
    utf8Head (.ofNat (v / 64 % 32 + 192)) (.ofNat (v % 64 + 128) :: rest) = .ok (Char.ofNat v, rest) := by
  have hbounds : continuationBounds? (v / 64 % 32 + 192) = some [(0x80, 0xBF)] := by
    unfold continuationBounds?
    rw [if_neg (by omega), if_pos (by omega)]
  have hfits : List.Forall₂ Fits [(0x80, 0xBF)] [v % 64 + 128] :=
    .cons ⟨by omega, by omega, by omega⟩ .nil
  have hcode : codePoint (v / 64 % 32 + 192) [v % 64 + 128] = v := by
    simp only [codePoint, List.length_singleton, List.foldl_cons, List.foldl_nil]
    omega
  have hhead := utf8Head_of_fits (by omega) hbounds hfits rest
  rw [hcode] at hhead
  exact hhead

/-- The second byte of three is bounded from below, so that two would not do, and from above in front of the
surrogates. -/
theorem continuationBounds?_three (hlow : 0x7FF < v) (hhigh : v ≤ 0xFFFF)
    (hvalid : v < 0xD800 ∨ 0xDFFF < v) :
    ∃ low high, continuationBounds? (v / 4096 % 16 + 224) = some [(low, high), (0x80, 0xBF)] ∧
      low ≤ v / 64 % 64 + 128 ∧ v / 64 % 64 + 128 ≤ high := by
  unfold continuationBounds?
  rw [if_neg (by omega), if_neg (by omega)]
  by_cases hshort : v / 4096 % 16 + 224 = 0xE0
  · rw [if_pos hshort]
    exact ⟨_, _, rfl, by omega, by omega⟩
  · rw [if_neg hshort]
    by_cases hsurrogates : v / 4096 % 16 + 224 = 0xED
    · rw [if_pos hsurrogates]
      exact ⟨_, _, rfl, by omega, by omega⟩
    · rw [if_neg hsurrogates, if_pos (by omega)]
      exact ⟨_, _, rfl, by omega, by omega⟩

theorem utf8Head_three (hlow : 0x7FF < v) (hhigh : v ≤ 0xFFFF) (hvalid : v < 0xD800 ∨ 0xDFFF < v) :
    utf8Head (.ofNat (v / 4096 % 16 + 224))
        (.ofNat (v / 64 % 64 + 128) :: .ofNat (v % 64 + 128) :: rest) = .ok (Char.ofNat v, rest) := by
  obtain ⟨low, high, hbounds, hsecond⟩ := continuationBounds?_three hlow hhigh hvalid
  have hfits : List.Forall₂ Fits [(low, high), (0x80, 0xBF)] [v / 64 % 64 + 128, v % 64 + 128] :=
    .cons ⟨hsecond.1, hsecond.2, by omega⟩ (.cons ⟨by omega, by omega, by omega⟩ .nil)
  have hcode : codePoint (v / 4096 % 16 + 224) [v / 64 % 64 + 128, v % 64 + 128] = v := by
    simp only [codePoint, List.length_cons, List.length_nil, List.foldl_cons, List.foldl_nil]
    omega
  have hhead := utf8Head_of_fits (by omega) hbounds hfits rest
  rw [hcode] at hhead
  exact hhead

/-- The second byte of four is bounded from below, so that three would not do, and from above at the end of
the code points. -/
theorem continuationBounds?_four (hlow : 0xFFFF < v) (hhigh : v < 0x110000) :
    ∃ low high,
      continuationBounds? (v / 262144 % 8 + 240) = some [(low, high), (0x80, 0xBF), (0x80, 0xBF)] ∧
        low ≤ v / 4096 % 64 + 128 ∧ v / 4096 % 64 + 128 ≤ high := by
  unfold continuationBounds?
  rw [if_neg (by omega), if_neg (by omega), if_neg (by omega), if_neg (by omega), if_neg (by omega)]
  by_cases hshort : v / 262144 % 8 + 240 = 0xF0
  · rw [if_pos hshort]
    exact ⟨_, _, rfl, by omega, by omega⟩
  · rw [if_neg hshort]
    by_cases hinner : 0xF1 ≤ v / 262144 % 8 + 240 ∧ v / 262144 % 8 + 240 ≤ 0xF3
    · rw [if_pos hinner]
      exact ⟨_, _, rfl, by omega, by omega⟩
    · rw [if_neg hinner, if_pos (by omega)]
      exact ⟨_, _, rfl, by omega, by omega⟩

theorem utf8Head_four (hlow : 0xFFFF < v) (hhigh : v < 0x110000) :
    utf8Head (.ofNat (v / 262144 % 8 + 240))
        (.ofNat (v / 4096 % 64 + 128) :: .ofNat (v / 64 % 64 + 128) :: .ofNat (v % 64 + 128) :: rest) =
      .ok (Char.ofNat v, rest) := by
  obtain ⟨low, high, hbounds, hsecond⟩ := continuationBounds?_four hlow hhigh
  have hfits : List.Forall₂ Fits [(low, high), (0x80, 0xBF), (0x80, 0xBF)]
      [v / 4096 % 64 + 128, v / 64 % 64 + 128, v % 64 + 128] :=
    .cons ⟨hsecond.1, hsecond.2, by omega⟩
      (.cons ⟨by omega, by omega, by omega⟩ (.cons ⟨by omega, by omega, by omega⟩ .nil))
  have hcode : codePoint (v / 262144 % 8 + 240)
      [v / 4096 % 64 + 128, v / 64 % 64 + 128, v % 64 + 128] = v := by
    simp only [codePoint, List.length_cons, List.length_nil, List.foldl_cons, List.foldl_nil]
    omega
  have hhead := utf8Head_of_fits (by omega) hbounds hfits rest
  rw [hcode] at hhead
  exact hhead

end Encode

/-- **The character at the front of a text.** -/
theorem utf8Head_encode (c : Char) (rest : Bytes) :
    ∃ first tail, String.utf8EncodeChar c = first :: tail ∧
      utf8Head first (tail ++ rest) = .ok (c, rest) := by
  have hvalid : c.val.toNat < 0xD800 ∨ 0xDFFF < c.val.toNat ∧ c.val.toNat < 0x110000 := c.valid
  have hself : Char.ofNat c.val.toNat = c := Char.ofNat_toNat c
  -- a character has as many bytes as its code point needs, so the cases are those of the encoder
  unfold String.utf8EncodeChar
  simp only
  split
  · rename_i hone
    exact ⟨_, _, rfl, (utf8Head_one rest hone).trans (by rw [hself])⟩
  · rename_i hone
    split
    · rename_i htwo
      exact ⟨_, _, rfl, (utf8Head_two rest (by omega) htwo).trans (by rw [hself])⟩
    · rename_i htwo
      split
      · rename_i hthree
        exact ⟨_, _, rfl, (utf8Head_three rest (by omega) hthree (by omega)).trans (by rw [hself])⟩
      · rename_i hthree
        exact ⟨_, _, rfl, (utf8Head_four rest (by omega) (by omega)).trans (by rw [hself])⟩

/-! ### Texts -/

/-- The bytes of a text begin with those of its first character. -/
theorem encodeUtf8_cons (c : Char) (others : List Char) :
    ∃ first tail, encodeUtf8 (c :: others) = first :: (tail ++ encodeUtf8 others) ∧
      utf8Head first (tail ++ encodeUtf8 others) = .ok (c, encodeUtf8 others) := by
  obtain ⟨first, tail, hbytes, hhead⟩ := utf8Head_encode c (encodeUtf8 others)
  refine ⟨first, tail, ?_, hhead⟩
  unfold encodeUtf8
  rw [List.flatMap_cons, hbytes]
  rfl

/-- Every character has a byte at least, so the bytes are rounds enough. -/
theorem decodeFrom_encode (text : List Char) {fuel : Nat} (hfuel : (encodeUtf8 text).length ≤ fuel)
    (index : Nat) : decodeFrom fuel index (encodeUtf8 text) = .ok text := by
  induction text generalizing fuel index with
  | nil => cases fuel <;> rfl
  | cons c others ih =>
    obtain ⟨first, tail, hsplit, hhead⟩ := encodeUtf8_cons c others
    rw [hsplit, List.length_cons, List.length_append] at hfuel
    cases fuel with
    | zero => omega
    | succ fuel =>
      -- one round takes the first character, and the others are found behind it
      rw [hsplit, decodeFrom, hhead]
      simp only
      rw [ih (by omega)]

/-- **A text comes back from its bytes.** -/
theorem decodeUtf8_encode (text : List Char) : decodeUtf8 (encodeUtf8 text) = .ok text :=
  decodeFrom_encode text (Nat.le_refl _) 0

theorem decodeMarkedFrom_encode (text : List Char) {fuel : Nat} (hfuel : (encodeUtf8 text).length ≤ fuel) :
    decodeMarkedFrom fuel (encodeUtf8 text) = text.map some := by
  induction text generalizing fuel with
  | nil => cases fuel <;> rfl
  | cons c others ih =>
    obtain ⟨first, tail, hsplit, hhead⟩ := encodeUtf8_cons c others
    rw [hsplit, List.length_cons, List.length_append] at hfuel
    cases fuel with
    | zero => omega
    | succ fuel =>
      rw [hsplit, decodeMarkedFrom, hhead, List.map_cons]
      simp only
      rw [ih (by omega)]

/-- And none of its bytes is marked as a stray one. -/
theorem decodeMarked_encode (text : List Char) : decodeMarked (encodeUtf8 text) = text.map some :=
  decodeMarkedFrom_encode text (Nat.le_refl _)

end RuleText

import RuleText.Proofs.Token.Tiling

/-!
# Splitting a text piece by piece

A scanner keeps its place from one text to the next, so a document may be handed to it in pieces. This module
shows that nothing is lost by it, provided that no token is cut in two: the pieces have the tokens of the
document, with the spans that they have there (`scanAll_pieces`).

Two things have to be kept apart. One is what a token sees behind its end: a run of blanks and a word go on
as long as they can, the keyword must not run on into a word, and a line comment stops where its line does.
At the end of a piece there is nothing to be seen. That never hurts, since every token may end where its text
does (`Token.mayEnd_nil`), so a stretch of a row of lexemes is a row by itself (`IsRow.of_append`). The other is
the place. A scanner stands behind what it has consumed, in one text or in several, so the row that is read off
a piece begins where the row of the pieces before it ends (`placeRow_append`).

Cuts are given by their byte offsets, as spans are. Of all beginnings of a text only one has a given number of
bytes (`eq_of_byteLength_eq`), so a cut at the end of a token leaves whole lexemes in front of it, and the
pieces are a row of lexemes cut between its parts (`Pieces`).

Main definitions:

- `IsBoundary`: offsets at which a text may be cut;
- `Pieces`: the pieces of a row that is cut between parts.

Main statements:

- `Pieces.of_cuts`: the pieces of a text that is cut at boundaries;
- `Pieces.scanAll`: what a scanner answers to the pieces of a row;
- `scanAll_pieces`: the same tokens, piece by piece.
-/

namespace RuleText

/-! ### Cuts -/

/-- An offset at which no token is cut in two: the beginning of a text, or the end of one of its tokens. -/
def IsBoundary (placed : List PlacedToken) (offset : Nat) : Prop :=
  offset = 0 ∨ ∃ found ∈ placed, found.span.stop = offset

instance (placed : List PlacedToken) (offset : Nat) : Decidable (IsBoundary placed offset) :=
  inferInstanceAs (Decidable (offset = 0 ∨ ∃ found ∈ placed, found.span.stop = offset))

/-- Beginnings of one text that have the same number of bytes are the same. -/
theorem eq_of_byteLength_eq {text front other : List Char} (hfront : front <+: text)
    (hother : other <+: text) (h : byteLength front = byteLength other) : front = other := by
  -- one of the two begins the other, and what it lacks has no bytes
  have hlonger : ∀ {short long : List Char}, short <+: long → byteLength short = byteLength long →
      short = long := by
    rintro short _ ⟨more, rfl⟩ hbytes
    rw [byteLength_append] at hbytes
    have hmore : more = [] := by
      by_contra hne
      have hpos := byteLength_pos hne
      omega
    rw [hmore, List.append_nil]
  rcases List.prefix_or_prefix_of_prefix hfront hother with hshort | hlong
  · exact hlonger hshort h
  · exact (hlonger hlong h.symm).symm

/-- A token of a row ends behind the lexemes up to its own. -/
theorem exists_front_of_mem_placeRow {place : Position} {row : List Part} {found : PlacedToken}
    (h : found ∈ placeRow place row) :
    ∃ front, front <+: row ∧
      found.span.stop = place.offset + byteLength (front.flatMap Part.lexeme) := by
  induction row generalizing place with
  | nil => cases h
  | cons part others ih =>
    rcases List.mem_cons.mp h with rfl | hlater
    · refine ⟨[part], List.prefix_append [part] others, ?_⟩
      rw [List.flatMap_singleton, ← Position.offset_advance]
      rfl
    · obtain ⟨front, hfront, hstop⟩ := ih hlater
      refine ⟨part :: front, List.cons_prefix_cons.mpr ⟨rfl, hfront⟩, ?_⟩
      rw [hstop, Position.offset_advance, List.flatMap_cons, byteLength_append, Nat.add_assoc]

/-- At a boundary whole lexemes stand in front of the cut. -/
theorem exists_front_of_isBoundary {row : List Part} {front : List Char}
    (hfront : front <+: row.flatMap Part.lexeme)
    (h : IsBoundary (placeRow {} row) (byteLength front)) :
    ∃ parts, parts <+: row ∧ front = parts.flatMap Part.lexeme := by
  have hparts : ∃ parts, parts <+: row ∧ byteLength front = byteLength (parts.flatMap Part.lexeme) := by
    rcases h with hzero | ⟨found, hfound, hstop⟩
    · exact ⟨[], List.nil_prefix, hzero⟩
    · obtain ⟨parts, hparts, hends⟩ := exists_front_of_mem_placeRow hfound
      refine ⟨parts, hparts, ?_⟩
      rw [← hstop, hends]
      exact Nat.zero_add _
  obtain ⟨parts, ⟨others, rfl⟩, hbytes⟩ := hparts
  refine ⟨parts, List.prefix_append parts others, eq_of_byteLength_eq hfront ?_ hbytes⟩
  rw [List.flatMap_append]
  exact List.prefix_append _ _

/-! ### Rows in pieces -/

/-- The pieces of a row that is cut between parts. A piece may be empty, where two cuts are at one place. -/
inductive Pieces : List Part → List (List Char) → Prop where
  | nil : Pieces [] []
  | cons (group : List Part) {row : List Part} {pieces : List (List Char)} (h : Pieces row pieces) :
      Pieces (group ++ row) (group.flatMap Part.lexeme :: pieces)

/-- **Pieces of a text that is cut behind lexemes.** -/
theorem Pieces.of_cuts {row : List Part} {pieces : List (List Char)}
    (hlexemes : ∀ part ∈ row, part.lexeme ≠ []) (hjoin : pieces.flatten = row.flatMap Part.lexeme)
    (hcuts : ∀ k, ∃ parts, parts <+: row ∧ (pieces.take k).flatten = parts.flatMap Part.lexeme) :
    Pieces row pieces := by
  induction pieces generalizing row with
  | nil =>
    -- no lexeme is empty, so there is none
    cases row with
    | nil => exact .nil
    | cons part others =>
      rw [List.flatMap_cons] at hjoin
      have hempty := List.append_eq_nil_iff.mp hjoin.symm
      exact absurd hempty.1 (hlexemes part List.mem_cons_self)
  | cons piece others ih =>
    obtain ⟨group, ⟨rest, rfl⟩, hgroup⟩ := hcuts 1
    have hpiece : piece = group.flatMap Part.lexeme := by
      rw [← hgroup, List.take_succ_cons, List.take_zero, List.flatten_cons, List.flatten_nil,
        List.append_nil]
    subst hpiece
    refine .cons group (ih ?_ ?_ ?_)
    · intro part hpart
      exact hlexemes part (List.mem_append_right group hpart)
    · rw [List.flatten_cons, List.flatMap_append] at hjoin
      exact List.append_cancel_left hjoin
    · intro k
      obtain ⟨parts, hparts, hfront⟩ := hcuts (k + 1)
      rw [List.take_succ_cons, List.flatten_cons] at hfront
      -- the cuts behind the first one are cuts of what is left
      rcases List.prefix_or_prefix_of_prefix hparts (List.prefix_append group rest) with
        ⟨missing, rfl⟩ | ⟨more, rfl⟩
      · -- a cut that is no further on than the first one is at the same place
        refine ⟨[], List.nil_prefix, ?_⟩
        have hlength := congrArg List.length hfront
        rw [List.flatMap_append, List.length_append, List.length_append] at hlength
        exact List.eq_nil_of_length_eq_zero (by omega)
      · refine ⟨more, (List.prefix_append_right_inj group).mp hparts, ?_⟩
        rw [List.flatMap_append] at hfront
        exact List.append_cancel_left hfront

/-- **What a scanner answers to the pieces of a row**: all of them split, and their tokens make up those of the
row. -/
theorem Pieces.scanAll {row : List Part} {pieces : List (List Char)} (h : Pieces row pieces)
    (hrow : IsRow (row.flatMap Part.lexeme) row) (place : Position) :
    ∃ answers : List (List PlacedToken), RuleText.scanAll place pieces = answers.map Except.ok ∧
      answers.flatten = placeRow place row := by
  induction h generalizing place with
  | nil => exact ⟨[], rfl, rfl⟩
  | @cons group row pieces _ ih =>
    -- the parts of the piece are a row, whatever stood behind the last of them
    obtain ⟨hgroup, hrest, -⟩ := hrow.of_append
    obtain ⟨answer, hscan, hok, -⟩ := scan_of_splitsUpTo hgroup.splitsUpTo place
    obtain ⟨answers, hanswers, hplaced⟩ := ih hrest (place.advance (group.flatMap Part.lexeme))
    refine ⟨placeRow place group :: answers, ?_, ?_⟩
    · rw [RuleText.scanAll, hscan, hok rfl, List.map_cons]
      show _ :: RuleText.scanAll (place.advance (group.flatMap Part.lexeme)) pieces = _
      rw [hanswers]
    · rw [List.flatten_cons, hplaced, placeRow_append]

/-- **Splitting piece by piece is splitting the whole.** A text that splits into tokens is cut at boundaries of
tokens, in any number of places, and the pieces are given to a scanner one after the other. Then every piece
splits, and the tokens of the pieces in order are the tokens of the text, each with the span that it has in
the text. -/
theorem scanAll_pieces {text : List Char} {placed : List PlacedToken} (h : tokenize text = .ok placed)
    {pieces : List (List Char)} (hjoin : pieces.flatten = text)
    (hcuts : ∀ k, IsBoundary placed (byteLength (pieces.take k).flatten)) :
    ∃ answers : List (List PlacedToken),
      scanAll {} pieces = answers.map Except.ok ∧ answers.flatten = placed := by
  obtain ⟨row, hrow, rfl⟩ := exists_row_of_tokenize h
  have hlexemes : ∀ part ∈ row, part.lexeme ≠ [] := by
    intro part hpart
    exact (hrow.lexemes part hpart).ne_nil
  have hpieces : Pieces row pieces := by
    refine .of_cuts hlexemes (hjoin.trans hrow.text_eq) fun k => ?_
    refine exists_front_of_isBoundary ?_ (hcuts k)
    rw [← hrow.text_eq, ← hjoin, ← List.take_append_drop k pieces, List.flatten_append,
      List.take_append_drop]
    exact List.prefix_append _ _
  exact hpieces.scanAll (hrow.text_eq ▸ hrow) {}

/-- The keyword, two blanks and a line comment are cut off from what stands behind them, and one piece is
empty. -/
theorem scanAll_pieces_cut_off :
    let pieces : List (List Char) :=
      ["bind".toList, " x=\u00fc ".toList, [], "// y".toList, "\n\x7b\\\x7d\x7d".toList]
    let placed : List PlacedToken :=
      [⟨.keyword .bind, ⟨0, 4, 1, 1⟩⟩, ⟨.whitespace " ", ⟨4, 5, 1, 5⟩⟩,
        ⟨.identifier "x", ⟨5, 6, 1, 6⟩⟩, ⟨.delimiter .equal, ⟨6, 7, 1, 7⟩⟩,
        ⟨.identifier "\u00fc", ⟨7, 9, 1, 8⟩⟩, ⟨.whitespace " ", ⟨9, 10, 1, 9⟩⟩,
        ⟨.comment .line "y", ⟨10, 14, 1, 10⟩⟩, ⟨.newline, ⟨14, 15, 1, 14⟩⟩,
        ⟨.block "\x7b\x7d\x7d", ⟨15, 19, 2, 1⟩⟩]
    tokenize pieces.flatten = .ok placed ∧
      (∀ k, IsBoundary placed (byteLength (pieces.take k).flatten)) ∧
      ∃ answers : List (List PlacedToken),
        scanAll {} pieces = answers.map Except.ok ∧ answers.flatten = placed := by
  intro pieces placed
  have hplaced : tokenize pieces.flatten = .ok placed := by rfl
  have hinside : ∀ k < 5, IsBoundary placed (byteLength (pieces.take k).flatten) := by decide
  have hend : IsBoundary placed (byteLength pieces.flatten) := by decide
  have hcuts : ∀ k, IsBoundary placed (byteLength (pieces.take k).flatten) := by
    intro k
    by_cases hk : k < 5
    · exact hinside k hk
    · rw [List.take_of_length_le (Nat.le_of_not_lt hk)]
      exact hend
  exact ⟨hplaced, hcuts, scanAll_pieces hplaced rfl hcuts⟩

end RuleText

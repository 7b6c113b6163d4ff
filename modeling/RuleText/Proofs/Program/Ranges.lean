import RuleText.Proofs.Program.Offender

/-!
# Spans as ranges of a text

A span is of use if what it is about can be cut out of the text. So it must not be empty, must not reach
beyond the end of the text, and must not cut a character in two at either of its ends (`Span.IsRangeOf`). This
comes to the same as three parts of the text, in front of the span, within it and behind it
(`Span.isRangeOf_iff`).

The span of a lexeme is a range, since the scanner counts the bytes of all characters that it takes
(`Span.Covers.isRangeOf`). Hence the spans of tokens are ranges, and the span of a parse error too, which is
that of a token. The scanner takes nothing of a text that it cannot split further, and the span of its error is
one byte long whatever stands there. It begins where a character begins and ends within the text, but it ends
within that character unless the character has one byte only (`not_isCharBoundary_within`). There are
characters of more bytes that begin no token, so not every span is a range.

Main definitions:

- `IsCharBoundary`: offsets that cut no character in two;
- `Span.IsRangeOf`: spans that can be cut out of a text.

Main statements:

- `isCharBoundary_iff`, `not_isCharBoundary_within`: where characters begin and end;
- `Span.isRangeOf_iff`: ranges are what can be cut out;
- `exists_offender`: what a scan error is about;
- `spans_isRangeOf`: the spans that are reported for a text.
-/

namespace RuleText

/-! ### Boundaries of characters -/

/-- An offset at which a character of a text begins, or the text ends. -/
def IsCharBoundary (text : List Char) (offset : Nat) : Prop :=
  String.Pos.Raw.IsValid (String.ofList text) ⟨offset⟩

/-- The bytes of a text are counted as those of the string are. -/
theorem utf8ByteSize_ofList (text : List Char) : (String.ofList text).utf8ByteSize = byteLength text := by
  induction text with
  | nil => rfl
  | cons c rest ih =>
    rw [String.ofList_cons, String.utf8ByteSize_append, String.utf8ByteSize_singleton, ih, byteLength]

/-- The boundaries of a text are the ends of its beginnings. -/
theorem isCharBoundary_iff {text : List Char} {offset : Nat} :
    IsCharBoundary text offset ↔ ∃ before after, text = before ++ after ∧ offset = byteLength before := by
  unfold IsCharBoundary
  rw [String.Pos.Raw.isValid_ofList]
  constructor
  · rintro ⟨i, hi⟩
    rw [utf8ByteSize_ofList] at hi
    exact ⟨text.take i, text.drop i, (List.take_append_drop i text).symm, hi⟩
  · rintro ⟨before, after, rfl, rfl⟩
    refine ⟨before.length, ?_⟩
    rw [List.take_left, utf8ByteSize_ofList]

theorem isCharBoundary_behind (before after : List Char) :
    IsCharBoundary (before ++ after) (byteLength before) :=
  isCharBoundary_iff.mpr ⟨before, after, rfl, rfl⟩

/-- **A character has no boundary within.** -/
theorem not_isCharBoundary_within (before : List Char) (c : Char) (more : List Char) {offset : Nat}
    (hstart : byteLength before < offset) (hstop : offset < byteLength before + c.utf8Size) :
    ¬ IsCharBoundary (before ++ c :: more) offset := by
  intro h
  obtain ⟨front, after, htext, rfl⟩ := isCharBoundary_iff.mp h
  -- a beginning that ends behind `before` has the character too
  obtain ⟨rest, hbefore, -⟩ | ⟨rest, hfront, hmore⟩ := List.append_eq_append_iff.mp htext.symm
  · rw [hbefore, byteLength_append] at hstart
    omega
  · cases rest with
    | nil =>
      rw [hfront, List.append_nil] at hstart
      exact Nat.lt_irrefl _ hstart
    | cons d others =>
      obtain ⟨rfl, -⟩ := List.cons.inj hmore
      rw [hfront, byteLength_append, byteLength] at hstop
      omega

/-! ### Ranges -/

/-- A span that can be cut out of a text: it is not empty, lies within the text, and cuts no character in
two. -/
structure Span.IsRangeOf (span : Span) (text : List Char) : Prop where
  start_lt_stop : span.start < span.stop
  stop_le : span.stop ≤ byteLength text
  start_boundary : IsCharBoundary text span.start
  stop_boundary : IsCharBoundary text span.stop

/-- **Ranges can be cut out.** -/
theorem Span.isRangeOf_iff {span : Span} {text : List Char} :
    span.IsRangeOf text ↔
      ∃ before cut after, text = before ++ (cut ++ after) ∧ cut ≠ [] ∧ span.start = byteLength before ∧
        span.stop = span.start + byteLength cut := by
  constructor
  · rintro ⟨hlt, -, hstart, hstop⟩
    -- both ends are boundaries, so the text can be cut at each of them
    obtain ⟨before, rest, rfl, hbefore⟩ := isCharBoundary_iff.mp hstart
    obtain ⟨front, after, htext, hfront⟩ := isCharBoundary_iff.mp hstop
    rw [hbefore, hfront] at hlt
    -- the span stops behind its start, so what is in front of its end begins with what is in front of it
    obtain ⟨cut, rfl, hrest⟩ | ⟨cut, rfl, -⟩ := List.append_eq_append_iff.mp htext
    · rw [byteLength_append] at hlt hfront
      refine ⟨before, cut, after, by rw [hrest], ?_, hbefore, by omega⟩
      rintro rfl
      exact Nat.lt_irrefl _ hlt
    · rw [byteLength_append] at hlt
      omega
  · rintro ⟨before, cut, after, rfl, hne, hstart, hstop⟩
    have hpos : 0 < byteLength cut := byteLength_pos hne
    -- in the other direction the second boundary is behind the stretch
    have hfront : span.stop = byteLength (before ++ cut) := by
      calc span.stop
        _ = span.start + byteLength cut := hstop
        _ = byteLength before + byteLength cut := by rw [hstart]
        _ = byteLength (before ++ cut) := (byteLength_append before cut).symm
    refine ⟨by omega, ?_, ?_, ?_⟩
    · rw [hfront, ← List.append_assoc, byteLength_append (before ++ cut)]
      exact Nat.le_add_right _ _
    · rw [hstart]
      exact isCharBoundary_behind _ _
    · rw [hfront, ← List.append_assoc]
      exact isCharBoundary_behind _ _

/-- **The span of a lexeme is a range,** whatever stands behind the lexeme. -/
theorem Span.Covers.isRangeOf {span : Span} {before lexeme : List Char} (h : span.Covers before lexeme)
    (after : List Char) : span.IsRangeOf (before ++ (lexeme ++ after)) := by
  refine Span.isRangeOf_iff.mpr ⟨before, lexeme, after, rfl, ?_, h.start, h.stop⟩
  -- a span that is not empty covers something
  rintro rfl
  exact absurd h.start_lt_stop (Nat.not_lt_of_le h.stop.le)

/-! ### Tokens and errors -/

/-- The spans of the tokens of a row are ranges. -/
theorem IsRow.isRangeOf {text : List Char} {row : List Part} (h : IsRow text row) {found : PlacedToken}
    (hfound : found ∈ placeRow {} row) : found.span.IsRangeOf text := by
  obtain ⟨before, lexeme, after, rfl, -, hcovers⟩ := exists_lexeme_of_placeRow h hfound
  exact hcovers.isRangeOf after

/-- Nothing can be read off what is left of a text that does not split further. -/
theorem SplitsUpTo.not_takes {text rest : List Char} {row : List Part} (h : SplitsUpTo text row rest)
    (taken : Taken Token) : ¬ Takes rest taken := by
  induction h with
  | stop hstop => exact hstop taken
  | part _ _ ih => exact ih

/-- **The offender.** A scan error points at the character behind what can be split of the text, where no token
can be read. -/
theorem exists_offender {text : List Char} {e : ScanError} (h : tokenize text = .error e) :
    ∃ before c more, text = before ++ c :: more ∧ e.rest = c :: more ∧
      (∀ taken, ¬ Takes (c :: more) taken) ∧ e.span.start = byteLength before := by
  obtain ⟨row, rest, hsplits⟩ := exists_splitsUpTo text
  have hstage : (⟨row, rest⟩ : Progress).IsOf text := hsplits
  obtain ⟨answer, hscan, hanswer⟩ := hstage.scan []
  have herror : answer = .error e := by
    rw [← h, tokenize, ← Position.behind_nil, hscan]
  rw [herror] at hanswer
  obtain ⟨hne, htext, hrest, -, hstart, -⟩ := hanswer
  obtain ⟨c, more, hoffender⟩ := List.exists_cons_of_ne_nil hne
  obtain rfl : rest = c :: more := hoffender
  exact ⟨_, c, more, htext, hrest, hsplits.not_takes, hstart⟩

section Offender

variable {e : ScanError} {before more : List Char} {c : Char}

/-- The span of a scan error goes no further than its offender. -/
theorem ScanError.stop_le (h : e.span.start = byteLength before) :
    e.span.stop ≤ byteLength (before ++ c :: more) := by
  have hsize : 0 < c.utf8Size := c.utf8Size_pos
  have hstop : e.span.stop = e.span.start + 1 := rfl
  rw [byteLength_append, byteLength]
  omega

/-- **The span of a scan error** is one byte long, so it is a range exactly if its offender is one byte long. -/
theorem ScanError.isRangeOf_iff (h : e.span.start = byteLength before) :
    e.span.IsRangeOf (before ++ c :: more) ↔ c.utf8Size = 1 := by
  have hsize : 0 < c.utf8Size := c.utf8Size_pos
  have hstop : e.span.stop = e.span.start + 1 := rfl
  constructor
  · intro hrange
    by_contra hwide
    -- the span would stop behind the first byte of the character and in front of its last
    exact not_isCharBoundary_within before c more (by omega) (by omega) hrange.stop_boundary
  · intro hone
    refine Span.isRangeOf_iff.mpr ⟨before, [c], more, rfl, List.cons_ne_nil _ _, h, ?_⟩
    rw [hstop, byteLength, byteLength, hone]

end Offender

/-- **The spans of a text are ranges of it, but for that of an offender of several bytes.** The span of every
token is a range, and so is the span of every parse error that has one. The span of a scan error begins where a
character begins at which no token can be read, is not empty and ends within the text; and it is a range exactly
if this character is one byte long. -/
theorem spans_isRangeOf (text : List Char) :
    (∀ placed, tokenize text = .ok placed → ∀ found ∈ placed, found.span.IsRangeOf text) ∧
    (∀ e span, Program.ofText? text = .error (.parse e (some span)) → span.IsRangeOf text) ∧
    ∀ e, tokenize text = .error e →
      ∃ before c more, text = before ++ c :: more ∧ e.rest = c :: more ∧
        (∀ taken, ¬ Takes (c :: more) taken) ∧
        e.span.start = byteLength before ∧ IsCharBoundary text e.span.start ∧
        e.span.start < e.span.stop ∧ e.span.stop ≤ byteLength text ∧
        (e.span.IsRangeOf text ↔ c.utf8Size = 1) := by
  refine ⟨?_, ?_, ?_⟩
  · intro placed hplaced found hfound
    obtain ⟨row, hrow, rfl⟩ := exists_row_of_tokenize hplaced
    exact hrow.isRangeOf hfound
  · intro e span herror
    obtain ⟨row, hrow, -, hspan⟩ := Program.exists_row_of_refused herror
    -- the span is that of a token that the grammar sees
    obtain ⟨found, hat, rfl⟩ := Option.map_eq_some_iff.mp hspan.symm
    exact hrow.isRangeOf (List.mem_filter.mp (List.mem_of_getElem? hat)).1
  · intro e herror
    obtain ⟨before, c, more, rfl, hrest, hnone, hstart⟩ := exists_offender herror
    refine ⟨before, c, more, rfl, hrest, hnone, hstart, ?_, Nat.lt_succ_self _, ScanError.stop_le hstart,
      ScanError.isRangeOf_iff hstart⟩
    rw [hstart]
    exact isCharBoundary_behind _ _

/-- The sign that begins no token stands behind a word of two bytes, and has one byte itself. -/
theorem spans_isRangeOf_narrow :
    ∃ e, tokenize ['\u00fc', '@'] = .error e ∧ e.span = ⟨2, 3, 1, 2⟩ ∧
      e.span.IsRangeOf ['\u00fc', '@'] := by
  let e : ScanError :=
    ⟨⟨2, 1, 2⟩, ['@'], [⟨['@'], .someChars⟩, ⟨['@'], .within "identifier"⟩, ⟨['@'], .choice⟩]⟩
  have herror : tokenize ['\u00fc', '@'] = .error e := by decide +kernel
  obtain ⟨-, -, hscan⟩ := spans_isRangeOf ['\u00fc', '@']
  obtain ⟨before, c, more, -, hrest, -, -, -, -, -, hrange⟩ := hscan e herror
  obtain ⟨rfl, rfl⟩ := List.cons.inj hrest
  exact ⟨e, herror, rfl, hrange.mpr rfl⟩

/-- **Not every span is a range.** A text that is the euro sign, which has three bytes, has an error whose span
ends behind the first of them. -/
theorem not_all_spans_isRangeOf :
    ¬ ∀ text : List Char,
      (∀ placed, tokenize text = .ok placed → ∀ found ∈ placed, found.span.IsRangeOf text) ∧
      (∀ e, tokenize text = .error e → e.span.IsRangeOf text) ∧
      ∀ e span, Program.ofText? text = .error (.parse e (some span)) → span.IsRangeOf text := by
  intro hall
  obtain ⟨-, hscan, -⟩ := hall ['\u20ac']
  -- the sign is no character of a word, and nothing else begins with it either
  let e : ScanError :=
    ⟨{}, ['\u20ac'], [⟨['\u20ac'], .someChars⟩, ⟨['\u20ac'], .within "identifier"⟩, ⟨['\u20ac'], .choice⟩]⟩
  have herror : tokenize ['\u20ac'] = .error e := by decide +kernel
  have hstart : e.span.start = byteLength [] := rfl
  have hone : ('\u20ac').utf8Size = 1 := (ScanError.isRangeOf_iff hstart).mp (hscan e herror)
  exact absurd hone (by decide)

end RuleText

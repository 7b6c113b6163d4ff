import Mathlib.Data.List.DropRight
import Mathlib.Data.List.Forall2
import RuleText.Proofs.Token.Row

/-!
# Tokens tile the texts that they are read from

A scanner counts along the characters that it takes, and keeps counting over one text after another. Where
it stands can be said without the counting: it is the place behind everything consumed so far
(`Position.behind`), with the bytes of it, its line feeds, and the characters of its last line. This module
reads every span that a scanner hands out off the text in front of it.

What is consumed of a text is a matter of the lexical grammar. As long as a token can be read off the text
it is read, and when none can the scanner stops there (`SplitsUpTo`). A text that splits altogether is
consumed whole; of any other text, the part before the token that cannot be read is consumed, and the next
text goes on from there. `Progress` holds the two parts of a text that come out of this.

The count is carried by one invariant: a scanner that starts behind a text `before` and takes a lexeme
stands behind `before ++ lexeme` (`Position.advance_behind`). All the rest is bookkeeping about rows of
tokens (`placeRow`), where the place of a part is the one behind the parts before it.

Main definitions:

- `lastLine`, `Position.behind`: places counted on a whole text;
- `SplitsUpTo`, `Progress`: how far a text splits;
- `placeRow`: the tokens of a row that begins at a place;
- `Span.Covers`, `Tiles`: what spans say of a text.

Main statements:

- `Position.advance_behind`: counting on is counting the whole;
- `exists_splitsUpTo`, `SplitsUpTo.unique`: how far a text splits;
- `scan_of_splitsUpTo`, `tokenize_of_row`: what a scanner answers, and where it stands then;
- `tiles_placeRow`: the tokens of a row stand side by side;
- `scanAll_tiles`: the spans of a whole run.
-/

namespace RuleText

/-! ### Places in a whole text -/

/-- The characters of a text behind its last line feed. -/
def lastLine (text : List Char) : List Char :=
  text.rtakeWhile (· != '\n')

/-- The place behind a text, counted on the whole of it. -/
def Position.behind (text : List Char) : Position where
  offset := byteLength text
  line := 1 + text.count '\n'
  column := 1 + (lastLine text).length

theorem Position.behind_nil : behind [] = {} := rfl

theorem lastLine_lineFeed (text : List Char) : lastLine (text ++ ['\n']) = [] := by
  unfold lastLine
  rw [List.rtakeWhile_concat]
  rfl

theorem lastLine_concat (text : List Char) {c : Char} (h : c ≠ '\n') :
    lastLine (text ++ [c]) = lastLine text ++ [c] := by
  unfold lastLine
  rw [List.rtakeWhile_concat, if_pos (bne_iff_ne.mpr h)]

/-- One character more. A line feed begins a line of its own, and any other character is one column. -/
theorem Position.next_behind (text : List Char) (c : Char) :
    (behind text).next c = behind (text ++ [c]) := by
  have hbytes : byteLength (text ++ [c]) = byteLength text + c.utf8Size := by
    rw [byteLength_append]
    rfl
  unfold next behind
  rw [hbytes]
  by_cases h : c = '\n'
  · subst h
    have hfeeds : (text ++ ['\n']).count '\n' = text.count '\n' + 1 := by
      rw [List.count_append, List.count_singleton_self]
    rw [if_pos rfl, hfeeds, lastLine_lineFeed]
    rfl
  · have hfeeds : (text ++ [c]).count '\n' = text.count '\n' := by
      rw [List.count_append, List.count_singleton, if_neg (by simpa using h), Nat.add_zero]
    rw [if_neg h, hfeeds, lastLine_concat text h, List.length_append]
    rfl

/-- **Counting on is counting the whole.** -/
theorem Position.advance_behind (before text : List Char) :
    (behind before).advance text = behind (before ++ text) := by
  induction text generalizing before with
  | nil => rw [advance_nil, List.append_nil]
  | cons c rest ih =>
    have hstep : (behind before).advance (c :: rest) = ((behind before).next c).advance rest := rfl
    rw [hstep, next_behind, ih, List.append_assoc]
    rfl

/-! ### How far a text splits -/

/-- The parts that are read off a text one behind the other, and the text left, off which no token can be
read. -/
inductive SplitsUpTo : List Char → List Part → List Char → Prop where
  | stop {rest : List Char} (h : ∀ taken, ¬ Takes rest taken) : SplitsUpTo rest [] rest
  | part {token : Token} {lexeme text rest : List Char} {row : List Part}
      (h : Takes (lexeme ++ text) ⟨token, lexeme, text⟩) (hmore : SplitsUpTo text row rest) :
      SplitsUpTo (lexeme ++ text) (⟨token, lexeme⟩ :: row) rest

theorem not_takes_nil (taken : Taken Token) : ¬ Takes [] taken := by
  intro h
  have hempty := List.append_eq_nil_iff.mp h.text_eq.symm
  exact h.lexeme.ne_nil hempty.1

theorem SplitsUpTo.text_eq {text rest : List Char} {row : List Part} (h : SplitsUpTo text row rest) :
    text = row.flatMap Part.lexeme ++ rest := by
  induction h with
  | stop => rfl
  | part _ _ ih => rw [List.flatMap_cons, List.append_assoc, ← ih]

/-- **How far a text splits.** Every lexeme takes something off the text, so this comes to an end. -/
theorem exists_splitsUpTo (text : List Char) : ∃ row rest, SplitsUpTo text row rest := by
  by_cases h : ∃ taken, Takes text taken
  · obtain ⟨⟨token, lexeme, behind⟩, htakes⟩ := h
    have htext : text = lexeme ++ behind := htakes.text_eq
    have hshorter : behind.length < text.length := by
      rw [htext]
      exact htakes.lexeme.length_lt behind
    obtain ⟨row, rest, hmore⟩ := exists_splitsUpTo behind
    refine ⟨⟨token, lexeme⟩ :: row, rest, ?_⟩
    rw [htext] at htakes ⊢
    exact SplitsUpTo.part htakes hmore
  · exact ⟨[], text, .stop fun taken htakes => h ⟨taken, htakes⟩⟩
termination_by text.length

/-- The lexers settle what is read off a text, so it splits up to one place only. -/
theorem SplitsUpTo.unique {text rest rest' : List Char} {row row' : List Part}
    (h : SplitsUpTo text row rest) (h' : SplitsUpTo text row' rest') : row = row' ∧ rest = rest' := by
  induction h generalizing row' rest' with
  | stop hstop =>
    cases h' with
    | stop => exact ⟨rfl, rfl⟩
    | part htakes _ => exact absurd htakes (hstop _)
  | @part token lexeme text rest row htakes _ ih =>
    generalize hwhole : lexeme ++ text = whole at h'
    cases h' with
    | stop hstop => exact absurd (hwhole ▸ htakes) (hstop _)
    | part htakes' hmore' =>
      -- both parts are what the lexers take off the text
      have htaken := lexToken_of_takes htakes
      rw [hwhole, lexToken_of_takes htakes', Except.ok.injEq, Taken.mk.injEq] at htaken
      obtain ⟨rfl, rfl, rfl⟩ := htaken
      obtain ⟨rfl, rfl⟩ := ih hmore'
      exact ⟨rfl, rfl⟩

/-- A row of lexemes is a text that splits altogether. -/
theorem IsRow.splitsUpTo {text : List Char} {row : List Part} (h : IsRow text row) :
    SplitsUpTo text row [] := by
  induction row generalizing text with
  | nil =>
    obtain rfl : text = [] := h.text_eq
    exact .stop not_takes_nil
  | cons part others ih =>
    obtain ⟨rest, rfl, hlexeme, hrow, hend⟩ := isRow_cons_iff.mp h
    exact .part ⟨rfl, hlexeme, hend⟩ (ih hrow)

/-! ### Tokens at their places -/

/-- The tokens of a row that begins at a place, each with the span of its lexeme. -/
def placeRow (place : Position) : List Part → List PlacedToken
  | [] => []
  | part :: others =>
    ⟨part.token, place.to (place.advance part.lexeme)⟩ ::
      placeRow (place.advance part.lexeme) others

theorem map_token_placeRow (place : Position) (row : List Part) :
    (placeRow place row).map (·.token) = row.map Part.token := by
  induction row generalizing place with
  | nil => rfl
  | cons part others ih => rw [placeRow, List.map_cons, List.map_cons, ih]

theorem placeRow_append (place : Position) (row others : List Part) :
    placeRow place (row ++ others) =
      placeRow place row ++ placeRow (place.advance (row.flatMap Part.lexeme)) others := by
  induction row generalizing place with
  | nil => rfl
  | cons part row ih =>
    rw [List.cons_append, placeRow, placeRow, ih, List.flatMap_cons, Position.advance_append]
    rfl

/-- **What the loop answers.** It reads what can be read, puts it behind what it has read before, and
stands behind it in any case. An error keeps the text that is left and the place where it begins. -/
theorem scanLoop_of_splitsUpTo {text rest : List Char} {row : List Part} (h : SplitsUpTo text row rest)
    {fuel : Nat} (hfuel : text.length ≤ fuel) (place : Position) (done : List PlacedToken) :
    ∃ answer, scanLoop fuel place text done = (answer, place.advance (row.flatMap Part.lexeme)) ∧
      (rest = [] → answer = .ok (done.reverse ++ placeRow place row)) ∧
      (rest ≠ [] → ∃ trace,
        answer = .error ⟨place.advance (row.flatMap Part.lexeme), rest, trace⟩) := by
  -- the induction is on the parts, with any rounds left and any place to begin at
  induction h generalizing fuel place done with
  | @stop rest hstop =>
    cases rest with
    | nil =>
      -- nothing is left, and the loop ends with what it has read
      refine ⟨.ok done.reverse, ?_, fun _ => ?_, fun hne => absurd rfl hne⟩
      · cases fuel <;> rfl
      · rw [placeRow, List.append_nil]
    | cons c more =>
      cases fuel with
      | zero => exact absurd hfuel (Nat.not_succ_le_zero _)
      | succ fuel =>
        cases htoken : lexToken (c :: more) with
        | ok taken => exact absurd (lexToken_sound htoken) (hstop taken)
        | error refusal =>
          -- something is left that no lexer takes, and the error carries it
          refine ⟨.error ⟨place, c :: more, refusal.trace⟩, ?_, nofun, fun _ => ⟨refusal.trace, rfl⟩⟩
          rw [scanLoop, htoken]
          rfl
  | @part token lexeme text rest row htakes _ ih =>
    have hshorter : text.length < (lexeme ++ text).length := htakes.lexeme.length_lt text
    have htoken : lexToken (lexeme ++ text) = .ok ⟨token, lexeme, text⟩ := lexToken_of_takes htakes
    cases fuel with
    | zero => omega
    | succ fuel =>
      have hmore : text.length ≤ fuel := by omega
      -- one round reads the part, and the others begin where it ends
      obtain ⟨answer, hloop, hok, herror⟩ := ih hmore (place.advance lexeme)
        (⟨token, place.to (place.advance lexeme)⟩ :: done)
      have hplace : place.advance ((⟨token, lexeme⟩ :: row : List Part).flatMap Part.lexeme) =
          (place.advance lexeme).advance (row.flatMap Part.lexeme) := by
        rw [List.flatMap_cons, Position.advance_append]
      refine ⟨answer, ?_, fun hrest => ?_, fun hrest => ?_⟩
      · rw [hplace, ← hloop]
        cases htext : lexeme ++ text with
        | nil => exact absurd (List.append_eq_nil_iff.mp htext).1 htakes.lexeme.ne_nil
        | cons c more =>
          rw [htext] at htoken
          rw [scanLoop, htoken]
      · -- the part read now stands in front of those that come after it
        rw [hok hrest, List.reverse_cons, List.append_assoc]
        rfl
      · rw [hplace]
        exact herror hrest

theorem scan_of_splitsUpTo {text rest : List Char} {row : List Part} (h : SplitsUpTo text row rest)
    (place : Position) :
    ∃ answer, scan place text = (answer, place.advance (row.flatMap Part.lexeme)) ∧
      (rest = [] → answer = .ok (placeRow place row)) ∧
      (rest ≠ [] → ∃ trace,
        answer = .error ⟨place.advance (row.flatMap Part.lexeme), rest, trace⟩) :=
  scanLoop_of_splitsUpTo h (Nat.le_refl _) place []

/-- A text that is a row of lexemes has the tokens of the row, from the first place on. -/
theorem tokenize_of_row {text : List Char} {row : List Part} (h : IsRow text row) :
    tokenize text = .ok (placeRow {} row) := by
  obtain ⟨answer, hscan, hok, -⟩ := scan_of_splitsUpTo h.splitsUpTo {}
  rw [tokenize, hscan]
  exact hok rfl

/-- The tokens of a text are those of its row. -/
theorem exists_row_of_tokenize {text : List Char} {placed : List PlacedToken}
    (h : tokenize text = .ok placed) : ∃ row, IsRow text row ∧ placed = placeRow {} row := by
  obtain ⟨row, hrow, -⟩ := ((tokenize_eq_ok_iff text _).mp ⟨placed, h, rfl⟩).exists_row
  have hplaced := tokenize_of_row hrow
  rw [h] at hplaced
  exact ⟨row, hrow, Except.ok.inj hplaced⟩

/-! ### Slices of a text -/

/-- The characters that begin between two byte offsets, of a text that begins at an offset itself. -/
def slice (offset start stop : Nat) : List Char → List Char
  | [] => []
  | c :: rest =>
    if start ≤ offset ∧ offset < stop then c :: slice (offset + c.utf8Size) start stop rest
    else slice (offset + c.utf8Size) start stop rest

section Slice

variable {offset start stop : Nat}

theorem slice_append (text more : List Char) :
    slice offset start stop (text ++ more) =
      slice offset start stop text ++ slice (offset + byteLength text) start stop more := by
  induction text generalizing offset with
  | nil => rfl
  | cons c rest ih =>
    have hbytes : offset + byteLength (c :: rest) = offset + c.utf8Size + byteLength rest := by
      rw [byteLength, Nat.add_assoc]
    rw [List.cons_append, slice, slice, ih, hbytes]
    split
    · rfl
    · rfl

/-- A text in front of the slice. -/
theorem slice_eq_nil_of_le {text : List Char} (h : offset + byteLength text ≤ start) :
    slice offset start stop text = [] := by
  induction text generalizing offset with
  | nil => rfl
  | cons c rest ih =>
    have hsize : 0 < c.utf8Size := c.utf8Size_pos
    rw [byteLength] at h
    rw [slice, if_neg (by omega), ih (by omega)]

/-- A text behind the slice. -/
theorem slice_eq_nil_of_ge (h : stop ≤ offset) (text : List Char) :
    slice offset start stop text = [] := by
  induction text generalizing offset with
  | nil => rfl
  | cons c rest ih => rw [slice, if_neg (by omega), ih (by omega)]

/-- A text within the slice. -/
theorem slice_eq_self {text : List Char} (hstart : start ≤ offset)
    (hstop : offset + byteLength text ≤ stop) : slice offset start stop text = text := by
  induction text generalizing offset with
  | nil => rfl
  | cons c rest ih =>
    have hsize : 0 < c.utf8Size := c.utf8Size_pos
    rw [byteLength] at hstop
    rw [slice, if_pos (by omega), ih (by omega) (by omega)]

end Slice

/-! ### What spans say -/

/-- The stretch of a text that a span is about. -/
def Span.slice (span : Span) (text : List Char) : List Char :=
  RuleText.slice 0 span.start span.stop text

/-- The span of a lexeme that stands behind a text. -/
structure Span.Covers (span : Span) (before lexeme : List Char) : Prop where
  start : span.start = byteLength before
  stop : span.stop = span.start + byteLength lexeme
  start_lt_stop : span.start < span.stop
  line : span.line = 1 + before.count '\n'
  column : span.column = 1 + (lastLine before).length

/-- Tokens that are read off a row of parts behind a text, and stand side by side there. -/
structure Tiles (before : List Char) (row : List Part) (placed : List PlacedToken) : Prop where
  tokens : placed.map (·.token) = row.map Part.token
  spans (i : Nat) (part : Part) (found : PlacedToken) : row[i]? = some part → placed[i]? = some found →
    found.span.Covers (before ++ (row.take i).flatMap Part.lexeme) part.lexeme
  adjacent : placed.IsChain fun first second => first.span.stop = second.span.start

theorem byteLength_pos {text : List Char} (h : text ≠ []) : 0 < byteLength text := by
  cases text with
  | nil => exact absurd rfl h
  | cons c rest =>
    have hsize : 0 < c.utf8Size := c.utf8Size_pos
    rw [byteLength]
    omega

/-- The slice of a covered lexeme is the lexeme, whatever stands behind it. -/
theorem Span.Covers.slice_eq {span : Span} {before lexeme : List Char} (h : span.Covers before lexeme)
    (after : List Char) : span.slice (before ++ (lexeme ++ after)) = lexeme := by
  have hstart := h.start
  have hstop := h.stop
  unfold Span.slice
  rw [slice_append, slice_append, slice_eq_nil_of_le (by omega),
    slice_eq_self (by omega) (by omega), slice_eq_nil_of_ge (by omega), List.append_nil]
  rfl

/-- The span of a lexeme, from the place behind the text in front of it to the one behind both. -/
theorem Position.covers_to (before : List Char) {lexeme : List Char} (h : lexeme ≠ []) :
    ((behind before).to ((behind before).advance lexeme)).Covers before lexeme := by
  have hstop : byteLength (before ++ lexeme) = byteLength before + byteLength lexeme :=
    byteLength_append before lexeme
  have hpos : 0 < byteLength lexeme := byteLength_pos h
  rw [advance_behind]
  refine ⟨rfl, hstop, ?_, rfl, rfl⟩
  change byteLength before < byteLength (before ++ lexeme)
  omega

theorem isChain_placeRow (place : Position) (row : List Part) :
    (placeRow place row).IsChain fun first second => first.span.stop = second.span.start := by
  induction row generalizing place with
  | nil => exact .nil
  | cons part others ih =>
    rw [placeRow, List.isChain_cons]
    refine ⟨?_, ih _⟩
    intro next hnext
    -- the next token begins at the place that this one was advanced to
    cases others with
    | nil => cases hnext
    | cons second more =>
      obtain rfl := Option.some.inj hnext
      rfl

/-- **The tokens of a row stand side by side.** Each begins behind the lexemes before it. -/
theorem tiles_placeRow (before : List Char) {row : List Part} (h : ∀ part ∈ row, part.lexeme ≠ []) :
    Tiles before row (placeRow (.behind before) row) := by
  refine ⟨map_token_placeRow _ row, ?_, isChain_placeRow _ row⟩
  induction row generalizing before with
  | nil => exact nofun
  | cons part others ih =>
    obtain ⟨hpart, hothers⟩ := List.forall_mem_cons.mp h
    intro i found token hfound htoken
    cases i with
    | zero =>
      obtain rfl := Option.some.inj hfound
      obtain rfl := Option.some.inj htoken
      rw [List.take_zero, List.flatMap_nil, List.append_nil]
      exact Position.covers_to before hpart
    | succ i =>
      rw [placeRow, Position.advance_behind] at htoken
      have hrest := ih (before ++ part.lexeme) hothers i found token hfound htoken
      rw [List.take_succ_cons, List.flatMap_cons, ← List.append_assoc]
      exact hrest

/-- Their slices make up the lexemes again. -/
theorem flatMap_slice_placeRow (before : List Char) {row : List Part}
    (h : ∀ part ∈ row, part.lexeme ≠ []) (after : List Char) :
    (placeRow (.behind before) row).flatMap
        (fun found => found.span.slice (before ++ (row.flatMap Part.lexeme ++ after))) =
      row.flatMap Part.lexeme := by
  induction row generalizing before with
  | nil => rfl
  | cons part others ih =>
    obtain ⟨hpart, hothers⟩ := List.forall_mem_cons.mp h
    have hcovers := Position.covers_to before hpart
    have hrest := ih (before ++ part.lexeme) hothers
    rw [placeRow, List.flatMap_cons, List.flatMap_cons, List.append_assoc, hcovers.slice_eq,
      Position.advance_behind]
    rw [List.append_assoc] at hrest
    rw [hrest]

/-! ### Runs over several texts -/

/-- The parts that can be read off a text, and the text left behind them. -/
structure Progress where
  row : List Part
  rest : List Char

/-- What is consumed of a text: the lexemes that are read. -/
def Progress.consumed (stage : Progress) : List Char :=
  stage.row.flatMap Part.lexeme

/-- A text splits into these parts, and no further. -/
def Progress.IsOf (stage : Progress) (text : List Char) : Prop :=
  SplitsUpTo text stage.row stage.rest

/-- What a scanner answers to a text behind another one: the tokens of the whole text, or an error that
points at the text off which no token can be read. -/
def Progress.Answers (stage : Progress) (before text : List Char) :
    Except ScanError (List PlacedToken) → Prop
  | .ok placed =>
    text = stage.consumed ∧ Tiles before stage.row placed ∧
      placed.flatMap (fun found => found.span.slice (before ++ text)) = text
  | .error e =>
    stage.rest ≠ [] ∧ text = stage.consumed ++ stage.rest ∧ e.rest = stage.rest ∧
      e.place = .behind (before ++ stage.consumed) ∧
      e.span.start = byteLength (before ++ stage.consumed) ∧
      e.span.line = 1 + (before ++ stage.consumed).count '\n' ∧
      e.span.column = 1 + (lastLine (before ++ stage.consumed)).length

theorem SplitsUpTo.lexeme_ne_nil {text rest : List Char} {row : List Part}
    (h : SplitsUpTo text row rest) : ∀ part ∈ row, part.lexeme ≠ [] := by
  induction h with
  | stop => exact nofun
  | part htakes _ ih => exact List.forall_mem_cons.mpr ⟨htakes.lexeme.ne_nil, ih⟩

/-- **One text of a run.** Whatever the scanner answers, it stands behind what it has consumed. -/
theorem Progress.IsOf.scan {stage : Progress} {text : List Char} (h : stage.IsOf text)
    (before : List Char) :
    ∃ answer, RuleText.scan (.behind before) text = (answer, .behind (before ++ stage.consumed)) ∧
      stage.Answers before text answer := by
  obtain ⟨answer, hscan, hok, herror⟩ := scan_of_splitsUpTo h (.behind before)
  have htext : text = stage.consumed ++ stage.rest := SplitsUpTo.text_eq h
  rw [Position.advance_behind] at hscan herror
  refine ⟨answer, hscan, ?_⟩
  by_cases hrest : stage.rest = []
  · rw [hok hrest]
    have hwhole : text = stage.consumed := by rw [htext, hrest, List.append_nil]
    have hslices := flatMap_slice_placeRow before h.lexeme_ne_nil []
    rw [List.append_nil] at hslices
    rw [hwhole]
    exact ⟨rfl, tiles_placeRow before h.lexeme_ne_nil, hslices⟩
  · obtain ⟨trace, rfl⟩ := herror hrest
    exact ⟨hrest, htext, rfl, rfl, rfl, rfl, rfl⟩

/-- The texts consumed before a text of a run, one behind the other. -/
def consumedBefore (stages : List Progress) (i : Nat) : List Char :=
  (stages.take i).flatMap Progress.consumed

/-- A run from behind a text on. -/
theorem scanAll_behind {stages : List Progress} {texts : List (List Char)}
    (h : List.Forall₂ Progress.IsOf stages texts) (before : List Char) (i : Nat) :
    scanAll (.behind before) texts =
        scanAll (.behind before) (texts.take i) ++
          scanAll (.behind (before ++ consumedBefore stages i)) (texts.drop i) ∧
      ∀ text stage, texts[i]? = some text → stages[i]? = some stage →
        ∃ answer, (scanAll (.behind before) texts)[i]? = some answer ∧
          stage.Answers (before ++ consumedBefore stages i) text answer := by
  -- the induction is on the texts; how far the run has come before them is arbitrary
  induction h generalizing before i with
  | nil =>
    refine ⟨?_, nofun⟩
    rw [List.take_nil, List.drop_nil]
    rfl
  | @cons stage text stages texts hstage _ ih =>
    obtain ⟨answer, hscan, hanswer⟩ := hstage.scan before
    have hrun : scanAll (.behind before) (text :: texts) =
        answer :: scanAll (.behind (before ++ stage.consumed)) texts := by
      rw [scanAll, hscan]
    cases i with
    | zero =>
      -- before the first text nothing has been consumed, and its answer is the first one
      have hnothing : before ++ consumedBefore (stage :: stages) 0 = before := List.append_nil before
      rw [hnothing]
      refine ⟨rfl, ?_⟩
      intro text' stage' htext hat
      obtain rfl := Option.some.inj htext
      obtain rfl := Option.some.inj hat
      exact ⟨answer, by rw [hrun]; rfl, hanswer⟩
    | succ i =>
      -- the run goes on behind what is consumed of the first text
      obtain ⟨hsplit, hlater⟩ := ih (before ++ stage.consumed) i
      have hconsumed : before ++ consumedBefore (stage :: stages) (i + 1) =
          (before ++ stage.consumed) ++ consumedBefore stages i := by
        unfold consumedBefore
        rw [List.take_succ_cons, List.flatMap_cons, List.append_assoc]
      rw [hconsumed]
      refine ⟨?_, fun text' stage' htext hat => ?_⟩
      · rw [hrun, hsplit, List.take_succ_cons, List.drop_succ_cons, scanAll, hscan]
        rfl
      · obtain ⟨answer', hanswer', hholds⟩ := hlater text' stage' htext hat
        exact ⟨answer', by rw [hrun]; exact hanswer', hholds⟩

theorem exists_progress (texts : List (List Char)) :
    ∃ stages, List.Forall₂ Progress.IsOf stages texts := by
  induction texts with
  | nil => exact ⟨[], .nil⟩
  | cons text others ih =>
    obtain ⟨stages, hstages⟩ := ih
    obtain ⟨row, rest, hsplits⟩ := exists_splitsUpTo text
    exact ⟨⟨row, rest⟩ :: stages, .cons hsplits hstages⟩

/-- **The spans of a whole run.** A scanner is given texts one after the other. Of every text so much is
consumed as can be split, and in front of the text at an index the scanner stands behind what has been
consumed of the texts before it: the rest of the run is a run from there. Its answer to the text is either
the tokens of the whole text, side by side from there on, each with the span of its lexeme; or an error
that points at the place, behind what is consumed of this text too, where no token can be read. -/
theorem scanAll_tiles (texts : List (List Char)) :
    ∃ stages : List Progress, List.Forall₂ Progress.IsOf stages texts ∧
      ∀ i, scanAll {} texts =
          scanAll {} (texts.take i) ++
            scanAll (.behind (consumedBefore stages i)) (texts.drop i) ∧
        ∀ text stage, texts[i]? = some text → stages[i]? = some stage →
          ∃ answer, (scanAll {} texts)[i]? = some answer ∧
            stage.Answers (consumedBefore stages i) text answer := by
  obtain ⟨stages, hstages⟩ := exists_progress texts
  refine ⟨stages, hstages, fun i => ?_⟩
  have hrun := scanAll_behind hstages [] i
  rw [Position.behind_nil, List.nil_append] at hrun
  exact hrun

end RuleText

import RuleText.Evaluation.Condition
import RuleText.Proofs.Regex.Route
import RuleText.Proofs.Regex.Syntax.Bracket

/-!
# Anchored patterns match whole values

A condition demands that its pattern matches the whole value, and gets this from a search: the text of the
pattern is put between `^(?:` and `)$`, and what is searched for is the pattern read off that longer text.
Nothing looks inside the pattern, so it has to be shown that reading the longer text gives a sequence of
the anchors with the expression of the pattern in between, whatever flags, groups, classes or comments the
pattern is made of.

A reading keeps the open groups on a stack. Reading the longer text is reading the pattern with the group
that `(?:` has opened lying under that stack (`Reading.under`): no round looks so deep, since the pattern
closes no group that it did not open. What each round takes off the two texts is related by `Extends`. The
one way for the two to part is a comment that swallows the closing anchor, and then the group stays open
and the longer text is refused.

Main statements:

- `Reading.step_under`, `Reading.run_under`: one round and all rounds, with a group underneath;
- `CharRegex.ofText?_anchored`: the expression of an anchored pattern;
- `Pattern.foundIn_compile?_iff`: the search for an anchored pattern succeeds exactly when the pattern by
  itself matches the whole value.
-/

namespace RuleText

open Regex

namespace Regex.Reading

/-- The reading with more open groups around those it has. -/
def under (reading : Reading) (frames : List Frame) : Reading :=
  { reading with frames := reading.frames ++ frames }

@[simp] theorem under_frames (reading : Reading) (frames : List Frame) :
    (reading.under frames).frames = reading.frames ++ frames := rfl

@[simp] theorem under_branch (reading : Reading) (frames : List Frame) :
    (reading.under frames).branch = reading.branch := rfl

@[simp] theorem under_flags (reading : Reading) (frames : List Frame) :
    (reading.under frames).flags = reading.flags := rfl

theorem push_under (reading : Reading) (frames : List Frame) (piece : Piece) :
    (reading.under frames).push piece = (reading.push piece).under frames := rfl

/-! ### One round -/

theorem opening_under {reading next : Reading} {opening : Opening} (frames : List Frame)
    (h : reading.opening opening = some next) :
    (reading.under frames).opening opening = some (next.under frames) := by
  cases opening with
  | flags change =>
    obtain rfl := Option.some.inj h
    rfl
  | group change =>
    obtain rfl := Option.some.inj h
    rfl
  | recording name =>
    rw [Reading.opening] at h ⊢
    split at h
    · simp at h
    · rename_i hnew
      obtain rfl := Option.some.inj h
      exact if_neg hnew

theorem closing_under {reading next : Reading} (frames : List Frame)
    (h : reading.closing = some next) :
    (reading.under frames).closing = some (next.under frames) := by
  rw [closing] at h
  split at h
  · simp at h
  · rename_i frame others hframes
    obtain rfl := Option.some.inj h
    rw [closing, under_frames, hframes]
    rfl

theorem repeatLast_swapped (reading : Reading) (least : Nat) (most : Option Nat) (rest : List Char) :
    reading.repeatLast least most ('?' :: rest) =
      (reading.branch.repeatLast least most (true == reading.flags.swapGreed)).map fun branch =>
        ({ reading with branch := branch }, rest) := rfl

theorem repeatLast_plain (reading : Reading) (least : Nat) (most : Option Nat) {text : List Char}
    (h : ∀ rest, text ≠ '?' :: rest) :
    reading.repeatLast least most text =
      (reading.branch.repeatLast least most (false == reading.flags.swapGreed)).map fun branch =>
        ({ reading with branch := branch }, text) := by
  unfold Reading.repeatLast
  split
  rename_i heq
  split at heq
  · rename_i rest
    exact absurd rfl (h rest)
  · obtain ⟨rfl, rfl⟩ := Prod.mk.inj heq
    rfl

theorem repeatLast_under {reading next : Reading} {least : Nat} {most : Option Nat}
    {text text' rest : List Char} (frames : List Frame) (htext : Extends text text')
    (h : reading.repeatLast least most text = some (next, rest)) :
    rest.length ≤ text.length ∧
      ∃ rest', (reading.under frames).repeatLast least most text' = some (next.under frames, rest') ∧
        Extends rest rest' := by
  by_cases hmark : ∃ tail, text = '?' :: tail
  · obtain ⟨tail, rfl⟩ := hmark
    obtain rfl := htext.cons_left
    rw [repeatLast_swapped] at h ⊢
    obtain ⟨branch, hbranch, heq⟩ := Option.map_eq_some_iff.mp h
    obtain ⟨rfl, rfl⟩ := Prod.mk.inj heq
    refine ⟨Nat.le_succ _, _, ?_, .kept tail⟩
    rw [under_branch, under_flags, hbranch]
    rfl
  · have hplain : ∀ tail, text ≠ '?' :: tail := fun tail heq => hmark ⟨tail, heq⟩
    -- where the text alone has ended, the closing parenthesis comes next, and that is no mark
    have hplain' := htext.not_cons (by decide) hplain
    rw [repeatLast_plain reading least most hplain] at h
    rw [repeatLast_plain (reading.under frames) least most hplain']
    obtain ⟨branch, hbranch, heq⟩ := Option.map_eq_some_iff.mp h
    obtain ⟨rfl, rfl⟩ := Prod.mk.inj heq
    refine ⟨Nat.le_refl _, text', ?_, htext⟩
    rw [under_branch, under_flags, hbranch]
    rfl

/-- **One round with more groups underneath.** It takes the same off the text in front of the closing
anchor as off the text alone. -/
theorem step_under {reading next : Reading} {bound : Nat} {c : Char} {text rest : List Char}
    (frames : List Frame) (bound' : Nat) (hbound : text.length < bound) (hbound' : text.length + 2 < bound')
    (h : reading.step bound c text = some (next, rest)) :
    rest.length ≤ text.length ∧
      ∃ rest', (reading.under frames).step bound' c (text ++ anchorEnd) =
          some (next.under frames, rest') ∧ Extends rest rest' := by
  unfold step at h ⊢
  simp only [under_flags] at h ⊢
  split at h
  · -- a group opens, or flags change
    obtain ⟨⟨opening, after⟩, hread, h⟩ := Option.bind_eq_some_iff.mp h
    obtain ⟨opened, hopened, heq⟩ := Option.bind_eq_some_iff.mp h
    obtain ⟨rfl, rfl⟩ := Prod.mk.inj (Option.some.inj heq)
    obtain ⟨hlen, after', hread', hafter⟩ := readOpening_local _ _ _ _ hread
    refine ⟨hlen, after', ?_, hafter⟩
    simp [hread', opening_under frames hopened]
  · -- a group closes
    obtain ⟨closed, hclosed, heq⟩ := Option.bind_eq_some_iff.mp h
    obtain ⟨rfl, rfl⟩ := Prod.mk.inj (Option.some.inj heq)
    refine ⟨Nat.le_refl _, _, ?_, .kept text⟩
    simp [closing_under frames hclosed]
  · obtain ⟨rfl, rfl⟩ := Prod.mk.inj (Option.some.inj h)
    exact ⟨Nat.le_refl _, _, rfl, .kept text⟩
  · -- a bracketed class
    obtain ⟨⟨cls, after⟩, hread, heq⟩ := Option.bind_eq_some_iff.mp h
    obtain ⟨rfl, rfl⟩ := Prod.mk.inj (Option.some.inj heq)
    obtain ⟨hlen, after', hread', hafter⟩ := readBracket_local _ hbound hbound' hread
    refine ⟨hlen, after', ?_, hafter⟩
    rw [hread']
    rfl
  · exact repeatLast_under frames (.kept text) h
  · exact repeatLast_under frames (.kept text) h
  · exact repeatLast_under frames (.kept text) h
  · -- a counted repetition
    obtain ⟨⟨least, most, after⟩, hread, h⟩ := Option.bind_eq_some_iff.mp h
    obtain ⟨hlen, hread'⟩ := readCounts_local _ hread
    obtain ⟨hlen', hrest⟩ := repeatLast_under frames (extends_skipLayout _ (.kept after)) h
    rw [hread']
    exact ⟨hlen'.trans ((length_skipLayout_le _ after).trans hlen), hrest⟩
  · -- an escape
    obtain ⟨⟨atom, after⟩, hread, h⟩ := Option.bind_eq_some_iff.mp h
    obtain ⟨piece, hpiece, heq⟩ := Option.bind_eq_some_iff.mp h
    obtain ⟨rfl, rfl⟩ := Prod.mk.inj (Option.some.inj heq)
    obtain ⟨hlen, after', hread', hafter⟩ := readEscape_local _ _ _ _ hread
    refine ⟨hlen, after', ?_, hafter⟩
    change atom? reading.flags atom = some piece at hpiece
    simp [hread', hpiece, push_under]
  · -- a dot
    obtain ⟨cls, hcls, heq⟩ := Option.bind_eq_some_iff.mp h
    obtain ⟨rfl, rfl⟩ := Prod.mk.inj (Option.some.inj heq)
    refine ⟨Nat.le_refl _, _, ?_, .kept text⟩
    simp [hcls, push_under]
  · obtain ⟨rfl, rfl⟩ := Prod.mk.inj (Option.some.inj h)
    exact ⟨Nat.le_refl _, _, rfl, .kept text⟩
  · obtain ⟨rfl, rfl⟩ := Prod.mk.inj (Option.some.inj h)
    exact ⟨Nat.le_refl _, _, rfl, .kept text⟩
  · -- any other character
    obtain ⟨piece, hpiece, heq⟩ := Option.bind_eq_some_iff.mp h
    obtain ⟨rfl, rfl⟩ := Prod.mk.inj (Option.some.inj heq)
    refine ⟨Nat.le_refl _, _, ?_, .kept text⟩
    simp [hpiece, push_under]

/-! ### All rounds -/

/-- **All rounds with more groups underneath.** The longer text is used up with the shorter one, by a
comment, or the closing anchor is what remains of it. -/
theorem run_under {reading final : Reading} {fuel fuel' : Nat} {text text' : List Char}
    (frames : List Frame) (htext : Extends text text') (hfuel : text.length < fuel)
    (hfuel' : text'.length < fuel') (h : reading.run fuel text = some final) :
    (reading.under frames).run fuel' text' = some (final.under frames) ∨
      ∃ left, 2 < left ∧
        (reading.under frames).run fuel' text' = (final.under frames).run left anchorEnd := by
  -- the induction is on the rounds of the text by itself, the longer text has fuel of its own
  induction fuel generalizing reading fuel' text text' with
  | zero => simp [run] at h
  | succ fuel ih =>
    obtain ⟨fuel', rfl⟩ := Nat.exists_eq_add_of_le' (Nat.one_le_of_lt hfuel')
    have hlayout := extends_skipLayout reading.flags htext
    have hlength := length_skipLayout_le reading.flags text
    have hlength' := length_skipLayout_le reading.flags text'
    rw [run] at h
    cases hinner : skipLayout reading.flags text with
    | nil =>
      rw [hinner] at h hlayout
      obtain rfl := Option.some.inj h
      -- the text has ended, and behind it comes the anchor, unless a comment has taken it
      rcases hlayout.nil_left with hrest | hrest
      · refine Or.inr ⟨fuel' + 1, ?_, ?_⟩
        · rw [hrest] at hlength'
          exact Nat.lt_of_le_of_lt hlength' hfuel'
        · rw [run, run, under_flags, hrest, skipLayout_anchorEnd]
      · refine Or.inl ?_
        rw [run, under_flags, hrest]
    | cons c rest =>
      rw [hinner] at h hlayout hlength
      have hinner' := hlayout.cons_left
      have hlonger := hlayout.length_eq (List.cons_ne_nil c rest)
      rw [List.length_cons] at hlength hlonger
      -- one round, and those behind it by induction
      obtain ⟨⟨next, after⟩, hstep, hrun⟩ := Option.bind_eq_some_iff.mp h
      obtain ⟨hlen, after', hstep', hafter⟩ :=
        step_under frames fuel' (by omega) (by omega) hstep
      have hshorter := hafter.length_le
      rw [run, under_flags, hinner']
      simp only [hstep', Option.bind_eq_bind, Option.bind_some]
      exact ih hafter (by omega) (by omega) hrun

/-! ### The anchors themselves -/

/-- The group that the opening anchor leaves open. -/
def anchorFrame : Frame :=
  { around := { items := [Piece.assert .textStart] }, flags := {}, number := none }

theorem run_anchored (fuel : Nat) (text : List Char) :
    run {} (fuel + 2) (anchored text) =
      (under {} [anchorFrame]).run fuel (text ++ anchorEnd) := by
  rfl

/-- The closing anchor closes the group and the pattern. -/
theorem run_anchorEnd {final : Reading} (hframes : final.frames = []) (fuel : Nat) :
    ((final.under [anchorFrame]).run (fuel + 3) anchorEnd).bind finish? =
      some (Piece.join [Piece.assert .textStart,
        { regex := final.branch.close.regex
          blueprint := final.branch.close.blueprint.group none
          depth := final.branch.close.depth + 1 },
        Piece.assert .textEnd]) := by
  obtain ⟨frames, branch, flags, names, groups⟩ := final
  obtain rfl : frames = [] := hframes
  rw [run, under_flags, skipLayout_anchorEnd]
  rfl

end Regex.Reading

namespace CharRegex

/-- The expression that a text denotes, the bounds aside that patterns keep. -/
def read? (text : List Char) : Option CharRegex :=
  ((Reading.run {} (text.length + 1) text).bind Reading.finish?).map (·.regex)

/-- What is read within the bounds is read. -/
theorem read?_of_ofText? {text : List Char} {r : CharRegex} (h : ofText? text = some r) :
    read? text = some r := by
  obtain ⟨reading, hrun, h⟩ := Option.bind_eq_some_iff.mp h
  obtain ⟨whole, hfinish, h⟩ := Option.bind_eq_some_iff.mp h
  split at h
  · obtain rfl := Option.some.inj h
    rw [read?, hrun, Option.bind_some, hfinish]
    rfl
  · simp at h

/-- Reading a text between the anchors is reading it in front of the closing one, in an open group. -/
theorem read?_anchored (text : List Char) :
    read? (anchored text) =
      (((Reading.under {} [Reading.anchorFrame]).run (text.length + 5) (text ++ anchorEnd)).bind
        Reading.finish?).map (·.regex) := by
  rw [read?, length_anchored, Reading.run_anchored]

theorem length_append_anchorEnd_lt (text : List Char) :
    (text ++ anchorEnd).length < text.length + 5 := by
  rw [List.length_append]
  exact Nat.add_lt_add_left (by decide) _

/-- **The expression of an anchored pattern.** -/
theorem ofText?_anchored {text : List Char} {alone whole : CharRegex} (halone : read? text = some alone)
    (hwhole : ofText? (anchored text) = some whole) :
    whole = .seqs [.assert .textStart, alone, .assert .textEnd] := by
  have hread := read?_of_ofText? hwhole
  obtain ⟨group, hgroup, rfl⟩ := Option.map_eq_some_iff.mp halone
  obtain ⟨final, hrun, hfinish⟩ := Option.bind_eq_some_iff.mp hgroup
  -- what was read alone has closed all its groups
  have hclosed : final.frames = [] ∧ final.branch.close = group := by
    rw [Reading.finish?] at hfinish
    split at hfinish
    · rename_i hempty
      exact ⟨List.isEmpty_iff.mp hempty, Option.some.inj hfinish⟩
    · simp at hfinish
  obtain ⟨hframes, rfl⟩ := hclosed
  rw [read?_anchored] at hread
  have henough := length_append_anchorEnd_lt text
  rcases Reading.run_under [Reading.anchorFrame] (.kept text) (Nat.lt_succ_self _) henough hrun with
    hopen | ⟨left, hleft, hanchor⟩
  · -- the closing anchor has been swallowed, so the group is still open
    rw [hopen] at hread
    simp [Reading.finish?] at hread
  · obtain ⟨fuel, rfl⟩ := Nat.exists_eq_add_of_le' hleft
    rw [hanchor, Reading.run_anchorEnd hframes] at hread
    exact (Option.some.inj hread).symm

/-- A match between the anchors of the text is a match of the whole text. -/
theorem foundIn_anchors_iff (r : CharRegex) (text : List Char) :
    FoundIn (.seqs [.assert .textStart, r, .assert .textEnd]) text ↔ r.Matches text 0 text.length := by
  refine ⟨?_, ?_⟩
  · rintro ⟨i, j, hi, k, ⟨hstart, rfl⟩, l, hmatch, hend, rfl⟩
    -- only the beginning has nothing before it
    obtain rfl : i = 0 := by
      by_contra hpos
      have hlt : i - 1 < text.length := by omega
      simp [Assertion.holds, charBefore, hpos, hlt] at hstart
    -- and only the end nothing behind it
    have hle : l ≤ text.length := by
      refine Spans.le_bound ?_ hmatch hi
      rintro cls m ⟨c, hc, -⟩
      exact (List.getElem?_eq_some_iff.mp hc).1
    have hge : text.length ≤ l := by
      simpa [Assertion.holds] using hend
    obtain rfl := Nat.le_antisymm hle hge
    exact hmatch
  · intro hmatch
    refine ⟨0, text.length, Nat.zero_le _, 0, ⟨rfl, rfl⟩, text.length, hmatch, ?_, rfl⟩
    simp [Assertion.holds]

end CharRegex

/-- **Conditions demand that the whole value matches.** The search for the anchored text of a pattern
succeeds in a value exactly when the pattern, read by itself, has a match that begins at the beginning of
the value and ends at its end. -/
theorem Pattern.foundIn_compile?_iff {p : Pattern} {alone whole : CharRegex}
    (halone : CharRegex.read? p.source.toList = some alone) (hwhole : p.compile? = some whole)
    (value : List Char) : whole.foundIn value = true ↔ alone.Matches value 0 value.length := by
  rw [CharRegex.foundIn_eq_true_iff, CharRegex.ofText?_anchored halone hwhole]
  exact CharRegex.foundIn_anchors_iff alone value

/-- A choice at the top of a pattern, and a comment that ends before the closing anchor. -/
theorem Pattern.foundIn_compile?_choice :
    ∃ alone whole, CharRegex.read? (Pattern.regex "a|(?x)b # or\n").source.toList = some alone ∧
      (Pattern.regex "a|(?x)b # or\n").compile? = some whole ∧
      (whole.foundIn ['b'] = true ↔ alone.Matches ['b'] 0 1) := by
  have hcompiles : (Pattern.regex "a|(?x)b # or\n").compile?.isSome = true := by decide +kernel
  obtain ⟨whole, hwhole⟩ := Option.isSome_iff_exists.mp hcompiles
  exact ⟨_, whole, rfl, hwhole, Pattern.foundIn_compile?_iff rfl hwhole ['b']⟩

end RuleText

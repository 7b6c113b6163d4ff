import RuleText.Proofs.Evaluation.Agreement
import RuleText.Proofs.Regex.Anchors
import RuleText.Proofs.Regex.Syntax.BracketRefusals

/-!
# Patterns that break out of their anchors

Conditions get their demand on the whole value from the anchors around the text of a pattern. For a text
that is a pattern by itself the anchors do what they should, but nothing asks whether it is one: only the
text between the anchors is read. So it matters which texts become patterns there and are none alone.

There is one way. A text may close the group that the opening anchor has opened, with a parenthesis of its
own, and open another group for the closing anchor. Reading it alone comes to a closing parenthesis where no
group is open (`Reading.breaksOut`). Any other text that is refused alone is refused between the anchors
too. Where a round is refused only for what is missing behind it, the closing anchor may serve, and then
its parenthesis is gone and the group of the opening anchor stays open for good (`Reading.Hopeless`). The
same holds where the text leaves groups open, since the closing anchor closes no more than one.

Main definitions:

- `Reading.breaksOut`, `Pattern.breaksOut`: a closing parenthesis too many;
- `Reading.Hopeless`: a reading that can no longer be completed;
- `Pattern.KeepsAnchors`: what conditions are meant to do with a pattern.

Main statements:

- `Reading.step_refuses`, `Reading.run_refuses`: one round and all rounds, with a group underneath;
- `CharRegex.read?_anchored_eq_none`: texts that do not break out;
- `Pattern.keepsAnchors_iff`: the patterns that do what they are meant to do.
-/

namespace RuleText

open Regex

theorem Regex.Branch.repeatLast_eq_none_iff (branch : Branch) (least : Nat) (most : Option Nat)
    (eager : Bool) :
    branch.repeatLast least most eager = none ↔
      ∀ last ∈ branch.items.head?, last.repeatable = false := by
  obtain ⟨complete, items⟩ := branch
  rw [Branch.repeatLast]
  cases items with
  | nil => simp
  | cons last before => cases hlast : last.repeatable <;> simp [hlast]

namespace Regex.Reading

/-- Whether reading comes to a closing parenthesis where no group is open. What stands in front of it has
been read until then, and what stands behind it is not looked at. -/
def breaksOut (reading : Reading) : (fuel : Nat) → List Char → Bool
  | 0, _ => false
  | fuel + 1, text =>
    match skipLayout reading.flags text with
    | [] => false
    | c :: rest =>
      if c == ')' && reading.frames.isEmpty then true
      else match reading.step fuel c rest with
        | none => false
        | some (next, rest) => next.breaksOut fuel rest

/-- Nothing comes of a reading any more: the text that is left is refused, or leaves a group open. -/
def Hopeless (reading : Reading) (text : List Char) : Prop :=
  ∀ fuel, (reading.run fuel text).bind finish? = none

/-! ### Readings that nothing comes of -/

section Hopeless

variable {reading : Reading}

theorem hopeless_nil (hframes : reading.frames ≠ []) : reading.Hopeless [] := by
  intro fuel
  cases fuel with
  | zero => rfl
  | succ fuel =>
    rw [run, skipLayout_nil]
    exact if_neg (mt List.isEmpty_iff.mp hframes)

/-- Without its parenthesis the closing anchor closes no group. -/
theorem hopeless_dollar (hframes : reading.frames ≠ []) : reading.Hopeless ['$'] := by
  intro fuel
  cases fuel with
  | zero => rfl
  | succ fuel =>
    have hpushed : (reading.push (.assert (lineEnd reading.flags))).frames ≠ [] := hframes
    rw [run, skipLayout_dollar]
    exact hopeless_nil hpushed fuel

/-- The closing anchor closes one group only. -/
theorem hopeless_anchorEnd {frame : Frame} {others : List Frame}
    (hframes : reading.frames = frame :: others) (hothers : others ≠ []) :
    reading.Hopeless anchorEnd := by
  intro fuel
  cases fuel with
  | zero => rfl
  | succ fuel =>
    obtain ⟨frames, branch, flags, names, groups⟩ := reading
    obtain rfl : frames = frame :: others := hframes
    rw [run, skipLayout_anchorEnd]
    exact hopeless_dollar hothers fuel

/-- A brace that no count follows is refused. -/
theorem hopeless_brace {tail : List Char} (h : readCounts reading.flags tail = none) :
    reading.Hopeless ('{' :: tail) := by
  intro fuel
  cases fuel with
  | zero => rfl
  | succ fuel =>
    have hlayout : skipLayout reading.flags ('{' :: tail) = '{' :: tail := by
      rw [skipLayout]
      split <;> rfl
    have hstep : reading.step fuel '{' tail = none := by
      simp [step, h]
    rw [run, hlayout]
    simp only [hstep]
    rfl

end Hopeless

/-! ### One round -/

/-- A repetition is refused for what it would repeat, whatever stands behind it. -/
theorem repeatLast_eq_none_iff (reading : Reading) (least : Nat) (most : Option Nat)
    (text : List Char) :
    reading.repeatLast least most text = none ↔
      ∀ last ∈ reading.branch.items.head?, last.repeatable = false := by
  by_cases hmark : ∃ tail, text = '?' :: tail
  · obtain ⟨tail, rfl⟩ := hmark
    rw [repeatLast_swapped, Option.map_eq_none_iff, Branch.repeatLast_eq_none_iff]
  · rw [repeatLast_plain _ _ _ fun tail heq => hmark ⟨tail, heq⟩, Option.map_eq_none_iff,
      Branch.repeatLast_eq_none_iff]

theorem repeatLast_under_eq_none {reading : Reading} {least : Nat} {most : Option Nat}
    {text : List Char} (frames : List Frame) (text' : List Char)
    (h : reading.repeatLast least most text = none) :
    (reading.under frames).repeatLast least most text' = none := by
  rw [repeatLast_eq_none_iff] at h ⊢
  exact h

theorem opening_under_eq_none {reading : Reading} {opening : Opening} (frames : List Frame)
    (h : reading.opening opening = none) : (reading.under frames).opening opening = none := by
  cases opening with
  | flags change => cases h
  | group change => cases h
  | recording name =>
    rw [Reading.opening] at h ⊢
    split at h
    · rename_i hold
      exact if_pos hold
    · cases h

/-- Openings close no group. -/
theorem opening_frames_ne_nil {reading next : Reading} {opening : Opening}
    (hframes : reading.frames ≠ []) (h : reading.opening opening = some next) : next.frames ≠ [] := by
  cases opening with
  | flags change =>
    obtain rfl := Option.some.inj h
    exact hframes
  | group change =>
    obtain rfl := Option.some.inj h
    exact List.cons_ne_nil _ _
  | recording name =>
    rw [Reading.opening] at h
    split at h
    · cases h
    · obtain rfl := Option.some.inj h
      exact List.cons_ne_nil _ _

theorem under_frames_ne_nil (reading : Reading) {frames : List Frame} (hframes : frames ≠ []) :
    (reading.under frames).frames ≠ [] :=
  List.append_ne_nil_of_right_ne_nil _ hframes

/-- **A refused round with more groups underneath.** If it is a round at all, it has used the closing anchor
up, or left a brace without a count. -/
theorem step_refuses {reading next : Reading} {bound bound' : Nat} {c : Char} {text rest : List Char}
    {frames : List Frame} (hframes : frames ≠ []) (hbound : text.length < bound)
    (hbound' : text.length + 2 < bound') (hinside : c = ')' → reading.frames ≠ [])
    (h : reading.step bound c text = none)
    (h' : (reading.under frames).step bound' c (text ++ anchorEnd) = some (next, rest)) :
    next.Hopeless rest := by
  have hunder := reading.under_frames_ne_nil hframes
  unfold step at h h'
  simp only [under_flags] at h h'
  split at h
  · -- a group opens, or flags change
    obtain ⟨⟨opening, after'⟩, hread', h'⟩ := Option.bind_eq_some_iff.mp h'
    obtain ⟨opened, hopened, heq⟩ := Option.bind_eq_some_iff.mp h'
    obtain ⟨rfl, rfl⟩ := Prod.mk.inj (Option.some.inj heq)
    cases hread : readOpening reading.flags text with
    | none =>
      obtain rfl := readOpening_refusing _ _ _ _ hread hread'
      exact hopeless_dollar (opening_frames_ne_nil hunder hopened)
    | some answer =>
      obtain ⟨opening₀, after⟩ := answer
      obtain ⟨rfl, -⟩ := (readOpening_local _).agree (.kept text) hread hread'
      rw [hread] at h
      have hrefused : reading.opening opening = none := eq_none_of_bind_some h
      rw [opening_under_eq_none frames hrefused] at hopened
      cases hopened
  · -- a group closes
    have hrefused : reading.closing = none := eq_none_of_bind_some h
    rw [closing] at hrefused
    split at hrefused
    · rename_i hempty
      exact absurd hempty (hinside rfl)
    · cases hrefused
  · cases h
  · -- a bracketed class
    rw [readBracket_append_eq_none hbound hbound' (eq_none_of_bind_some h)] at h'
    cases h'
  · rw [repeatLast_under_eq_none frames _ h] at h'
    cases h'
  · rw [repeatLast_under_eq_none frames _ h] at h'
    cases h'
  · rw [repeatLast_under_eq_none frames _ h] at h'
    cases h'
  · -- a counted repetition
    cases hread : readCounts reading.flags text with
    | none =>
      rw [readCounts_append_eq_none hread] at h'
      cases h'
    | some answer =>
      obtain ⟨least, most, after⟩ := answer
      rw [hread] at h
      rw [(readCounts_local _ hread).2] at h'
      have hrefused := repeatLast_under_eq_none frames (skipLayout reading.flags (after ++ anchorEnd)) h
      simp only [Option.bind_eq_bind, Option.bind_some] at h'
      rw [hrefused] at h'
      cases h'
  · -- an escape
    obtain ⟨⟨atom, after'⟩, hread', h'⟩ := Option.bind_eq_some_iff.mp h'
    obtain ⟨piece, hpiece, heq⟩ := Option.bind_eq_some_iff.mp h'
    obtain ⟨rfl, rfl⟩ := Prod.mk.inj (Option.some.inj heq)
    cases hread : readEscape reading.flags text with
    | none =>
      rcases readEscape_refuses hread hread' with rfl | ⟨claim, tail, -, rfl, hcounts⟩
      · exact hopeless_dollar hunder
      · exact hopeless_brace hcounts
    | some answer =>
      obtain ⟨atom₀, after⟩ := answer
      obtain ⟨rfl, -⟩ := (readEscape_local _).agree (.kept text) hread hread'
      rw [hread] at h
      have hrefused : atom? reading.flags atom = none := eq_none_of_bind_some h
      rw [hrefused] at hpiece
      cases hpiece
  · -- a dot
    rw [eq_none_of_bind_some h] at h'
    cases h'
  · cases h
  · cases h
  · -- any other character
    have hrefused : atom? reading.flags (.char c false) = none := eq_none_of_bind_some h
    simp [hrefused] at h'

/-! ### All rounds -/

/-- **All rounds with more groups underneath.** A text that is refused and does not break out is refused
there too. -/
theorem run_refuses {reading : Reading} {fuel fuel' : Nat} {text text' : List Char} {frames : List Frame}
    (hframes : frames ≠ []) (htext : Extends text text') (hfuel : text.length < fuel)
    (hfuel' : text'.length < fuel') (hinside : reading.breaksOut fuel text = false)
    (h : reading.run fuel text = none) : ((reading.under frames).run fuel' text').bind finish? = none := by
  -- the induction is on the rounds of the text by itself, the longer text has fuel of its own
  induction fuel generalizing reading fuel' text text' with
  | zero => exact absurd hfuel (Nat.not_lt_zero _)
  | succ fuel ih =>
    obtain ⟨fuel', rfl⟩ := Nat.exists_eq_add_of_le' (Nat.one_le_of_lt hfuel')
    have hlayout := extends_skipLayout reading.flags htext
    have hlength := length_skipLayout_le reading.flags text
    have hlength' := length_skipLayout_le reading.flags text'
    rw [run] at h
    rw [breaksOut] at hinside
    cases hinner : skipLayout reading.flags text with
    | nil =>
      -- a text that ends here is taken
      rw [hinner] at h
      cases h
    | cons c rest =>
      rw [hinner] at h hinside hlayout hlength
      have hinner' := hlayout.cons_left
      have hlonger := hlayout.length_eq (List.cons_ne_nil c rest)
      rw [List.length_cons] at hlength hlonger
      simp only [] at hinside
      -- it does not break out in this round, so a closing group has one of its own to close
      split at hinside
      · cases hinside
      · rename_i hparen
        have hopen : c = ')' → reading.frames ≠ [] := by
          rintro rfl hempty
          exact hparen (by simp [hempty])
        rw [run, under_flags, hinner']
        simp only
        -- a step that is refused ends both readings, any other one is followed by both
        cases hstep : reading.step fuel c rest with
        | none =>
          cases hstep' : (reading.under frames).step fuel' c (rest ++ anchorEnd) with
          | none => rfl
          | some answer =>
            obtain ⟨next, after'⟩ := answer
            exact step_refuses hframes (by omega) (by omega) hopen hstep hstep' fuel'
        | some answer =>
          obtain ⟨next, after⟩ := answer
          -- the step is the same with more groups underneath, and leaves the anchor at the end
          obtain ⟨hlen, after', hstep', hafter⟩ :=
            step_under frames fuel' (by omega) (by omega) hstep
          have hshorter := hafter.length_le
          simp only [hstep] at h hinside
          simp only [hstep', Option.bind_eq_bind, Option.bind_some]
          exact ih hafter (by omega) (by omega) hinside h

/-- A text that breaks out is no pattern by itself. -/
theorem run_eq_none_of_breaksOut {reading : Reading} {fuel : Nat} {text : List Char}
    (h : reading.breaksOut fuel text = true) : reading.run fuel text = none := by
  induction fuel generalizing reading text with
  | zero => rfl
  | succ fuel ih =>
    rw [breaksOut] at h
    rw [run]
    cases hinner : skipLayout reading.flags text with
    | nil =>
      rw [hinner] at h
      cases h
    | cons c rest =>
      rw [hinner] at h
      simp only at h ⊢
      split at h
      · rename_i hparen
        obtain ⟨hc, hempty⟩ := Bool.and_eq_true_iff.mp hparen
        obtain rfl := beq_iff_eq.mp hc
        have hclosing : reading.closing = none := by
          rw [closing, List.isEmpty_iff.mp hempty]
        simp [step, hclosing]
      · cases hstep : reading.step fuel c rest with
        | none => rfl
        | some answer =>
          rw [hstep] at h
          exact ih h

end Regex.Reading

/-! ### Patterns -/

/-- A text that is no pattern is none between the anchors either, if it does not break out of them. -/
theorem CharRegex.read?_anchored_eq_none {text : List Char} (h : read? text = none)
    (hinside : Reading.breaksOut {} (text.length + 1) text = false) : read? (anchored text) = none := by
  have henough := length_append_anchorEnd_lt text
  rw [read?_anchored, Option.map_eq_none_iff]
  rw [read?, Option.map_eq_none_iff] at h
  cases hrun : Reading.run {} (text.length + 1) text with
  | none =>
    exact Reading.run_refuses (List.cons_ne_nil _ _) (.kept text) (Nat.lt_succ_self _) henough hinside
      hrun
  | some final =>
    rw [hrun, Option.bind_some, Reading.finish?] at h
    -- a group has been left open, and behind the text there are two to close
    cases hframes : final.frames with
    | nil => simp [hframes] at h
    | cons frame others =>
      have hunder := final.under_frames_ne_nil (List.cons_ne_nil Reading.anchorFrame [])
      rcases Reading.run_under [Reading.anchorFrame] (.kept text) (Nat.lt_succ_self _) henough hrun with
        hopen | ⟨left, -, hanchor⟩
      · rw [hopen, Option.bind_some, Reading.finish?]
        exact if_neg (mt List.isEmpty_iff.mp hunder)
      · have hinner : (final.under [Reading.anchorFrame]).frames =
            frame :: (others ++ [Reading.anchorFrame]) := by
          rw [Reading.under_frames, hframes]
          rfl
        rw [hanchor]
        exact Reading.hopeless_anchorEnd hinner (List.concat_ne_nil _ _) left

/-- Whether the text of a pattern closes a group that it has not opened. Between the anchors that is the
group which the opening anchor has opened. -/
def Pattern.breaksOut (p : Pattern) : Bool :=
  Reading.breaksOut {} (p.source.toList.length + 1) p.source.toList

/-- A pattern keeps to its anchors: it is refused unless it is a regular expression by itself, and where the
condition that takes it holds, it matches the value of the name as a whole. -/
def Pattern.KeepsAnchors (p : Pattern) : Prop :=
  ∀ (context : Context) (name : String),
    let collected := (context.setPattern p).collect name
    (CharRegex.read? p.source.toList = none → collected.1 = .error (.invalidPattern name p)) ∧
      (collected.1 = .ok () → collected.2.conditionsHold = true →
        ∃ alone ∈ CharRegex.read? p.source.toList, ∃ value ∈ context.bindings.get? name,
          alone.Matches value.toList 0 value.toList.length)

/-- What compiles without breaking out is a pattern by itself. -/
theorem Pattern.exists_alone_of_compiles {p : Pattern} {whole : CharRegex}
    (hinside : p.breaksOut = false) (hwhole : p.compile? = some whole) :
    ∃ alone, CharRegex.read? p.source.toList = some alone := by
  cases halone : CharRegex.read? p.source.toList with
  | none =>
    have hanchored := CharRegex.read?_anchored_eq_none halone hinside
    rw [CharRegex.read?_of_ofText? hwhole] at hanchored
    cases hanchored
  | some alone => exact ⟨alone, rfl⟩

/-- What breaks out is no pattern by itself. -/
theorem Pattern.alone_eq_none_of_breaksOut {p : Pattern} (h : p.breaksOut = true) :
    CharRegex.read? p.source.toList = none := by
  rw [CharRegex.read?, Reading.run_eq_none_of_breaksOut h]
  rfl

/-- **Which patterns keep to their anchors.** They are the ones that close no group they have not opened,
and those that are refused all the same. -/
theorem Pattern.keepsAnchors_iff (p : Pattern) :
    p.KeepsAnchors ↔ p.breaksOut = false ∨ p.compile? = none := by
  refine ⟨?_, ?_⟩
  · intro hkeeps
    cases hbreaks : p.breaksOut with
    | false => exact Or.inl rfl
    | true =>
      refine Or.inr ?_
      by_contra hsome
      obtain ⟨whole, hwhole⟩ := Option.ne_none_iff_exists'.mp hsome
      -- by itself it ought to be refused, and yet the condition takes it
      have hrefused := (hkeeps {} "").1 (alone_eq_none_of_breaksOut hbreaks)
      rw [Context.collect_of_compiles hwhole] at hrefused
      cases hrefused
  · intro hinside context name
    cases hcompiles : p.compile? with
    | none =>
      rw [context.collect_of_refused hcompiles]
      exact ⟨fun _ => rfl, nofun⟩
    | some whole =>
      rw [hcompiles] at hinside
      obtain ⟨alone, halone⟩ := exists_alone_of_compiles (hinside.resolve_right nofun) hcompiles
      rw [context.collect_of_compiles hcompiles, halone]
      refine ⟨nofun, ?_⟩
      intro _ hholds
      obtain ⟨value, hvalue, hfound⟩ := Context.foundIn_of_conditionsHold hholds
      rw [CharRegex.foundIn_eq_true_iff, CharRegex.ofText?_anchored halone hcompiles,
        CharRegex.foundIn_anchors_iff] at hfound
      exact ⟨alone, rfl, value, hvalue, hfound⟩

/-- A text that closes the group of the opening anchor and opens another for the closing one. A condition
takes it, and holds of a value of which only the beginning is matched. -/
theorem Pattern.not_keepsAnchors_two_groups :
    let p : Pattern := .regex "a)|(?:b"
    let context : Context := { bindings := ⟨[("n", "ax")]⟩ }
    let collected := (context.setPattern p).collect "n"
    CharRegex.read? p.source.toList = none ∧ collected.1 = .ok () ∧
      collected.2.conditionsHold = true ∧ ¬ p.KeepsAnchors := by
  intro p context collected
  have halone : CharRegex.read? (Pattern.regex "a)|(?:b").source.toList = none := by rfl
  -- between the anchors it is a choice, and in each branch stands only one of them
  obtain ⟨choice, hread, hmatch⟩ : ∃ choice,
      CharRegex.read? (anchored (Pattern.regex "a)|(?:b").source.toList) = some choice ∧
        choice.Matches ['a', 'x'] 0 1 := by
    refine ⟨.alts (.seqs [.assert .textStart, .one (.single 'a')])
      [.seqs [.one (.single 'b'), .assert .textEnd]], by rfl, ?_⟩
    exact Or.inl ⟨0, ⟨rfl, rfl⟩, ⟨'a', rfl, rfl⟩, rfl⟩
  have hcompiles : (Pattern.regex "a)|(?:b").compile?.isSome = true := by decide +kernel
  obtain ⟨whole, hwhole⟩ := Option.isSome_iff_exists.mp hcompiles
  obtain rfl := Option.some.inj (hread.symm.trans (CharRegex.read?_of_ofText? hwhole))
  -- the first branch finds the beginning of the value, and nothing asks for its end
  have hfound : choice.foundIn ['a', 'x'] = true :=
    (choice.foundIn_eq_true_iff _).mpr ⟨0, 1, Nat.zero_le _, hmatch⟩
  have hcollected : collected = (.ok (), context.withCondition "n" choice) :=
    context.collect_of_compiles hwhole "n"
  have hok : collected.1 = .ok () := by
    rw [hcollected]
  have hholds : collected.2.conditionsHold = true := by
    rw [hcollected, Context.conditionsHold_only _ rfl rfl]
    exact hfound
  refine ⟨halone, hok, hholds, ?_⟩
  -- a pattern that keeps to its anchors would have been refused
  intro hkeeps
  have hrefused := (hkeeps context "n").1 halone
  rw [hok] at hrefused
  cases hrefused

end RuleText

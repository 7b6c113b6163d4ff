import Mathlib.Data.String.Basic
import RuleText.Proofs.Compile
import RuleText.Proofs.Evaluation.Relevance

/-!
# What becomes of a text

Compiling has many ways to fail, most of which are the fault of the world around it: the document cannot be
read or is no text, the sink is full. None of these is left when a text is compiled to a text. The bytes
between are those of texts on both sides, so they can be decoded, and what they are written to takes
everything. And a condition always comes with its pattern. So there are three things that can be wrong, all
with the text itself: it has no tokens, it is no program, or a pattern in it is no regular expression
(`RunError.IsOfText`).

What becomes of a text is said first without any bytes (`TextResult`), with one case for a text that is no
program, one for a faulty pattern and one for success. There is exactly one result, and the properties play
no part in which of the three cases it is: even a statement that does not fire has its patterns compiled.
Compiling to a text, and compiling into a sink that takes everything, are then compared with that result
rather than with each other.

Main definitions:

- `RunError.IsOfText`: the errors that are the fault of a text;
- `Program.Sound`: programs in which no pattern is faulty;
- `Program.output`, `TextResult`: what becomes of a text.

Main statements:

- `Program.emitted_eq`: what a program emits are the bytes of a text;
- `TextResult.compile`, `TextResult.compileText`: compiling comes to the result of a text;
- `compileText_ends`: what compiling a text can end with, and when.
-/

namespace RuleText

/-! ### Results -/

/-- The errors that are the fault of a text: it does not split into tokens, its tokens are no program, or
one of its patterns is no regular expression. -/
inductive RunError.IsOfText : RunError → Prop where
  | scan (e : ScanError) : IsOfText (.scan e)
  | parse (e : ParseError) (span : Option Span) : IsOfText (.parse e span)
  | pattern (name : String) (p : Pattern) : IsOfText (.eval (.invalidPattern name p))

/-- A text that cannot be read as a program has itself to blame. -/
theorem RunError.isOfText_ofRead (e : ReadError) : (ofRead e).IsOfText := by
  cases e with
  | scan e => exact .scan e
  | parse e span => exact .parse e span

/-- Every pattern is a regular expression, in all statements, whether they fire or not. -/
def Program.Sound (p : Program) : Prop :=
  ∀ s ∈ p.statements, ∀ c ∈ s.conditions, ∃ regex, c.pattern.compile? = some regex

/-- A run over a sound program meets no faulty condition. -/
theorem Program.sound_iff (p : Program) : p.Sound ↔ faultyCondition? p.statements = none := by
  unfold Sound faultyCondition?
  rw [List.find?_eq_none]
  constructor
  · intro h c hc
    obtain ⟨s, hs, hc⟩ := List.mem_flatMap.mp hc
    rw [c.faulty_eq_false_iff.mpr (h s hs c hc)]
    exact Bool.false_ne_true
  · intro h s hs c hc
    have hfaulty : c.faulty = false := by
      simpa using h c (List.mem_flatMap.mpr ⟨s, hs, hc⟩)
    exact c.faulty_eq_false_iff.mp hfaulty

/-- The text that a program gives: the texts of the blocks of its firing statements, each with a line feed. -/
def Program.output (p : Program) (properties : Properties) : List Char :=
  (firing (p.names properties) p.statements).flatMap fun s => s.output.text.toList ++ ['\n']

/-- **What a program emits are the bytes of a text**, although they are written in parts. -/
theorem Program.emitted_eq (p : Program) (properties : Properties) :
    p.emitted properties = encodeUtf8 (p.output properties) := by
  unfold emitted output encodeUtf8
  -- the bytes of a list of characters are those of the characters, one by one
  rw [List.flatMap_assoc]
  rfl

/-- What becomes of a text: an error, or the text that its program gives. -/
inductive TextResult (text : List Char) (properties : Properties) : Except RunError (List Char) → Prop where
  | refused {e : ReadError} (h : Program.ofText? text = .error e) :
      TextResult text properties (.error (.ofRead e))
  | faulty {p : Program} {c : Condition} (h : Program.ofText? text = .ok p)
      (hfaulty : faultyCondition? p.statements = some c) :
      TextResult text properties (.error (.eval (.invalidPattern c.name c.pattern)))
  | output {p : Program} (h : Program.ofText? text = .ok p) (hsound : p.Sound) :
      TextResult text properties (.ok (p.output properties))

theorem exists_textResult (text : List Char) (properties : Properties) :
    ∃ result, TextResult text properties result := by
  rcases hread : Program.ofText? text with e | p
  · exact ⟨_, .refused hread⟩
  · rcases hfaulty : faultyCondition? p.statements with - | c
    · exact ⟨_, .output hread (p.sound_iff.mpr hfaulty)⟩
    · exact ⟨_, .faulty hread hfaulty⟩

section TextResult

variable {text : List Char} {properties : Properties} {result : Except RunError (List Char)}

/-- An error among the results is the fault of the text. -/
theorem TextResult.isOfText {e : RunError} (h : TextResult text properties (.error e)) : e.IsOfText := by
  cases h with
  | refused _ => exact RunError.isOfText_ofRead _
  | @faulty _ c _ _ => exact .pattern c.name c.pattern

/-- Whether there is an error does not depend on the properties. -/
theorem TextResult.exists_ok_iff (h : TextResult text properties result) :
    (∃ output, result = .ok output) ↔ ∃ p, Program.ofText? text = .ok p ∧ p.Sound := by
  cases h with
  | refused hread =>
    constructor
    · rintro ⟨output, hok⟩
      cases hok
    · rintro ⟨p, hp, -⟩
      cases hread.symm.trans hp
  | @faulty p c hread hfaulty =>
    constructor
    · rintro ⟨output, hok⟩
      cases hok
    · rintro ⟨q, hq, hsound⟩
      obtain rfl : p = q := Except.ok.inj (hread.symm.trans hq)
      cases hfaulty.symm.trans (p.sound_iff.mp hsound)
  | @output p hread hsound =>
    constructor
    · rintro -
      exact ⟨p, hread, hsound⟩
    · rintro -
      exact ⟨p.output properties, rfl⟩

end TextResult

/-! ### Compiling -/

/-- The program of a text is the program of its bytes. -/
theorem Source.program_of_read {text : List Char} {p : Program} (h : Program.ofText? text = .ok p) :
    ({ bytes := encodeUtf8 text } : Source).program = .ok p := by
  rw [program_ofText, h]

section Compile

variable {text : List Char} {properties : Properties}

/-- **A sink that takes everything** ends up with the output of the text. -/
theorem TextResult.compile_ok {output : List Char} (h : TextResult text properties (.ok output))
    (silent : Bool) :
    ∃ stats, compile { bytes := encodeUtf8 text } properties { silent := silent } =
      (.ok stats, { silent := silent, taken := encodeUtf8 output }) := by
  cases h with
  | @output p hread hsound =>
    have hempty : ({ silent := silent } : Sink).taken = [] := rfl
    -- the answer is the verdict on the program, since nothing is too much and nothing fails at the end
    obtain ⟨hgiven, hok⟩ := compile_given p properties hempty (Source.program_of_read hread)
    have hverdict := (verdict_eq_ok_iff (p.names properties) p.statements _).mpr
      ⟨p.sound_iff.mp hsound, rfl⟩
    have hanswer := (hok _).mpr ⟨rfl, not_exceeds_none _, hverdict⟩
    rw [p.emitted_eq] at hgiven
    exact ⟨_, Prod.ext hanswer hgiven⟩

/-- **An error of the text** is what such a sink is left with. -/
theorem TextResult.compile_error {e : RunError} (h : TextResult text properties (.error e))
    (silent : Bool) :
    (compile { bytes := encodeUtf8 text } properties { silent := silent }).1 = .error e := by
  cases h with
  | refused hread =>
    unfold compile
    rw [Source.program_ofText, hread]
  | @faulty p c hread hfaulty =>
    have hempty : ({ silent := silent } : Sink).taken = [] := rfl
    refine compile_of_faulty p properties hempty (Source.program_of_read hread) (not_exceeds_none _) ?_
    rw [verdict, hfaulty]

/-- Compiling into such a sink ends well if the text gives an output, and then with the bytes of it. -/
theorem TextResult.compile_eq_ok_iff {result : Except RunError (List Char)}
    (h : TextResult text properties result) (silent : Bool) (output : List Char) :
    (∃ stats, compile { bytes := encodeUtf8 text } properties { silent := silent } =
      (.ok stats, { silent := silent, taken := encodeUtf8 output })) ↔ result = .ok output := by
  constructor
  · rintro ⟨stats, hcompile⟩
    cases result with
    | error e =>
      have herror := h.compile_error silent
      rw [hcompile] at herror
      cases herror
    | ok other =>
      obtain ⟨stats', hcompile'⟩ := h.compile_ok silent
      have hbytes : encodeUtf8 other = encodeUtf8 output :=
        congrArg (fun answer => answer.2.taken) (hcompile'.symm.trans hcompile)
      -- texts with the same bytes are the same
      have hdecoded := congrArg decodeUtf8 hbytes
      rw [decodeUtf8_encode, decodeUtf8_encode] at hdecoded
      exact congrArg Except.ok (Except.ok.inj hdecoded)
  · rintro rfl
    exact h.compile_ok silent

theorem TextResult.compile_eq_error_iff {result : Except RunError (List Char)}
    (h : TextResult text properties result) (silent : Bool) (e : RunError) :
    (compile { bytes := encodeUtf8 text } properties { silent := silent }).1 = .error e ↔
      result = .error e := by
  constructor
  · intro hcompile
    cases result with
    | error e' => exact congrArg Except.error (Except.error.inj ((h.compile_error silent).symm.trans hcompile))
    | ok output =>
      obtain ⟨stats, hok⟩ := h.compile_ok silent
      rw [hok] at hcompile
      cases hcompile
  · rintro rfl
    exact h.compile_error silent

end Compile

section CompileText

variable {text : String} {properties : Properties} {result : Except RunError (List Char)}
  (h : TextResult text.toList properties result)

include h

/-- **Compiling to a text** comes to the result of the text, since what the sink has taken can be decoded. -/
theorem TextResult.compileText : compileText text properties = result.map String.ofList := by
  unfold RuleText.compileText
  cases result with
  | error e =>
    have herror := h.compile_error false
    -- whatever the sink has taken by then is not looked at
    rcases hcompile : compile { bytes := encodeUtf8 text.toList } properties {} with ⟨answer, sink⟩
    rw [hcompile] at herror
    obtain rfl : answer = .error e := herror
    rfl
  | ok output =>
    obtain ⟨stats, hcompile⟩ := h.compile_ok false
    rw [hcompile]
    simp only [decodeUtf8_encode]
    rfl

theorem TextResult.compileText_eq_ok_iff (output : String) :
    RuleText.compileText text properties = .ok output ↔ result = .ok output.toList := by
  rw [h.compileText]
  cases result with
  | error e => simp only [Except.map, reduceCtorEq]
  | ok output' => simp only [Except.map, Except.ok.injEq, String.ofList_eq]

theorem TextResult.compileText_eq_error_iff (e : RunError) :
    RuleText.compileText text properties = .error e ↔ result = .error e := by
  rw [h.compileText]
  cases result with
  | error e' => simp only [Except.map, Except.error.injEq]
  | ok output => simp only [Except.map, reduceCtorEq]

end CompileText

/-- **What compiling a text ends with.** It gives a text, or an error that is the fault of the text it was
given; nothing else can go wrong. It gives a text exactly if it is given a program in which all patterns are
regular expressions, whatever the properties are. And compiling the bytes of the text into a sink that takes
everything ends in the same way: with the same error, or with the bytes of the same text. -/
theorem compileText_ends (text : String) (properties : Properties) :
    ((∃ output, compileText text properties = .ok output) ∨
        ∃ e, compileText text properties = .error e ∧ e.IsOfText) ∧
      ((∃ output, compileText text properties = .ok output) ↔
        ∃ p, Program.ofText? text.toList = .ok p ∧ p.Sound) ∧
      ∀ silent : Bool,
        (∀ output, compileText text properties = .ok output ↔
          ∃ stats, compile { bytes := encodeUtf8 text.toList } properties { silent := silent } =
            (.ok stats, { silent := silent, taken := encodeUtf8 output.toList })) ∧
        ∀ e, compileText text properties = .error e ↔
          (compile { bytes := encodeUtf8 text.toList } properties { silent := silent }).1 = .error e := by
  obtain ⟨result, h⟩ := exists_textResult text.toList properties
  have hok : (∃ output, compileText text properties = .ok output) ↔ ∃ output, result = .ok output := by
    constructor
    · rintro ⟨output, houtput⟩
      exact ⟨output.toList, (h.compileText_eq_ok_iff output).mp houtput⟩
    · rintro ⟨output, rfl⟩
      exact ⟨String.ofList output, h.compileText⟩
  refine ⟨?_, hok.trans h.exists_ok_iff, fun silent => ⟨fun output => ?_, fun e => ?_⟩⟩
  · cases result with
    | error e => exact Or.inr ⟨e, h.compileText, h.isOfText⟩
    | ok output => exact Or.inl ⟨String.ofList output, h.compileText⟩
  · exact (h.compileText_eq_ok_iff output).trans (h.compile_eq_ok_iff silent output.toList).symm
  · exact (h.compileText_eq_error_iff e).trans (h.compile_eq_error_iff silent e).symm

end RuleText

import RuleText.Proofs.Compile
import RuleText.Proofs.Program.Offender
import RuleText.Proofs.Program.Printer
import RuleText.Proofs.Regex.Word
import RuleText.Proofs.Source

/-!
# Patterns in messages

A message about a pattern shows it as it would stand in a document. For a regular expression that is not the text
of the pattern: the slashes in it are shown with a backslash each, and no heed is paid to what stands in front of
them. Reading goes the other way and takes a backslash and the character behind it together, whatever comes before.
The two meet exactly in the texts that split into units (`RegexUnits`). In such a text a backslash has its own
character behind it, which is no slash; so a backslash that was shown before a slash is not taken for an escaped
one, and the closing slash is not escaped.

That other texts are not read back needs no look at where reading goes astray: what is read is always made of
units, so a text that is not cannot be what has been read.

The patterns of a document have been read, and a run stops only at a pattern of its document. So whatever pattern
a run reports can be copied from the message into a document.

Main definitions:

- `Pattern.ReadsBack`: a pattern as messages show it is read as that pattern.

Main statements:

- `units_of_lexLiteral`, `lexLiteral_describe`: reading, and reading what is shown;
- `compile_invalidPattern`: the pattern that a run reports comes from its document;
- `Pattern.describe_read_back`: all of this in one statement.
-/

namespace RuleText

/-! ### Reading what is shown -/

/-- What is read as a regular expression is made of units. -/
theorem units_of_lexLiteral {text lexeme rest : List Char} {body : String}
    (h : lexLiteral text = .ok ⟨.regex body, lexeme, rest⟩) : RegexUnits body.toList := by
  have htakes : Takes text ⟨.regex body, lexeme, rest⟩ := lexLiteral_sound h
  exact htakes.lexeme.wellLexed

/-- What is shown of units is read up to its closing slash, whatever stands behind it. -/
theorem lexLiteral_describe {s : String} (h : RegexUnits s.toList) (rest : List Char) :
    lexLiteral ((Pattern.regex s).describe.toList ++ rest) =
      .ok ⟨.regex s, (Pattern.regex s).describe.toList, rest⟩ := by
  have hshown : (Pattern.regex s).describe.toList =
      '~' :: '/' :: (Pattern.escapeSlashes s.toList ++ ['/']) := by
    unfold Pattern.describe
    rw [String.toList_ofList]
    rfl
  have hbody : RegexBody (Pattern.escapeSlashes s.toList) s.toList := regexBody_escapeSlashes h
  rw [hshown]
  apply lexLiteral_eq_of_regex
  calc lexRegex ('~' :: '/' :: (Pattern.escapeSlashes s.toList ++ ['/']) ++ rest)
      = lexRegex ('~' :: '/' :: (Pattern.escapeSlashes s.toList ++ '/' :: rest)) := by
        simp only [List.cons_append, List.append_assoc, List.nil_append]
    _ = .ok ⟨.regex (String.ofList s.toList), '~' :: '/' :: (Pattern.escapeSlashes s.toList ++ ['/']), rest⟩ :=
        lexRegex_eq hbody
    _ = .ok ⟨.regex s, '~' :: '/' :: (Pattern.escapeSlashes s.toList ++ ['/']), rest⟩ := by
        rw [String.ofList_toList]

/-- **The texts that are read back**, with nothing more and nothing less taken off what follows. -/
theorem lexLiteral_describe_iff (s : String) (rest : List Char) :
    (lexLiteral ((Pattern.regex s).describe.toList ++ rest)).map (fun taken => (taken.rest, taken.value)) =
        .ok (rest, .regex s) ↔
      RegexUnits s.toList := by
  constructor
  · intro h
    cases hread : lexLiteral ((Pattern.regex s).describe.toList ++ rest) with
    | error refusal =>
      rw [hread] at h
      cases h
    | ok taken =>
      rw [hread] at h
      obtain ⟨token, lexeme, left⟩ := taken
      obtain ⟨-, htoken⟩ := Prod.mk.inj (Except.ok.inj h)
      obtain rfl : token = .regex s := htoken
      exact units_of_lexLiteral hread
  · intro h
    rw [lexLiteral_describe h rest]
    rfl

/-- A pattern as messages show it is one token, and the grammar reads the pattern from that token. -/
def Pattern.ReadsBack (p : Pattern) : Prop :=
  ∃ placed, tokenize p.describe.toList = .ok [placed] ∧ Program.pattern #[placed.token] 0 = .ok (1, p)

theorem Pattern.readsBack_of_wellLexed {p : Pattern} (h : p.WellLexed) : p.ReadsBack := by
  refine ⟨_, (lexeme_describe h).tokenize, ?_⟩
  cases p with
  | literal text => rfl
  | regex text => rfl

/-! ### The pattern of a report -/

/-- A run reports a pattern only if it belongs to a condition of the program. -/
theorem Program.evaluate_invalidPattern {ω : Type} [Output ω] {program : Program} {properties : Properties}
    {out : ω} {name : String} {p : Pattern}
    (h : (program.evaluate properties out).1 = .error (.invalidPattern name p)) :
    ∃ s ∈ program.statements, ∃ c ∈ s.conditions, c.name = name ∧ c.pattern = p := by
  rw [Program.evaluate_eq] at h
  rcases hemit : emitAll out (firing (program.names properties) program.statements) with ⟨fault | ⟨⟩, after⟩
  · -- a line did not fit, which is an error of its own
    rw [hemit] at h
    cases h
  · rw [hemit] at h
    change verdict (program.names properties) {} program.statements = .error (.invalidPattern name p) at h
    unfold verdict at h
    cases hfaulty : faultyCondition? program.statements with
    | none =>
      rw [hfaulty] at h
      cases h
    | some c =>
      rw [hfaulty] at h
      obtain ⟨hname, hpattern⟩ := EvalError.invalidPattern.inj (Except.error.inj h)
      have hmem : c ∈ program.statements.flatMap Statement.conditions := by
        unfold faultyCondition? at hfaulty
        exact List.mem_of_find?_eq_some hfaulty
      obtain ⟨s, hs, hc⟩ := List.mem_flatMap.mp hmem
      exact ⟨s, hs, c, hc, hname, hpattern⟩

/-- **The pattern that compiling reports** comes from the document. -/
theorem compile_invalidPattern {source : Source} {properties : Properties} {sink : Sink} {name : String}
    {p : Pattern} (h : (compile source properties sink).1 = .error (.eval (.invalidPattern name p))) :
    ∃ program, source.program = .ok program ∧
      ∃ s ∈ program.statements, ∃ c ∈ s.conditions, c.name = name ∧ c.pattern = p := by
  unfold compile at h
  cases hprogram : source.program with
  | error e =>
    rw [hprogram] at h
    obtain rfl := Except.error.inj h
    -- what keeps a source from being a program is no matter of the evaluation
    cases Source.result_of_program hprogram
  | ok program =>
    refine ⟨program, rfl, ?_⟩
    simp only [hprogram] at h
    rcases hrun : program.evaluate properties ({ sink := sink } : Staged) with ⟨e | stats, stage⟩
    · rw [hrun] at h
      obtain rfl := RunError.eval.inj (Except.error.inj h)
      exact Program.evaluate_invalidPattern (congrArg Prod.fst hrun)
    · -- once the evaluation is over, only the sink can be at fault
      rw [hrun] at h
      simp only at h
      rcases hfinish : stage.finish with ⟨fault | ⟨⟩, finished⟩
      · rw [hfinish] at h
        cases h
      · rw [hfinish] at h
        cases h

/-- **A pattern is shown as it is written.** What is shown of a regular expression is read, in front of anything, as
that expression with nothing left of it, if and only if its text splits into units; and every body that is read does.
So a pattern that compiling any document reports is shown as a literal that is read as the same pattern. -/
theorem Pattern.describe_read_back :
    (∀ (s : String) (rest : List Char),
      (lexLiteral ((Pattern.regex s).describe.toList ++ rest)).map (fun taken => (taken.rest, taken.value)) =
          .ok (rest, .regex s) ↔
        RegexUnits s.toList) ∧
      (∀ (text lexeme rest : List Char) (body : String),
        lexLiteral text = .ok ⟨.regex body, lexeme, rest⟩ → RegexUnits body.toList) ∧
      ∀ (source : Source) (properties : Properties) (sink : Sink) (name : String) (p : Pattern),
        (compile source properties sink).1 = .error (.eval (.invalidPattern name p)) →
          p.ReadsBack ∧
            ∀ s, p = .regex s → ∀ rest,
              lexLiteral (p.describe.toList ++ rest) = .ok ⟨.regex s, p.describe.toList, rest⟩ := by
  refine ⟨lexLiteral_describe_iff, ?_, ?_⟩
  · intro text lexeme rest body h
    exact units_of_lexLiteral h
  · intro source properties sink name p h
    obtain ⟨program, hprogram, s, hs, c, hc, -, rfl⟩ := compile_invalidPattern h
    have hpattern : c.pattern.WellLexed := by
      cases Source.result_of_program hprogram with
      | program _ _ hparsed => exact Program.wellLexed_pattern hparsed hs hc
    refine ⟨readsBack_of_wellLexed hpattern, ?_⟩
    intro body hbody rest
    rw [hbody] at hpattern ⊢
    exact lexLiteral_describe hpattern rest

end RuleText

import RuleText.Proofs.Program.Printer
import RuleText.Proofs.Result

/-!
# Texts that are emitted as they are

Every text can be emitted: a statement without conditions whose block holds the text, escaped, gives that text
without the white space around it, whatever characters it is made of. A document of such statements gives the
texts in order, a line feed behind each.

Such a document is what a program prints (`Program.verbatim`), so it is read back as that program. That
nothing inside a text is taken for the end of its block, and that no backslash is lost, is the codec of
Proofs.Program.Printer. What is left to be seen is what the program does. It has no patterns, so none is
faulty; its statements fire, since there is nothing that they could be refused for; and the braces that are
taken off a block are the outer ones, whatever braces the text itself begins and ends with.

Main definitions:

- `Program.verbatim`: the program that emits some texts.

Main statements:

- `Program.compileText_print`: compiling what a sound program prints gives its output;
- `firing_eq_self`: statements without conditions fire;
- `compileText_verbatim`: from texts to a document and back.
-/

namespace RuleText

/-! ### Compiling what is printed -/

/-- **Compiling what a sound program prints** gives its output. -/
theorem Program.compileText_print {p : Program} (h : p.WellLexed) (hsound : p.Sound)
    (properties : Properties) :
    compileText (String.ofList p.print) properties = .ok (String.ofList (p.output properties)) := by
  have hread : ofText? (String.ofList p.print).toList = .ok p := by
    rw [String.toList_ofList]
    exact (ofText?_eq_ok_iff p.print p).mpr (yields_print h)
  exact (TextResult.output hread hsound).compileText

/-! ### Statements without conditions -/

section Unconditional

variable {statements : List Statement} (h : ∀ s ∈ statements, s.conditions = [])

include h

/-- Without conditions there is no pattern that could be faulty. -/
theorem faultyCondition?_eq_none : faultyCondition? statements = none := by
  unfold faultyCondition?
  rw [List.flatMap_eq_nil_iff.mpr h]
  rfl

/-- **Statements without conditions fire**, whatever names are bound. -/
theorem firing_eq_self (names : String → Option String) : firing names statements = statements := by
  rw [firing_eq_filter names (faultyCondition?_eq_none h), List.filter_eq_self]
  intro s hs
  apply decide_eq_true
  -- a statement is asked for the names among its conditions, and it has none
  intro name hname
  rw [h s hs] at hname
  cases hname

end Unconditional

/-! ### The program that emits some texts -/

/-- A statement that emits a text on no condition. -/
def Statement.verbatim (text : List Char) : Statement :=
  ⟨[], ⟨String.ofList ('{' :: (text ++ ['}']))⟩⟩

/-- The program that emits some texts. -/
def Program.verbatim (texts : List (List Char)) : Program :=
  ⟨texts.map fun text => .statement (.verbatim text)⟩

section Verbatim

variable (text : List Char) (texts : List (List Char))

theorem OutputBlock.inner_verbatim : inner (Statement.verbatim text).output.raw.toList = text := by
  show inner (String.ofList ('{' :: (text ++ ['}']))).toList = text
  rw [String.toList_ofList, inner_braces]

theorem Statement.print_verbatim :
    (verbatim text).print = ['(', ')', ' ', '{'] ++ escapeBlock text ++ ['}'] := by
  show '(' :: ')' :: ' ' :: (verbatim text).output.print = _
  rw [OutputBlock.print, OutputBlock.inner_verbatim]
  rfl

theorem Program.print_verbatim :
    (verbatim texts).print =
      texts.flatMap fun text => ['(', ')', ' ', '{'] ++ escapeBlock text ++ ['}', '\n'] := by
  unfold print verbatim
  rw [List.flatMap_map]
  refine congrArg texts.flatMap (funext fun text => ?_)
  show (Statement.verbatim text).print ++ ['\n'] = _
  rw [Statement.print_verbatim, List.append_assoc]
  rfl

theorem Program.wellLexed_verbatim : (verbatim texts).WellLexed := by
  intro i hi
  obtain ⟨text, -, rfl⟩ := List.mem_map.mp hi
  -- any text may stand between the braces of a block
  refine ⟨?_, text, rfl⟩
  intro c hc
  cases hc

theorem Program.statements_verbatim : (verbatim texts).statements = texts.map .verbatim := by
  unfold statements verbatim
  rw [List.filterMap_map]
  show texts.filterMap (fun text => some (Statement.verbatim text)) = _
  rw [List.filterMap_eq_map']

theorem Program.conditions_verbatim : ∀ s ∈ (verbatim texts).statements, s.conditions = [] := by
  rw [statements_verbatim]
  intro s hs
  obtain ⟨text, -, rfl⟩ := List.mem_map.mp hs
  rfl

/-- The program emits the texts, whatever the properties are. -/
theorem Program.output_verbatim (properties : Properties) :
    (verbatim texts).output properties = texts.flatMap fun text => trim text ++ ['\n'] := by
  unfold output
  rw [firing_eq_self (conditions_verbatim texts), statements_verbatim, List.flatMap_map]
  refine congrArg texts.flatMap (funext fun text => ?_)
  show (OutputBlock.text ⟨String.ofList ('{' :: (text ++ ['}']))⟩).toList ++ ['\n'] = _
  rw [OutputBlock.text_braces, String.toList_ofList]

end Verbatim

/-- **Every text can be emitted.** Of any texts a document can be made in which each stands escaped in the
block of a statement without conditions, a statement to a line. Compiling it gives the texts, each without
the white space at its ends and with a line feed behind it, whatever the properties are. -/
theorem compileText_verbatim (texts : List String) (properties : Properties) :
    compileText
        (String.ofList (texts.flatMap fun text =>
          ['(', ')', ' ', '{'] ++ escapeBlock text.toList ++ ['}', '\n'])) properties =
      .ok (String.ofList (texts.flatMap fun text => trim text.toList ++ ['\n'])) := by
  have hprint := Program.print_verbatim (texts.map String.toList)
  have houtput := Program.output_verbatim (texts.map String.toList) properties
  rw [List.flatMap_map] at hprint houtput
  have hsound : (Program.verbatim (texts.map String.toList)).Sound :=
    (Program.sound_iff _).mpr (faultyCondition?_eq_none (Program.conditions_verbatim _))
  rw [← hprint, ← houtput]
  exact Program.compileText_print (Program.wellLexed_verbatim _) hsound properties

/-- Braces, backslashes and what would open a comment are emitted as they are. -/
example : compileText "() \x7b \\\\\\\x7d // \x7b\x7b \x7d\n" {} = .ok "\\\x7d // \x7b\x7b\n" := by rfl

end RuleText

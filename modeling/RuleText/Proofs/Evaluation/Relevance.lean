import RuleText.Compile
import RuleText.Proofs.Evaluation.Agreement
import RuleText.Proofs.Text.Utf8

/-!
# What a run depends on

A run sees its properties through the bindings before the first statement, and of those only the texts. Two
tables of properties that show the same text under every name that such a binding mentions
(`Properties.Alike`) therefore bind the same names, although they may differ everywhere else and hold values
of different kinds. The bindings behind the first statement see nothing at all, so a program may lose any of
them.

Both are about the names that a program binds and the statements it has, since a run depends on nothing else
(`Program.evaluate_congr`). This holds for any output, also one that fails on the way, so two runs that are
compared stop at the same place.

Main statements:

- `Program.names_congr`: tables that are alike where a program looks bind the same names;
- `Thinned.statements_eq`, `boundNames_behind`: what is left of a program without some late bindings;
- `only_mentioned_properties_matter`: results of texts, and runs of programs.
-/

namespace RuleText

/-! ### Runs with the same names -/

/-- **A run depends on the names bound and on the statements.** -/
theorem Program.evaluate_congr {p q : Program} {properties others : Properties}
    (hnames : p.names properties = q.names others) (hstatements : p.statements = q.statements)
    {ω : Type} [Output ω] (out : ω) : p.evaluate properties out = q.evaluate others out := by
  rw [Program.evaluate_eq, Program.evaluate_eq, hnames, hstatements]

/-! ### Properties that are alike -/

/-- The properties that bindings before the first statement mention. -/
def mentioned : List Item → List String
  | .binding b :: others => b.property :: mentioned others
  | _ => []

/-- Two tables show the same under a name: the same text, or nothing. -/
def Properties.Alike (properties others : Properties) (name : String) : Prop :=
  (properties.get? name).map Value.text = (others.get? name).map Value.text

instance (properties others : Properties) (name : String) : Decidable (properties.Alike others name) :=
  inferInstanceAs (Decidable ((properties.get? name).map Value.text = (others.get? name).map Value.text))

section Alike

variable {properties others : Properties}

theorem Binding.bind_congr {b : Binding} (h : properties.Alike others b.property)
    (names : String → Option String) : b.bind properties names = b.bind others names := by
  unfold Properties.Alike at h
  unfold Binding.bind
  cases hfound : properties.get? b.property with
  | none =>
    -- a property that is missing in one table is missing in the other
    rw [hfound, Option.map_none, eq_comm, Option.map_eq_none_iff] at h
    rw [h]
  | some value =>
    rw [hfound, Option.map_some, eq_comm, Option.map_eq_some_iff] at h
    obtain ⟨other, hother, htext⟩ := h
    -- the values may be of different kinds, but the name gets the text
    simp only [hother, htext]

theorem boundNames_congr {items : List Item} (h : ∀ name ∈ mentioned items, properties.Alike others name)
    (names : String → Option String) :
    boundNames properties names items = boundNames others names items := by
  induction items generalizing names with
  | nil => rfl
  | cons item rest ih =>
    cases item with
    | statement s => rfl
    | binding b =>
      have hfirst : properties.Alike others b.property := h b.property List.mem_cons_self
      have hrest : ∀ name ∈ mentioned rest, properties.Alike others name :=
        fun name hname => h name (List.mem_cons_of_mem b.property hname)
      rw [boundNames, boundNames, Binding.bind_congr hfirst]
      exact ih hrest _

/-- **Tables that are alike where a program looks bind the same names.** -/
theorem Program.names_congr {p : Program} (h : ∀ name ∈ mentioned p.items, properties.Alike others name) :
    p.names properties = p.names others :=
  boundNames_congr h _

/-- The source of a text is the text again. -/
theorem Source.program_ofText (text : List Char) :
    ({ bytes := encodeUtf8 text } : Source).program =
      match Program.ofText? text with
      | .error e => .error (.ofRead e)
      | .ok p => .ok p := by
  cases hread : Program.ofText? text with
  | error e => simp only [Source.program, decodeUtf8_encode, hread]
  | ok p => simp only [Source.program, decodeUtf8_encode, hread]

/-- A document that is no program is refused before its properties are looked at. -/
theorem compile_congr {text : List Char}
    (h : ∀ p, Program.ofText? text = .ok p → ∀ name ∈ mentioned p.items, properties.Alike others name)
    (sink : Sink) :
    compile { bytes := encodeUtf8 text } properties sink =
      compile { bytes := encodeUtf8 text } others sink := by
  unfold compile
  rw [Source.program_ofText]
  cases hread : Program.ofText? text with
  | error e => rfl
  | ok p =>
    have hrun := Program.evaluate_congr (Program.names_congr (h p hread)) rfl ({ sink := sink } : Staged)
    simp only [hrun]

end Alike

/-! ### Bindings behind the first statement -/

/-- Some items, and what is left of them without some of the bindings. -/
inductive Thinned : List Item → List Item → Prop where
  | nil : Thinned [] []
  | keep (item : Item) {items left : List Item} : Thinned items left → Thinned (item :: items) (item :: left)
  | drop (b : Binding) {items left : List Item} : Thinned items left → Thinned (.binding b :: items) left

/-- Only bindings are gone. -/
theorem Thinned.statements_eq {items left : List Item} (h : Thinned items left) :
    Program.statements ⟨left⟩ = Program.statements ⟨items⟩ := by
  unfold Program.statements
  induction h with
  | nil => rfl
  | keep item _ ih => rw [List.filterMap_cons, List.filterMap_cons, ih]
  | drop b _ ih => rw [ih, List.filterMap_cons]

/-- What stands behind a statement binds no name. -/
theorem boundNames_behind (properties : Properties) (names : String → Option String)
    (before : List Item) (s : Statement) (behind : List Item) :
    boundNames properties names (before ++ .statement s :: behind) =
      boundNames properties names before := by
  induction before generalizing names with
  | nil => rfl
  | cons item rest ih =>
    cases item with
    | statement other => rfl
    | binding b =>
      -- the names are carried along, as the statement may stand behind any bindings
      exact ih (b.bind properties names)

/-- A program without some of the bindings behind a statement runs as before. -/
theorem Thinned.evaluate_eq {behind left : List Item} (h : Thinned behind left) (before : List Item)
    (s : Statement) (properties : Properties) {ω : Type} [Output ω] (out : ω) :
    Program.evaluate ⟨before ++ .statement s :: left⟩ properties out =
      Program.evaluate ⟨before ++ .statement s :: behind⟩ properties out := by
  refine Program.evaluate_congr ?_ ?_ out
  · unfold Program.names
    rw [boundNames_behind, boundNames_behind]
  · have hbehind := h.statements_eq
    unfold Program.statements at hbehind ⊢
    rw [List.filterMap_append, List.filterMap_append, List.filterMap_cons, List.filterMap_cons, hbehind]

/-- **Only the properties that are mentioned matter.** Two tables of properties that are alike under every
name mentioned before the first statement of a text give the same result for it, the same output or the same
error. And no binding behind a statement matters: without any of them a program gives the same counts or the
same error, and the same output. -/
theorem only_mentioned_properties_matter :
    (∀ (text : String) (properties others : Properties),
      (∀ p, Program.ofText? text.toList = .ok p →
        ∀ name ∈ mentioned p.items, properties.Alike others name) →
      compileText text properties = compileText text others) ∧
    ∀ (before : List Item) (s : Statement) (behind left : List Item), Thinned behind left →
      ∀ (properties : Properties) (ω : Type) [Output ω] (out : ω),
        Program.evaluate ⟨before ++ .statement s :: left⟩ properties out =
          Program.evaluate ⟨before ++ .statement s :: behind⟩ properties out := by
  refine ⟨?_, ?_⟩
  · intro text properties others halike
    unfold compileText
    rw [compile_congr halike]
  · intro before s behind left hthinned properties ω _ out
    exact hthinned.evaluate_eq before s properties out

/-- The number 8 and the text `8` are alike, and a property that only a late binding mentions may be missing.
The program is the same without that binding. -/
theorem only_mentioned_properties_matter_late :
    let early : Item := .binding ⟨"v", "width"⟩
    let guarded : Statement := ⟨[⟨"v", .literal "8"⟩], ⟨"\x7beight\x7d"⟩⟩
    let late : Binding := ⟨"u", "unit"⟩
    let properties : Properties := ⟨[("width", .integer 8), ("unit", .string "mm")]⟩
    let others : Properties := ⟨[("width", .string "8")]⟩
    Program.ofText? "bind v=width (v=8)\x7beight\x7d bind u=unit".toList =
        .ok ⟨[early, .statement guarded, .binding late]⟩ ∧
      properties.Alike others "width" ∧ ¬ properties.Alike others "unit" ∧
      compileText "bind v=width (v=8)\x7beight\x7d bind u=unit" properties =
        compileText "bind v=width (v=8)\x7beight\x7d bind u=unit" others ∧
      Thinned [.binding late] [] ∧
      Program.evaluate ⟨[early, .statement guarded]⟩ properties ({} : Sink) =
        Program.evaluate ⟨[early, .statement guarded, .binding late]⟩ properties {} := by
  intro early guarded late properties others
  have hread : Program.ofText? "bind v=width (v=8)\x7beight\x7d bind u=unit".toList =
      .ok ⟨[early, .statement guarded, .binding late]⟩ := by
    rfl
  -- the two maps agree in what is written for the first name, and not in the other one
  have hwidth : properties.Alike others "width" := by
    decide
  have hunit : ¬ properties.Alike others "unit" := by
    decide
  have hthinned : Thinned [.binding late] [] := .drop late .nil
  refine ⟨hread, hwidth, hunit, ?_, hthinned, ?_⟩
  · refine only_mentioned_properties_matter.1 _ properties others fun p hp name hname => ?_
    obtain rfl := Except.ok.inj (hread.symm.trans hp)
    -- the binding behind the statement is not among those that are looked at
    obtain rfl : name = "width" := List.mem_singleton.mp hname
    exact hwidth
  · -- and the binding can be left out altogether
    exact only_mentioned_properties_matter.2 [early] guarded [.binding late] [] hthinned
      properties Sink {}

end RuleText

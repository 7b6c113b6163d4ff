import RuleText.Proofs.Evaluation.History
import RuleText.Proofs.Regex.Breakout

/-!
# A context is its history

The fields of a context are what the history of its calls says (`Determined`). A fresh context has no
history, and one call of any kind preserves this, whether or not it fails, so it holds after any calls. Then
what the context answers to the next call can be read off the history, too.

The step has two parts. A call that neither binds a name nor completes a statement changes the pattern, the
text and the conditions in the way its event says, and nothing else (`Determined.concat`). The other calls
are declarations, which depend on whether the properties are still there, and completions, after which
hardly anything is left. A completion whose line cannot be written is of the first kind: it only loses the
text, and the statement stays under way.

The table of conditions holds compiled expressions, while a history tells of patterns. `Conditions` relates
them name by name; with it the check over the entries of the table becomes one over the names that
conditions have been collected on (`Determined.conditionsHold_iff`).

Main definitions:

- `Determined`: the fields of a context are what its history says;
- `writeLine`: what becomes of the line of a statement that fires;
- `Condition.MatchesWhole`: a pattern, read by itself, matches a value as a whole.

Main statements:

- `Determined.perform`, `run_determined`: one call, and a run;
- `Determined.conditionsHold_iff`: when the statement under way is to fire;
- `run_answers`: what a context answers after any calls.
-/

namespace RuleText

/-- The pattern of a condition, read by itself, matches a value from its beginning to its end. -/
def Condition.MatchesWhole (c : Condition) (value : String) : Prop :=
  ∃ alone ∈ CharRegex.read? c.pattern.source.toList, alone.Matches value.toList 0 value.toList.length

/-- A condition whose pattern does not break out of its anchors holds of the values that it matches as a
whole. -/
theorem Condition.holdsOf_iff_matchesWhole {c : Condition} (hinside : c.pattern.breaksOut = false)
    (hcompiles : ∃ regex, c.pattern.compile? = some regex) (value : String) :
    c.HoldsOf value ↔ c.MatchesWhole value := by
  obtain ⟨whole, hwhole⟩ := hcompiles
  obtain ⟨alone, halone⟩ := Pattern.exists_alone_of_compiles hinside hwhole
  have hanchors : whole.FoundIn value.toList ↔ alone.Matches value.toList 0 value.toList.length := by
    rw [CharRegex.ofText?_anchored halone hwhole]
    exact CharRegex.foundIn_anchors_iff alone value.toList
  rw [HoldsOf, MatchesWhole, hwhole, halone]
  simpa using hanchors

namespace History

/-! ### One call -/

/-- The fields of a context are what its history says. -/
structure Determined (properties : Properties) (history : List Event) (c : Context) : Prop where
  bindings (name : String) : c.bindings.get? name = bound properties history name
  properties : c.properties = if history.any Event.closes then {} else properties
  pending : c.pending = held history
  output : c.output = latest Event.text? (since Event.completes history)
  conditions : Conditions history c.conditions
  stats : c.stats = ⟨history.countP Event.closes, history.countP Event.fires⟩

namespace Determined

variable {properties : Properties} {history : List Event} {c : Context}

theorem initial : Determined properties [] { properties := properties } where
  bindings _ := rfl
  properties := rfl
  pending := rfl
  output := rfl
  conditions := .nil
  stats := rfl

/-- Until a statement is completed, the properties and the counts stay. -/
theorem open_concat (h : Determined properties history c) {e : Event} (he : e.closes = false) :
    (c.properties = if (history ++ [e]).any Event.closes then {} else properties) ∧
      c.stats = ⟨(history ++ [e]).countP Event.closes, (history ++ [e]).countP Event.fires⟩ := by
  have hfires : e.fires = false := Event.fires_of_not_closes he
  rw [List.any_append, List.countP_append, List.countP_append, h.properties, h.stats]
  simp [he, hfires]

/-- A call that neither binds a name nor completes a statement. What it does to the pattern and to the text
is what the event says. -/
theorem concat (h : Determined properties history c) {e : Event} {c' : Context} (he : e.closes = false)
    (hvalue : ∀ name, e.value? properties name = none)
    (hframe : c'.bindings = c.bindings ∧ c'.properties = c.properties ∧ c'.stats = c.stats)
    (hpending : c'.pending = if e.drops then none else e.pattern?.or c.pending)
    (houtput : c'.output = if e.completes then none else e.text?.or c.output)
    (hconditions : Conditions (history ++ [e]) c'.conditions) :
    Determined properties (history ++ [e]) c' := by
  obtain ⟨hbindings, hproperties, hstats⟩ := hframe
  obtain ⟨hproperties', hstats'⟩ := h.open_concat he
  refine ⟨fun name => ?_, hproperties.trans hproperties', ?_, ?_, hconditions, hstats.trans hstats'⟩
  · rw [hbindings, bound_concat_of_none properties history name (hvalue name)]
    exact h.bindings name
  · rw [hpending, held_concat, h.pending]
  · rw [houtput, latest_text_concat, h.output]

theorem setPattern (h : Determined properties history c) (p : Pattern) :
    Determined properties (history ++ [.setPattern p]) (c.setPattern p) :=
  h.concat rfl (fun _ => rfl) ⟨rfl, rfl, rfl⟩ rfl rfl (h.conditions.quiet rfl nofun)

theorem capture (h : Determined properties history c) (block : OutputBlock) :
    Determined properties (history ++ [.capture block]) (c.capture block) :=
  h.concat rfl (fun _ => rfl) ⟨rfl, rfl, rfl⟩ rfl rfl (h.conditions.quiet rfl nofun)

/-- A condition that fails to be collected only drops the pattern. -/
theorem collect_failed (h : Determined properties history c) (name : String) (e : EvalError) :
    Determined properties (history ++ [.collect name (.error e)]) { c with pending := none } :=
  h.concat rfl (fun _ => rfl) ⟨rfl, rfl, rfl⟩ rfl rfl (h.conditions.quiet rfl nofun)

theorem collect_done (h : Determined properties history c) {name : String} {p : Pattern}
    {regex : CharRegex} (hpending : c.pending = some p) (hregex : p.compile? = some regex) :
    Determined properties (history ++ [.collect name (.ok ())]) (c.withCondition name regex) := by
  have hheld : held history = some p := h.pending.symm.trans hpending
  exact h.concat rfl (fun _ => rfl) ⟨rfl, rfl, rfl⟩ rfl rfl (h.conditions.collect hheld hregex)

/-- When a line cannot be written, only its text is gone. -/
theorem complete_failed (h : Determined properties history c) (e : EvalError) :
    Determined properties (history ++ [.complete (.error e)]) { c with output := none } :=
  h.concat rfl (fun _ => rfl) ⟨rfl, rfl, rfl⟩ rfl rfl (h.conditions.quiet rfl nofun)

/-- A declaration binds a name to what the properties say, as long as they are there. -/
theorem declare (h : Determined properties history c) (b : Binding) :
    Determined properties (history ++ [.declare b]) (c.declare b) := by
  have hquiet := h.conditions.quiet (e := .declare b) rfl nofun
  obtain ⟨hproperties, hstats⟩ := h.open_concat (e := .declare b) rfl
  obtain ⟨hproperties', hconditions', hstats'⟩ := c.declare_frame b
  have hrest : (c.declare b).pending = c.pending ∧ (c.declare b).output = c.output := by
    unfold Context.declare
    split <;> exact ⟨rfl, rfl⟩
  refine ⟨fun name => ?_, hproperties'.trans hproperties, ?_, ?_, ?_, hstats'.trans hstats⟩
  · rw [c.bindings_declare b, Binding.bind, h.properties, bound_concat]
    cases hany : history.any Event.closes with
    | true =>
      -- the properties are gone, so nothing is bound
      simpa using h.bindings name
    | false =>
      cases hvalue : properties.get? b.property with
      | none => simpa [Event.value?, Event.closes, hvalue] using h.bindings name
      | some value =>
        by_cases hname : b.name = name
        · simp [Event.value?, Event.closes, hvalue, hname]
        · simpa [Event.value?, Event.closes, hvalue, hname, Ne.symm hname] using h.bindings name
  · rw [held_concat, hrest.1]
    exact h.pending
  · rw [latest_text_concat, hrest.2]
    exact h.output
  · rw [hconditions']
    exact hquiet

/-- A completed statement leaves nothing but the names and the counts. -/
theorem complete_done (h : Determined properties history c) (fired : Bool) :
    Determined properties (history ++ [.complete (.ok fired)]) (c.afterStatement fired) := by
  refine ⟨fun name => ?_, ?_, ?_, ?_, .closed rfl, ?_⟩
  · rw [bound_concat_of_none _ _ _ rfl]
    exact h.bindings name
  · simp [Context.afterStatement, Event.closes]
  · rw [held_concat]
    rfl
  · rw [latest_text_concat]
    rfl
  · rw [List.countP_append, List.countP_append]
    change (⟨c.stats.statements + 1, c.stats.fired + fired.toNat⟩ : Stats) = _
    rw [h.stats]
    cases fired <;> rfl

/-- **The check of the conditions** is whether the statement under way fires. -/
theorem conditionsHold_iff (h : Determined properties history c) :
    c.conditionsHold = true ↔ Fires properties history Condition.HoldsOf := by
  rw [Context.conditionsHold, List.all_eq_true]
  refine ⟨fun hall name hname => ?_, fun hfires entry hentry => ?_⟩
  · -- a name with a condition has an entry, which stands for the last condition on it
    obtain ⟨p, hlast⟩ := h.conditions.collected name hname
    obtain ⟨regex, hregex⟩ := h.conditions.compiles name p hlast
    have hget := (h.conditions.get?_iff name regex).mpr ⟨p, hlast, hregex⟩
    have hentry := (Table.mem_entries_iff h.conditions.distinct name regex).mpr hget
    obtain ⟨value, hvalue, hfound⟩ := (Option.any_eq_true _ _).mp (hall _ hentry)
    rw [h.bindings] at hvalue
    have hholds := (CharRegex.foundIn_eq_true_iff regex value.toList).mp hfound
    exact ⟨p, hlast, value, hvalue, regex, hregex, hholds⟩
  · -- and every entry stands for the last condition on its name
    obtain ⟨name, regex⟩ := entry
    have hget := (Table.mem_entries_iff h.conditions.distinct name regex).mp hentry
    obtain ⟨p, hlast, -⟩ := (h.conditions.get?_iff name regex).mp hget
    obtain ⟨p', hlast', value, hvalue, regex', hregex', hholds⟩ := hfires name hlast.mem
    have hget' := (h.conditions.get?_iff name regex').mpr ⟨p', hlast', hregex'⟩
    obtain rfl := Option.some.inj (hget.symm.trans hget')
    rw [← h.bindings] at hvalue
    have hfound := (CharRegex.foundIn_eq_true_iff regex value.toList).mpr hholds
    exact (Option.any_eq_true _ _).mpr ⟨value, hvalue, hfound⟩

end Determined

/-! ### What collecting and completing do -/

theorem collect_of_missing {c : Context} (h : c.pending = none) (name : String) :
    c.collect name = (.error (.missingPattern name), { c with pending := none }) := by
  obtain ⟨properties, bindings, conditions, pending, output, stats⟩ := c
  obtain rfl : pending = none := h
  rfl

theorem setPattern_of_pending {c : Context} {p : Pattern} (h : c.pending = some p) :
    c.setPattern p = c := by
  obtain ⟨properties, bindings, conditions, pending, output, stats⟩ := c
  obtain rfl : pending = some p := h
  rfl

/-- A context that holds a pattern, asked to collect a condition. -/
theorem collect_of_pending {c : Context} {p : Pattern} (h : c.pending = some p) (name : String) :
    c.collect name =
      match p.compile? with
      | some regex => (.ok (), c.withCondition name regex)
      | none => (.error (.invalidPattern name p), { c with pending := none }) := by
  rw [← setPattern_of_pending h]
  cases hregex : p.compile? with
  | some regex => exact c.collect_of_compiles hregex name
  | none => exact c.collect_of_refused hregex name

section Line

variable {ω : Type} [Output ω]

/-- Writes a text and then a line feed. -/
def writeLine (text : String) (out : ω) : Except WriteFault Unit × ω :=
  match Output.writeAll out (encodeUtf8 text.toList) with
  | (.error fault, out) => (.error fault, out)
  | (.ok (), out) => Output.writeAll out (encodeUtf8 ['\n'])

/-- What completing a statement that fires answers, by what became of its line. -/
def firedAnswer : Except WriteFault Unit → Except EvalError Bool
  | .ok () => .ok true
  | .error fault => .error (.write fault)

theorem complete_of_not_hold {c : Context} (h : c.conditionsHold = false) (out : ω) :
    c.complete out = (.ok false, c.afterStatement false, out) := by
  rw [Context.complete, h]
  rfl

theorem complete_of_hold {c : Context} (h : c.conditionsHold = true) (out : ω) :
    c.complete out =
      (firedAnswer (writeLine (c.output.getD "") out).1,
        match (writeLine (c.output.getD "") out).1 with
        | .ok () => c.afterStatement true
        | .error _ => { c with output := none },
        (writeLine (c.output.getD "") out).2) := by
  unfold Context.complete writeLine
  rw [h, if_pos rfl]
  -- the line fails as soon as one of its parts does
  dsimp only
  rcases Output.writeAll out (encodeUtf8 (c.output.getD "").toList) with ⟨fault | ⟨⟩, out'⟩
  · rfl
  · dsimp only
    rcases Output.writeAll out' (encodeUtf8 ['\n']) with ⟨fault | ⟨⟩, out''⟩ <;> rfl

end Line

/-! ### Runs -/

/-- **One call** keeps the fields of a context what its history says. -/
theorem Determined.perform {properties : Properties} {history : List Event} {c : Context}
    (h : Determined properties history c) (call : Call) :
    Determined properties (history ++ [(perform c call).1]) (perform c call).2 := by
  unfold History.perform
  cases call with
  | declare b => exact h.declare b
  | setPattern p => exact h.setPattern p
  | capture block => exact h.capture block
  | collect name =>
    cases hpending : c.pending with
    | none =>
      simp only [collect_of_missing hpending]
      exact h.collect_failed name _
    | some p =>
      simp only [collect_of_pending hpending]
      cases hregex : p.compile? with
      | none => exact h.collect_failed name _
      | some regex => exact h.collect_done hpending hregex
  | complete ω out =>
    cases hholds : c.conditionsHold with
    | false =>
      simp only [complete_of_not_hold hholds]
      exact h.complete_done false
    | true =>
      simp only [complete_of_hold hholds]
      rcases (writeLine (c.output.getD "") out).1 with fault | ⟨⟩
      · exact h.complete_failed _
      · exact h.complete_done true

/-- **A run** does. -/
theorem run_determined (properties : Properties) (calls : List Call) :
    Determined properties (run properties calls).1 (run properties calls).2 := by
  -- the induction goes on behind the first call, so the run has to start anywhere
  have hfold : ∀ state : List Event × Context, Determined properties state.1 state.2 →
      Determined properties (calls.foldl extend state).1 (calls.foldl extend state).2 := by
    induction calls with
    | nil => exact fun state h => h
    | cons call others ih => exact fun state h => ih (extend state call) (h.perform call)
  exact hfold ([], { properties := properties }) .initial

/-! ### What a context answers -/

section Answers

variable {properties : Properties} {history : List Event} {c : Context}

theorem held_eq_none_iff (history : List Event) :
    held history = none ↔ ∀ p, .setPattern p ∉ since Event.drops history := by
  rw [held, latest_eq_none_iff]
  refine ⟨fun hnone p hmem => ?_, fun hnone e hmem => ?_⟩
  · cases hnone _ hmem
  · cases e with
    | setPattern p => exact absurd hmem (hnone p)
    | _ => rfl

theorem Determined.collect_eq (h : Determined properties history c) (name : String) :
    (c.collect name).1 = collectAnswer history name ∧
      ∀ e, (c.collect name).1 = .error e → (c.collect name).2.conditions = c.conditions := by
  rw [collectAnswer, ← h.pending]
  cases hpending : c.pending with
  | none =>
    rw [collect_of_missing hpending]
    exact ⟨rfl, fun _ _ => rfl⟩
  | some p =>
    rw [collect_of_pending hpending]
    dsimp only
    cases p.compile? with
    | none => exact ⟨rfl, fun _ _ => rfl⟩
    | some regex => exact ⟨rfl, nofun⟩

theorem collectAnswer_eq_missing_iff (history : List Event) (name : String) :
    collectAnswer history name = .error (.missingPattern name) ↔ held history = none := by
  rw [collectAnswer]
  cases held history with
  | none => simp
  | some p =>
    dsimp only
    cases p.compile? with
    | none => simp
    | some regex => simp

/-- The pattern of the last condition on a name has been set. -/
theorem LastCollected.set {history : List Event} {name : String} {p : Pattern}
    (h : LastCollected history name p) : .setPattern p ∈ history := by
  obtain ⟨earlier, later, rfl, hheld, -⟩ := h
  obtain ⟨e, he, hpattern⟩ := List.mem_filterMap.mp (List.mem_of_getLast? hheld)
  have hearlier : e ∈ earlier := (List.rtakeWhile_suffix _ _).subset he
  cases e with
  | setPattern q =>
    obtain rfl : q = p := Option.some.inj hpattern
    exact List.mem_append_left _ hearlier
  | _ => cases hpattern

/-- As long as no pattern breaks out of its anchors, firing is a matter of whole values. -/
theorem Determined.fires_iff (h : Determined properties history c)
    (hinside : ∀ p, .setPattern p ∈ history → p.breaksOut = false) :
    Fires properties history Condition.HoldsOf ↔ Fires properties history Condition.MatchesWhole := by
  refine forall₂_congr fun name _ => exists_congr fun p => and_congr_right fun hlast => ?_
  refine exists_congr fun value => and_congr_right fun _ => ?_
  exact Condition.holdsOf_iff_matchesWhole (c := ⟨name, p⟩) (hinside p hlast.set)
    (h.conditions.compiles name p hlast) value

theorem Determined.complete_eq (h : Determined properties history c) {ω : Type} [Output ω] (out : ω) :
    (Fires properties history Condition.HoldsOf →
      (c.complete out).1 = firedAnswer (writeLine (captured history) out).1 ∧
        (c.complete out).2.2 = (writeLine (captured history) out).2) ∧
    (¬ Fires properties history Condition.HoldsOf →
      (c.complete out).1 = .ok false ∧ (c.complete out).2.2 = out) := by
  rw [← h.conditionsHold_iff, captured, ← h.output]
  refine ⟨fun hholds => ?_, fun hholds => ?_⟩
  · rw [complete_of_hold hholds]
    exact ⟨rfl, rfl⟩
  · rw [complete_of_not_hold (Bool.eq_false_iff.mpr hholds)]
    exact ⟨rfl, rfl⟩

end Answers

/-- **A context is its history.** After any calls on a fresh context, in any order, failed ones included,
and with any output for each completion:

- a name is bound to the text of the last declaration of it, of a property that is there, before the first
  statement was completed;
- collecting a condition finds no pattern exactly when none has been set since the last condition, collected
  or not, and the last statement completed; and if it fails, for either reason, the conditions stay;
- a statement is to fire exactly when for every name among the conditions since the last statement completed,
  the last of them holds of what the name is bound to, or, with patterns that keep inside their anchors, when
  it matches that as a whole;
- then the text captured last is written, unless a statement was completed or failed to be since, and
  otherwise nothing;
- the properties are there until the first statement is completed, and the counts count. -/
theorem run_answers (properties : Properties) (calls : List Call) :
    let history := (run properties calls).1
    let c := (run properties calls).2
    (∀ name, c.bindings.get? name = bound properties history name) ∧
    (∀ name, (c.collect name).1 = collectAnswer history name ∧
      ((c.collect name).1 = .error (.missingPattern name) ↔
        ∀ p, .setPattern p ∉ since Event.drops history) ∧
      ∀ e, (c.collect name).1 = .error e → (c.collect name).2.conditions = c.conditions) ∧
    (c.conditionsHold = true ↔ Fires properties history Condition.HoldsOf) ∧
    ((∀ p, .setPattern p ∈ history → p.breaksOut = false) →
      (c.conditionsHold = true ↔ Fires properties history Condition.MatchesWhole)) ∧
    (∀ (ω : Type) [Output ω] (out : ω),
      (Fires properties history Condition.HoldsOf →
        (c.complete out).1 = firedAnswer (writeLine (captured history) out).1 ∧
          (c.complete out).2.2 = (writeLine (captured history) out).2) ∧
      (¬ Fires properties history Condition.HoldsOf →
        (c.complete out).1 = .ok false ∧ (c.complete out).2.2 = out)) ∧
    c.properties = (if history.any Event.closes then {} else properties) ∧
    c.stats = ⟨history.countP Event.closes, history.countP Event.fires⟩ := by
  intro history c
  have h : Determined properties history c := run_determined properties calls
  refine ⟨h.bindings, fun name => ?_, h.conditionsHold_iff, fun hinside => ?_, ?_, h.properties, h.stats⟩
  · obtain ⟨hanswer, hfailed⟩ := h.collect_eq name
    refine ⟨hanswer, ?_, hfailed⟩
    rw [hanswer, collectAnswer_eq_missing_iff, held_eq_none_iff]
  · exact h.conditionsHold_iff.trans (h.fires_iff hinside)
  · intro ω _ out
    exact h.complete_eq out

end History

end RuleText

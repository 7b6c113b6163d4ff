import RuleText.Proofs.Evaluation.Meaning
import RuleText.Proofs.Table

/-!
# Runs do what programs mean

A run goes through the items with a context, and the meaning of a program does without one. They are
compared statement by statement. Between two items a context holds no condition (`Context.Resting`), and
its bindings are the names bound so far; what it holds in its other fields is overwritten before it is
read. Collecting the conditions of a statement makes a table in which every name stands for the last
condition on it, so the check at its end is whether the statement fires, and afterwards the context rests
again, without properties.

The comparison is made for any output. A run writes the lines of the firing statements, each in two parts,
as long as the output takes them, and only then comes to its verdict; what an output does when it is full
is for the modules about sinks.

Main statements:

- `collectAll_of_sound`, `collectAll_of_faulty`: collecting the conditions of a statement;
- `Context.conditionsHold_iff`: the check at the end of a statement;
- `evaluateItems_eq`, `Program.evaluate_eq`: a run writes the lines of the firing statements;
- `Program.evaluate_unlimited`: what a sink without a limit holds in the end.
-/

namespace RuleText

/-! ### Writing lines -/

section Emit

variable {ω : Type} [Output ω]

/-- Writes the line of a statement, the text first and then the line feed. -/
def Statement.emit (s : Statement) (out : ω) : Except WriteFault Unit × ω :=
  match Output.writeAll out (encodeUtf8 s.output.text.toList) with
  | (.error fault, out) => (.error fault, out)
  | (.ok (), out) => Output.writeAll out (encodeUtf8 ['\n'])

/-- Writes the lines of statements, up to the first that cannot be written. -/
def emitAll (out : ω) : List Statement → Except WriteFault Unit × ω
  | [] => (.ok (), out)
  | s :: others =>
    match s.emit out with
    | (.error fault, out) => (.error fault, out)
    | (.ok (), out) => emitAll out others

end Emit

/-! ### Collecting conditions -/

/-- What collecting conditions changes in a context, apart from the pattern it holds. -/
structure Collected (c : Context) (conditions : List Condition) (c' : Context) : Prop where
  properties : c'.properties = c.properties
  bindings : c'.bindings = c.bindings
  stats : c'.stats = c.stats
  distinct : c'.conditions.Distinct
  get? (name : String) :
    c'.conditions.get? name =
      ((lastOn? conditions name).bind fun last => last.pattern.compile?).or (c.conditions.get? name)

/-- The context in which a condition has been collected. -/
def Context.withCondition (c : Context) (name : String) (regex : CharRegex) : Context :=
  { c with pending := none, conditions := c.conditions.insert name regex }

theorem Context.collect_of_compiles {p : Pattern} {regex : CharRegex} (h : p.compile? = some regex)
    (c : Context) (name : String) :
    (c.setPattern p).collect name = (.ok (), c.withCondition name regex) := by
  rw [setPattern, collect]
  simp only [h]
  rfl

theorem Context.collect_of_refused {p : Pattern} (h : p.compile? = none) (c : Context)
    (name : String) :
    (c.setPattern p).collect name = (.error (.invalidPattern name p), { c with pending := none }) := by
  rw [setPattern, collect]
  simp only [h]

/-- The check of the only condition there is. -/
theorem Context.conditionsHold_only {context : Context} {name value : String} (regex : CharRegex)
    (hempty : context.conditions = {}) (hbound : context.bindings.get? name = some value) :
    (context.withCondition name regex).conditionsHold = regex.foundIn value.toList := by
  have hentries : (context.withCondition name regex).conditions.entries = [(name, regex)] := by
    rw [withCondition, hempty]
    rfl
  rw [conditionsHold, hentries, List.all_cons, List.all_nil, Bool.and_true]
  change Option.any _ (context.bindings.get? name) = _
  rw [hbound, Option.any_some]

/-- If the conditions hold, the one collected last does. -/
theorem Context.foundIn_of_conditionsHold {context : Context} {name : String} {regex : CharRegex}
    (h : (context.withCondition name regex).conditionsHold = true) :
    ∃ value ∈ context.bindings.get? name, regex.foundIn value.toList = true := by
  have hentry : (name, regex) ∈ (context.withCondition name regex).conditions.entries :=
    context.conditions.mem_entries_insert name regex
  rw [conditionsHold] at h
  exact (Option.any_eq_true _ _).mp (List.all_eq_true.mp h _ hentry)

private theorem collectAll_cons_of_compiles {c : Context} {condition : Condition} {regex : CharRegex}
    (others : List Condition) (h : condition.pattern.compile? = some regex) :
    collectAll c (condition :: others) =
      collectAll (c.withCondition condition.name regex) others := by
  rw [collectAll, c.collect_of_compiles h]

/-- **Sound conditions are all collected.** A name then stands for the last condition on it. -/
theorem collectAll_of_sound {c : Context} {conditions : List Condition}
    (hdistinct : c.conditions.Distinct) (h : conditions.find? Condition.faulty = none) :
    ∃ c', collectAll c conditions = (.ok (), c') ∧ Collected c conditions c' := by
  induction conditions generalizing c with
  | nil => exact ⟨c, rfl, rfl, rfl, rfl, hdistinct, fun name => rfl⟩
  | cons condition others ih =>
    rw [List.find?_cons] at h
    cases hfaulty : condition.faulty with
    | true => simp [hfaulty] at h
    | false =>
      rw [hfaulty] at h
      obtain ⟨regex, hregex⟩ := condition.faulty_eq_false_iff.mp hfaulty
      have hinsert : (c.withCondition condition.name regex).conditions.Distinct :=
        hdistinct.insert condition.name regex
      -- the condition goes into the table first, and the others are collected from there
      obtain ⟨c', hcollect, hcollected⟩ := ih hinsert h
      refine ⟨c', ?_, hcollected.properties, hcollected.bindings, hcollected.stats,
        hcollected.distinct, ?_⟩
      · rw [collectAll_cons_of_compiles others hregex]
        exact hcollect
      · intro name
        rw [hcollected.get?, lastOn?_cons]
        rw [Context.withCondition, Table.get?_insert]
        cases hlast : lastOn? others name with
        | none =>
          -- no later condition on the name, so this one counts if it is on the name
          by_cases hname : condition.name = name
          · simp [hname, hregex]
          · simp [hname, Ne.symm hname]
        | some last =>
          -- a later condition on the name takes its place, and that one is sound too
          have hmem := (lastOn?_eq_some hlast).1
          have hsound : last.faulty = false := by
            simpa using List.find?_eq_none.mp h last hmem
          obtain ⟨later, hlater⟩ := last.faulty_eq_false_iff.mp hsound
          simp [hlater]

/-- **A faulty condition stops the run.** -/
theorem collectAll_of_faulty {c : Context} {conditions : List Condition} {bad : Condition}
    (h : conditions.find? Condition.faulty = some bad) :
    (collectAll c conditions).1 = .error (.invalidPattern bad.name bad.pattern) := by
  induction conditions generalizing c with
  | nil => simp at h
  | cons condition others ih =>
    rw [List.find?_cons] at h
    cases hfaulty : condition.faulty with
    | true =>
      rw [hfaulty] at h
      -- this condition is the first faulty one, and nothing behind it is looked at
      obtain rfl := Option.some.inj h
      rw [collectAll, c.collect_of_refused (condition.faulty_iff.mp hfaulty)]
    | false =>
      rw [hfaulty] at h
      obtain ⟨regex, hregex⟩ := condition.faulty_eq_false_iff.mp hfaulty
      rw [collectAll_cons_of_compiles others hregex]
      exact ih h

/-- **The check at the end of a statement.** -/
theorem Context.conditionsHold_iff {c c' : Context} {s : Statement} (hempty : c.conditions = {})
    (hsound : s.conditions.find? Condition.faulty = none) (h : Collected c s.conditions c') :
    c'.conditionsHold = true ↔ s.Fires c'.bindings.get? := by
  -- the table began empty, so it holds the last condition on each name and nothing else
  have hget : ∀ name, c'.conditions.get? name =
      (lastOn? s.conditions name).bind fun last => last.pattern.compile? := by
    intro name
    rw [h.get?, hempty, Table.get?_empty, Option.or_none]
  rw [Context.conditionsHold, List.all_eq_true]
  refine ⟨fun hall name hname => ?_, fun hfires entry hentry => ?_⟩
  · -- a name among the conditions has an entry, which stands for the last condition on it
    obtain ⟨last, hlast⟩ := exists_lastOn? hname
    have hcompiles : last.faulty = false := by
      simpa using List.find?_eq_none.mp hsound last (lastOn?_eq_some hlast).1
    obtain ⟨regex, hregex⟩ := last.faulty_eq_false_iff.mp hcompiles
    have hentry : (name, regex) ∈ c'.conditions.entries := by
      rw [Table.mem_entries_iff h.distinct, hget, hlast]
      exact hregex
    obtain ⟨value, hvalue, hfound⟩ := (Option.any_eq_true _ _).mp (hall _ hentry)
    exact ⟨value, hvalue, last, hlast, regex, hregex,
      (CharRegex.foundIn_eq_true_iff regex value.toList).mp hfound⟩
  · obtain ⟨name, regex⟩ := entry
    -- and every entry comes from the last condition on some name
    rw [Table.mem_entries_iff h.distinct, hget] at hentry
    obtain ⟨last, hlast, hregex⟩ := Option.bind_eq_some_iff.mp hentry
    obtain ⟨hmem, hname⟩ := lastOn?_eq_some hlast
    obtain ⟨value, hvalue, last', hlast', regex', hregex', hfound⟩ :=
      hfires name (List.mem_map.mpr ⟨last, hmem, hname⟩)
    obtain rfl := Option.some.inj (hlast.symm.trans hlast')
    obtain rfl := Option.some.inj (hregex.symm.trans hregex')
    exact (Option.any_eq_true _ _).mpr ⟨value, hvalue,
      (CharRegex.foundIn_eq_true_iff regex value.toList).mpr hfound⟩

/-! ### One statement -/

section Run

variable {ω : Type} [Output ω]

/-- What a completed statement leaves of a context. -/
structure Completed (c : Context) (fired : Bool) (c' : Context) : Prop where
  properties : c'.properties = {}
  bindings : c'.bindings = c.bindings
  conditions : c'.conditions = {}
  stats : c'.stats = ⟨c.stats.statements + 1, c.stats.fired + fired.toNat⟩

theorem Collected.completed {c c' : Context} {conditions : List Condition}
    (h : Collected c conditions c') (block : OutputBlock) (fired : Bool) :
    Completed c fired ((c'.capture block).afterStatement fired) where
  properties := rfl
  bindings := h.bindings
  conditions := rfl
  stats := by
    change (⟨c'.stats.statements + 1, c'.stats.fired + fired.toNat⟩ : Stats) = _
    rw [h.stats]

variable {c : Context} {s : Statement}

theorem Statement.evaluate_of_faulty {bad : Condition} (out : ω)
    (h : s.conditions.find? Condition.faulty = some bad) :
    ∃ c', s.evaluate c out = (.error (.invalidPattern bad.name bad.pattern), c', out) := by
  have hcollect := collectAll_of_faulty (c := c) h
  rcases hrun : collectAll c s.conditions with ⟨answer, c'⟩
  rw [hrun] at hcollect
  obtain rfl : answer = _ := hcollect
  refine ⟨c', ?_⟩
  rw [evaluate, hrun]

/-- Sound conditions bring a statement to its end, with a context in which the check is the right one. -/
theorem Statement.evaluate_of_sound (out : ω) (hempty : c.conditions = {})
    (hsound : s.conditions.find? Condition.faulty = none) :
    ∃ c', s.evaluate c out = (c'.capture s.output).complete out ∧ Collected c s.conditions c' ∧
      (c'.capture s.output).conditionsHold = decide (s.Fires c.bindings.get?) := by
  have hdistinct : c.conditions.Distinct := by
    rw [hempty]
    exact Table.distinct_empty
  obtain ⟨c', hcollect, hcollected⟩ := collectAll_of_sound hdistinct hsound
  refine ⟨c', ?_, hcollected, ?_⟩
  · rw [evaluate, hcollect]
  · rw [← hcollected.bindings, Bool.eq_iff_iff, decide_eq_true_iff]
    change c'.conditionsHold = true ↔ _
    exact Context.conditionsHold_iff hempty hsound hcollected

/-- A statement that fires writes its line. If the output does not take it, the run stops. -/
theorem Statement.evaluate_of_fires (out : ω) (hempty : c.conditions = {})
    (hsound : s.conditions.find? Condition.faulty = none) (h : s.Fires c.bindings.get?) :
    ∃ c', Completed c true c' ∧ ∃ stopped,
      s.evaluate c out =
        match s.emit out with
        | (.error fault, out) => (.error (.write fault), stopped, out)
        | (.ok (), out) => (.ok true, c', out) := by
  obtain ⟨c', heval, hcollected, hholds⟩ := s.evaluate_of_sound out hempty hsound
  refine ⟨_, hcollected.completed s.output true, { c'.capture s.output with output := none }, ?_⟩
  rw [heval, Context.complete, hholds, decide_eq_true h, if_pos rfl, emit]
  change (match Output.writeAll out (encodeUtf8 s.output.text.toList) with
    | (.error fault, out) => _
    | (.ok (), out) => _) = _
  -- the text and the line feed are written one after the other, and either write may fail
  rcases Output.writeAll out (encodeUtf8 s.output.text.toList) with ⟨fault | ⟨⟩, out'⟩
  · rfl
  · rcases Output.writeAll out' (encodeUtf8 ['\n']) with ⟨fault | ⟨⟩, out''⟩
    · rfl
    · rfl

theorem Statement.evaluate_of_not_fires (out : ω) (hempty : c.conditions = {})
    (hsound : s.conditions.find? Condition.faulty = none) (h : ¬ s.Fires c.bindings.get?) :
    ∃ c', Completed c false c' ∧ s.evaluate c out = (.ok false, c', out) := by
  obtain ⟨c', heval, hcollected, hholds⟩ := s.evaluate_of_sound out hempty hsound
  refine ⟨_, hcollected.completed s.output false, ?_⟩
  rw [heval, Context.complete, hholds, decide_eq_false h]
  rfl

/-! ### All items -/

theorem Context.bindings_declare (c : Context) (b : Binding) :
    (c.declare b).bindings.get? = b.bind c.properties c.bindings.get? := by
  funext name
  rw [declare, Binding.bind]
  cases c.properties.get? b.property with
  | none => rfl
  | some value => exact Table.get?_insert c.bindings b.name name value.text

theorem Context.declare_frame (c : Context) (b : Binding) :
    (c.declare b).properties = c.properties ∧ (c.declare b).conditions = c.conditions ∧
      (c.declare b).stats = c.stats := by
  rw [declare]
  cases c.properties.get? b.property with
  | none => exact ⟨rfl, rfl, rfl⟩
  | some value => exact ⟨rfl, rfl, rfl⟩

/-- **A run from any item on.** It writes the lines of the statements that fire, and if the output takes
them all, it ends with the verdict on the statements. -/
theorem evaluateItems_eq (c : Context) (out : ω) (items : List Item) (hempty : c.conditions = {}) :
    evaluateItems c out items =
      let names := boundNames c.properties c.bindings.get? items
      let statements := Program.statements ⟨items⟩
      match emitAll out (firing names statements) with
      | (.error fault, out) => (.error (.write fault), out)
      | (.ok (), out) => (verdict names c.stats statements, out) := by
  induction items generalizing c out with
  | nil => rfl
  | cons item others ih =>
    cases item with
    | binding b =>
      obtain ⟨hproperties, hconditions, hstats⟩ := c.declare_frame b
      -- a binding only adds a name, which the others find
      have hrun := ih (c.declare b) out (hconditions.trans hempty)
      rw [c.bindings_declare b, hproperties, hstats] at hrun
      rw [evaluateItems]
      exact hrun
    | statement s =>
      -- the statement finds the names of the context, and so do all that follow
      change _ =
        match emitAll out (firing c.bindings.get? (s :: Program.statements ⟨others⟩)) with
        | (.error fault, out) => ((.error (.write fault) : Except EvalError Stats), out)
        | (.ok (), out) => (verdict c.bindings.get? c.stats (s :: Program.statements ⟨others⟩), out)
      rw [evaluateItems]
      cases hfind : s.conditions.find? Condition.faulty with
      | some bad =>
        -- nothing has been written for the statement when the run stops
        obtain ⟨c', heval⟩ := s.evaluate_of_faulty out hfind
        rw [heval, firing_cons_of_faulty _ _ hfind, verdict_cons_of_faulty _ _ _ hfind]
        rfl
      | none =>
        -- a completed statement has wiped the properties, so later bindings bind nothing
        have hlater : ∀ {fired : Bool} {c' : Context} (out : ω), Completed c fired c' →
            evaluateItems c' out others =
              match emitAll out (firing c.bindings.get? (Program.statements ⟨others⟩)) with
              | (.error fault, out) => (.error (.write fault), out)
              | (.ok (), out) =>
                (verdict c.bindings.get? ⟨c.stats.statements + 1, c.stats.fired + fired.toNat⟩
                  (Program.statements ⟨others⟩), out) := by
          intro fired c' out hcompleted
          have hrun := ih c' out hcompleted.conditions
          rw [hcompleted.properties, hcompleted.bindings, hcompleted.stats, boundNames_empty] at hrun
          exact hrun
        rw [firing_cons_of_sound _ _ hfind, verdict_cons_of_sound _ _ _ hfind]
        by_cases hfires : s.Fires c.bindings.get?
        · obtain ⟨c', hcompleted, stopped, heval⟩ := s.evaluate_of_fires out hempty hfind hfires
          rw [heval, if_pos hfires, decide_eq_true hfires, emitAll]
          rcases s.emit out with ⟨fault | ⟨⟩, out'⟩
          · rfl
          · exact hlater out' hcompleted
        · obtain ⟨c', hcompleted, heval⟩ := s.evaluate_of_not_fires out hempty hfind hfires
          rw [heval, if_neg hfires, decide_eq_false hfires]
          exact hlater out hcompleted

/-- **A run writes the lines of the firing statements.** If the output takes them all, the run ends with
the verdict on the program. -/
theorem Program.evaluate_eq (p : Program) (properties : Properties) (out : ω) :
    p.evaluate properties out =
      match emitAll out (firing (p.names properties) p.statements) with
      | (.error fault, out) => (.error (.write fault), out)
      | (.ok (), out) => (verdict (p.names properties) {} p.statements, out) :=
  evaluateItems_eq { properties := properties } out p.items rfl

end Run

/-! ### A sink without a limit -/

/-- The sink when it has taken some bytes more. -/
def Sink.took (sink : Sink) (bytes : Bytes) : Sink :=
  { sink with taken := sink.taken ++ bytes }

theorem Sink.took_nil (sink : Sink) : sink.took [] = sink := by
  rw [took, List.append_nil]

theorem Sink.took_took (sink : Sink) (bytes more : Bytes) :
    (sink.took bytes).took more = sink.took (bytes ++ more) := by
  rw [took, took, took, List.append_assoc]

theorem Sink.writeAll_unlimited (sink : Sink) (hlimit : sink.limit = none) (bytes : Bytes) :
    Output.writeAll sink bytes = (.ok (), sink.took bytes) := by
  have hroom : sink.room bytes = bytes.length := by
    rw [room, hlimit]
  have hoffer : sink.offer bytes = ([], sink.took bytes) := by
    rw [offer, hroom, List.drop_length, List.take_length]
    rfl
  simp only [Output.writeAll, hoffer]

theorem Statement.emit_unlimited (s : Statement) (sink : Sink) (hlimit : sink.limit = none) :
    s.emit sink = (.ok (), sink.took s.line) := by
  have hlimit' : (sink.took (encodeUtf8 s.output.text.toList)).limit = none := hlimit
  rw [emit, sink.writeAll_unlimited hlimit]
  change Output.writeAll (sink.took (encodeUtf8 s.output.text.toList)) _ = _
  rw [Sink.writeAll_unlimited _ hlimit', Sink.took_took, line, encodeUtf8, encodeUtf8, encodeUtf8,
    List.flatMap_append]

theorem emitAll_unlimited (sink : Sink) (hlimit : sink.limit = none) (statements : List Statement) :
    emitAll sink statements = (.ok (), sink.took (statements.flatMap Statement.line)) := by
  induction statements generalizing sink with
  | nil => rw [emitAll, List.flatMap_nil, Sink.took_nil]
  | cons s others ih =>
    have hlimit' : (sink.took s.line).limit = none := hlimit
    rw [emitAll, s.emit_unlimited sink hlimit]
    change emitAll (sink.took s.line) others = _
    rw [ih _ hlimit', Sink.took_took, List.flatMap_cons]

/-- **Evaluation is what the program means.** Names are bound by the bindings before the first statement.
If all patterns are regular expressions, a run into a sink that takes everything counts the statements and
those that fire, and the sink takes the lines of the latter in document order. Otherwise the run ends with
the first condition that is faulty, and the sink has taken the lines of the firing statements before. -/
theorem Program.evaluate_unlimited (p : Program) (properties : Properties) (sink : Sink) :
    p.evaluate properties { sink with limit := none } =
      match faultyCondition? p.statements with
      | none =>
        let fired := p.statements.filter fun s => s.Fires (p.names properties)
        (.ok ⟨p.statements.length, fired.length⟩,
          Sink.took { sink with limit := none } (fired.flatMap Statement.line))
      | some c =>
        let fired := firing (p.names properties) p.statements
        (.error (.invalidPattern c.name c.pattern),
          Sink.took { sink with limit := none } (fired.flatMap Statement.line)) := by
  rw [Program.evaluate_eq, emitAll_unlimited _ rfl, verdict]
  cases hfaulty : faultyCondition? p.statements with
  | some c => rfl
  | none =>
    simp only [Nat.zero_add, firing_eq_filter (p.names properties) hfaulty]

/-- A pattern that is no regular expression ends a run, behind the lines of the statements before. -/
example :
    (Program.mk [.statement ⟨[], ⟨"\x7b first \x7d"⟩⟩, .statement ⟨[⟨"m", .regex "("⟩], ⟨"\x7bsecond\x7d"⟩⟩,
      .statement ⟨[], ⟨"\x7blast\x7d"⟩⟩]).evaluate {} ({} : Sink) =
      (.error (.invalidPattern "m" (.regex "(")), { taken := encodeUtf8 "first\n".toList }) := by
  rfl

end RuleText

import Mathlib.Data.List.DropRight
import RuleText.Proofs.Evaluation.Meaning
import RuleText.Proofs.Table

/-!
# Histories of a context

A context is called in any order, also in orders that no program leads to, and calls may fail. What it
answers depends on what has been called before, and its fields are only the memory for that. Each field
forgets at its own time. A pattern is held until a condition asks for one, whether or not it gets a sound
one, or until a statement is completed. A text is held until a statement is completed or fails to be.
Conditions are held until a statement is completed, and properties only until the first one is. Names stay
bound for good.

So everything can be read off the history, by looking for the last event of some kind behind, or in front
of, events of another.

Main definitions:

- `Call`, `Event`, `run`: calls, calls with their answers, and runs;
- `since`, `before`: the part of a history behind the last, or in front of the first event of some kind;
- `bound`, `held`, `captured`, `LastCollected`: what a history says about names, patterns, texts and conditions;
- `Fires`, `collectAnswer`: when a statement fires, and what collecting a condition answers;
- `Conditions`: a table of conditions is what the history says.

Main statements:

- `bound_concat`, `held_concat`, `latest_text_concat`, `lastCollected_concat`: one event more;
- `Conditions.closed`, `Conditions.quiet`, `Conditions.collect`: the same for tables of conditions.
-/

namespace RuleText.History

/-! ### Behind the last and in front of the first -/

section Last

variable {ε α : Type} {stops : ε → Bool} {value : ε → Option α}

/-- The events behind the last one that stops. -/
def since (stops : ε → Bool) (history : List ε) : List ε :=
  history.rtakeWhile fun e => !stops e

/-- The events in front of the first one that stops. -/
def before (stops : ε → Bool) (history : List ε) : List ε :=
  history.takeWhile fun e => !stops e

/-- What the last event with a value says. -/
def latest (value : ε → Option α) (history : List ε) : Option α :=
  (history.filterMap value).getLast?

theorem latest_concat (history : List ε) (e : ε) :
    latest value (history ++ [e]) = (value e).or (latest value history) := by
  unfold latest
  rw [List.filterMap_append]
  cases hvalue : value e with
  | none => simp [hvalue]
  | some v => simp [hvalue]

theorem latest_eq_none_iff (history : List ε) :
    latest value history = none ↔ ∀ e ∈ history, value e = none := by
  rw [latest, List.getLast?_eq_none_iff, List.filterMap_eq_nil_iff]

theorem since_concat_of_stops {e : ε} (h : stops e = true) (history : List ε) :
    since stops (history ++ [e]) = [] := by
  refine List.rtakeWhile_concat_neg _ _ _ ?_
  simp [h]

theorem since_concat_of_not {e : ε} (h : stops e = false) (history : List ε) :
    since stops (history ++ [e]) = since stops history ++ [e] := by
  refine List.rtakeWhile_concat_pos _ _ _ ?_
  simp [h]

/-- What comes behind a stop, or is one, is not in front of the first. -/
theorem before_concat_of_stop {history : List ε} {e : ε} (h : history.any stops = true ∨ stops e = true) :
    before stops (history ++ [e]) = before stops history := by
  unfold before
  rw [List.takeWhile_append]
  split
  · rename_i hall
    -- without a stop in the history the event is the first
    have hself : history.takeWhile (fun e => !stops e) = history :=
      (List.takeWhile_prefix _).eq_of_length hall
    have hnone : history.any stops = false := by
      rw [List.takeWhile_eq_self_iff] at hself
      exact List.any_eq_false.mpr fun e he => by simpa using hself e he
    have hstop : stops e = true := h.resolve_left (by simp [hnone])
    simp [hself, hstop]
  · rfl

theorem before_concat_of_not {history : List ε} {e : ε} (h : history.any stops = false)
    (he : stops e = false) : before stops (history ++ [e]) = before stops history ++ [e] := by
  have hself : ∀ all : List ε, all.any stops = false → before stops all = all := by
    intro all hall
    refine List.takeWhile_eq_self_iff.mpr fun e he => ?_
    have hnot := List.any_eq_false.mp hall e he
    simpa using hnot
  rw [hself history h, hself (history ++ [e])]
  simp [h, he]

end Last

/-! ### Calls and their answers -/

/-- A call of a context. Each completion of a statement may be given an output of its own. -/
inductive Call : Type 1 where
  | declare (b : Binding)
  | setPattern (p : Pattern)
  | collect (name : String)
  | capture (block : OutputBlock)
  | complete (ω : Type) [Output ω] (out : ω)

/-- A call that has been made, with its answer. -/
inductive Event where
  | declare (b : Binding)
  | setPattern (p : Pattern)
  | collect (name : String) (answer : Except EvalError Unit)
  | capture (block : OutputBlock)
  | complete (answer : Except EvalError Bool)

/-- Makes a call. -/
def perform (c : Context) : Call → Event × Context
  | .declare b => (.declare b, c.declare b)
  | .setPattern p => (.setPattern p, c.setPattern p)
  | .collect name => (.collect name (c.collect name).1, (c.collect name).2)
  | .capture block => (.capture block, c.capture block)
  | @Call.complete _ _ out => (.complete (c.complete out).1, (c.complete out).2.1)

/-- Makes one call more. -/
def extend (state : List Event × Context) (call : Call) : List Event × Context :=
  (state.1 ++ [(perform state.2 call).1], (perform state.2 call).2)

/-- Makes calls on a fresh context; with what happened, in order. -/
def run (properties : Properties) (calls : List Call) : List Event × Context :=
  calls.foldl extend ([], { properties := properties })

namespace Event

/-- A statement has been completed. -/
def closes : Event → Bool
  | complete (.ok _) => true
  | _ => false

/-- A statement has been completed, or its line could not be written. -/
def completes : Event → Bool
  | complete _ => true
  | _ => false

/-- A statement has fired. -/
def fires : Event → Bool
  | complete (.ok fired) => fired
  | _ => false

theorem fires_of_not_closes {e : Event} (h : e.closes = false) : e.fires = false := by
  cases e with
  | complete answer =>
    cases answer with
    | ok fired => cases h
    | error e => rfl
  | _ => rfl

/-- No pattern is held any more: a condition has asked for it, or a statement has been completed. -/
def drops : Event → Bool
  | collect _ _ => true
  | complete (.ok _) => true
  | _ => false

/-- The pattern that an event holds. -/
def pattern? : Event → Option Pattern
  | setPattern p => some p
  | _ => none

/-- The text that an event holds. -/
def text? : Event → Option String
  | capture block => some block.text
  | _ => none

/-- What an event would bind a name to. -/
def value? (properties : Properties) (name : String) : Event → Option String
  | declare b => if b.name = name then (properties.get? b.property).map Value.text else none
  | _ => none

end Event

/-! ### What a history says -/

section Says

variable (properties : Properties) (history : List Event) (name : String)

/-- What a name is bound to: the text of the property in the last declaration of the name before the first
statement was completed. Declarations of properties that are not there do not count. -/
def bound : Option String :=
  latest (Event.value? properties name) (before Event.closes history)

/-- The pattern that the next condition gets. -/
def held : Option Pattern :=
  latest Event.pattern? (since Event.drops history)

/-- The text of the statement under way. -/
def captured : String :=
  (latest Event.text? (since Event.completes history)).getD ""

/-- The pattern of the last condition on a name that was collected for the statement under way. It is the
one that was held then. -/
def LastCollected (p : Pattern) : Prop :=
  ∃ earlier later, history = earlier ++ .collect name (.ok ()) :: later ∧ held earlier = some p ∧
    ∀ e ∈ later, e.closes = false ∧ e ≠ .collect name (.ok ())

/-- The statement under way fires: for every name on which a condition has been collected for it, the last
one holds of what the name is bound to. -/
def Fires (holds : Condition → String → Prop) : Prop :=
  ∀ name, .collect name (.ok ()) ∈ since Event.closes history →
    ∃ p, LastCollected history name p ∧ ∃ value ∈ bound properties history name, holds ⟨name, p⟩ value

/-- What collecting a condition on a name answers. -/
def collectAnswer : Except EvalError Unit :=
  match held history with
  | none => .error (.missingPattern name)
  | some p => if p.compile?.isSome then .ok () else .error (.invalidPattern name p)

end Says

/-! ### Conditions -/

/-- The last condition on a name changes when another one is collected on it, and goes when a statement is
completed. -/
theorem lastCollected_concat (history : List Event) (e : Event) (name : String) (p : Pattern) :
    LastCollected (history ++ [e]) name p ↔
      (e = .collect name (.ok ()) ∧ held history = some p) ∨
        ((e.closes = false ∧ e ≠ .collect name (.ok ())) ∧ LastCollected history name p) := by
  refine ⟨?_, ?_⟩
  · rintro ⟨earlier, later, hhistory, hheld, hlater⟩
    -- the event is the condition itself, or it came later
    rcases List.eq_nil_or_concat later with rfl | ⟨before, last, rfl⟩
    · obtain ⟨rfl, hlast⟩ := List.append_inj' hhistory rfl
      exact Or.inl ⟨List.singleton_inj.mp hlast, hheld⟩
    · rw [List.concat_eq_append] at hhistory hlater
      have hsplit : history ++ [e] = (earlier ++ .collect name (.ok ()) :: before) ++ [last] := by
        rw [hhistory, List.append_assoc]
        rfl
      obtain ⟨rfl, hlast⟩ := List.append_inj' hsplit rfl
      obtain rfl := List.singleton_inj.mp hlast
      refine Or.inr ⟨hlater e (by simp), earlier, before, rfl, hheld, ?_⟩
      intro other hother
      exact hlater other (List.mem_append_left _ hother)
  · rintro (⟨rfl, hheld⟩ | ⟨he, earlier, later, rfl, hheld, hlater⟩)
    · exact ⟨history, [], rfl, hheld, nofun⟩
    · refine ⟨earlier, later ++ [e], by simp, hheld, ?_⟩
      intro other hother
      rcases List.mem_append.mp hother with hmem | hmem
      · exact hlater other hmem
      · exact List.mem_singleton.mp hmem ▸ he

/-- The last condition on a name is one of the statement under way. -/
theorem LastCollected.mem {history : List Event} {name : String} {p : Pattern}
    (h : LastCollected history name p) : .collect name (.ok ()) ∈ since Event.closes history := by
  obtain ⟨earlier, later, rfl, -, hlater⟩ := h
  -- nothing that came later has completed the statement, so from the end on all of it is kept
  induction later using List.reverseRecOn with
  | nil =>
    rw [since_concat_of_not rfl]
    exact List.mem_append_right _ (List.mem_singleton.mpr rfl)
  | append_singleton later last ih =>
    have hlast := (hlater last (List.mem_append_right _ (List.mem_singleton.mpr rfl))).1
    rw [← List.cons_append, ← List.append_assoc, since_concat_of_not hlast]
    exact List.mem_append_left _ (ih fun e he => hlater e (List.mem_append_left _ he))

/-- A table of conditions is what the history says: a name stands for the last condition on it. -/
structure Conditions (history : List Event) (table : Table CharRegex) : Prop where
  distinct : table.Distinct
  get?_iff (name : String) (regex : CharRegex) : table.get? name = some regex ↔
    ∃ p, LastCollected history name p ∧ p.compile? = some regex
  compiles (name : String) (p : Pattern) : LastCollected history name p →
    ∃ regex, p.compile? = some regex
  collected (name : String) : .collect name (.ok ()) ∈ since Event.closes history →
    ∃ p, LastCollected history name p

namespace Conditions

variable {history : List Event} {table : Table CharRegex}

theorem nil : Conditions [] {} where
  distinct := Table.distinct_empty
  get?_iff name regex := by
    refine ⟨nofun, ?_⟩
    rintro ⟨p, ⟨earlier, later, hnil, -⟩, -⟩
    cases earlier <;> cases hnil
  compiles name p := by
    rintro ⟨earlier, later, hnil, -⟩
    cases earlier <;> cases hnil
  collected name := nofun

/-- When a statement is completed they are gone. -/
theorem closed {e : Event} (he : e.closes = true) : Conditions (history ++ [e]) {} := by
  have hnone : ∀ name p, ¬ LastCollected (history ++ [e]) name p := by
    intro name p h
    rcases (lastCollected_concat history e name p).mp h with ⟨rfl, -⟩ | ⟨⟨hnot, -⟩, -⟩
    · cases he
    · rw [he] at hnot
      cases hnot
  refine ⟨Table.distinct_empty, fun name regex => ⟨nofun, ?_⟩, fun name p h => ?_, fun name h => ?_⟩
  · rintro ⟨p, h, -⟩
    exact absurd h (hnone name p)
  · exact absurd h (hnone name p)
  · rw [since_concat_of_stops he] at h
    cases h

/-- Events that neither complete a statement nor collect a condition leave them. -/
theorem quiet (h : Conditions history table) {e : Event} (he : e.closes = false)
    (hcollect : ∀ name, e ≠ .collect name (.ok ())) : Conditions (history ++ [e]) table := by
  have hsame : ∀ name p, LastCollected (history ++ [e]) name p ↔ LastCollected history name p := by
    intro name p
    rw [lastCollected_concat]
    simp [he, hcollect name]
  refine ⟨h.distinct, ?_, ?_, ?_⟩
  · intro name regex
    rw [h.get?_iff]
    simp only [hsame]
  · intro name p hlast
    exact h.compiles name p ((hsame name p).mp hlast)
  · intro name hmem
    rw [since_concat_of_not he, List.mem_append, List.mem_singleton] at hmem
    obtain ⟨p, hlast⟩ := h.collected name (hmem.resolve_right fun heq => hcollect name heq.symm)
    exact ⟨p, (hsame name p).mpr hlast⟩

/-- A collected condition takes the place of the one on its name. -/
theorem collect (h : Conditions history table) {name : String} {p : Pattern} {regex : CharRegex}
    (hheld : held history = some p) (hregex : p.compile? = some regex) :
    Conditions (history ++ [.collect name (.ok ())]) (table.insert name regex) := by
  -- for this name the pattern is the one that was held, for any other one nothing changes
  have hlast : ∀ other q, LastCollected (history ++ [.collect name (.ok ())]) other q ↔
      (other = name ∧ q = p) ∨ (other ≠ name ∧ LastCollected history other q) := by
    intro other q
    rw [lastCollected_concat, hheld]
    by_cases hname : other = name
    · subst hname
      simp only [ne_eq, not_true_eq_false, and_false, false_and, or_false, true_and, Option.some.injEq]
      exact eq_comm
    · simp [hname, Ne.symm hname, Event.closes]
  refine ⟨h.distinct.insert name regex, ?_, ?_, ?_⟩
  · -- what the table holds is what the patterns collected last compile to
    intro other regex'
    rw [Table.get?_insert]
    simp only [hlast]
    by_cases hname : other = name
    · simp [hname, hregex]
    · simp [hname, h.get?_iff]
  · -- all of them compile
    intro other q hq
    rcases (hlast other q).mp hq with ⟨-, rfl⟩ | ⟨-, hq⟩
    · exact ⟨regex, hregex⟩
    · exact h.compiles other q hq
  · -- and a name that has been collected since the last statement ended is among them
    intro other hmem
    by_cases hname : other = name
    · exact ⟨p, (hlast other p).mpr (Or.inl ⟨hname, rfl⟩)⟩
    · rw [since_concat_of_not rfl, List.mem_append, List.mem_singleton] at hmem
      have hmem' := hmem.resolve_right fun heq => hname (Event.collect.inj heq).1
      obtain ⟨q, hq⟩ := h.collected other hmem'
      exact ⟨q, (hlast other q).mpr (Or.inr ⟨hname, hq⟩)⟩

end Conditions

/-! ### Names, patterns and texts -/

section Says

variable (properties : Properties) (history : List Event) (name : String)

/-- From the first completion on nothing binds a name. -/
theorem bound_concat (e : Event) :
    bound properties (history ++ [e]) name =
      if history.any Event.closes || e.closes then bound properties history name
      else (e.value? properties name).or (bound properties history name) := by
  unfold bound
  split
  · rename_i h
    rw [before_concat_of_stop ((Bool.or_eq_true _ _).mp h)]
  · rename_i h
    obtain ⟨hany, he⟩ : history.any Event.closes = false ∧ e.closes = false := by simpa using h
    rw [before_concat_of_not hany he, latest_concat]

theorem bound_concat_of_none {e : Event} (h : e.value? properties name = none) :
    bound properties (history ++ [e]) name = bound properties history name := by
  rw [bound_concat, h, Option.none_or, ite_self]

theorem held_concat (e : Event) :
    held (history ++ [e]) = if e.drops then none else e.pattern?.or (held history) := by
  unfold held
  split
  · rename_i h
    rw [since_concat_of_stops h]
    rfl
  · rename_i h
    rw [since_concat_of_not (by simpa using h), latest_concat]

theorem latest_text_concat (e : Event) :
    latest Event.text? (since Event.completes (history ++ [e])) =
      if e.completes then none
      else e.text?.or (latest Event.text? (since Event.completes history)) := by
  split
  · rename_i h
    rw [since_concat_of_stops h]
    rfl
  · rename_i h
    rw [since_concat_of_not (by simpa using h), latest_concat]

end Says

end RuleText.History

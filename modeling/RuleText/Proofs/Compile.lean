import RuleText.Compile
import RuleText.Proofs.Evaluation.Agreement
import RuleText.Proofs.Sink.Delivery

/-!
# Compiling into a sink that fails

A run emits lines to an output, and compiling puts a stage between the run and the sink. What a sink takes
in the end depends on the stream of lines alone, so the stage changes nothing but the moment at which a full
sink is noticed: the run may go on for a while, or end well, before the bytes held back turn out not to fit.
The stage is passed on at the end, when this can still be told; after any other error it is given up, and
what it held reaches the sink as far as there is room.

Main statements:

- `Relays.emitAll`: lines written to anything that relays them to a sink;
- `Program.evaluate_given`: a run straight into a sink;
- `compile_given`, `compile_of_faulty`: a run through a stage;
- `compile_agrees`: both leave the same bytes in the sink, whatever its limit, and both end well in the same
  cases, unless the sink cannot be flushed.
-/

namespace RuleText

/-- What a program emits: the lines of its firing statements, up to the first faulty condition. -/
def Program.emitted (p : Program) (properties : Properties) : Bytes :=
  (firing (p.names properties) p.statements).flatMap Statement.line

/-! ### Emitting lines -/

section Relays

variable {ω : Type} [Output ω] {sink : Sink} {carries : Bytes → ω → Prop} {final : ω → Sink}
  {stream : Bytes} {out : ω}

/-- A line is written in two parts, and either may be too much for the sink. -/
theorem Relays.emit (h : Relays sink carries final) (hout : carries stream out) (s : Statement) :
    Delivery sink carries final (stream ++ s.line) (s.emit out) := by
  have hline : s.line = encodeUtf8 s.output.text.toList ++ encodeUtf8 ['\n'] :=
    List.flatMap_append
  have htext := h.write hout (encodeUtf8 s.output.text.toList)
  rw [Statement.emit, hline, ← List.append_assoc]
  generalize Output.writeAll out (encodeUtf8 s.output.text.toList) = answer at htext ⊢
  cases htext with
  | carried hcarried => exact h.write hcarried _
  | @full fault left hfinal hexceeds =>
    have hfull : Delivery sink carries final _ (.error fault, left) := .full hfinal hexceeds
    exact hfull.append _

theorem Relays.emitAll (h : Relays sink carries final) (hout : carries stream out)
    (statements : List Statement) :
    Delivery sink carries final (stream ++ statements.flatMap Statement.line)
      (emitAll out statements) := by
  induction statements generalizing stream out with
  | nil =>
    rw [List.flatMap_nil, List.append_nil]
    exact .carried hout
  | cons s others ih =>
    have hfirst := h.emit hout s
    rw [RuleText.emitAll, List.flatMap_cons, ← List.append_assoc]
    generalize s.emit out = answer at hfirst ⊢
    cases hfirst with
    | carried hcarried => exact ih hcarried
    | @full fault left hfinal hexceeds =>
      -- what the other statements would add is beyond the limit
      have hfull : Delivery sink carries final _ (.error fault, left) := .full hfinal hexceeds
      exact hfull.append _

end Relays

/-! ### Runs -/

theorem verdict_eq_ok_iff (names : String → Option String) (statements : List Statement)
    (stats : Stats) :
    verdict names {} statements = .ok stats ↔
      faultyCondition? statements = none ∧
        stats = ⟨statements.length, (firing names statements).length⟩ := by
  rw [verdict]
  cases faultyCondition? statements with
  | some c =>
    refine ⟨?_, ?_⟩
    · intro hok
      cases hok
    · rintro ⟨hnone, -⟩
      cases hnone
  | none =>
    simp only [Nat.zero_add, Except.ok.injEq, true_and]
    exact eq_comm

section Runs

variable (p : Program) (properties : Properties) {sink : Sink} (hempty : sink.taken = [])

include hempty

/-- A sink that holds nothing has been given nothing. -/
theorem Sink.took_nothing : sink.Took [] sink := by
  refine ⟨?_, not_exceeds_nil sink.limit⟩
  rw [Sink.given, upTo_nil, ← hempty]

/-- **A run straight into a sink.** -/
theorem Program.evaluate_given :
    (p.evaluate properties sink).2 = sink.given (p.emitted properties) ∧
      ∀ stats, (p.evaluate properties sink).1 = .ok stats ↔
        ¬ Exceeds sink.limit (p.emitted properties) ∧
          verdict (p.names properties) {} p.statements = .ok stats := by
  have hemit := sink.relays.emitAll (sink.took_nothing hempty) (firing (p.names properties) p.statements)
  rw [List.nil_append] at hemit
  change Delivery _ _ _ (p.emitted properties) _ at hemit
  rw [Program.evaluate_eq]
  generalize emitAll sink _ = answer at hemit ⊢
  cases hemit with
  | carried hcarried =>
    refine ⟨hcarried.1, fun stats => ?_⟩
    exact ⟨fun hverdict => ⟨hcarried.2, hverdict⟩, fun hboth => hboth.2⟩
  | full hfinal hexceeds =>
    refine ⟨hfinal, fun stats => ⟨nofun, ?_⟩⟩
    rintro ⟨hfits, -⟩
    exact absurd hexceeds hfits

/-- What comes of the lines of a program when they are written to a stage. -/
theorem Program.delivery_staged :
    Delivery sink (Staged.Carries sink) Staged.abandon (p.emitted properties)
      (emitAll ({ sink := sink } : Staged) (firing (p.names properties) p.statements)) := by
  have hstart : Staged.Carries sink [] { sink := sink } :=
    ⟨[], sink.took_nothing hempty, rfl⟩
  exact (Staged.relays sink).emitAll hstart _

/-- **A run through a stage.** -/
theorem compile_given {source : Source} (hsource : source.program = .ok p) :
    (compile source properties sink).2 = sink.given (p.emitted properties) ∧
      ∀ stats, (compile source properties sink).1 = .ok stats ↔
        sink.failsFlush = false ∧ ¬ Exceeds sink.limit (p.emitted properties) ∧
          verdict (p.names properties) {} p.statements = .ok stats := by
  -- what has been emitted is in the sink or staged, or the sink has refused some of it
  have hemit := p.delivery_staged properties hempty
  simp only [compile, hsource, Program.evaluate_eq]
  generalize emitAll ({ sink := sink } : Staged) _ = answer at hemit ⊢
  cases hemit with
  | full hfinal hexceeds =>
    -- the sink is full: it holds what fits
    refine ⟨hfinal, fun stats => ⟨nofun, ?_⟩⟩
    rintro ⟨-, hfits, -⟩
    exact absurd hexceeds hfits
  | @carried stage hcarries =>
    cases hverdict : verdict (p.names properties) {} p.statements with
    | error e =>
      -- the stage is given up, with all that was emitted before the faulty condition
      refine ⟨hcarries.abandon, fun stats => ⟨nofun, ?_⟩⟩
      rintro ⟨-, -, hok⟩
      cases hok
    | ok counts =>
      -- all is emitted, and only the last bytes and the flush can still fail
      obtain ⟨habandoned, hfinished⟩ := hcarries.finish
      simp only
      generalize stage.finish = answer at habandoned hfinished ⊢
      obtain ⟨ending, finished⟩ := answer
      cases ending with
      | ok =>
        obtain ⟨hflush, hfits⟩ := hfinished.mp rfl
        refine ⟨habandoned, fun stats => ⟨fun hok => ?_, ?_⟩⟩
        · exact ⟨hflush, hfits, congrArg Except.ok (Except.ok.inj hok)⟩
        · rintro ⟨-, -, hok⟩
          exact congrArg Except.ok (Except.ok.inj hok)
      | error fault =>
        refine ⟨habandoned, fun stats => ⟨nofun, ?_⟩⟩
        rintro ⟨hflush, hfits, -⟩
        cases hfinished.mpr ⟨hflush, hfits⟩

/-- A run that stops at a faulty condition is answered with it, if the sink takes what was emitted before. -/
theorem compile_of_faulty {source : Source} (hsource : source.program = .ok p)
    (hfits : ¬ Exceeds sink.limit (p.emitted properties)) {e : EvalError}
    (h : verdict (p.names properties) {} p.statements = .error e) :
    (compile source properties sink).1 = .error (.eval e) := by
  have hemit := p.delivery_staged properties hempty
  simp only [compile, hsource, Program.evaluate_eq]
  generalize emitAll ({ sink := sink } : Staged) _ = answer at hemit ⊢
  cases hemit with
  | full _ hexceeds => exact absurd hexceeds hfits
  | carried _ => simp only [h]

/-- What a run comes to does not depend on the sink, if it takes everything and can be flushed. -/
theorem compile_of_fits {source : Source} (hsource : source.program = .ok p)
    (hfits : ¬ Exceeds sink.limit (p.emitted properties)) (hflush : sink.failsFlush = false) :
    (compile source properties sink).1 = (verdict (p.names properties) {} p.statements).mapError .eval := by
  cases hverdict : verdict (p.names properties) {} p.statements with
  | error e => exact compile_of_faulty p properties hempty hsource hfits hverdict
  | ok stats => exact ((compile_given p properties hempty hsource).2 stats).mpr ⟨hflush, hfits, hverdict⟩

end Runs

/-- **Compiling and evaluating agree on every sink.** A source that is no program leaves the sink as it is.
Of what a program emits, the sink ends up with the first bytes up to its limit, whether they come through a
stage or straight from the evaluation. The evaluation ends well exactly if no pattern is faulty and the
sink takes everything that is emitted; compiling does so, with the same counts, if besides the sink can be
flushed. -/
theorem compile_agrees (source : Source) (properties : Properties) (limit : Option Nat)
    (silent failsFlush : Bool) :
    let sink : Sink := { limit := limit, silent := silent, failsFlush := failsFlush }
    match source.program with
    | .error e => compile source properties sink = (.error e, sink)
    | .ok p =>
      let emitted := p.emitted properties
      let staged := compile source properties sink
      let direct := p.evaluate properties sink
      staged.2.taken = upTo limit emitted ∧ direct.2.taken = upTo limit emitted ∧
        (∀ stats, direct.1 = .ok stats ↔
          faultyCondition? p.statements = none ∧ ¬ Exceeds limit emitted ∧
            stats = ⟨p.statements.length, (firing (p.names properties) p.statements).length⟩) ∧
        ∀ stats, staged.1 = .ok stats ↔ failsFlush = false ∧ direct.1 = .ok stats := by
  intro sink
  cases hsource : source.program with
  | error e => simp only [compile, hsource]
  | ok p =>
    have hempty : sink.taken = [] := rfl
    obtain ⟨hdirect, hdirectOk⟩ := p.evaluate_given properties hempty
    obtain ⟨hstaged, hstagedOk⟩ := compile_given p properties hempty hsource
    refine ⟨congrArg Sink.taken hstaged, congrArg Sink.taken hdirect, ?_, ?_⟩
    · intro stats
      rw [hdirectOk, verdict_eq_ok_iff]
      exact and_left_comm
    · intro stats
      rw [hstagedOk, hdirectOk]

end RuleText

import RuleText.Compile

/-!
# From a document to its program

A document is read to its end, decoded, split into tokens and parsed, and the first of these steps that fails
gives the error in place of a program. There is one case for each of them (`SourceResult`), so that what is
asked of a document without a program is asked of the errors of these steps only.

All but the first of these errors say that the document is no program (`RunError.rejects`). Such errors come
from the document and from nowhere else: what fails later, be it the evaluation or the sink, has errors of
another sort. So compiling rejects exactly the documents that are no programs.

Main definitions:

- `SourceResult`: what becomes of a source;
- `RunError.rejects`: errors of a document that is no program.

Main statements:

- `Source.result`: a source comes to its result;
- `compile_of_rejected`, `program_of_compile_rejects`: compiling a document that is no program;
- `compile_rejects_iff`: compiling rejects the documents that are no programs.
-/

namespace RuleText

/-! ### The steps -/

/-- What becomes of a source: the error of the first step that fails, or a program. -/
inductive SourceResult (source : Source) : Except RunError Program → Prop where
  | interrupted {reason : String} (h : source.failure = some reason) :
      SourceResult source (.error (.transfer reason))
  | undecoded {fault : Utf8Error} (hread : source.failure = none) (h : decodeUtf8 source.bytes = .error fault) :
      SourceResult source (.error (.encoding fault))
  | unscanned {text : List Char} {e : ScanError} (hread : source.failure = none)
      (hdecoded : decodeUtf8 source.bytes = .ok text) (h : Program.ofText? text = .error (.scan e)) :
      SourceResult source (.error (.scan e))
  | unparsed {text : List Char} {e : ParseError} {span : Option Span} (hread : source.failure = none)
      (hdecoded : decodeUtf8 source.bytes = .ok text) (h : Program.ofText? text = .error (.parse e span)) :
      SourceResult source (.error (.parse e span))
  | program {text : List Char} {p : Program} (hread : source.failure = none)
      (hdecoded : decodeUtf8 source.bytes = .ok text) (h : Program.ofText? text = .ok p) :
      SourceResult source (.ok p)

/-- **A source comes to its result.** -/
theorem Source.result (source : Source) : SourceResult source source.program := by
  unfold Source.program
  cases hread : source.failure with
  | some reason => exact .interrupted hread
  | none =>
    simp only
    cases hdecoded : decodeUtf8 source.bytes with
    | error fault => exact .undecoded hread hdecoded
    | ok text =>
      simp only
      cases hparsed : Program.ofText? text with
      | error e =>
        cases e with
        | scan e => exact .unscanned hread hdecoded hparsed
        | parse e span => exact .unparsed hread hdecoded hparsed
      | ok p => exact .program hread hdecoded hparsed

/-- The result of a source, when its program or its error is known. -/
theorem Source.result_of_program {source : Source} {result : Except RunError Program}
    (h : source.program = result) : SourceResult source result :=
  h ▸ source.result

/-- A source that has been read has an error of the encoding exactly when its bytes are no text. -/
theorem Source.program_encoding_iff {source : Source} (hread : source.failure = none) (fault : Utf8Error) :
    source.program = .error (.encoding fault) ↔ decodeUtf8 source.bytes = .error fault := by
  constructor
  · intro h
    cases Source.result_of_program h with
    | undecoded _ hdecoded => exact hdecoded
  · intro h
    unfold Source.program
    simp only [hread, h]

/-! ### Documents that are rejected -/

/-- Whether an error says that a document is no program. -/
def RunError.rejects : RunError → Bool
  | encoding _ | scan _ | parse _ _ => true
  | transfer _ | eval _ | properties _ => false

/-- Nothing is emitted for a document that is no program. -/
theorem compile_of_rejected {source : Source} {e : RunError} (h : source.program = .error e)
    (properties : Properties) (sink : Sink) : compile source properties sink = (.error e, sink) := by
  unfold compile
  rw [h]

/-- A rejection is that of the program, since neither a run nor a sink rejects a document. -/
theorem program_of_compile_rejects {source : Source} {properties : Properties} {sink : Sink} {e : RunError}
    (h : (compile source properties sink).1 = .error e) (he : e.rejects = true) :
    source.program = .error e := by
  unfold compile at h
  cases hprogram : source.program with
  | error other =>
    simp only [hprogram] at h
    rw [Except.error.inj h]
  | ok p =>
    simp only [hprogram] at h
    rcases hrun : p.evaluate properties ({ sink := sink } : Staged) with ⟨fault | stats, stage⟩
    · -- the evaluation has stopped, which is an error of its own
      simp only [hrun] at h
      cases h
      cases he
    · simp only [hrun] at h
      rcases hfinish : stage.finish with ⟨fault | ⟨⟩, finished⟩
      · -- or what was held back does not fit the sink
        simp only [hfinish] at h
        cases h
        cases he
      · simp only [hfinish] at h
        cases h

/-- What a source that has been read has in place of a program rejects it. -/
theorem Source.rejects_of_program {source : Source} {e : RunError} (hread : source.failure = none)
    (h : source.program = .error e) : e.rejects = true := by
  cases Source.result_of_program h with
  | interrupted hfailure => cases hread.symm.trans hfailure
  | undecoded _ _ => rfl
  | unscanned _ _ _ => rfl
  | unparsed _ _ _ => rfl

/-- **Compiling rejects the documents that are no programs**, whatever the properties and the sink are. -/
theorem compile_rejects_iff {source : Source} {e : RunError} (hread : source.failure = none)
    (properties : Properties) (sink : Sink) :
    (compile source properties sink).1 = .error e ∧ e.rejects = true ↔ source.program = .error e := by
  constructor
  · intro h
    exact program_of_compile_rejects h.1 h.2
  · intro h
    exact ⟨congrArg Prod.fst (compile_of_rejected h properties sink), Source.rejects_of_program hread h⟩

end RuleText

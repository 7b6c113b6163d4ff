import RuleText.Proofs.CommandLine.Steps

/-!
# Checking a document

A run that only checks its document stops where a run that compiles would begin to emit. Both read the document
to the end and take it for a program in the same way, so they accept the same documents. An error that says
where the program breaks off, or which token there is none for, is reported by both in the same words.

They differ in a document that is no text at all. To compile it is to be told which bytes are wrong. The check
says that the document could not be read, which is the error of a device, and does not say where
(`RunError.checked`).

Main definition:

- `RunError.checked`: how the check puts the error of a document.

Main statements:

- `checkSource_eq`: the check is the program of a source, without the program;
- `Directory.run_check`: a run that checks, compared with compiling the same bytes;
- `Directory.not_check_agrees`: a document of one byte on which the two report different errors.
-/

namespace RuleText

/-! ### The check of a source -/

/-- An error as the check puts it. -/
def RunError.checked : RunError → RunError
  | encoding _ => transfer "stream did not contain valid UTF-8"
  | e => e

/-- **The check is the program of a source, without the program.** -/
theorem checkSource_eq (source : Source) :
    checkSource source = (source.program.mapError RunError.checked).map fun _ => () := by
  unfold checkSource
  cases source.program with
  | ok p => rfl
  | error e => cases e <;> rfl

/-- Only the error of a document that is no text is put differently. -/
theorem RunError.checked_eq_iff (e : RunError) : e.checked = e ↔ ∀ fault, e ≠ .encoding fault := by
  cases e with
  | encoding fault => exact iff_of_false nofun fun h => h fault rfl
  | _ => exact iff_of_true rfl nofun

/-- And it is told apart by its first letter. -/
theorem RunError.message_checked_encoding (fault : Utf8Error) :
    (RunError.encoding fault).checked.message ≠ (RunError.encoding fault).message := by
  intro h
  have hfirst : (RunError.encoding fault).checked.message.toList.head? =
      (RunError.encoding fault).message.toList.head? :=
    congrArg (fun text : String => text.toList.head?) h
  unfold message at hfirst
  simp [checked, toString] at hfirst

namespace Directory

/-! ### Runs that check -/

/-- A run that checks looks at its document and at nothing else, and leaves the directory as it is. -/
theorem run_checkOnly (d : Directory) {options : Options} {properties : Properties}
    {handle : DirectoryHandle} (hcheck : options.checkOnly = true)
    (hprepared : d.prepared? options = .ok (properties, handle)) :
    d.run options = (checkSource (d.readAll handle), d) := by
  rw [run_eq, inSteps, hprepared]
  show (if options.checkOnly then _ else _) = _
  rw [if_pos hcheck]

/-- **The check of a document, and compiling the same bytes.** The directory is left as it is. The check ends
well exactly if compiling into some sink comes past the program, be it with an error of the evaluation or of
the sink. If compiling rejects a document, then the check reports the same error, as long as the document is
text. If the document is no text, compiling reports the first bytes that are wrong; the check reports a failed
transfer, and not in the same words. -/
theorem run_check (d : Directory) {options : Options} {properties : Properties}
    {handle : DirectoryHandle} {bytes : Bytes} (hcheck : options.checkOnly = true)
    (hprepared : d.prepared? options = .ok (properties, handle))
    (hread : d.readAll handle = { bytes := bytes }) (sink : Sink) :
    (d.run options).2 = d ∧
      ((d.run options).1 = .ok () ↔
        ∀ e, (compile { bytes := bytes } properties sink).1 = .error e → e.rejects = false) ∧
      ∀ e, (compile { bytes := bytes } properties sink).1 = .error e → e.rejects = true →
        (d.run options).1 = .error e.checked ∧
          ((∃ text, decodeUtf8 bytes = .ok text) → e.checked = e) ∧
          ∀ fault, decodeUtf8 bytes = .error fault →
            e = .encoding fault ∧ e.checked = .transfer "stream did not contain valid UTF-8" ∧
              e.checked.message ≠ e.message := by
  have hreadable : ({ bytes := bytes } : Source).failure = none := rfl
  -- compiling rejects the document exactly with the error that stands in the place of its program
  have hrejects := fun e => compile_rejects_iff (e := e) hreadable properties sink
  have hrun : d.run options =
      (((({ bytes := bytes } : Source).program.mapError RunError.checked).map fun _ => ()), d) := by
    rw [d.run_checkOnly hcheck hprepared, hread, checkSource_eq]
  refine ⟨congrArg Prod.snd hrun, ?_, fun e hcompile he => ?_⟩
  · rw [hrun]
    cases hprogram : ({ bytes := bytes } : Source).program with
    | ok p =>
      -- with a program at hand, no error of compiling is a rejection
      refine iff_of_true rfl fun e hcompile => ?_
      apply Bool.eq_false_iff.mpr
      intro he
      cases hprogram.symm.trans ((hrejects e).mp ⟨hcompile, he⟩)
    | error e =>
      -- without one, compiling rejects the document, and so does the check
      refine iff_of_false nofun fun hnever => ?_
      obtain ⟨hcompile, he⟩ := (hrejects e).mpr hprogram
      exact absurd he (Bool.eq_false_iff.mp (hnever e hcompile))
  · have hprogram := (hrejects e).mp ⟨hcompile, he⟩
    refine ⟨?_, fun ⟨text, htext⟩ => ?_, fun fault hfault => ?_⟩
    · rw [hrun, hprogram]
      rfl
    · -- the check rewords no error but that of the encoding, which a text does not have
      apply e.checked_eq_iff.mpr
      rintro fault rfl
      cases htext.symm.trans ((Source.program_encoding_iff hreadable fault).mp hprogram)
    · -- and bytes that are no text have no other one
      have hencoding := (Source.program_encoding_iff hreadable fault).mpr hfault
      obtain rfl : e = .encoding fault := Except.error.inj (hprogram.symm.trans hencoding)
      exact ⟨rfl, rfl, RunError.message_checked_encoding fault⟩

/-! ### A document that is no text -/

/-- A document of one byte that begins no character. -/
def malformed : Directory where
  files := ⟨[("doc", [0xFF])]⟩

/-- A run that only checks the document. -/
def checking : Options where
  source := "doc"
  checkOnly := true

theorem prepared?_malformed : malformed.prepared? checking = .ok ({}, .file "doc") := rfl

/-- Compiling the document reports the byte, and the check that it could not be read. -/
theorem run_check_malformed :
    checking.checkOnly = true ∧ malformed.prepared? checking = .ok ({}, .file "doc") ∧
      malformed.readAll (.file "doc") = { bytes := [0xFF] } ∧
      (compile { bytes := [0xFF] } {} {}).1 = .error (.encoding ⟨0, .invalid 1⟩) ∧
      (malformed.run checking).2 = malformed ∧
      ((malformed.run checking).1 = .ok () ↔
        ∀ e, (compile { bytes := [0xFF] } {} {}).1 = .error e → e.rejects = false) ∧
      ∀ e, (compile { bytes := [0xFF] } {} {}).1 = .error e → e.rejects = true →
        (malformed.run checking).1 = .error e.checked ∧
          ((∃ text, decodeUtf8 [0xFF] = .ok text) → e.checked = e) ∧
          ∀ fault, decodeUtf8 [0xFF] = .error fault →
            e = .encoding fault ∧ e.checked = .transfer "stream did not contain valid UTF-8" ∧
              e.checked.message ≠ e.message :=
  ⟨rfl, prepared?_malformed, rfl, rfl, run_check malformed rfl prepared?_malformed rfl {}⟩

/-- **The check does not always agree.** It is not so that a document which is rejected when it is compiled is
rejected by the check with the same error. -/
theorem not_check_agrees :
    ¬ ∀ (d : Directory) (options : Options) (properties : Properties) (handle : DirectoryHandle)
        (bytes : Bytes) (sink : Sink) (e : RunError),
      options.checkOnly = true → d.prepared? options = .ok (properties, handle) →
        d.readAll handle = { bytes := bytes } → (compile { bytes := bytes } properties sink).1 = .error e →
          e.rejects = true → (d.run options).1 = .error e := by
  intro hagree
  have hsame := hagree malformed checking {} (.file "doc") [0xFF] {} (.encoding ⟨0, .invalid 1⟩) rfl
    prepared?_malformed rfl rfl rfl
  -- the check of this document has the error of a transfer
  have hchecked : malformed.run checking =
      (.error (.transfer "stream did not contain valid UTF-8"), malformed) :=
    run_checkOnly malformed rfl prepared?_malformed
  rw [hchecked] at hsame
  cases hsame

end Directory

end RuleText

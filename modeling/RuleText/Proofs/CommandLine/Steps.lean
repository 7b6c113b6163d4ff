import RuleText.CommandLine.Directory
import RuleText.Proofs.Compile
import RuleText.Proofs.Source

/-!
# The steps of a run in a directory

A run is written for any host, so in a directory every step of it takes the directory along. Only two steps
change it: opening the output, which empties the file, and the write at the end. The others look at the
directory as it was at the beginning, and can be said without passing it on. What they come to is put
together in `prepared?`: the properties, and the document opened.

A document is read and judged before anything of it is emitted, so when it is rejected, the write at the end is
a write of nothing.

Every handle takes or refuses bytes as some sink does (`sinkOf`): most take all of them, and those that cannot be
written to refuse the first. So what compiling to a handle comes to is said by compiling into that sink.

Main definitions:

- `Directory.prepared?`, `Directory.opened`, `Directory.compiled`: what the steps of a run come to;
- `Directory.sinkOf`: what becomes of bytes that are written to a handle;
- `Directory.inSteps`: the steps one after the other.

Main statements:

- `Directory.compiled_fst`: compiling to a handle is compiling into a sink;
- `Directory.run_eq`: a run, step by step;
- `Directory.run_of_rejected`: a run that ends with the rejection of its document.
-/

namespace RuleText

namespace Directory

variable (d : Directory) (options : Options)

/-! ### Steps that look at the directory -/

/-- The properties of the file of a run. -/
def propertiesFile? : Option String → Except PropertiesError Properties
  | none => .ok {}
  | some path =>
    match d.openFile path with
    | .error fault => .error (.unreadable fault.message)
    | .ok file => (d.readAll file).properties

/-- The properties of a run. -/
def properties? : Except PropertiesError Properties :=
  match d.propertiesFile? options.propertiesFile with
  | .error e => .error e
  | .ok properties => properties.assign options.assignments

/-- The document of a run. -/
def source? : Except String DirectoryHandle :=
  if options.source = "-" then .ok .input else (d.openFile options.source).mapError PathFault.message

/-- What a run has at hand when it comes to its document: the properties, and the document opened. -/
def prepared? : Except RunError (Properties × DirectoryHandle) :=
  match d.properties? options with
  | .error e => .error (.properties e)
  | .ok properties =>
    match d.source? options with
    | .error reason => .error (.transfer reason)
    | .ok source => .ok (properties, source)

/-- The document has not been looked at so far. -/
theorem rejects_of_prepared? {e : RunError} (h : d.prepared? options = .error e) : e.rejects = false := by
  unfold prepared? at h
  cases hproperties : d.properties? options with
  | error fault =>
    rw [hproperties] at h
    cases h
    rfl
  | ok properties =>
    rw [hproperties] at h
    cases hsource : d.source? options with
    | error reason =>
      rw [hsource] at h
      cases h
      rfl
    | ok source =>
      rw [hsource] at h
      cases h

/-- In sequence, the second computation gets the directory that the first one leaves. -/
theorem bind_apply {α β : Type} (x : StateM Directory α) (f : α → StateM Directory β) :
    (x >>= f) d = f (x d).1 (x d).2 := rfl

theorem loadPropertiesFile_eq (path : Option String) :
    loadPropertiesFile host path d = (d.propertiesFile? path, d) := by
  cases path with
  | none => rfl
  | some path =>
    have hopen : host.openFile path d = ((d.openFile path).mapError PathFault.message, d) := rfl
    unfold loadPropertiesFile propertiesFile?
    simp only [bind_apply, hopen]
    cases d.openFile path with
    | error fault => rfl
    | ok file => rfl

/-- Loading properties leaves the directory as it is. -/
theorem loadProperties_eq : loadProperties host options d = (d.properties? options, d) := by
  unfold loadProperties properties?
  rw [bind_apply, loadPropertiesFile_eq]
  cases d.propertiesFile? options.propertiesFile with
  | error e => rfl
  | ok properties => rfl

/-- And so does opening the document. -/
theorem openSource_eq : openSource host options d = (d.source? options, d) := by
  unfold openSource source?
  split
  · rfl
  · rfl

/-! ### Steps that change the directory -/

/-- The output of a run, and the directory when it has been opened. -/
def opened : Except String DirectoryHandle × Directory :=
  match options.output with
  | none => (.ok .output, d)
  | some path =>
    match d.createFile path with
    | .error fault => (.error fault.message, d)
    | .ok (handle, d) => (.ok handle, d)

theorem openOutput_eq : openOutput host options d = d.opened options := by
  unfold openOutput opened
  cases options.output with
  | none => rfl
  | some path =>
    simp only [host]
    cases d.createFile path with
    | error fault => rfl
    | ok answer => rfl

/-- An output that is a file has been created. -/
theorem createFile_of_opened {path : String} (hpath : options.output = some path)
    {target : DirectoryHandle} {after : Directory} (h : d.opened options = (.ok target, after)) :
    d.createFile path = .ok (target, after) := by
  unfold opened at h
  rw [hpath] at h
  simp only at h
  cases hcreate : d.createFile path with
  | error fault =>
    rw [hcreate] at h
    cases h
  | ok created =>
    rw [hcreate] at h
    obtain ⟨hanswer, rfl⟩ := Prod.mk.inj h
    rw [← Except.ok.inj hanswer]

/-- Compiles from one handle to another. -/
def compiled (properties : Properties) (source target : DirectoryHandle) :
    Except RunError Unit × Directory :=
  let (answer, sink) := compile (d.readAll source) properties {}
  match d.write target sink.taken with
  | (.ok (), after) => (answer.map fun _ => (), after)
  | (.error (taken, reason), after) =>
    ((compile (d.readAll source) properties (refusingSink taken reason)).1.map fun _ => (), after)

theorem compileBetween_eq (properties : Properties) (source target : DirectoryHandle) :
    compileBetween host properties source target d = d.compiled properties source target := by
  have hread : host.readAll source d = (d.readAll source, d) := rfl
  have hwrite : ∀ bytes, host.write target bytes d = d.write target bytes := fun _ => rfl
  unfold compileBetween compiled
  simp only [bind_apply, hread, hwrite]
  rcases d.write target (compile (d.readAll source) properties {}).2.taken with ⟨⟨taken, reason⟩ | ⟨⟩, after⟩
  · rfl
  · rfl

/-- The sink that a handle is to a run that writes to it. -/
def sinkOf : DirectoryHandle → Sink
  | .input => refusingSink 0 "Bad file descriptor (os error 9)"
  | .directory => refusingSink 0 PathFault.isDirectory.message
  | .full => refusingSink 0 "No space left on device (os error 28)"
  | .output | .nothing | .file _ => {}

/-- **Compiling to a handle** comes to what compiling into its sink comes to. -/
theorem compiled_fst (properties : Properties) (source target : DirectoryHandle) :
    (d.compiled properties source target).1 =
      (compile (d.readAll source) properties (sinkOf target)).1.map fun _ => () := by
  unfold compiled
  -- a device that takes nothing is the only target that can refuse what is written
  cases target with
  | input => rfl
  | directory => rfl
  | output => rfl
  | nothing => rfl
  | file path => rfl
  | full =>
    generalize hdocument : d.readAll source = document
    cases hprogram : document.program with
    | error e =>
      -- a document that is no program emits nothing
      simp only [compile_of_rejected hprogram]
      rfl
    | ok p =>
      -- the device takes a run that emits nothing, as its sink does
      have hfree : ({} : Sink).taken = [] := rfl
      have hfull : (sinkOf .full).taken = [] := rfl
      have hgiven := (compile_given p properties hfree hprogram).1
      have htaken : (compile document properties {}).2.taken = p.emitted properties :=
        congrArg Sink.taken hgiven
      simp only [write, htaken]
      cases hemitted : p.emitted properties with
      | cons b rest => rfl
      | nil =>
        have hnone : ¬ Exceeds none (p.emitted properties) := not_exceeds_none _
        have hzero : ¬ Exceeds (some 0) (p.emitted properties) := by
          rw [hemitted]
          exact not_exceeds_nil _
        -- nothing fits in nothing, so both sinks give the same answer
        rw [compile_of_fits p properties hfull hprogram hzero rfl,
          ← compile_of_fits p properties hfree hprogram hnone rfl]
        rfl

/-- A run without a host: the output is opened before the document is read. -/
def inSteps : Except RunError Unit × Directory :=
  match d.prepared? options with
  | .error e => (.error e, d)
  | .ok (properties, source) =>
    if options.checkOnly then (checkSource (d.readAll source), d)
    else
      match d.opened options with
      | (.error reason, d) => (.error (.transfer reason), d)
      | (.ok target, d) => d.compiled properties source target

/-- **A run, step by step.** -/
theorem run_eq : d.run options = d.inSteps options := by
  unfold Directory.run RuleText.run inSteps prepared?
  rw [bind_apply, loadProperties_eq]
  cases d.properties? options with
  | error e => rfl
  | ok properties =>
    simp only [bind_apply, openSource_eq]
    cases d.source? options with
    | error reason => rfl
    | ok source =>
      simp only
      split
      · rfl
      · -- from here on the directory is the one in which the output is empty
        rw [bind_apply, openOutput_eq]
        rcases d.opened options with ⟨reason | target, after⟩
        · rfl
        · exact after.compileBetween_eq properties source target

/-! ### Runs that reject their document -/

theorem compiled_of_rejected {properties : Properties} {source target : DirectoryHandle} {e : RunError}
    (h : (d.compiled properties source target).1 = .error e) (he : e.rejects = true) :
    (d.readAll source).program = .error e ∧
      (d.compiled properties source target).2 = (d.write target []).2 := by
  have hanswer : (compile (d.readAll source) properties (sinkOf target)).1 = .error e := by
    rw [compiled_fst] at h
    cases hcompile : (compile (d.readAll source) properties (sinkOf target)).1 with
    | error other =>
      rw [hcompile] at h
      exact congrArg Except.error (Except.error.inj h)
    | ok stats =>
      rw [hcompile] at h
      cases h
  have hprogram := program_of_compile_rejects hanswer he
  refine ⟨hprogram, ?_⟩
  -- nothing was emitted, so nothing was written
  unfold compiled
  simp only [compile_of_rejected hprogram]
  rcases d.write target [] with ⟨⟨taken, reason⟩ | ⟨⟩, after⟩
  · rfl
  · rfl

/-- **A run that ends with the rejection of its document.** Opening the output and a write of nothing are all
that has happened to the directory. -/
theorem run_of_rejected (hcompiles : options.checkOnly = false) {e : RunError}
    (hrun : (d.run options).1 = .error e) (he : e.rejects = true) :
    ∃ source target after, d.opened options = (.ok target, after) ∧
      (after.readAll source).program = .error e ∧ (d.run options).2 = (after.write target []).2 := by
  rw [run_eq] at hrun ⊢
  unfold inSteps at hrun ⊢
  cases hprepared : d.prepared? options with
  | error other =>
    rw [hprepared] at hrun
    obtain rfl := Except.error.inj hrun
    rw [d.rejects_of_prepared? options hprepared] at he
    cases he
  | ok prepared =>
    obtain ⟨properties, source⟩ := prepared
    simp only [hprepared, hcompiles, Bool.false_eq_true, if_false] at hrun ⊢
    rcases hopened : d.opened options with ⟨reason | target, after⟩
    · rw [hopened] at hrun
      cases hrun
      cases he
    · rw [hopened] at hrun
      obtain ⟨hprogram, hafter⟩ := after.compiled_of_rejected hrun he
      exact ⟨source, target, after, rfl, hprogram, hafter⟩

end Directory

end RuleText

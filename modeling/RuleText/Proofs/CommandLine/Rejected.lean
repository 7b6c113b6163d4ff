import RuleText.Proofs.CommandLine.Steps
import RuleText.Proofs.Table

/-!
# Output files of rejected documents

A run that compiles opens its output before it reads its document, and opening a file for writing empties
it. Whether the document is a program is only known later, so a document that is rejected costs an output
file what it held before. Nothing is written for it, which leaves the file empty and all else as it was.

How a path is followed depends on which files there are and not on what they hold, so an emptied file is
found again under the path that was given for it.

On standard output nothing can be lost in this way, so there a rejected document changes nothing.

Main statements:

- `Directory.resolve_congr`: paths lead to the same places when the files have the same names;
- `Directory.createFile_of_content`: opening an existing file for writing;
- `Directory.run_rejected_keeps`, `Directory.run_rejected_empties`: the directory after a rejected document,
  without and with an output file;
- `Directory.not_rejected_keeps`: a document with a missing parenthesis, and earlier results that are lost.
-/

namespace RuleText.Directory

/-! ### Directories with the same files -/

theorem isDirectory_inside (d : Directory) (path : List String) :
    d.isDirectory (.inside path) =
      (path.isEmpty || d.files.names.any fun name => (pathText path ++ "/").isPrefixOf name) := by
  unfold isDirectory Table.names
  rw [List.any_map]
  rfl

section Names

variable {d other : Directory} (h : d.files.names = other.files.names)

include h

theorem isDirectory_congr (place : Place) : d.isDirectory place = other.isDirectory place := by
  cases place with
  | inside path => rw [isDirectory_inside, isDirectory_inside, h]
  | above => rfl
  | rooted path => rfl
  | lost => rfl

theorem file?_congr (place : Place) : d.file? place = other.file? place := by
  cases place with
  | inside path =>
    have hcontains : d.files.contains (pathText path) = other.files.contains (pathText path) := by
      rw [Bool.eq_iff_iff, Table.contains_eq_true_iff, Table.contains_eq_true_iff, h]
    simp only [file?, hcontains]
  | above => rfl
  | rooted path => rfl
  | lost => rfl

theorem follow_congr (place : Place) (parts : List String) :
    d.follow place parts = other.follow place parts := by
  induction parts generalizing place with
  | nil => rfl
  | cons part rest ih =>
    -- of a place it is only asked whether it is a directory or a file
    unfold follow
    rw [isDirectory_congr h, file?_congr h, ih place, ih place.outer, ih (place.entry part)]

/-- **Paths lead to the same places when the files have the same names.** -/
theorem resolve_congr (path : String) : d.resolve path = other.resolve path := by
  unfold resolve
  split
  · rfl
  · -- a path that is not empty is followed, from the root or from the working directory
    split
    · rfl
    · exact follow_congr h _ _
    · exact follow_congr h _ _

end Names

/-! ### A file that is emptied -/

/-- A directory with one file emptied. -/
def emptied (d : Directory) (names : List String) : Directory :=
  { d with files := d.files.insert (pathText names) [] }

variable {d : Directory} {path : String} {before : Bytes}

theorem content?_eq_some_iff :
    d.content? path = some before ↔
      ∃ names, d.resolve path = .ok (.inside names) ∧ d.files.get? (pathText names) = some before := by
  unfold content?
  split
  · rename_i names hresolve
    refine ⟨fun hget => ⟨names, hresolve, hget⟩, ?_⟩
    rintro ⟨_, hother, hget⟩
    obtain rfl := Place.inside.inj (Except.ok.inj (hresolve.symm.trans hother))
    exact hget
  · rename_i hplaces
    refine ⟨nofun, ?_⟩
    rintro ⟨names, hresolve, -⟩
    exact absurd hresolve (hplaces names)

theorem get?_emptied (d : Directory) (names : List String) :
    (d.emptied names).files.get? (pathText names) = some [] := by
  unfold emptied
  rw [Table.get?_insert, if_pos rfl]

/-- An emptied file is found where it was. -/
theorem content?_emptied {names : List String} (hresolve : d.resolve path = .ok (.inside names))
    (hcontains : d.files.contains (pathText names) = true) :
    (d.emptied names).content? path = some [] := by
  -- no file comes or goes, so the path leads to the same place
  have hnames : (d.emptied names).files.names = d.files.names :=
    Table.names_insert_of_contains hcontains []
  exact content?_eq_some_iff.mpr ⟨names, (resolve_congr hnames path).trans hresolve, d.get?_emptied names⟩

/-- **Opening an existing file for writing empties it.** -/
theorem createFile_of_content {names : List String} (hresolve : d.resolve path = .ok (.inside names))
    {target : DirectoryHandle} {after : Directory} (h : d.createFile path = .ok (target, after)) :
    target = .file (pathText names) ∧ after = d.emptied names := by
  unfold createFile at h
  split at h
  · -- a slash at the end of the path is refused in any case
    simp only at h
    split at h
    · cases h
    · cases hplace : d.resolve (outerPath path ++ "/") with
      | error fault =>
        rw [hplace] at h
        cases h
      | ok place =>
        rw [hplace] at h
        cases h
  · -- and else the path is followed to the file
    rw [hresolve] at h
    change (if d.isDirectory (.inside names) then _ else _) = _ at h
    split at h
    · cases h
    · cases h
      exact ⟨rfl, rfl⟩

/-- A write of nothing to an emptied file. -/
theorem write_nothing (d : Directory) (names : List String) :
    ((d.emptied names).write (.file (pathText names)) []).2 = d.emptied names := by
  have hinsert : (d.emptied names).files.insert (pathText names) [] = (d.emptied names).files :=
    d.files.insert_insert (pathText names) [] []
  simp only [write, get?_emptied, Option.getD_some, List.append_nil, hinsert]

/-! ### Rejected documents -/

/-- On standard output a rejected document leaves no trace. -/
theorem run_rejected_keeps (d : Directory) (options : Options) {e : RunError}
    (hcompiles : options.checkOnly = false) (houtput : options.output = none)
    (hrun : (d.run options).1 = .error e) (he : e.rejects = true) : (d.run options).2 = d := by
  obtain ⟨source, target, after, hopened, -, hafter⟩ := d.run_of_rejected options hcompiles hrun he
  unfold opened at hopened
  rw [houtput] at hopened
  obtain ⟨htarget, rfl⟩ := Prod.mk.inj hopened
  obtain rfl := Except.ok.inj htarget
  -- nothing has been opened, and nothing is appended to what came out before
  rw [hafter, write, List.append_nil]

/-- **A rejected document costs the output file its content.** If a run that compiles into an existing file
ends with the rejection of its document, then that file is empty and all else is as it was. So the file
keeps what it held exactly if it held nothing. -/
theorem run_rejected_empties (d : Directory) (options : Options) {path : String} {before : Bytes}
    {e : RunError} (hcompiles : options.checkOnly = false) (houtput : options.output = some path)
    (hfile : d.content? path = some before) (hrun : (d.run options).1 = .error e)
    (he : e.rejects = true) :
    ∃ names, d.resolve path = .ok (.inside names) ∧ (d.run options).2 = d.emptied names ∧
      (d.run options).2.content? path = some [] ∧
      ((d.run options).2.content? path = some before ↔ before = []) := by
  obtain ⟨names, hresolve, hget⟩ := content?_eq_some_iff.mp hfile
  obtain ⟨source, target, after, hopened, -, hafter⟩ := d.run_of_rejected options hcompiles hrun he
  -- the output has been created, and that is where the content is lost
  have hcreate : d.createFile path = .ok (target, after) := d.createFile_of_opened options houtput hopened
  obtain ⟨rfl, rfl⟩ := createFile_of_content hresolve hcreate
  rw [d.write_nothing names] at hafter
  have hcontains : d.files.contains (pathText names) = true := by
    unfold Table.contains
    rw [hget]
    rfl
  have hempty : (d.run options).2.content? path = some [] := by
    rw [hafter]
    exact content?_emptied hresolve hcontains
  refine ⟨names, hresolve, hafter, hempty, ?_⟩
  rw [hempty, Option.some_inj]
  exact eq_comm

/-! ### Earlier results that are lost -/

/-- Earlier results, and a document whose last parenthesis is not closed. -/
def spoiled : Directory where
  files := ⟨[("doc", encodeUtf8 "() \x7bnew\x7d\n(".toList), ("out", encodeUtf8 "old\n".toList)]⟩

/-- The error of that document. -/
def unclosed : RunError :=
  .parse { fault := .endOfInput "`)`", position := 4, contexts := ["statement", "program"] } none

theorem content?_spoiled : spoiled.content? "out" = some (encodeUtf8 "old\n".toList) := rfl

theorem run_spoiled :
    spoiled.run { source := "doc", output := some "out" } = (.error unclosed, spoiled.emptied ["out"]) := by
  have hprepared : spoiled.prepared? { source := "doc", output := some "out" } = .ok ({}, .file "doc") := rfl
  have hopened : spoiled.opened { source := "doc", output := some "out" } =
      (.ok (.file "out"), spoiled.emptied ["out"]) := rfl
  have hprogram : ((spoiled.emptied ["out"]).readAll (.file "doc")).program = .error unclosed := rfl
  rw [run_eq, inSteps, hprepared]
  simp only [Bool.false_eq_true, if_false, hopened, compiled, compile_of_rejected hprogram]
  exact congrArg (Prod.mk _) (spoiled.write_nothing ["out"])

/-- A document with an open parenthesis is rejected, and the results of an earlier run are gone. -/
theorem run_rejected_empties_spoiled :
    spoiled.content? "out" = some (encodeUtf8 "old\n".toList) ∧
      (spoiled.run { source := "doc", output := some "out" }).1 = .error unclosed ∧
      unclosed.rejects = true ∧
      ∃ names, spoiled.resolve "out" = .ok (.inside names) ∧
        (spoiled.run { source := "doc", output := some "out" }).2 = spoiled.emptied names ∧
        (spoiled.run { source := "doc", output := some "out" }).2.content? "out" = some [] ∧
        ((spoiled.run { source := "doc", output := some "out" }).2.content? "out" =
            some (encodeUtf8 "old\n".toList) ↔
          encodeUtf8 "old\n".toList = []) := by
  have hrun : (spoiled.run { source := "doc", output := some "out" }).1 = .error unclosed :=
    congrArg Prod.fst run_spoiled
  exact ⟨content?_spoiled, hrun, rfl,
    run_rejected_empties spoiled { source := "doc", output := some "out" } rfl rfl content?_spoiled hrun rfl⟩

/-- **Not every file is kept.** It is not so that a run whose document is rejected leaves an output file, other
than the document, as it was. -/
theorem not_rejected_keeps :
    ¬ ∀ (d : Directory) (options : Options) (path : String) (before : Bytes) (e : RunError),
      options.checkOnly = false → options.output = some path → d.resolve options.source ≠ d.resolve path →
        d.content? path = some before → (d.run options).1 = .error e → e.rejects = true →
          (d.run options).2.content? path = some before := by
  intro hkeeps
  have hother : spoiled.resolve "doc" ≠ spoiled.resolve "out" := by
    have hdoc : spoiled.resolve "doc" = .ok (.inside ["doc"]) := rfl
    have hout : spoiled.resolve "out" = .ok (.inside ["out"]) := rfl
    rw [hdoc, hout]
    intro hsame
    exact absurd (Place.inside.inj (Except.ok.inj hsame)) (by decide)
  have hrun : (spoiled.run { source := "doc", output := some "out" }).1 = .error unclosed :=
    congrArg Prod.fst run_spoiled
  -- the directory of the example would have kept the results
  have hkept := hkeeps spoiled { source := "doc", output := some "out" } "out" _ unclosed rfl rfl hother
    content?_spoiled hrun rfl
  have hempty : (spoiled.emptied ["out"]).content? "out" = some [] := rfl
  rw [run_spoiled, hempty] at hkept
  cases hkept

end RuleText.Directory

import Mathlib.Data.List.TakeWhile
import RuleText.Proofs.CommandLine.Steps
import RuleText.Proofs.Table
import RuleText.Proofs.Text.Mark
import RuleText.Proofs.Text.Utf8

/-!
# Assignments on top of a file

The properties of a run come from a file and from assignments, `NAME=VALUE` each. An assignment is read by
its first equals sign: the name is what stands before it without the white space around it, and the value is
everything behind it. So names may agree that were written in different ways, and a value may hold equals
signs and white space of its own.

The file comes first, and the assignments are then put on top of it in order. What a name holds in the end is
thus said by the last assignment to that name, whatever the file had there, and by the file if there is none.
The first thing that goes wrong is what is reported.

Main definitions:

- `IsAssignment`, `Assigns`: texts that assign a value to a name;
- `Merged`: what becomes of a file and assignments on top of it.

Main statements:

- `readAssignment_eq_some_iff`, `readAssignment_eq_none_iff`: how an assignment is read;
- `Properties.merged_assign`: assignments put into properties;
- `loadProperties_merges`: the properties of a run on any host.
-/

namespace RuleText

/-! ### Reading an assignment -/

/-- A text with an equals sign, and with something that is no white space before the first one. -/
def IsAssignment (text : String) : Prop :=
  ∃ before after, text.toList = before ++ '=' :: after ∧ '=' ∉ before ∧ ∃ c ∈ before, isWhite c = false

/-- A text that assigns a value to a name: before its first equals sign stands the name, with white space
around it that does not count, and everything behind the sign is the value. -/
def Assigns (text name value : String) : Prop :=
  ∃ before, text.toList = before ++ '=' :: value.toList ∧ '=' ∉ before ∧ trim before = name.toList

/-- An equals sign is the first one if there is none in what stands before it. -/
theorem firstMark_equal_iff (before : List Char) : FirstMark ['='] before ↔ '=' ∉ before := by
  constructor
  · intro h hmem
    obtain ⟨earlier, behind, rfl⟩ := List.append_of_mem hmem
    have hnil := h earlier (behind ++ ['=']) (by simp)
    simp at hnil
  · intro h earlier behind heq
    -- an earlier sign would be one of what stands before
    rcases List.eq_nil_or_concat behind with hnil | ⟨inner, c, rfl⟩
    · exact hnil
    · have hbefore : before = earlier ++ ['='] ++ inner := by
        rw [List.concat_eq_append, ← List.append_assoc] at heq
        exact List.append_inj_left' heq rfl
      rw [hbefore] at h
      simp at h

theorem splitAtMark_equal_iff (text before after : List Char) :
    splitAtMark ['='] text = some (before, after) ↔ text = before ++ '=' :: after ∧ '=' ∉ before := by
  rw [splitAtMark_eq_some_iff (List.cons_ne_nil _ _), firstMark_equal_iff, List.append_assoc]
  rfl

/-- A text is read by its first equals sign. -/
theorem readAssignment_of_split {text : String} {before after : List Char}
    (htext : text.toList = before ++ '=' :: after) (hbefore : '=' ∉ before) :
    readAssignment text =
      if trim before = [] then none
      else some (String.ofList (trim before), .string (String.ofList after)) := by
  rw [readAssignment, (splitAtMark_equal_iff _ before after).mpr ⟨htext, hbefore⟩]
  simp only [List.isEmpty_iff]

/-- A text without an equals sign is none. -/
theorem readAssignment_of_notMem {text : String} (h : '=' ∉ text.toList) : readAssignment text = none := by
  have hsplit : splitAtMark ['='] text.toList = none := by
    refine Option.eq_none_iff_forall_ne_some.mpr ?_
    rintro ⟨before, after⟩ hsome
    obtain ⟨htext, -⟩ := (splitAtMark_equal_iff _ _ _).mp hsome
    rw [htext] at h
    simp at h
  rw [readAssignment, hsplit]

/-- **What is read is what the text assigns**, to a name that is not empty. -/
theorem readAssignment_eq_some_iff (text name : String) (v : Value) :
    readAssignment text = some (name, v) ↔
      name ≠ "" ∧ ∃ value, v = .string value ∧ Assigns text name value := by
  constructor
  · intro h
    by_cases hmem : '=' ∈ text.toList
    · obtain ⟨before, after, htext, hbefore⟩ := List.eq_append_cons_of_mem hmem
      rw [readAssignment_of_split htext hbefore] at h
      split at h
      · cases h
      · rename_i hne
        obtain ⟨rfl, rfl⟩ := Prod.mk.inj (Option.some.inj h)
        refine ⟨?_, String.ofList after, rfl, before, ?_, hbefore, String.toList_ofList.symm⟩
        · intro hempty
          exact hne (by simpa using hempty)
        · rw [String.toList_ofList]
          exact htext
    · rw [readAssignment_of_notMem hmem] at h
      cases h
  · rintro ⟨hname, value, rfl, before, htext, hbefore, htrim⟩
    have hne : trim before ≠ [] := by
      rw [htrim]
      simpa using hname
    rw [readAssignment_of_split htext hbefore, if_neg hne, htrim, String.ofList_toList, String.ofList_toList]

/-- **A text that is no assignment is refused.** -/
theorem readAssignment_eq_none_iff (text : String) : readAssignment text = none ↔ ¬ IsAssignment text := by
  constructor
  · rintro h ⟨before, after, htext, hbefore, c, hc, hblack⟩
    rw [readAssignment_of_split htext hbefore] at h
    split at h
    · rename_i hnil
      rw [(trim_eq_nil_iff before).mp hnil c hc] at hblack
      cases hblack
    · cases h
  · intro h
    by_cases hmem : '=' ∈ text.toList
    · obtain ⟨before, after, htext, hbefore⟩ := List.eq_append_cons_of_mem hmem
      have hnil : trim before = [] := by
        refine (trim_eq_nil_iff before).mpr fun c hc => ?_
        refine Bool.of_not_eq_false fun hblack => ?_
        exact h ⟨before, after, htext, hbefore, c, hc, hblack⟩
      rw [readAssignment_of_split htext hbefore, if_pos hnil]
    · exact readAssignment_of_notMem hmem

/-- A text that assigns to a name which is not empty is an assignment. -/
theorem Assigns.isAssignment {text name value : String} (h : Assigns text name value) (hname : name ≠ "") :
    IsAssignment text := by
  by_contra hno
  have hread := (readAssignment_eq_some_iff text name (.string value)).mpr ⟨hname, value, rfl, h⟩
  rw [(readAssignment_eq_none_iff text).mpr hno] at hread
  cases hread

/-! ### Assignments in order -/

/-- Assignments are put into properties in order. -/
theorem Properties.assign_of_entries (base : Properties) {texts : List String}
    {entries : List (String × Value)} (h : texts.map readAssignment = entries.map some) :
    base.assign texts = .ok (base.insertAll entries) := by
  induction texts generalizing base entries with
  | nil =>
    obtain rfl : entries = [] := List.map_eq_nil_iff.mp h.symm
    rfl
  | cons text others ih =>
    obtain ⟨⟨name, value⟩, rest, rfl, hread, hothers⟩ := List.map_eq_cons_iff.mp h.symm
    have hread : readAssignment text = some (name, value) := hread.symm
    rw [Properties.assign, hread]
    exact ih (base.insert name value) hothers.symm

/-- The first text that is no assignment ends this. -/
theorem Properties.assign_of_malformed (base : Properties) {before : List String} {text : String}
    (after : List String) (hbefore : ∀ t ∈ before, IsAssignment t) (htext : ¬ IsAssignment text) :
    base.assign (before ++ text :: after) = .error (.invalidAssignment text) := by
  induction before generalizing base with
  | nil => rw [List.nil_append, Properties.assign, (readAssignment_eq_none_iff text).mpr htext]
  | cons t others ih =>
    obtain ⟨ht, hothers⟩ := List.forall_mem_cons.mp hbefore
    rw [List.cons_append, Properties.assign]
    cases hread : readAssignment t with
    | none => exact absurd ht ((readAssignment_eq_none_iff t).mp hread)
    | some entry => exact ih (base.insert entry.1 entry.2) hothers

/-- Either all texts are assignments, or one of them is the first that is none. -/
theorem entries_or_malformed (texts : List String) :
    ((∀ text ∈ texts, IsAssignment text) ∧
        ∃ entries : List (String × Value), texts.map readAssignment = entries.map some) ∨
      ∃ before text after, texts = before ++ text :: after ∧ (∀ t ∈ before, IsAssignment t) ∧
        ¬ IsAssignment text := by
  induction texts with
  | nil => exact Or.inl ⟨by simp, [], rfl⟩
  | cons text others ih =>
    cases hread : readAssignment text with
    | none =>
      have htext := (readAssignment_eq_none_iff text).mp hread
      exact Or.inr ⟨[], text, others, rfl, by simp, htext⟩
    | some entry =>
      have htext : IsAssignment text := by
        by_contra hno
        rw [(readAssignment_eq_none_iff text).mpr hno] at hread
        cases hread
      rcases ih with ⟨hall, entries, hentries⟩ | ⟨before, t, after, rfl, hbefore, ht⟩
      · refine Or.inl ⟨List.forall_mem_cons.mpr ⟨htext, hall⟩, entry :: entries, ?_⟩
        rw [List.map_cons, List.map_cons, hread, hentries]
      · exact Or.inr ⟨text :: before, t, after, rfl, List.forall_mem_cons.mpr ⟨htext, hbefore⟩, ht⟩

/-- Assignments can be put into properties if all texts are assignments. -/
theorem Properties.assign_eq_ok_iff (base p : Properties) (texts : List String) :
    base.assign texts = .ok p ↔
      (∀ text ∈ texts, IsAssignment text) ∧
        ∃ entries, texts.map readAssignment = entries.map some ∧ p = base.insertAll entries := by
  constructor
  · intro h
    rcases entries_or_malformed texts with ⟨hall, entries, hentries⟩ | ⟨before, text, after, rfl, hbefore, htext⟩
    · rw [base.assign_of_entries hentries] at h
      exact ⟨hall, entries, hentries, (Except.ok.inj h).symm⟩
    · rw [base.assign_of_malformed after hbefore htext] at h
      cases h
  · rintro ⟨-, entries, hentries, rfl⟩
    exact base.assign_of_entries hentries

/-- Otherwise the first text that is none is reported. -/
theorem Properties.assign_eq_error_iff (base : Properties) (texts : List String) (e : PropertiesError) :
    base.assign texts = .error e ↔
      ∃ before text after, texts = before ++ text :: after ∧ (∀ t ∈ before, IsAssignment t) ∧
        ¬ IsAssignment text ∧ e = .invalidAssignment text := by
  constructor
  · intro h
    rcases entries_or_malformed texts with ⟨-, entries, hentries⟩ | ⟨before, text, after, rfl, hbefore, htext⟩
    · rw [base.assign_of_entries hentries] at h
      cases h
    · rw [base.assign_of_malformed after hbefore htext] at h
      exact ⟨before, text, after, rfl, hbefore, htext, (Except.error.inj h).symm⟩
  · rintro ⟨before, text, after, rfl, hbefore, htext, rfl⟩
    exact base.assign_of_malformed after hbefore htext

/-! ### What a name holds -/

/-- A text assigns one value to one name. -/
theorem Assigns.unique {text name value other otherValue : String} (h : Assigns text name value)
    (hother : Assigns text other otherValue) : name = other ∧ value = otherValue := by
  obtain ⟨before, htext, hbefore, hname⟩ := h
  obtain ⟨before', htext', hbefore', hother⟩ := hother
  have hsplit := (splitAtMark_equal_iff text.toList before value.toList).mpr ⟨htext, hbefore⟩
  rw [(splitAtMark_equal_iff text.toList before' otherValue.toList).mpr ⟨htext', hbefore'⟩] at hsplit
  obtain ⟨rfl, hvalue⟩ := Prod.mk.inj (Option.some.inj hsplit)
  exact ⟨String.toList_inj.mp (hname.symm.trans hother), (String.toList_inj.mp hvalue).symm⟩

/-- Only names that are assigned to are among those of the entries. -/
theorem notMem_names_of_entries {texts : List String} {entries : List (String × Value)}
    (h : texts.map readAssignment = entries.map some) {name : String}
    (hno : ∀ text ∈ texts, ∀ value, ¬ Assigns text name value) : name ∉ entries.map Prod.fst := by
  intro hmem
  obtain ⟨⟨_, v⟩, hentry, rfl⟩ := List.mem_map.mp hmem
  have hread := List.mem_map_of_mem (f := some) hentry
  rw [← h] at hread
  obtain ⟨text, htext, hread⟩ := List.mem_map.mp hread
  obtain ⟨-, value, -, hassigns⟩ := (readAssignment_eq_some_iff text _ v).mp hread
  exact hno text htext value hassigns

section Names

variable {base p : Properties} {name : String}

/-- A name that nothing is assigned to is left alone. -/
theorem Properties.get?_assign_of_not_assigns {texts : List String} (h : base.assign texts = .ok p)
    (hno : ∀ text ∈ texts, ∀ value, ¬ Assigns text name value) : p.get? name = base.get? name := by
  obtain ⟨-, entries, hentries, rfl⟩ := (base.assign_eq_ok_iff p texts).mp h
  exact base.get?_insertAll_of_notMem (notMem_names_of_entries hentries hno)

/-- **The last assignment to a name counts.** -/
theorem Properties.get?_assign_last {before : List String} {text : String} {after : List String}
    {value : String} (h : base.assign (before ++ text :: after) = .ok p) (hassigns : Assigns text name value)
    (hlater : ∀ later ∈ after, ∀ other, ¬ Assigns later name other) :
    p.get? name = some (.string value) := by
  obtain ⟨-, entries, hentries, rfl⟩ := (base.assign_eq_ok_iff p _).mp h
  -- the entries are cut where the texts are
  rw [List.map_append, List.map_cons] at hentries
  obtain ⟨first, rest, rfl, -, hrest⟩ := List.map_eq_append_iff.mp hentries.symm
  obtain ⟨⟨other, v⟩, last, rfl, hread, hlast⟩ := List.map_eq_cons_iff.mp hrest
  -- and the entry at the cut is that of the text
  obtain ⟨-, otherValue, rfl, hother⟩ := (readAssignment_eq_some_iff text other v).mp hread.symm
  obtain ⟨rfl, rfl⟩ := hassigns.unique hother
  exact base.get?_insertAll_last first _ (notMem_names_of_entries hlast.symm hlater)

end Names

/-! ### The properties of a run -/

/-- What becomes of the properties of a file, or of the error in their place, and assignments on top of
them. -/
structure Merged (file : Except PropertiesError Properties) (texts : List String)
    (answer : Except PropertiesError Properties) : Prop where
  /-- There are properties exactly if there are those of the file and all texts are assignments. -/
  succeeds : (∃ p, answer = .ok p) ↔ (∃ base, file = .ok base) ∧ ∀ text ∈ texts, IsAssignment text
  /-- A name that is assigned to holds the value of the last assignment to it. -/
  assigned : ∀ p, answer = .ok p → ∀ before text after name value, texts = before ++ text :: after →
    Assigns text name value → (∀ later ∈ after, ∀ other, ¬ Assigns later name other) →
      p.get? name = some (.string value)
  /-- Any other name holds what it held in the file. -/
  kept : ∀ base p, file = .ok base → answer = .ok p → ∀ name,
    (∀ text ∈ texts, ∀ value, ¬ Assigns text name value) → p.get? name = base.get? name
  /-- The error is that of the file, or else it names the first text that is no assignment. -/
  fails : ∀ e, answer = .error e ↔ file = .error e ∨
    ((∃ base, file = .ok base) ∧ ∃ before text after, texts = before ++ text :: after ∧
      (∀ t ∈ before, IsAssignment t) ∧ ¬ IsAssignment text ∧ e = .invalidAssignment text)

/-- Without the properties of a file there is nothing to put assignments on. -/
theorem merged_error (e : PropertiesError) (texts : List String) :
    Merged (.error e) texts (.error e) where
  succeeds := by simp
  assigned := by
    rintro p ⟨⟩
  kept := by
    rintro base p ⟨⟩
  fails := by simp

/-- **Assignments on top of properties.** -/
theorem Properties.merged_assign (base : Properties) (texts : List String) :
    Merged (.ok base) texts (base.assign texts) where
  succeeds := by
    constructor
    · rintro ⟨p, hp⟩
      exact ⟨⟨base, rfl⟩, ((base.assign_eq_ok_iff p texts).mp hp).1⟩
    · rintro ⟨-, hall⟩
      rcases entries_or_malformed texts with ⟨-, entries, hentries⟩ | ⟨before, text, after, rfl, -, htext⟩
      · exact ⟨_, base.assign_of_entries hentries⟩
      · exact absurd (hall text (List.mem_append_right before List.mem_cons_self)) htext
  assigned := by
    rintro p hp before text after name value rfl hassigns hlater
    exact Properties.get?_assign_last hp hassigns hlater
  kept := by
    intro base' p hbase hp name hno
    obtain rfl := Except.ok.inj hbase
    exact Properties.get?_assign_of_not_assigns hp hno
  fails := by
    intro e
    rw [base.assign_eq_error_iff texts e]
    simp

/-- Bytes that encode a text hold the properties of that text. -/
theorem Properties.ofJsonBytes?_encode (text : String) :
    ofJsonBytes? (encodeUtf8 text.toList) = ofJson? text := by
  rw [ofJsonBytes?, decodeMarked_encode, ofJson?]

/-- **The properties of a run**, on any host. Without a file the assignments are put on top of nothing. Otherwise
the file is opened and read to its end, and they are put on top of what its bytes hold as JSON, or of the
error in its place: that the file cannot be opened, that reading it breaks off, or that its bytes hold no
object of scalars. Bytes that encode a text hold what the text does. Of the assignments the last one to each
name counts, and the error of the file comes before that of the first text that is no assignment. -/
theorem loadProperties_merges {m : Type → Type} [Monad m] [LawfulMonad m] {η : Type} (host : Host m η)
    (options : Options) :
    ∃ merge : Except PropertiesError Properties → Except PropertiesError Properties,
      (∀ file, Merged file options.assignments (merge file)) ∧
      (options.propertiesFile = none → loadProperties host options = pure (merge (.ok {}))) ∧
      (∀ path, options.propertiesFile = some path →
        loadProperties host options = do
          match ← host.openFile path with
          | .error reason => return merge (.error (.unreadable reason))
          | .ok file =>
            match ← host.readAll file with
            | { bytes := _, failure := some reason } => return merge (.error (.interrupted reason))
            | { bytes := bytes, failure := none } => return merge (Properties.ofJsonBytes? bytes)) ∧
      ∀ text : String, Properties.ofJsonBytes? (encodeUtf8 text.toList) = Properties.ofJson? text := by
  -- the assignments are put on what the file gives, whatever that is and wherever it comes from
  refine ⟨fun file => file >>= fun base => base.assign options.assignments, ?_, fun hnone => ?_,
    fun path hsome => ?_, Properties.ofJsonBytes?_encode⟩
  · intro file
    cases file with
    | error e => exact merged_error e options.assignments
    | ok base => exact base.merged_assign options.assignments
  · rw [loadProperties, hnone, loadPropertiesFile, pure_bind]
    rfl
  · -- each way to open and to read the file ends in the same merge
    rw [loadProperties, hsome, loadPropertiesFile, bind_assoc]
    refine congrArg _ (funext fun opened => ?_)
    cases opened with
    | error reason =>
      simp only [pure_bind]
      rfl
    | ok file =>
      simp only [bind_assoc, pure_bind]
      refine congrArg _ (funext fun source => ?_)
      rcases source with ⟨bytes, failure⟩
      cases failure with
      | some reason => rfl
      | none =>
        simp only [Source.properties]
        cases Properties.ofJsonBytes? bytes with
        | error e => rfl
        | ok base => rfl

/-- A directory with a file of properties. -/
def Directory.layered : Directory where
  files := ⟨[("base", encodeUtf8 "\x7b\"mode\":\"slow\",\"depth\":3\x7d".toList)]⟩

/-- A run with that file and two assignments to one of its names. -/
def Options.layered : Options where
  source := "-"
  propertiesFile := some "base"
  assignments := ["mode=fast", " mode =a=b "]

/-- The last assignment counts, with its second equals sign and its blank, and the file says the rest. -/
theorem loadProperties_merges_layered :
    ∃ p, loadProperties Directory.host .layered Directory.layered = (.ok p, Directory.layered) ∧
      p.get? "mode" = some (.string "a=b ") ∧ p.get? "depth" = some (.integer 3) := by
  obtain ⟨merge, hmerge, -, hload, hbytes⟩ := loadProperties_merges Directory.host .layered
  -- the file is opened and read, and its bytes are those of an object
  have hopen : Directory.host.openFile "base" Directory.layered = (.ok (.file "base"), Directory.layered) := rfl
  have hread : Directory.host.readAll (.file "base") Directory.layered =
      ({ bytes := encodeUtf8 "\x7b\"mode\":\"slow\",\"depth\":3\x7d".toList }, Directory.layered) := rfl
  have hbase : Properties.ofJsonBytes? (encodeUtf8 "\x7b\"mode\":\"slow\",\"depth\":3\x7d".toList) =
      .ok ⟨[("mode", .string "slow"), ("depth", .integer 3)]⟩ := by
    rw [hbytes]
    decide +kernel
  have hrun : loadProperties Directory.host .layered Directory.layered =
      (merge (.ok ⟨[("mode", .string "slow"), ("depth", .integer 3)]⟩), Directory.layered) := by
    rw [hload "base" rfl, ← hbase]
    simp only [Directory.bind_apply, hopen, hread]
    rfl
  -- both texts assign to the same name
  have hfirst : Assigns "mode=fast" "mode" "fast" :=
    ⟨"mode".toList, rfl, by decide, by decide +kernel⟩
  have hlast : Assigns " mode =a=b " "mode" "a=b " :=
    ⟨" mode ".toList, rfl, by decide, by decide +kernel⟩
  have hmode : ∀ text ∈ Options.layered.assignments, ∃ value, Assigns text "mode" value := by
    intro text htext
    rcases List.mem_cons.mp htext with rfl | htext
    · exact ⟨"fast", hfirst⟩
    · obtain rfl := List.mem_singleton.mp htext
      exact ⟨"a=b ", hlast⟩
  obtain ⟨succeeds, assigned, kept, -⟩ := hmerge (.ok ⟨[("mode", .string "slow"), ("depth", .integer 3)]⟩)
  obtain ⟨p, hp⟩ := succeeds.mpr ⟨⟨_, rfl⟩, fun text htext => by
    obtain ⟨value, hassigns⟩ := hmode text htext
    exact hassigns.isAssignment (by decide)⟩
  refine ⟨p, by rw [hrun, hp], ?_, ?_⟩
  · exact assigned p hp ["mode=fast"] " mode =a=b " [] "mode" "a=b " rfl hlast nofun
  · rw [kept _ p rfl hp "depth" ?_]
    · rfl
    · intro text htext value hassigns
      obtain ⟨other, hother⟩ := hmode text htext
      exact absurd (hother.unique hassigns).1 (by decide)

end RuleText

import RuleText.Table

/-!
# Tables hold one entry under each name

`Table.get?` finds the first entry under a name, and the entries are also gone through one by one, when a
run checks its conditions. The two agree because a name never comes twice: a table starts out empty and an
insertion puts the new entry where the old one was.

Main statements:

- `Table.Distinct`, `Table.Distinct.insert`: no name comes twice, and an insertion keeps it so;
- `Table.mem_entries_iff`: the entries are what look-ups find;
- `Table.names_insert_of_contains`, `Table.insert_insert`: an entry put in place of another;
- `Table.get?_insertAll_last`, `Table.get?_insertAll_of_notMem`: of many entries put under a name, the last
  one counts;
- `Table.insertAll_entries`: a table is what its entries make of an empty one.
-/

namespace RuleText.Table

variable {α : Type}

/-- No name comes twice. -/
def Distinct (t : Table α) : Prop :=
  (t.entries.map Prod.fst).Nodup

theorem distinct_empty : Distinct ({} : Table α) :=
  List.nodup_nil

theorem insertEntry_names (name : String) (value : α) (entries : List (String × α)) :
    (insertEntry name value entries).map Prod.fst =
      if name ∈ entries.map Prod.fst then entries.map Prod.fst
      else entries.map Prod.fst ++ [name] := by
  induction entries with
  | nil => rfl
  | cons entry rest ih =>
    rw [insertEntry]
    by_cases h : entry.1 = name
    · rw [if_pos h, List.map_cons, List.map_cons, h, if_pos List.mem_cons_self]
    · have hmem : name ∈ entry.1 :: rest.map Prod.fst ↔ name ∈ rest.map Prod.fst := by
        rw [List.mem_cons, or_iff_right (Ne.symm h)]
      rw [if_neg h, List.map_cons, ih, List.map_cons]
      by_cases hrest : name ∈ rest.map Prod.fst
      · rw [if_pos hrest, if_pos (hmem.mpr hrest)]
      · rw [if_neg hrest, if_neg (mt hmem.mp hrest)]
        rfl

/-- What has been inserted is an entry. -/
theorem mem_entries_insert (t : Table α) (name : String) (value : α) :
    (name, value) ∈ (t.insert name value).entries := by
  change (name, value) ∈ insertEntry name value t.entries
  induction t.entries with
  | nil => exact List.mem_singleton.mpr rfl
  | cons entry rest ih =>
    rw [insertEntry]
    split
    · exact List.mem_cons_self
    · exact List.mem_cons_of_mem _ ih

/-- **An insertion adds no second entry.** -/
theorem Distinct.insert {t : Table α} (h : t.Distinct) (name : String) (value : α) :
    (t.insert name value).Distinct := by
  change ((insertEntry name value t.entries).map Prod.fst).Nodup
  rw [insertEntry_names]
  split
  · exact h
  · rename_i hnew
    refine List.nodup_append.mpr ⟨h, List.pairwise_singleton _ name, ?_⟩
    intro a ha b hb heq
    rw [List.mem_singleton] at hb
    rw [heq, hb] at ha
    exact hnew ha

/-- **The entries are what look-ups find.** -/
theorem mem_entries_iff {t : Table α} (h : t.Distinct) (name : String) (value : α) :
    (name, value) ∈ t.entries ↔ t.get? name = some value := by
  obtain ⟨entries⟩ := t
  change (name, value) ∈ entries ↔ entries.lookup name = some value
  change (entries.map Prod.fst).Nodup at h
  induction entries with
  | nil => simp
  | cons entry rest ih =>
    obtain ⟨key, old⟩ := entry
    rw [List.map_cons, List.nodup_cons] at h
    rw [List.mem_cons, List.lookup_cons]
    by_cases hname : name = key
    · subst hname
      -- the other entries have other names
      have hother : (name, value) ∉ rest := by
        intro hmem
        have hkey := List.mem_map_of_mem (f := Prod.fst) hmem
        exact h.1 hkey
      simp [hother, eq_comm]
    · have hbeq : (name == key) = false := beq_false_of_ne hname
      rw [hbeq, ← ih h.2]
      simp [hname]

/-! ### Names -/

/-- The names under which there are entries. -/
def names (t : Table α) : List String :=
  t.entries.map Prod.fst

theorem contains_eq_true_iff (t : Table α) (name : String) : t.contains name = true ↔ name ∈ t.names := by
  unfold contains get? names
  rw [List.lookup_isSome_iff, List.mem_map]
  simp only [beq_iff_eq, eq_comm (a := name)]

/-- Putting an entry in place of another adds no name. -/
theorem names_insert_of_contains {t : Table α} {name : String} (h : t.contains name = true) (value : α) :
    (t.insert name value).names = t.names := by
  have hmem : name ∈ t.entries.map Prod.fst := (t.contains_eq_true_iff name).mp h
  unfold names insert
  rw [insertEntry_names, if_pos hmem]

theorem insertEntry_insertEntry (name : String) (old new : α) (entries : List (String × α)) :
    insertEntry name new (insertEntry name old entries) = insertEntry name new entries := by
  induction entries with
  | nil => exact if_pos rfl
  | cons entry rest ih =>
    rw [insertEntry, insertEntry]
    by_cases h : entry.1 = name
    · rw [if_pos h, if_pos h, insertEntry, if_pos rfl]
    · rw [if_neg h, if_neg h, insertEntry, if_neg h, ih]

/-- Of two insertions under a name the second one counts. -/
theorem insert_insert (t : Table α) (name : String) (old new : α) :
    (t.insert name old).insert name new = t.insert name new :=
  congrArg Table.mk (insertEntry_insertEntry name old new t.entries)

/-! ### Many insertions -/

/-- A table with entries put into it, one after the other. -/
def insertAll (t : Table α) (entries : List (String × α)) : Table α :=
  entries.foldl (fun t entry => t.insert entry.1 entry.2) t

theorem insertAll_append (t : Table α) (before after : List (String × α)) :
    t.insertAll (before ++ after) = (t.insertAll before).insertAll after :=
  List.foldl_append

/-- Names that are not among those of the new entries keep what they had. -/
theorem get?_insertAll_of_notMem (t : Table α) {entries : List (String × α)} {name : String}
    (h : name ∉ entries.map Prod.fst) : (t.insertAll entries).get? name = t.get? name := by
  induction entries generalizing t with
  | nil => rfl
  | cons entry rest ih =>
    rw [List.map_cons, List.mem_cons, not_or] at h
    change ((t.insert entry.1 entry.2).insertAll rest).get? name = t.get? name
    rw [ih _ h.2, get?_insert, if_neg h.1]

/-- **The last entry under a name counts.** -/
theorem get?_insertAll_last (t : Table α) (before : List (String × α)) {after : List (String × α)}
    {name : String} (value : α) (h : name ∉ after.map Prod.fst) :
    (t.insertAll (before ++ (name, value) :: after)).get? name = some value := by
  rw [insertAll_append]
  change (((t.insertAll before).insert name value).insertAll after).get? name = some value
  rw [get?_insertAll_of_notMem _ h, get?_insert, if_pos rfl]

theorem insertEntry_of_notMem {name : String} {entries : List (String × α)}
    (h : name ∉ entries.map Prod.fst) (value : α) :
    insertEntry name value entries = entries ++ [(name, value)] := by
  induction entries with
  | nil => rfl
  | cons entry rest ih =>
    rw [List.map_cons, List.mem_cons, not_or] at h
    rw [insertEntry, if_neg (Ne.symm h.1), ih h.2, List.cons_append]

/-- New entries under new names stay in order behind the old ones. -/
theorem insertAll_of_nodup {old new : List (String × α)} (h : ((old ++ new).map Prod.fst).Nodup) :
    (Table.mk old).insertAll new = ⟨old ++ new⟩ := by
  induction new generalizing old with
  | nil => rw [List.append_nil]; rfl
  | cons entry rest ih =>
    obtain ⟨name, value⟩ := entry
    have hnew : name ∉ old.map Prod.fst := by
      intro hmem
      rw [List.map_append, List.nodup_append] at h
      exact h.2.2 name hmem name List.mem_cons_self rfl
    rw [List.append_cons] at h ⊢
    rw [← ih h, ← insertEntry_of_notMem hnew]
    rfl

/-- A table is that of its entries. -/
theorem insertAll_entries {t : Table α} (h : t.Distinct) : ({} : Table α).insertAll t.entries = t :=
  @insertAll_of_nodup _ [] _ h

end RuleText.Table

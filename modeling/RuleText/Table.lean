/-!
# Tables

A table holds entries under names, at most one under each. It is a list of pairs in the order in which the
names first came; nothing but look-ups and the number of entries depends on it.

Main definitions:

- `Table`, `Table.get?`, `Table.insert`, `Table.ofList`.

Main statement:

- `Table.get?_insert`: a look-up finds the last entry put under its name.
-/

namespace RuleText

/-- Entries under names. -/
structure Table (α : Type) where
  entries : List (String × α) := []
deriving Repr, DecidableEq

namespace Table

variable {α : Type}

/-- The entry under a name. -/
def get? (t : Table α) (name : String) : Option α :=
  t.entries.lookup name

/-- Whether there is an entry under a name. -/
def contains (t : Table α) (name : String) : Bool :=
  (t.get? name).isSome

/-- The number of entries. -/
def size (t : Table α) : Nat :=
  t.entries.length

/-- Whether there is no entry. -/
def isEmpty (t : Table α) : Bool :=
  t.entries.isEmpty

/-- Puts an entry into a list, in place of the one of the same name. -/
def insertEntry (name : String) (value : α) : List (String × α) → List (String × α)
  | [] => [(name, value)]
  | entry :: rest =>
    if entry.1 = name then (name, value) :: rest else entry :: insertEntry name value rest

/-- Puts an entry under a name, in place of the one that was there. -/
def insert (t : Table α) (name : String) (value : α) : Table α :=
  ⟨insertEntry name value t.entries⟩

/-- The table of a list of names and entries, of which later ones replace earlier ones. -/
def ofList (entries : List (String × α)) : Table α :=
  entries.foldl (fun t (name, value) => t.insert name value) {}

/-- Whether two tables hold the same entries under the same names. -/
def same [BEq α] (t u : Table α) : Bool :=
  t.size == u.size && t.entries.all fun (name, value) => u.get? name == some value

theorem get?_insert (t : Table α) (name other : String) (value : α) :
    (t.insert name value).get? other = if other = name then some value else t.get? other := by
  obtain ⟨entries⟩ := t
  simp only [insert, get?]
  induction entries with
  | nil =>
    by_cases h : other = name
    · simp [insertEntry, h]
    · have hb : (other == name) = false := by simpa using h
      simp [insertEntry, List.lookup_cons, h, hb]
  | cons entry rest ih =>
    obtain ⟨key, old⟩ := entry
    by_cases hk : key = name
    · subst hk
      by_cases h : other = key
      · simp [insertEntry, h]
      · have hb : (other == key) = false := by simpa using h
        simp [insertEntry, List.lookup_cons, h, hb]
    · by_cases h : other = key
      · subst h
        simp [insertEntry, hk]
      · have hb : (other == key) = false := by simpa using h
        simp [insertEntry, List.lookup_cons, hk, hb, ih]

@[simp] theorem get?_empty (name : String) : ({} : Table α).get? name = none := rfl

end Table

end RuleText

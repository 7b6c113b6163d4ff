import RuleText.Proofs.Json.Writer
import RuleText.Proofs.Table

/-!
# Properties written in JSON

However an object of scalars is written, what is read from it holds under each name what its last member of
that name says, of the same kind and equal to it. Members are put into the properties as they are read, so
the properties are those of all members put into an empty table, one after the other; which one counts is
then a matter of tables alone.

The only values that change are integers which do not fit 64 bits with their sign. They become floating point
numbers of the same sign, which are as far out of that range as they were. From a limit on, just short of the
greatest floating point number, integers are too large, and an object that has one is refused as a whole.

Main definition:

- `Properties.Holds`: what properties are to hold that are written as a list of members.

Main statements:

- `Properties.readEntries_form`: the members of an object, read one after the other;
- `Properties.ofJson?_form`: the properties of an object in any of its forms;
- `Properties.not_ofJson?_greatest`: the greatest floating point number, which is refused as an integer;
- `Properties.ofJson?_toJson`: properties that are written and read back.
-/

namespace RuleText

namespace Properties

open Json (Scalar MembersForm ObjectForm)

/-- What properties hold that are written as a list of members: under each name what the last member of that
name says, and nothing under other names. -/
structure Holds (entries : List (String × Scalar)) (p : Properties) : Prop where
  last : ∀ before name scalar after, entries = before ++ (name, scalar) :: after →
    name ∉ after.map Prod.fst → ∃ value, scalar.Gives value ∧ p.get? name = some value
  others : ∀ name, name ∉ entries.map Prod.fst → p.get? name = none

/-- One member put into the properties. -/
theorem readEntries_member {fuel : Nat} {first : Bool} {text rest : JsonText} {name : String}
    {json : Json} {value : Value}
    (hmember : Json.nextMember (Json.fuelFor text) (Json.maxNesting - 1) first text =
      .ok (some (name.toList, json), rest))
    (hvalue : Value.ofJson? json = some value) (p : Properties) :
    readEntries (fuel + 1) first p text = readEntries fuel false (p.insert name value) rest := by
  rw [readEntries, hmember]
  simp only [hvalue, String.ofList_toList]

/-- **The members of an object** are read in order and each put into the properties, if all are in range. -/
theorem readEntries_form {first : Bool} {entries : List (String × Scalar)} {text : List Char}
    (h : MembersForm first entries text) (hrange : ∀ entry ∈ entries, entry.2.InRange) {fuel : Nat}
    (hfuel : entries.length < fuel) (p : Properties) (rest : JsonText) :
    readEntries fuel first p (Json.chars text ++ rest) =
      .ok (p.insertAll (Json.values entries), rest) := by
  -- by induction on the members, for any properties that they are put into
  induction entries generalizing first text fuel p with
  | nil =>
    obtain ⟨fuel, rfl⟩ := Nat.exists_eq_add_one_of_ne_zero (Nat.ne_of_gt hfuel)
    cases h with
    | close hblank =>
      rw [readEntries, Json.fuelFor, Json.nextMember_close _ _ _ hblank]
      rfl
  | cons entry others ih =>
    obtain ⟨fuel, rfl⟩ := Nat.exists_eq_add_one_of_ne_zero (Nat.ne_of_gt (Nat.zero_lt_of_lt hfuel))
    obtain ⟨hentry, hothers⟩ := List.forall_mem_cons.mp hrange
    obtain ⟨behind, json, hbehind, hmember, hvalue⟩ := h.nextMember_inRange hentry _ (Json.maxNesting - 1) rest
    rw [readEntries_member hmember hvalue, ih hbehind hothers (Nat.lt_of_succ_lt_succ hfuel)]
    rfl

/-- **The first member that is too large** ends this, whatever has been read before it. -/
theorem readEntries_refused {first : Bool} {entries : List (String × Scalar)} {text : List Char}
    (h : MembersForm first entries text) (hrange : ∃ entry ∈ entries, ¬ entry.2.InRange) {fuel : Nat}
    (hfuel : entries.length < fuel) (p : Properties) (rest : JsonText) :
    readEntries fuel first p (Json.chars text ++ rest) = .error (.json .misplaced) := by
  -- by induction on the members in front of it
  induction entries generalizing first text fuel p with
  | nil =>
    obtain ⟨entry, hentry, -⟩ := hrange
    cases hentry
  | cons entry others ih =>
    obtain ⟨fuel, rfl⟩ := Nat.exists_eq_add_one_of_ne_zero (Nat.ne_of_gt (Nat.zero_lt_of_lt hfuel))
    by_cases hentry : entry.2.InRange
    · obtain ⟨behind, json, hbehind, hmember, hvalue⟩ :=
        h.nextMember_inRange hentry _ (Json.maxNesting - 1) rest
      obtain ⟨other, hother, hlarge⟩ := hrange
      have hothers : ∃ entry ∈ others, ¬ entry.2.InRange := by
        rcases List.mem_cons.mp hother with rfl | hmem
        · exact absurd hentry hlarge
        · exact ⟨other, hmem, hlarge⟩
      rw [readEntries_member hmember hvalue]
      exact ih hbehind hothers (Nat.lt_of_succ_lt_succ hfuel) _
    · rw [readEntries, Json.fuelFor, h.nextMember_refused hentry]

/-- An object is read from behind its opening brace, with nothing but white space behind it. -/
theorem readJson_object {entries : List (String × Scalar)} {text : List Char} (h : ObjectForm entries text) :
    ∃ members fuel rest, MembersForm true entries members ∧ entries.length < fuel ∧ Json.skipSpace rest = [] ∧
      readJson (Json.chars text) =
        match readEntries fuel true {} (Json.chars members ++ rest) with
        | .error e => .error e
        | .ok (properties, rest) =>
          if (Json.skipSpace rest).isEmpty then .ok properties else .error (.json .misplaced) := by
  obtain ⟨before, members, after, hbefore, hafter, hmembers, rfl⟩ := h
  have hsplit : Json.chars (before ++ '\x7b' :: members ++ after) =
      Json.chars before ++ some '\x7b' :: (Json.chars members ++ Json.chars after) := by
    simp [Json.chars]
  have hfuel : entries.length < (Json.chars members ++ Json.chars after).length + 1 := by
    have hlength := hmembers.length_le
    rw [List.length_append, List.length_map]
    omega
  have hend : Json.skipSpace (Json.chars after) = [] := by
    have hskip := Json.skipSpace_blank hafter []
    rwa [List.append_nil] at hskip
  refine ⟨members, _, Json.chars after, hmembers, hfuel, hend, ?_⟩
  rw [readJson, hsplit, Json.skipSpace_blank_cons hbefore rfl]
  rfl

/-- All of an object is read, and each of its members put into an empty table. -/
theorem readJson_form {entries : List (String × Scalar)} {text : List Char} (h : ObjectForm entries text)
    (hrange : ∀ entry ∈ entries, entry.2.InRange) :
    readJson (Json.chars text) = .ok (({} : Properties).insertAll (Json.values entries)) := by
  obtain ⟨members, fuel, rest, hmembers, hfuel, hend, hread⟩ := readJson_object h
  rw [hread, readEntries_form hmembers hrange hfuel]
  simp only [hend, List.isEmpty_nil, if_true]

theorem readJson_refused {entries : List (String × Scalar)} {text : List Char} (h : ObjectForm entries text)
    (hrange : ∃ entry ∈ entries, ¬ entry.2.InRange) :
    readJson (Json.chars text) = .error (.json .misplaced) := by
  obtain ⟨members, fuel, rest, hmembers, hfuel, -, hread⟩ := readJson_object h
  rw [hread, readEntries_refused hmembers hrange hfuel]

/-- **Properties in JSON keep kind and value**, in whatever form they are written. Only integers that are too
large for a number are refused, and everything that comes with them. -/
theorem ofJson?_form {entries : List (String × Scalar)} {text : String}
    (h : ObjectForm entries text.toList) :
    ((∀ entry ∈ entries, entry.2.InRange) → ∃ p, ofJson? text = .ok p ∧ p.Holds entries) ∧
      ((∃ entry ∈ entries, ¬ entry.2.InRange) → ofJson? text = .error (.json .misplaced)) := by
  refine ⟨fun hrange => ?_, readJson_refused h⟩
  refine ⟨({} : Properties).insertAll (Json.values entries), readJson_form h hrange, ?_, ?_⟩
  · intro before name scalar after hsplit hlast
    have hmem : (name, scalar) ∈ entries := by
      rw [hsplit]
      exact List.mem_append_right _ List.mem_cons_self
    refine ⟨scalar.value, Scalar.gives_value (hrange _ hmem), ?_⟩
    rw [← Json.values_names] at hlast
    rw [hsplit, Json.values, List.map_append, List.map_cons]
    exact Table.get?_insertAll_last _ _ _ hlast
  · intro name hname
    rw [← Json.values_names] at hname
    exact Table.get?_insertAll_of_notMem _ hname

/-- An object with one member, an integer. -/
def singleText (n : Int) : String :=
  String.ofList (['\x7b', '"', 'a', '"', ':'] ++ integerText n ++ ['\x7d'])

theorem objectForm_single (n : Int) : ObjectForm [("a", .integer n)] (singleText n).toList := by
  have hnone := Json.blank_nil
  have hmember := Json.MemberForm.mk hnone (Json.textForm_escape "a".toList) hnone hnone (.integer n)
  refine ⟨[], _, [], hnone, hnone, .first hmember (.close hnone), ?_⟩
  have hname : "a".toList.flatMap Json.escape = ['a'] := rfl
  rw [singleText, String.toList_ofList, hname]
  simp

/-- A name that comes twice, the least integer of 64 bits, one of 65 bits, escapes and white space; and an
integer of 310 digits. -/
theorem ofJson?_form_mixed :
    (∃ p, ofJson?
        "\x7b\"a\": 9223372036854775808 ,\n\"\\u00E9\":-9223372036854775808,\"b\":-18446744073709551616,\"a\":\"1\\ud83D\\uDE00\"\x7d" =
          .ok p ∧
      p.get? "a" = some (.string "1😀") ∧ p.get? "é" = some (.integer Int64.minValue) ∧
      p.get? "b" = some (.float (.finite true (2 ^ 52) 12))) ∧
    ofJson? (singleText (10 ^ 309)) = .error (.json .misplaced) := by
  have hnone := Json.blank_nil
  have hspace : Json.Blank [' '] := by
    simp [Json.Blank]
  have hline : Json.Blank ['\n'] := by
    simp [Json.Blank]
  -- a name that comes twice, the second time with another kind of value
  have hletter := Json.textForm_escape "a".toList
  have hlarge := Json.ScalarForm.integer 9223372036854775808
  have hleast := Json.ScalarForm.integer Int64.minValue.toInt
  have hwide := Json.ScalarForm.integer (-18446744073709551616)
  -- a letter beyond ASCII as one escape, and one beyond sixteen bits as two
  have hacute : Json.CharForm 'é' ['\\', 'u', '0', '0', 'E', '9'] := .code (by decide)
  have hface := @Json.CharForm.pair '😀' ['d', '8', '3', 'D'] ['D', 'E', '0', '0'] (by decide) (by decide)
    (by decide)
  have htext : Json.ScalarForm (.string "1😀") _ :=
    .string (.cons (Json.charForm_escape '1') (.cons hface .nil))
  have hfirst := Json.MemberForm.mk hnone hletter hnone hspace hlarge
  have hsecond : Json.MemberForm ("é", _) _ := .mk hline (.cons hacute .nil) hnone hnone hleast
  have hthird := Json.MemberForm.mk hnone (Json.textForm_escape "b".toList) hnone hnone hwide
  have hfourth := Json.MemberForm.mk hnone hletter hnone hnone htext
  have hmembers := MembersForm.first hfirst
    (.more hspace hsecond (.more hnone hthird (.more hnone hfourth (.close hnone))))
  -- the object is read, and each name holds what its last member gives
  constructor
  · refine Exists.imp (fun p hp => ⟨hp.1, ?_, ?_, ?_⟩)
      ((ofJson?_form ⟨[], _, [], hnone, hnone, hmembers, rfl⟩).1
        (by simp [Scalar.InRange, Json.lt_integerLimit]))
    · obtain ⟨value, hgives, hget⟩ := hp.2.last [_, _, _] "a" _ [] rfl List.not_mem_nil
      cases hgives
      exact hget
    · obtain ⟨value, hgives, hget⟩ := hp.2.last [_] "é" _ [_, _] rfl (by decide)
      rw [hget, hgives.eq_integer]
    · obtain ⟨value, hgives, hget⟩ := hp.2.last [_, _] "b" _ [_] rfl (by decide)
      rw [hget, hgives.unique (Scalar.gives_value (Json.lt_integerLimit (by decide)))]
      rfl
  · -- the other object has one member, which is too large
    refine (ofJson?_form (objectForm_single (10 ^ 309))).2 ⟨_, List.mem_cons_self, ?_⟩
    decide +kernel

/-- **The greatest floating point number is too large.** It is not so that an object is read whenever its
integers are within the range of floating point numbers. -/
theorem not_ofJson?_greatest :
    ¬ ∀ (entries : List (String × Scalar)) (text : String), ObjectForm entries text.toList →
      (∀ name n, (name, Scalar.integer n) ∈ entries → n.natAbs ≤ (2 ^ 53 - 1) * 2 ^ 971) →
        ∃ p, ofJson? text = .ok p := by
  intro hread
  have hrefused : ofJson? (singleText ((2 ^ 53 - 1) * 2 ^ 971)) = .error (.json .misplaced) := by
    refine readJson_refused (objectForm_single _) ⟨_, List.mem_cons_self, ?_⟩
    decide +kernel
  obtain ⟨p, hp⟩ := hread _ _ (objectForm_single ((2 ^ 53 - 1) * 2 ^ 971)) fun name n hmem => by
    obtain ⟨-, heq⟩ := Prod.mk.inj (List.mem_singleton.mp hmem)
    rw [Scalar.integer.inj heq]
    decide +kernel
  cases hrefused.symm.trans hp

/-- **What is written is read back**, if there are no floating point numbers. -/
theorem ofJson?_toJson {p : Properties} (hdistinct : p.Distinct)
    (h : ∀ entry ∈ p.entries, ∀ x, entry.2 ≠ .float x) : ofJson? (String.ofList p.toJson) = .ok p := by
  obtain ⟨entries, hvalues, hrange, hform⟩ := Json.exists_objectForm h
  rw [ofJson?, String.toList_ofList]
  show readJson (Json.chars p.toJson) = .ok p
  rw [readJson_form hform hrange, hvalues, Table.insertAll_entries hdistinct]

end Properties

end RuleText

import RuleText.Proofs.Json.Number

/-!
# Reading what is written

Every form of a string, a scalar or a member is read as what it is a form of, whatever stands behind it. For
strings nothing has to be known about that, since they end with a quote. A number has no end of its own, so
it matters that what follows it in an object is white space, a comma or a brace (`EndsNumber`).

Main statements:

- `Json.readString_form`: a string up to its closing quote;
- `Json.readValue_form`, `Json.readValue_refused`: a scalar as a value, unless it is too large;
- `Json.MembersForm.nextMember`: a member of an object, whether or not it is the first.
-/

namespace RuleText.Json

/-- A text in which every byte is part of a character. -/
abbrev chars (text : List Char) : JsonText := text.map some

/-! ### White space -/

theorem skipSpace_blank {blank : List Char} (h : Blank blank) (rest : JsonText) :
    skipSpace (chars blank ++ rest) = skipSpace rest := by
  induction blank with
  | nil => rfl
  | cons c others ih =>
    obtain ⟨hc, hothers⟩ := List.forall_mem_cons.mp h
    have hspace : isSpace (some c) = true := by
      rcases hc with rfl | rfl | rfl | rfl <;> rfl
    rw [chars, List.map_cons, List.cons_append, skipSpace, List.dropWhile_cons_of_pos hspace]
    exact ih hothers

theorem skipSpace_cons {c : Char} (h : isSpace (some c) = false) (rest : JsonText) :
    skipSpace (some c :: rest) = some c :: rest :=
  List.dropWhile_cons_of_neg (by rw [h]; exact Bool.false_ne_true)

/-- White space in front of something else is skipped. -/
theorem skipSpace_blank_cons {blank : List Char} (h : Blank blank) {c : Char}
    (hc : isSpace (some c) = false) (rest : JsonText) :
    skipSpace (chars blank ++ some c :: rest) = some c :: rest := by
  rw [skipSpace_blank h, skipSpace_cons hc]

/-! ### Strings -/

theorem readFourDigits_form {n : Nat} {digits : List Char} (h : FourDigits n digits) (rest : JsonText) :
    readFourDigits (chars digits ++ rest) = .ok (n, rest) := by
  obtain ⟨hlength, hvalue⟩ := h
  match digits, hlength with
  | [a, b, c, d], _ =>
    simp only [hexValue?, List.foldlM_cons, List.foldlM_nil, Option.bind_eq_bind,
      Option.bind_eq_some_iff, Option.map_eq_some_iff, Option.pure_def, Option.some.injEq] at hvalue
    obtain ⟨_, ⟨a', ha, rfl⟩, _, ⟨b', hb, rfl⟩, _, ⟨c', hc, rfl⟩, _, ⟨d', hd, rfl⟩, rfl⟩ := hvalue
    simp only [chars, List.map_cons, List.map_nil, List.cons_append, List.nil_append, readFourDigits,
      Option.bind_some, ha, hb, hc, hd, Except.ok.injEq, Prod.mk.injEq, and_true]
    omega

/-- The character of an escape by a letter. -/
theorem readEscape_letter {c letter : Char} (h : (letter, c) ∈ escapeLetters) (rest : JsonText) :
    readEscape (some letter :: rest) = .ok (c, rest) := by
  simp only [escapeLetters, List.mem_cons, Prod.mk.injEq, List.not_mem_nil, or_false] at h
  rcases h with ⟨rfl, rfl⟩ | ⟨rfl, rfl⟩ | ⟨rfl, rfl⟩ | ⟨rfl, rfl⟩ | ⟨rfl, rfl⟩ | ⟨rfl, rfl⟩ | ⟨rfl, rfl⟩ |
    ⟨rfl, rfl⟩ <;> rfl

/-- No character is half of a surrogate pair. -/
theorem not_surrogate (c : Char) : c.toNat < 0xD800 ∨ 0xDFFF < c.toNat := by
  rcases c.valid with h | h
  · exact Or.inl h
  · exact Or.inr h.1

/-- The character of an escape by its code. -/
theorem readEscape_code {c : Char} {digits : List Char} (h : FourDigits c.toNat digits) (rest : JsonText) :
    readEscape (some 'u' :: (chars digits ++ rest)) = .ok (c, rest) := by
  have hsecond : ¬ (0xDC00 ≤ c.toNat ∧ c.toNat ≤ 0xDFFF) := by
    have := not_surrogate c
    omega
  have hfirst : ¬ (0xD800 ≤ c.toNat ∧ c.toNat ≤ 0xDBFF) := by
    have := not_surrogate c
    omega
  show readCodeEscape (chars digits ++ rest) = .ok (c, rest)
  rw [readCodeEscape, readFourDigits_form h]
  simp only [if_neg hsecond, if_neg hfirst, Char.ofNat_toNat]

/-- The character of the two halves of a surrogate pair. -/
theorem readEscape_pair {c : Char} {high low : List Char} (hc : 0x10000 ≤ c.toNat)
    (hhigh : FourDigits (0xD800 + (c.toNat - 0x10000) / 0x400) high)
    (hlow : FourDigits (0xDC00 + (c.toNat - 0x10000) % 0x400) low) (rest : JsonText) :
    readEscape (some 'u' :: (chars high ++ some '\\' :: some 'u' :: (chars low ++ rest))) = .ok (c, rest) := by
  have hlast : c.toNat < 0x110000 := by
    rcases c.valid with h | h
    · exact Nat.lt_trans h (by decide)
    · exact h.2
  have hsecond : ¬ (0xDC00 ≤ 0xD800 + (c.toNat - 0x10000) / 0x400 ∧
      0xD800 + (c.toNat - 0x10000) / 0x400 ≤ 0xDFFF) := by
    omega
  have hfirst : 0xD800 ≤ 0xD800 + (c.toNat - 0x10000) / 0x400 ∧
      0xD800 + (c.toNat - 0x10000) / 0x400 ≤ 0xDBFF := by
    omega
  have hsecond' : 0xDC00 ≤ 0xDC00 + (c.toNat - 0x10000) % 0x400 ∧
      0xDC00 + (c.toNat - 0x10000) % 0x400 ≤ 0xDFFF := by
    omega
  have hvalue : 0x10000 + (0xD800 + (c.toNat - 0x10000) / 0x400 - 0xD800) * 0x400 +
      (0xDC00 + (c.toNat - 0x10000) % 0x400 - 0xDC00) = c.toNat := by
    omega
  show readCodeEscape _ = .ok (c, rest)
  rw [readCodeEscape, readFourDigits_form hhigh]
  simp only [if_neg hsecond, if_pos hfirst, readWord, if_true]
  rw [readFourDigits_form hlow]
  simp only [if_pos hsecond', hvalue, Char.ofNat_toNat]

/-- **A character in a string** is read in any of its forms, by one round. -/
theorem readStringFrom_char {c : Char} {form : List Char} (h : CharForm c form) (fuel : Nat)
    (done : List Char) (rest : JsonText) :
    readStringFrom (fuel + 1) true done (chars form ++ rest) =
      readStringFrom fuel true (c :: done) rest := by
  -- all forms but the first begin with a backslash, behind which it is the escape that counts
  have hescape : ∀ {escape : JsonText}, readEscape escape = .ok (c, rest) →
      readStringFrom (fuel + 1) true done (some '\\' :: escape) =
        readStringFrom fuel true (c :: done) rest := by
    intro escape hread
    simp only [readStringFrom, hread]
  cases h with
  | plain hcontrol hquote hbackslash =>
    show readStringFrom (fuel + 1) true done (some c :: rest) = _
    conv => lhs; unfold readStringFrom
    split
    · exact absurd rfl hquote
    · exact absurd rfl hbackslash
    · rw [if_neg (Nat.not_lt_of_le hcontrol)]
  | letter h => exact hescape (readEscape_letter h rest)
  | code h => exact hescape (readEscape_code h rest)
  | pair hc hhigh hlow =>
    have hread := hescape (readEscape_pair hc hhigh hlow rest)
    simpa [chars] using hread

/-- Every character of a text takes at least one in its form. -/
theorem TextForm.length_le {text form : List Char} (h : TextForm text form) :
    text.length ≤ form.length := by
  induction h with
  | nil => exact Nat.le_refl _
  | @cons c text form rest hc htext ih =>
    have hpos : 0 < form.length := by
      cases hc <;> simp
    rw [List.length_cons, List.length_append]
    omega

theorem readStringFrom_form {text form : List Char} (h : TextForm text form) {fuel : Nat}
    (hfuel : text.length < fuel) (done : List Char) (rest : JsonText) :
    readStringFrom fuel true done (chars form ++ some '"' :: rest) =
      .ok (done.reverse ++ text, rest) := by
  -- by induction on the characters, which are collected in reverse
  induction h generalizing fuel done with
  | nil =>
    obtain ⟨fuel, rfl⟩ := Nat.exists_eq_add_one_of_ne_zero (Nat.ne_of_gt hfuel)
    rw [List.append_nil]
    rfl
  | @cons c text form more hc htext ih =>
    obtain ⟨fuel, rfl⟩ := Nat.exists_eq_add_one_of_ne_zero (Nat.ne_of_gt (Nat.zero_lt_of_lt hfuel))
    have hsplit : chars (form ++ more) ++ some '"' :: rest =
        chars form ++ (chars more ++ some '"' :: rest) := by
      simp [chars]
    rw [hsplit, readStringFrom_char hc, ih (Nat.lt_of_succ_lt_succ hfuel), List.reverse_cons,
      List.append_assoc]
    rfl

/-- **A string** is read up to its closing quote. -/
theorem readString_form {text form : List Char} (h : TextForm text form) (rest : JsonText) :
    readString (chars form ++ some '"' :: rest) = .ok (text, rest) := by
  refine readStringFrom_form h ?_ [] rest
  have hle := h.length_le
  simp only [chars, List.length_append, List.length_map, List.length_cons]
  omega

/-! ### Integers -/

/-- What cannot go on a number: white space, a comma or a closing brace. -/
def EndsNumber (rest : JsonText) : Prop :=
  ∃ c tail, rest = some c :: tail ∧ c ∈ [' ', '\n', '\t', '\r', ',', '\x7d']

theorem takeDigits_form {digits : List Char} (h : ∀ c ∈ digits, c.isDigit = true) {rest : JsonText}
    (hrest : EndsNumber rest) : takeDigits (chars digits ++ rest) = (digits, rest) := by
  induction digits with
  | nil =>
    obtain ⟨c, tail, rfl, hc⟩ := hrest
    have hdigit : c.isDigit = false := by
      simp only [List.mem_cons, List.not_mem_nil, or_false] at hc
      rcases hc with rfl | rfl | rfl | rfl | rfl | rfl <;> rfl
    show takeDigits (some c :: tail) = _
    rw [takeDigits, hdigit]
    rfl
  | cons d others ih =>
    obtain ⟨hd, hothers⟩ := List.forall_mem_cons.mp h
    show takeDigits (some d :: (chars others ++ rest)) = _
    rw [takeDigits, if_pos hd, ih hothers]

/-- The digits of a positive number do not begin with a zero. -/
theorem head?_decimalText {n : Nat} (hn : 0 < n) : (decimalText n).head? ≠ some '0' := by
  unfold decimalText
  induction n using Nat.strongRecOn with
  | ind n ih =>
    rw [Nat.toDigits_eq_if (by decide)]
    split
    · rename_i hlt
      have hdigit : ∀ m < 10, 0 < m → Nat.digitChar m ≠ '0' := by
        decide
      intro hzero
      exact hdigit n hlt hn (Option.some.inj hzero)
    · -- the first digit is one of the number without its last digit
      have hpos : 0 < n / 10 := by
        omega
      have hsmaller := ih (n / 10) (by omega) hpos
      obtain ⟨first, others, hdigits⟩ := List.exists_cons_of_ne_nil
        (Nat.toDigits_ne_nil : Nat.toDigits 10 (n / 10) ≠ [])
      rw [hdigits] at hsmaller ⊢
      exact hsmaller

/-- The digits of a number are read up to the last. -/
theorem readWhole_form (d : Nat) {rest : JsonText} (hrest : EndsNumber rest) :
    readWhole (chars (decimalText d) ++ rest) = .ok (decimalText d, rest) := by
  have hdigits : ∀ c ∈ decimalText d, c.isDigit = true := fun c hc => isDigit_of_mem_decimalText hc
  have hne : decimalText d ≠ [] := decimalText_ne_nil d
  have hneed : needDigits (chars (decimalText d) ++ rest) = .ok (decimalText d, rest) := by
    unfold needDigits
    rw [takeDigits_form hdigits hrest]
    split
    · rename_i heq
      exact absurd (Prod.mk.inj heq).1 hne
    · rfl
  -- a zero in front can only be all there is
  have hzero : ¬ ((decimalText d).head? = some '0' ∧ (decimalText d).length ≠ 1) := by
    rcases Nat.eq_zero_or_pos d with rfl | hd
    · rintro ⟨-, hlength⟩
      exact hlength rfl
    · rintro ⟨hhead, -⟩
      exact head?_decimalText hd hhead
  unfold readWhole
  rw [hneed]
  simp only [if_neg hzero]

/-- Behind the digits there is no fraction. -/
theorem readFraction_ends {rest : JsonText} (hrest : EndsNumber rest) : readFraction rest = .ok ([], rest) := by
  obtain ⟨c, tail, rfl, hc⟩ := hrest
  unfold readFraction
  split
  · rename_i heq
    obtain rfl := Option.some.inj (List.cons.inj heq).1
    exact absurd hc (by decide)
  · rfl

/-- And no exponent. -/
theorem readExponent_ends {rest : JsonText} (hrest : EndsNumber rest) : readExponent rest = .ok (none, rest) := by
  obtain ⟨c, tail, rfl, hc⟩ := hrest
  have hmark : ¬ (c = 'e' ∨ c = 'E') := by
    rintro (rfl | rfl)
    · exact absurd hc (by decide)
    · exact absurd hc (by decide)
  simp only [readExponent, if_neg hmark]

theorem readNumber_form (negative : Bool) {d : Nat} {json : Json} {rest : JsonText}
    (hnumber : number? negative (decimalText d) [] none = some json) (hrest : EndsNumber rest) :
    readNumber negative (chars (decimalText d) ++ rest) = .ok (json, rest) := by
  simp only [readNumber, readWhole_form d hrest, readFraction_ends hrest, readExponent_ends hrest, hnumber]

theorem readNumber_refused (negative : Bool) {d : Nat} {rest : JsonText}
    (hnumber : number? negative (decimalText d) [] none = none) (hrest : EndsNumber rest) :
    readNumber negative (chars (decimalText d) ++ rest) = .error .misplaced := by
  simp only [readNumber, readWhole_form d hrest, readFraction_ends hrest, readExponent_ends hrest, hnumber]

/-! ### Scalars -/

theorem readWord_form (word : List Char) (rest : JsonText) :
    readWord word (chars word ++ rest) = .ok rest := by
  induction word with
  | nil => rfl
  | cons c word ih =>
    show readWord (c :: word) (some c :: (chars word ++ rest)) = _
    rw [readWord, if_pos rfl, ih]

/-- White space in front of a value is skipped. -/
theorem readValue_blank (fuel room : Nat) {blank : List Char} (h : Blank blank) (rest : JsonText) :
    readValue (fuel + 1) room (chars blank ++ rest) = readValue (fuel + 1) room rest := by
  rw [readValue, readValue, skipSpace_blank h]

/-- A digit is no white space. -/
theorem isSpace_digit {c : Char} (h : c.isDigit = true) : isSpace (some c) = false := by
  refine Bool.eq_false_iff.mpr fun hspace => ?_
  simp only [isSpace, Bool.or_eq_true, beq_iff_eq, Option.some.injEq] at hspace
  rcases hspace with ((rfl | rfl) | rfl) | rfl <;> exact absurd h (by decide)

/-- A value that begins with a digit is a number. -/
theorem readValue_digit (fuel room : Nat) {c : Char} (h : c.isDigit = true) (rest : JsonText) :
    readValue (fuel + 1) room (some c :: rest) = readNumber false (some c :: rest) := by
  -- the other values begin with other characters
  have hother : ∀ d : Char, d.isDigit = false → ∀ {text : JsonText}, some c :: rest ≠ some d :: text := by
    intro d hd text heq
    rw [Option.some.inj (List.cons.inj heq).1, hd] at h
    exact Bool.false_ne_true h
  rw [readValue, skipSpace_cons (isSpace_digit h)]
  split
  · exact absurd ‹_› (hother 'n' rfl)
  · exact absurd ‹_› (hother 't' rfl)
  · exact absurd ‹_› (hother 'f' rfl)
  · exact absurd ‹_› (hother '"' rfl)
  · exact absurd ‹_› (hother '-' rfl)
  · exact absurd ‹_› (hother '[' rfl)
  · exact absurd ‹_› (hother '\x7b' rfl)
  · rename_i heq
    obtain ⟨hc, rfl⟩ := List.cons.inj heq
    obtain rfl := Option.some.inj hc
    rw [if_pos h]
  · rename_i hnone
    exact (hnone c rest rfl).elim

/-- An integer literal is read as a number with its sign. -/
theorem readValue_integerText (fuel room : Nat) (n : Int) (rest : JsonText) :
    readValue (fuel + 1) room (chars (integerText n) ++ rest) =
      readNumber (n < 0) (chars (decimalText n.natAbs) ++ rest) := by
  unfold integerText
  rcases Int.lt_or_le n 0 with hneg | hpos
  · rw [if_pos hneg, decide_eq_true hneg]
    show readValue (fuel + 1) room (some '-' :: (chars (decimalText n.natAbs) ++ rest)) = _
    rw [readValue, skipSpace_cons rfl]
    rfl
  · rw [if_neg (Int.not_lt.mpr hpos), decide_eq_false (Int.not_lt.mpr hpos)]
    have hne : decimalText n.natAbs ≠ [] := decimalText_ne_nil n.natAbs
    obtain ⟨c, digits, hdigits⟩ := List.exists_cons_of_ne_nil hne
    have hc : c.isDigit = true := by
      have hmem : c ∈ decimalText n.natAbs := by
        rw [hdigits]
        exact List.mem_cons_self
      exact isDigit_of_mem_decimalText hmem
    rw [hdigits]
    exact readValue_digit fuel room hc (chars digits ++ rest)

/-- **A scalar** is read as its value, if nothing behind it could go on a number. -/
theorem readValue_form (fuel room : Nat) {scalar : Scalar} {form : List Char} (h : ScalarForm scalar form)
    (hrange : scalar.InRange) {rest : JsonText} (hrest : EndsNumber rest) :
    ∃ json, readValue (fuel + 1) room (chars form ++ rest) = .ok (json, rest) ∧
      Value.ofJson? json = some scalar.value := by
  cases h with
  | boolean b =>
    -- a word is told by its first letter, so there is a case for each of the two
    refine ⟨.boolean b, ?_, rfl⟩
    cases b with
    | true =>
      show readValue (fuel + 1) room (some 't' :: (chars ['r', 'u', 'e'] ++ rest)) = _
      rw [readValue, skipSpace_cons rfl]
      simp only [readWord_form]
      rfl
    | false =>
      show readValue (fuel + 1) room (some 'f' :: (chars ['a', 'l', 's', 'e'] ++ rest)) = _
      rw [readValue, skipSpace_cons rfl]
      simp only [readWord_form]
      rfl
  | integer n =>
    -- the number is one because the integer is below the limit
    obtain ⟨json, hnumber, hvalue⟩ := number?_integer hrange
    refine ⟨json, ?_, hvalue⟩
    rw [readValue_integerText]
    exact readNumber_form (n < 0) hnumber hrest
  | @string s form h =>
    refine ⟨.string s.toList, ?_, ?_⟩
    · -- behind the string stand its quote and the rest
      have hsplit : chars ('"' :: form ++ ['"']) ++ rest = some '"' :: (chars form ++ some '"' :: rest) := by
        simp [chars]
      rw [hsplit, readValue, skipSpace_cons rfl]
      simp only [readString_form h rest]
      rfl
    · simp only [Value.ofJson?, String.ofList_toList, Scalar.value]

/-- **An integer that is too large** is refused. -/
theorem readValue_refused (fuel room : Nat) {scalar : Scalar} {form : List Char} (h : ScalarForm scalar form)
    (hrange : ¬ scalar.InRange) {rest : JsonText} (hrest : EndsNumber rest) :
    readValue (fuel + 1) room (chars form ++ rest) = .error .misplaced := by
  cases h with
  | boolean b => exact absurd trivial hrange
  | integer n =>
    have hnumber := number?_refused (Nat.le_of_not_lt hrange)
    rw [readValue_integerText]
    exact readNumber_refused (n < 0) hnumber hrest
  | string h => exact absurd trivial hrange

/-! ### Members -/

/-- Members with the values that are read from them. -/
def values (entries : List (String × Scalar)) : List (String × Value) :=
  entries.map fun entry => (entry.1, entry.2.value)

theorem values_names (entries : List (String × Scalar)) :
    (values entries).map Prod.fst = entries.map Prod.fst := by
  rw [values, List.map_map]
  rfl

/-- White space ends a number too. -/
theorem endsNumber_blank {blank : List Char} (h : Blank blank) {rest : JsonText} (hrest : EndsNumber rest) :
    EndsNumber (chars blank ++ rest) := by
  cases blank with
  | nil => exact hrest
  | cons c others =>
    refine ⟨c, chars others ++ rest, rfl, ?_⟩
    rcases h c List.mem_cons_self with rfl | rfl | rfl | rfl <;> decide

/-- What stands behind a member ends its number. -/
theorem MembersForm.endsNumber {entries : List (String × Scalar)} {text : List Char}
    (h : MembersForm false entries text) (rest : JsonText) : EndsNumber (chars text ++ rest) := by
  cases h with
  | @close _ blank hblank =>
    have hsplit : chars (blank ++ ['\x7d']) ++ rest = chars blank ++ some '\x7d' :: rest := by
      simp [chars]
    rw [hsplit]
    exact endsNumber_blank hblank ⟨'\x7d', rest, rfl, by decide⟩
  | @more _ _ blank form others hblank _ _ =>
    have hsplit : chars (blank ++ ',' :: form ++ others) ++ rest =
        chars blank ++ some ',' :: (chars form ++ chars others ++ rest) := by
      simp [chars]
    rw [hsplit]
    exact endsNumber_blank hblank ⟨',', _, rfl, by decide⟩

/-- White space in front of a member or of the closing brace is skipped. -/
theorem nextMember_blank (fuel room : Nat) (first : Bool) {blank : List Char} (h : Blank blank)
    (rest : JsonText) :
    nextMember (fuel + 1) room first (chars blank ++ rest) = nextMember (fuel + 1) room first rest := by
  rw [nextMember, nextMember, skipSpace_blank h]

/-- The closing brace ends the members. -/
theorem nextMember_close (fuel room : Nat) (first : Bool) {blank : List Char} (h : Blank blank)
    (rest : JsonText) :
    nextMember (fuel + 1) room first (chars (blank ++ ['\x7d']) ++ rest) = .ok (none, rest) := by
  have hsplit : chars (blank ++ ['\x7d']) ++ rest = chars blank ++ some '\x7d' :: rest := by
    simp [chars]
  rw [hsplit, nextMember_blank fuel room first h, nextMember, skipSpace_cons rfl]
  rfl

/-- **The first member** is read as its name and whatever its scalar is read as. -/
theorem nextMember_first (fuel room : Nat) {name : String} {scalar : Scalar} {form : List Char}
    (h : MemberForm (name, scalar) form) (rest : JsonText) :
    ∃ value, ScalarForm scalar value ∧ nextMember (fuel + 2) room true (chars form ++ rest) =
      (readValue (fuel + 1) room (chars value ++ rest)).map fun (json, rest) =>
        (some (name.toList, json), rest) := by
  cases h with
  | @mk _ _ before key between behind value hbefore hname hbetween hbehind hscalar =>
    refine ⟨value, hscalar, ?_⟩
    have hsplit : chars (before ++ '"' :: key ++ '"' :: between ++ ':' :: behind ++ value) ++ rest =
        chars before ++ some '"' :: (chars key ++ some '"' :: (chars between ++
          some ':' :: (chars behind ++ (chars value ++ rest)))) := by
      simp [chars]
    rw [hsplit, nextMember_blank _ _ _ hbefore, nextMember, skipSpace_cons rfl]
    split
    · rename_i heq
      cases heq
    · rename_i heq
      cases heq
    · rw [if_pos rfl]
      simp only [readString_form hname, skipSpace_blank_cons hbetween (c := ':') rfl]
      rw [readValue_blank _ _ hbehind]

/-- **The others** come behind a comma and are read in the same way. -/
theorem nextMember_more (fuel room : Nat) {entry : String × Scalar} {blank form : List Char}
    (hblank : Blank blank) (h : MemberForm entry form) (rest : JsonText) :
    nextMember (fuel + 1) room false (chars (blank ++ ',' :: form) ++ rest) =
      nextMember (fuel + 1) room true (chars form ++ rest) := by
  cases h with
  | @mk name scalar before key between behind value hbefore _ _ _ _ =>
    -- a name begins with a quote, in front of which there may be white space
    obtain ⟨tail, htail⟩ : ∃ tail, chars (before ++ '"' :: key ++ '"' :: between ++ ':' :: behind ++ value) ++
        rest = chars before ++ some '"' :: tail := by
      simp [chars]
    have hsplit : chars (blank ++ ',' :: (before ++ '"' :: key ++ '"' :: between ++ ':' :: behind ++ value)) ++
        rest = chars blank ++ some ',' :: (chars before ++ some '"' :: tail) := by
      rw [← htail]
      simp [chars]
    have hquote := skipSpace_blank_cons hbefore (c := '"') rfl tail
    rw [hsplit, htail, nextMember_blank fuel room false hblank, nextMember_blank fuel room true hbefore,
      nextMember, nextMember, skipSpace_cons rfl, skipSpace_cons rfl]
    simp only [hquote]
    rfl

/-- **The next member of an object** is read as its name and whatever its scalar is read as, in front of the
members behind it. -/
theorem MembersForm.nextMember {first : Bool} {entry : String × Scalar} {others : List (String × Scalar)}
    {text : List Char} (h : MembersForm first (entry :: others) text) (fuel room : Nat) (rest : JsonText) :
    ∃ behind value, MembersForm false others behind ∧ ScalarForm entry.2 value ∧
      Json.nextMember (fuel + 2) room first (chars text ++ rest) =
        (readValue (fuel + 1) room (chars value ++ (chars behind ++ rest))).map fun (json, rest) =>
          (some (entry.1.toList, json), rest) := by
  cases h with
  | @first _ _ form behind hform hbehind =>
    obtain ⟨value, hscalar, hread⟩ := nextMember_first fuel room hform (chars behind ++ rest)
    refine ⟨behind, value, hbehind, hscalar, ?_⟩
    rw [chars, List.map_append, List.append_assoc]
    exact hread
  | @more _ _ blank form behind hblank hform hbehind =>
    obtain ⟨value, hscalar, hread⟩ := nextMember_first fuel room hform (chars behind ++ rest)
    refine ⟨behind, value, hbehind, hscalar, ?_⟩
    rw [chars, List.map_append, List.append_assoc]
    exact (nextMember_more _ room hblank hform _).trans hread

/-- With a scalar in range, the member is read as its name and the value of the scalar, -/
theorem MembersForm.nextMember_inRange {first : Bool} {entry : String × Scalar}
    {others : List (String × Scalar)} {text : List Char} (h : MembersForm first (entry :: others) text)
    (hrange : entry.2.InRange) (fuel room : Nat) (rest : JsonText) :
    ∃ behind json, MembersForm false others behind ∧
      Json.nextMember (fuel + 2) room first (chars text ++ rest) =
        .ok (some (entry.1.toList, json), chars behind ++ rest) ∧
      Value.ofJson? json = some entry.2.value := by
  obtain ⟨behind, value, hbehind, hscalar, hmember⟩ := h.nextMember fuel room rest
  obtain ⟨json, hread, hvalue⟩ := readValue_form fuel room hscalar hrange (hbehind.endsNumber rest)
  refine ⟨behind, json, hbehind, ?_, hvalue⟩
  rw [hmember, hread]
  rfl

/-- and else it is refused. -/
theorem MembersForm.nextMember_refused {first : Bool} {entry : String × Scalar}
    {others : List (String × Scalar)} {text : List Char} (h : MembersForm first (entry :: others) text)
    (hrange : ¬ entry.2.InRange) (fuel room : Nat) (rest : JsonText) :
    Json.nextMember (fuel + 2) room first (chars text ++ rest) = .error .misplaced := by
  obtain ⟨behind, value, hbehind, hscalar, hmember⟩ := h.nextMember fuel room rest
  rw [hmember, readValue_refused fuel room hscalar hrange (hbehind.endsNumber rest)]
  rfl

end RuleText.Json

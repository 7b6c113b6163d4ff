import RuleText.Proofs.Grammar.Failure

/-!
# The first wrong token

What makes errors useful is that they lie where something is wrong. A parser *pinpoints* the first wrong
token if, whenever it fails, the tokens in front of the error are the beginning of something it reads, and
together with the token at the error they no longer are.

A parser of one token does this. So does a sequence: what its first part has read is no beginning of
anything else that this part reads, so the place where the second part starts is settled. A list between
marks does it with one exception. A separator with no item behind it is left to the closing mark, which
blames the separator and not the token where the item should have been.

Main definitions:

- `Stops`: tokens that begin a value, do not finish one, and cannot go on as the input does;
- `Pinpoints`: errors lie where reading stops;
- `pending`: the beginning of a list up to a separator;
- `Unclosed`: the four ways for a list between marks to fail.

Main statements:

- `Pinpoints.satisfy`, `Pinpoints.andThen`, `Pinpoints.preceded`: one token, and sequences;
- `Reads.brokenList_iff`, `Reads.delimitedList_unclosed`: lists, and lists between marks.
-/

namespace RuleText.Parser

variable {τ α β γ ι κ : Type}

/-! ### Where reading stops -/

/-- What is written stops here: these tokens begin a value, they do not finish one, and no value goes on
with the next token. -/
structure Stops (written : ι → List τ) (begun : List τ) (next : Option τ) : Prop where
  begins : ∃ value, begun <+: written value
  unfinished : ∀ value, ¬ written value <+: begun
  wrong : ∀ token, next = some token → ∀ value, ¬ begun ++ [token] <+: written value

/-- No value that a parser reads is the beginning of another one. -/
theorem Reads.eq_of_prefix {p : Parser τ α} {tokens : α → List τ} (hp : p.Reads tokens)
    {value other : α} {text : List τ} (hvalue : tokens value <+: text)
    (hother : tokens other <+: text) : value = other := by
  have hreads : ∀ v, tokens v <+: text → p text.toArray 0 = .ok ((tokens v).length, v) := by
    intro v hv
    exact (hp text.toArray 0 _ v).mpr ⟨hv, (Nat.zero_add _).symm⟩
  have hsame := (hreads value hvalue).symm.trans (hreads other hother)
  exact (Prod.mk.inj (Except.ok.inj hsame)).2

namespace Stops

variable {written : ι → List τ} {begun : List τ} {next : Option τ}

/-- Where reading stops no value stands, the next token included. -/
theorem not_stands {token : τ} (h : Stops written begun (some token)) (value : ι) :
    ¬ written value <+: begun ++ [token] := by
  intro hvalue
  rcases List.prefix_concat_iff.mp hvalue with heq | hshort
  · exact h.wrong token rfl value (heq ▸ List.prefix_rfl)
  · exact h.unfinished value hshort

/-- What is begun are the first tokens of a value, but not all of them. -/
theorem exists_take (h : Stops written begun next) :
    ∃ i, begun = (written i).take begun.length ∧ begun.length < (written i).length := by
  obtain ⟨i, hi⟩ := h.begins
  refine ⟨i, List.prefix_iff_eq_take.mp hi, Nat.lt_of_le_of_ne hi.length_le fun hlength => ?_⟩
  exact h.unfinished i (hi.eq_of_length hlength ▸ List.prefix_rfl)

/-- The same writing with its values counted differently. -/
theorem reindex (h : Stops written begun next) {written' : κ → List τ} (image : ι → κ) (back : κ → ι)
    (himage : ∀ i, written' (image i) = written i) (hback : ∀ k, written (back k) = written' k) :
    Stops written' begun next where
  begins := by
    obtain ⟨i, hi⟩ := h.begins
    refine ⟨image i, ?_⟩
    rw [himage]
    exact hi
  unfinished k := by
    rw [← hback]
    exact h.unfinished (back k)
  wrong token htoken k := by
    rw [← hback]
    exact h.wrong token htoken (back k)

/-- Among alternatives that begin with other tokens, once one of them has begun. -/
theorem alternative (h : Stops written begun next) (hne : begun ≠ []) {all : κ → List τ} (image : ι → κ)
    (himage : ∀ i, all (image i) = written i)
    (hall : ∀ k, (∃ i, all k = written i) ∨ all k ≠ [] ∧ ∀ i, (all k).head? ≠ (written i).head?) :
    Stops all begun next := by
  obtain ⟨i, hi⟩ := h.begins
  -- another alternative differs from what has begun in the first token
  have hhead : ∀ {these those : List τ}, these ≠ [] → these <+: those → these.head? = those.head? := by
    rintro these those hthese ⟨more, rfl⟩
    obtain ⟨first, others, rfl⟩ := List.exists_cons_of_ne_nil hthese
    rfl
  refine ⟨⟨image i, (himage i).symm ▸ hi⟩, fun k hk => ?_, fun token htoken k hk => ?_⟩
  · rcases hall k with ⟨j, hj⟩ | ⟨hkne, hother⟩
    · exact h.unfinished j (hj ▸ hk)
    · exact hother i ((hhead hkne hk).trans (hhead hne hi))
  · rcases hall k with ⟨j, hj⟩ | ⟨hkne, hother⟩
    · exact h.wrong token htoken j (hj ▸ hk)
    · exact hother i ((hhead hne ((List.prefix_append _ _).trans hk)).symm.trans (hhead hne hi))

/-- Within the first of two parts. -/
theorem left [Nonempty κ] (h : Stops written begun next) (writtenq : κ → List τ) :
    Stops (fun both : ι × κ => written both.1 ++ writtenq both.2) begun next where
  begins := by
    obtain ⟨i, hi⟩ := h.begins
    obtain ⟨k⟩ := ‹Nonempty κ›
    exact ⟨(i, k), hi.trans (List.prefix_append _ _)⟩
  unfinished both hboth := h.unfinished both.1 ((List.prefix_append _ _).trans hboth)
  wrong token htoken both hboth := by
    -- the first part of a value would have to end at the wrong token or before it
    subst htoken
    rcases List.prefix_or_prefix_of_prefix hboth (List.prefix_append _ _) with hlong | hshort
    · exact h.wrong token rfl both.1 hlong
    · exact h.not_stands both.1 hshort

/-- Within the second of two parts. The first one cannot have been anything else. -/
theorem right {p : Parser τ α} {tokens : α → List τ} (hreads : p.Reads tokens)
    (h : Stops written begun next) (value : α) :
    Stops (fun both : α × ι => tokens both.1 ++ written both.2) (tokens value ++ begun) next where
  begins := by
    obtain ⟨i, hi⟩ := h.begins
    exact ⟨(value, i), (List.prefix_append_right_inj _).mpr hi⟩
  unfinished both hboth := by
    have hsame := hreads.eq_of_prefix (List.prefix_append _ _) ((List.prefix_append _ _).trans hboth)
    rw [hsame] at hboth
    exact h.unfinished both.2 ((List.prefix_append_right_inj _).mp hboth)
  wrong token htoken both hboth := by
    rw [List.append_assoc] at hboth
    have hsame := hreads.eq_of_prefix (List.prefix_append _ _) ((List.prefix_append _ _).trans hboth)
    rw [← hsame] at hboth
    exact h.wrong token htoken both.2 ((List.prefix_append_right_inj _).mp hboth)

/-- Behind a certain token. -/
theorem cons (h : Stops written begun next) (token : τ) :
    Stops (fun i => token :: written i) (token :: begun) next where
  begins := by
    obtain ⟨i, hi⟩ := h.begins
    exact ⟨i, (List.prefix_cons_inj token).mpr hi⟩
  unfinished i hi := h.unfinished i ((List.prefix_cons_inj token).mp hi)
  wrong other hother i hi := h.wrong other hother i ((List.prefix_cons_inj token).mp hi)

end Stops

/-- The beginning of a value that lacks a token finishes no other value either. -/
theorem Reads.stops {p : Parser τ α} {tokens : α → List τ} (hp : p.Reads tokens) {begun : List τ}
    {next : Option τ} {value : α} (hbegins : begun <+: tokens value)
    (hlt : begun.length < (tokens value).length)
    (hwrong : ∀ token, next = some token → ∀ value, ¬ begun ++ [token] <+: tokens value) :
    Stops tokens begun next where
  begins := ⟨value, hbegins⟩
  unfinished other hother := by
    obtain rfl := hp.eq_of_prefix (hother.trans hbegins) List.prefix_rfl
    exact absurd hother.length_le (Nat.not_le_of_lt hlt)
  wrong := hwrong

/-! ### Parsers that pinpoint the first wrong token -/

/-- The error misses something at a place, where the token `next` stands or the input ends. -/
def Misses [Describe τ] (e : ParseError) (place : Nat) (next : Option τ)
    (contexts : List String) : Prop :=
  ∃ expected, e = { fault := missing expected next, position := place, contexts }

section Misses

variable [Describe τ] {e : ParseError} {place : Nat} {next : Option τ} {contexts : List String}

theorem Misses.position_eq (h : Misses e place next contexts) : e.position = place := by
  obtain ⟨expected, rfl⟩ := h
  rfl

theorem Misses.contexts_eq (h : Misses e place next contexts) : e.contexts = contexts := by
  obtain ⟨expected, rfl⟩ := h
  rfl

/-- At the end of the input the error is the end of the input. -/
theorem Misses.endOfInput (h : Misses e place (none : Option τ) contexts) :
    ∃ expected, e.fault = .endOfInput expected := by
  obtain ⟨expected, rfl⟩ := h
  exact ⟨expected, rfl⟩

theorem Misses.unexpected {token : τ} (h : Misses e place (some token) contexts) :
    ∃ expected, e.fault = .unexpected expected (describe token) := by
  obtain ⟨expected, rfl⟩ := h
  exact ⟨expected, rfl⟩

theorem Misses.within (h : Misses e place next contexts) (construct : String) :
    Misses (e.within construct) place next (contexts ++ [construct]) := by
  obtain ⟨expected, rfl⟩ := h
  exact ⟨expected, rfl⟩

end Misses

/-- Whenever the parser fails, its error misses something where reading stops. -/
def Pinpoints [Describe τ] (p : Parser τ α) (written : ι → List τ) (contexts : List String) : Prop :=
  ∀ input pos e, p input pos = .error e → ∃ begun, begun <+: input.toList.drop pos ∧
    Stops written begun input[pos + begun.length]? ∧
      Misses e (pos + begun.length) input[pos + begun.length]? contexts

namespace Pinpoints

variable [Describe τ] {p : Parser τ α} {written : ι → List τ} {contexts : List String}

/-- One token. There has to be a token that is accepted at all. -/
theorem satisfy (expected : String) {f : τ → Option α} {write : ι → τ} [Nonempty ι]
    (h : ∀ token, f token = none → ∀ i, token ≠ write i) :
    (Parser.satisfy expected f).Pinpoints (fun i => [write i]) [] := by
  intro input pos e he
  obtain ⟨hrefused, rfl⟩ := (satisfy_eq_error_iff expected f input pos e).mp he
  obtain ⟨i⟩ := ‹Nonempty ι›
  refine ⟨[], List.nil_prefix, ⟨⟨i, List.nil_prefix⟩, ?_, ?_⟩, expected, rfl⟩
  · intro j hj
    exact List.cons_ne_nil _ _ (List.prefix_nil.mp hj)
  · intro token htoken j hj
    have hsame := (List.cons_prefix_cons.mp hj).1
    exact h token (hrefused token htoken) j hsame

theorem equal [DecidableEq τ] (token : τ) :
    (Parser.equal token).Pinpoints (fun _ : Unit => [token]) [] := by
  refine Pinpoints.satisfy _ ?_
  intro other hother _ heq
  rw [if_pos heq] at hother
  cases hother

theorem map (hp : p.Pinpoints written contexts) (f : α → β) :
    (p.map f).Pinpoints written contexts := by
  intro input pos e he
  exact hp input pos e ((map_eq_error_iff f p input pos e).mp he)

theorem inContext (hp : p.Pinpoints written contexts) (construct : String) :
    (Parser.inContext construct p).Pinpoints written (contexts ++ [construct]) := by
  intro input pos e he
  obtain ⟨inner, hinner, rfl⟩ := (inContext_eq_error_iff construct p input pos e).mp he
  obtain ⟨begun, hstands, hstops, hmisses⟩ := hp input pos inner hinner
  exact ⟨begun, hstands, hstops, hmisses.within construct⟩

theorem reindex (hp : p.Pinpoints written contexts) {written' : κ → List τ} (image : ι → κ) (back : κ → ι)
    (himage : ∀ i, written' (image i) = written i) (hback : ∀ k, written (back k) = written' k) :
    p.Pinpoints written' contexts := by
  intro input pos e he
  obtain ⟨begun, hstands, hstops, hmisses⟩ := hp input pos e he
  exact ⟨begun, hstands, hstops.reindex image back himage hback, hmisses⟩

/-- **Sequences.** What the first parser reads is settled when the second one takes over. -/
theorem andThen {q : α → Parser τ β} {tokens : α → List τ} {writtenq : κ → List τ} [Nonempty κ]
    (hreads : p.Reads tokens) (hp : p.Pinpoints tokens contexts)
    (hq : ∀ value, (q value).Pinpoints writtenq contexts) :
    (p.andThen q).Pinpoints (fun both : α × κ => tokens both.1 ++ writtenq both.2) contexts := by
  intro input pos e he
  rcases (andThen_eq_error_iff p q input pos e).mp he with hfirst | ⟨behind, value, hvalue, hsecond⟩
  · obtain ⟨begun, hstands, hstops, hmisses⟩ := hp input pos e hfirst
    exact ⟨begun, hstands, hstops.left writtenq, hmisses⟩
  · obtain ⟨hstands, rfl⟩ := (hreads input pos behind value).mp hvalue
    obtain ⟨begun, hbegun, hstops, hmisses⟩ := hq value input _ e hsecond
    refine ⟨tokens value ++ begun, (append_prefix_drop_iff _ _ _ _).mpr ⟨hstands, hbegun⟩, ?_⟩
    rw [List.length_append, ← Nat.add_assoc]
    exact ⟨hstops.right hreads value, hmisses⟩

theorem triple {q : Parser τ β} {r : Parser τ γ} {tokens : α → List τ} {tokensq : β → List τ}
    {writtenr : κ → List τ} [Nonempty β] [Nonempty κ] (hreads : p.Reads tokens)
    (hp : p.Pinpoints tokens contexts) (hreadsq : q.Reads tokensq) (hq : q.Pinpoints tokensq contexts)
    (hr : r.Pinpoints writtenr contexts) :
    (Parser.triple p q r).Pinpoints
      (fun all : α × β × κ => tokens all.1 ++ (tokensq all.2.1 ++ writtenr all.2.2)) contexts := by
  have hlast : ∀ a : α, (q.andThen fun b => r.map fun c => (a, b, c)).Pinpoints
      (fun both : β × κ => tokensq both.1 ++ writtenr both.2) contexts := by
    intro a
    exact andThen hreadsq hq fun b => hr.map _
  exact andThen hreads hp hlast

/-- A parser behind a certain token. -/
theorem preceded [DecidableEq τ] [Nonempty ι] (token : τ) (hp : p.Pinpoints written []) :
    (Parser.preceded (Parser.equal token) p).Pinpoints (fun i => token :: written i) [] := by
  intro input pos e he
  rcases (andThen_eq_error_iff _ _ input pos e).mp he with hfirst | ⟨behind, found, hfound, hsecond⟩
  · obtain ⟨begun, hstands, hstops, hmisses⟩ := Pinpoints.equal token input pos e hfirst
    have hstops' := (hstops.left written).reindex Prod.snd (fun i => ((), i)) (fun _ => rfl) (fun _ => rfl)
    exact ⟨begun, hstands, hstops', hmisses⟩
  · obtain ⟨hat, rfl, rfl⟩ := (equal_eq_ok_iff token input pos behind found).mp hfound
    obtain ⟨begun, hstands, hstops, hmisses⟩ := hp input (pos + 1) e hsecond
    refine ⟨found :: begun, (cons_prefix_drop_iff _ _ _ _).mpr ⟨hat, hstands⟩, ?_⟩
    rw [List.length_cons, Nat.add_comm begun.length, ← Nat.add_assoc]
    exact ⟨hstops.cons found, hmisses⟩

/-- An error that has not got beyond the start is about a token that nothing begins with. -/
theorem refused (hp : p.Pinpoints written contexts) {input : Array τ} {pos : Nat} {e : ParseError}
    (he : p input pos = .error e) (hle : e.position ≤ pos) {token : τ} (htoken : input[pos]? = some token)
    (i : ι) : ¬ [token] <+: written i := by
  obtain ⟨begun, -, hstops, hmisses⟩ := hp input pos e he
  rw [hmisses.position_eq] at hle
  obtain rfl : begun = [] := List.length_eq_zero_iff.mp (by omega)
  exact hstops.wrong token htoken i

end Pinpoints

/-! ### Unfinished lists -/

/-- The beginning of a list up to a separator: every item so far has one behind it. -/
def pending (mark : τ) (tokens : α → List τ) (done : List α) : List τ :=
  done.flatMap fun value => tokens value ++ [mark]

/-- A list between marks. -/
def listed (opening mark closing : τ) (tokens : α → List τ) (values : List α) : List τ :=
  opening :: (List.intercalate [mark] (values.map tokens) ++ [closing])

section Lists

variable {tokens : α → List τ} {opening mark closing : τ}

theorem pending_cons (first : α) (done : List α) :
    pending mark tokens (first :: done) = tokens first ++ mark :: pending mark tokens done := by
  rw [pending, List.flatMap_cons, List.append_assoc]
  rfl

/-- A list with one item more behind it. -/
theorem intercalate_concat (done : List α) (value : α) :
    List.intercalate [mark] ((done ++ [value]).map tokens) = pending mark tokens done ++ tokens value := by
  induction done with
  | nil => rw [List.nil_append, List.map_singleton, List.intercalate_singleton]; rfl
  | cons first done ih =>
    rw [List.cons_append, List.map_cons]
    cases hmap : (done ++ [value]).map tokens with
    | nil => simp at hmap
    | cons second others =>
      rw [List.intercalate_cons_cons, ← hmap, ih, pending_cons, List.append_assoc, List.append_assoc]
      rfl

/-- A list with a separator behind it. -/
theorem intercalate_concat_mark (first : α) (others : List α) :
    List.intercalate [mark] ((first :: others).map tokens) ++ [mark] =
      pending mark tokens (first :: others) := by
  induction others generalizing first with
  | nil => rw [List.map_singleton, List.intercalate_singleton, pending, List.flatMap_singleton]
  | cons second others ih =>
    rw [List.map_cons, List.map_cons, List.intercalate_cons_cons, List.append_assoc, List.append_assoc,
      ← List.map_cons, ih, pending_cons first]
    rfl

theorem add_length_pending (pos : Nat) (first : α) (others : List α) :
    pos + (pending mark tokens (first :: others)).length =
      pos + (List.intercalate [mark] ((first :: others).map tokens)).length + 1 := by
  rw [← intercalate_concat_mark, List.length_append, List.length_singleton, Nat.add_assoc]

theorem pending_prefix_drop_iff (input : Array τ) (pos : Nat) (first : α) (others : List α) :
    pending mark tokens (first :: others) <+: input.toList.drop pos ↔
      List.intercalate [mark] ((first :: others).map tokens) <+: input.toList.drop pos ∧
        input[pos + (List.intercalate [mark] ((first :: others).map tokens)).length]? = some mark := by
  rw [← intercalate_concat_mark, append_prefix_drop_iff, cons_prefix_drop_iff]
  simp only [List.nil_prefix, and_true]

/-- The beginning of a list is one of every list that has these items first. -/
theorem pending_prefix_listed {begun : List τ} {value : α} (hbegun : begun <+: tokens value)
    (done : List α) :
    opening :: (pending mark tokens done ++ begun) <+:
        listed opening mark closing tokens (done ++ [value]) ∧
      (opening :: (pending mark tokens done ++ begun)).length <
        (listed opening mark closing tokens (done ++ [value])).length := by
  have hlength := hbegun.length_le
  rw [listed, intercalate_concat, List.append_assoc, List.prefix_cons_inj, List.prefix_append_right_inj]
  refine ⟨hbegun.trans (List.prefix_append _ _), ?_⟩
  simp only [List.length_cons, List.length_append, List.length_nil]
  omega

variable {item : Parser τ α}

/-- What goes on behind separators is an item and the rest of the list. Without a separator it may also be
the closing mark. -/
theorem Reads.of_pending_prefix (hitem : item.Reads tokens) (hne : ∀ value, tokens value ≠ [])
    (hclosing : closing ≠ mark) {done values : List α} {these : List τ}
    (h : pending mark tokens done ++ these <+:
      List.intercalate [mark] (values.map tokens) ++ [closing]) :
    (done = [] ∧ values = [] ∧ these <+: [closing]) ∨
      ∃ (value : α) (others : List α),
        these <+: tokens value ++ (others.flatMap (mark :: tokens ·) ++ [closing]) := by
  -- the induction is on the items done, which the list has to begin with
  induction done generalizing values with
  | nil =>
    cases values with
    | nil => exact Or.inl ⟨rfl, rfl, h⟩
    | cons value others =>
      rw [List.map_cons, Reads.intercalate_cons, List.append_assoc, List.flatMap_map] at h
      exact Or.inr ⟨value, others, h⟩
  | cons first done ih =>
    rw [pending_cons, List.append_assoc, List.cons_append] at h
    cases values with
    | nil =>
      -- an item and a separator do not fit into the closing mark
      have hlength := h.length_le
      have hfirst := List.length_pos_iff.mpr (hne first)
      simp only [List.map_nil, List.intercalate_nil, List.nil_append, List.length_append,
        List.length_cons, List.length_nil] at hlength
      omega
    | cons first' values =>
      rw [List.map_cons, Reads.intercalate_cons, List.append_assoc] at h
      -- the first of them is the first of the list, since no item begins another one
      obtain rfl := hitem.eq_of_prefix ((List.prefix_append _ _).trans h) (List.prefix_append _ _)
      have hrest := (List.prefix_append_right_inj _).mp h
      cases values with
      -- a separator follows it and not the closing mark, so the list goes on
      | nil => exact absurd (List.cons_prefix_cons.mp hrest).1.symm hclosing
      | cons second values =>
        rw [List.map_cons, List.flatMap_cons, List.append_assoc, List.cons_append] at hrest
        have hrest' := (List.cons_prefix_cons.mp hrest).2
        rw [← List.append_assoc, ← Reads.intercalate_cons, ← List.map_cons] at hrest'
        rcases ih hrest' with ⟨-, hnil, -⟩ | hmore
        · cases hnil
        · exact Or.inr hmore

/-- **The error of a list with marks in it** is that of an item behind a mark, or of the first one. -/
theorem Reads.brokenList_iff [DecidableEq τ] [Describe τ] (hitem : item.Reads tokens)
    (hne : ∀ value, tokens value ≠ []) (input : Array τ) (pos : Nat) (e : ParseError) :
    separatedList item (unit (equal mark)) input pos = .error e ↔
      ∃ done, pending mark tokens done <+: input.toList.drop pos ∧
        item input (pos + (pending mark tokens done).length) = .error e ∧
          pos + (pending mark tokens done).length < e.position := by
  rw [separatedList_eq_error_iff (hitem.round hne mark input) (hitem.le_next input)]
  refine ⟨?_, ?_⟩
  · rintro (⟨hvalue, hbegun⟩ | ⟨next, first, hvalue, others, stop, _, _, hchain, hmark, hbroken, hbegun⟩)
    · exact ⟨[], List.nil_prefix, hvalue, hbegun⟩
    · obtain ⟨hitems, rfl⟩ := (hitem.items_iff input pos stop first others).mp ⟨next, hvalue, hchain⟩
      obtain ⟨hat, rfl⟩ := (unit_equal_eq_ok_iff mark input _ _ _).mp hmark
      refine ⟨first :: others, (pending_prefix_drop_iff input pos first others).mpr ⟨hitems, hat⟩, ?_⟩
      rw [add_length_pending]
      exact ⟨hbroken, hbegun⟩
  · rintro ⟨done, hdone, hbroken, hbegun⟩
    cases done with
    | nil => exact Or.inl ⟨hbroken, hbegun⟩
    | cons first others =>
      obtain ⟨hitems, hat⟩ := (pending_prefix_drop_iff input pos first others).mp hdone
      obtain ⟨next, hvalue, hchain⟩ := (hitem.items_iff input pos _ first others).mpr ⟨hitems, rfl⟩
      have hmark := (unit_equal_eq_ok_iff mark input _ _ ()).mpr ⟨hat, rfl⟩
      rw [add_length_pending] at hbroken hbegun
      exact Or.inr ⟨next, first, hvalue, others, _, _, (), hchain, hmark, hbroken, hbegun⟩

section

variable {list : Parser τ (List α)} (hlist : list.Reads (listed opening mark closing tokens))
  (hitem : item.Reads tokens) (hne : ∀ value, tokens value ≠ []) (hclosing : closing ≠ mark)
include hlist hitem hne hclosing

/-- Reading stops within an item. -/
theorem Stops.inside {begun : List τ} {next : Option τ} (h : Stops tokens begun next) (hbegun : begun ≠ [])
    (done : List α) :
    Stops (listed opening mark closing tokens) (opening :: (pending mark tokens done ++ begun)) next := by
  obtain ⟨value, hvalue⟩ := h.begins
  obtain ⟨hbegins, hlt⟩ := pending_prefix_listed hvalue done
  refine hlist.stops hbegins hlt ?_
  rintro token rfl values hvalues
  rw [listed, List.cons_append, List.prefix_cons_inj, List.append_assoc] at hvalues
  rcases hitem.of_pending_prefix hne hclosing hvalues with ⟨-, -, hend⟩ | ⟨other, others, hmore⟩
  · have hlength := hend.length_le
    have hpos := List.length_pos_iff.mpr hbegun
    rw [List.length_append, List.length_singleton, List.length_singleton] at hlength
    omega
  · rcases List.prefix_or_prefix_of_prefix hmore (List.prefix_append _ _) with hlong | hshort
    · exact h.wrong token rfl other hlong
    · exact h.not_stands other hshort

/-- Reading stops where an item is expected, that is behind a separator or behind the opening mark. In the
latter place the closing mark would do too. -/
theorem Stops.expecting [Nonempty α] {next : Option τ} (done : List α)
    (hrefused : ∀ token, next = some token → ∀ value, ¬ [token] <+: tokens value)
    (hunclosed : done = [] → next ≠ some closing) :
    Stops (listed opening mark closing tokens) (opening :: pending mark tokens done) next := by
  obtain ⟨value⟩ := ‹Nonempty α›
  obtain ⟨hbegins, hlt⟩ := pending_prefix_listed (List.nil_prefix (l := tokens value)) done
  rw [List.append_nil] at hbegins hlt
  refine hlist.stops hbegins hlt ?_
  rintro token rfl values hvalues
  rw [listed, List.cons_append, List.prefix_cons_inj] at hvalues
  rcases hitem.of_pending_prefix hne hclosing hvalues with ⟨hdone, -, hend⟩ | ⟨other, others, hmore⟩
  · have hsame := (List.cons_prefix_cons.mp hend).1
    exact hunclosed hdone (congrArg some hsame)
  · -- the item behind the separators has a first token, which is the next one
    rcases List.exists_cons_of_ne_nil (hne other) with ⟨start, more, hother⟩
    rw [hother, List.cons_append] at hmore
    have hsame := (List.cons_prefix_cons.mp hmore).1
    refine hrefused token rfl other ?_
    rw [hother, hsame]
    exact List.cons_prefix_cons.mpr ⟨rfl, List.nil_prefix⟩

/-- Reading stops behind an item, where a separator or the closing mark is expected. -/
theorem Stops.behind {next : Option τ} (first : α) (others : List α) (hmark : next ≠ some mark)
    (hunclosed : next ≠ some closing) :
    Stops (listed opening mark closing tokens)
      (opening :: List.intercalate [mark] ((first :: others).map tokens)) next := by
  -- what stands behind the last separator is the last item
  obtain ⟨done, last, hconcat⟩ : ∃ done last, first :: others = done ++ [last] :=
    ⟨_, _, (List.dropLast_concat_getLast (List.cons_ne_nil first others)).symm⟩
  rw [hconcat]
  obtain ⟨hbegins, hlt⟩ := pending_prefix_listed (List.prefix_refl (tokens last)) done
  rw [intercalate_concat]
  refine hlist.stops hbegins hlt ?_
  rintro token rfl values hvalues
  rw [listed, List.cons_append, List.prefix_cons_inj, List.append_assoc] at hvalues
  rcases hitem.of_pending_prefix hne hclosing hvalues with ⟨-, -, hend⟩ | ⟨other, others, hmore⟩
  · have hlength := hend.length_le
    have hpos := List.length_pos_iff.mpr (hne last)
    rw [List.length_append, List.length_singleton, List.length_singleton] at hlength
    omega
  · obtain rfl := hitem.eq_of_prefix ((List.prefix_append _ _).trans hmore) (List.prefix_append _ _)
    have hnext := (List.prefix_append_right_inj _).mp hmore
    cases others with
    | nil => exact hunclosed (congrArg some (List.cons_prefix_cons.mp hnext).1)
    | cons second others => exact hmark (congrArg some (List.cons_prefix_cons.mp hnext).1)

end

/-! ### Lists between marks -/

/-- The four ways for a list between marks to fail at a position: the tokens in front of the first wrong
one, and the error. -/
inductive Unclosed [Describe τ] (opening mark closing : τ) (tokens : α → List τ) (contexts : List String)
    (pos : Nat) (next : Option τ) : List τ → ParseError → Prop where
  /-- There is no opening mark. -/
  | opening {e : ParseError} : Misses e pos next [] →
      Unclosed opening mark closing tokens contexts pos next [] e
  /-- An item breaks off. -/
  | inside {e : ParseError} (done : List α) (begun : List τ) : begun ≠ [] → Stops tokens begun next →
      Misses e (pos + (opening :: (pending mark tokens done ++ begun)).length) next contexts →
      Unclosed opening mark closing tokens contexts pos next
        (opening :: (pending mark tokens done ++ begun)) e
  /-- The closing mark is missing behind the items. -/
  | behind {e : ParseError} (values : List α) :
      Misses e (pos + (opening :: List.intercalate [mark] (values.map tokens)).length) next [] →
      Unclosed opening mark closing tokens contexts pos next
        (opening :: List.intercalate [mark] (values.map tokens)) e
  /-- An item is missing behind a separator. The error is that the separator is no closing mark. -/
  | dangling {done : List α} : done ≠ [] →
      Unclosed opening mark closing tokens contexts pos next (opening :: pending mark tokens done)
        { fault := .unexpected (describe closing) (describe mark)
          position := pos + (pending mark tokens done).length }

theorem place_cons (token : τ) (others : List τ) (pos : Nat) :
    pos + (token :: others).length = pos + 1 + others.length := by
  rw [List.length_cons, Nat.add_comm others.length, Nat.add_assoc]

/-- **Lists between marks.** Whenever such a list fails, reading stops at the first wrong token, and the
error is there or at a separator right in front of it. -/
theorem Reads.delimitedList_unclosed [DecidableEq τ] [Describe τ] [Nonempty α] {contexts : List String}
    (hitem : item.Reads tokens) (hpin : item.Pinpoints tokens contexts)
    (hne : ∀ value, tokens value ≠ []) (hclosing : closing ≠ mark)
    (hrefuses : ∀ input pos, input[pos]? = some closing →
      ∃ e, item input pos = .error e ∧ e.position ≤ pos)
    {input : Array τ} {pos : Nat} {e : ParseError}
    (h : delimited (unit (equal opening)) (separatedList item (unit (equal mark)))
      (unit (equal closing)) input pos = .error e) :
    ∃ begun, begun <+: input.toList.drop pos ∧
      Stops (listed opening mark closing tokens) begun input[pos + begun.length]? ∧
        Unclosed opening mark closing tokens contexts pos input[pos + begun.length]? begun e := by
  have hlist : Reads _ (listed opening mark closing tokens) :=
    hitem.delimitedList opening hne hclosing hrefuses
  have hround := hitem.round hne mark input
  have hfirst := hitem.le_next input
  rw [delimited, andThen_eq_error_iff] at h
  -- either the opening mark is missing, or it stands there and all begins behind it
  rcases h with hopening | ⟨_, _, hopening, h⟩
  · obtain ⟨hmissing, rfl⟩ := (unit_equal_eq_error_iff opening input pos e).mp hopening
    refine ⟨[], List.nil_prefix, ?_, .opening ⟨_, rfl⟩⟩
    have hlt : 0 < (listed opening mark closing tokens []).length := Nat.zero_lt_succ _
    refine hlist.stops List.nil_prefix hlt ?_
    intro token htoken values hvalues
    have hsame := (List.cons_prefix_cons.mp hvalues).1
    exact hmissing (hsame ▸ htoken)
  · obtain ⟨hat, rfl⟩ := (unit_equal_eq_ok_iff opening input pos _ _).mp hopening
    rw [andThen_eq_error_iff] at h
    -- the list is broken off inside an item, or read and not closed
    rcases h with hbroken | ⟨stop, values, hvalues, hclose⟩
    · obtain ⟨done, hdone, hbroken, hbegun⟩ := (hitem.brokenList_iff hne input _ e).mp hbroken
      obtain ⟨begun, hstands, hstops, hmisses⟩ := hpin input _ e hbroken
      -- an error that breaks the list lies inside an item, so some of its tokens stand there
      have hne' : begun ≠ [] := by
        rintro rfl
        rw [hmisses.position_eq] at hbegun
        exact absurd hbegun (Nat.lt_irrefl _)
      have hplace : pos + (opening :: (pending mark tokens done ++ begun)).length =
          pos + 1 + (pending mark tokens done).length + begun.length := by
        rw [place_cons, List.length_append, Nat.add_assoc (pos + 1)]
      refine ⟨opening :: (pending mark tokens done ++ begun), ?_, ?_, .inside done begun hne' ?_ ?_⟩
      · rw [cons_prefix_drop_iff, append_prefix_drop_iff]
        exact ⟨hat, hdone, hstands⟩
      · rw [hplace]
        exact Stops.inside hlist hitem hne hclosing hstops hne' done
      · rw [hplace]
        exact hstops
      · rw [hplace]
        exact hmisses
    · -- the list came to an end, but not in front of the closing mark
      obtain ⟨hunclosed, rfl⟩ :=
        (unit_equal_eq_error_iff closing input stop e).mp ((map_eq_error_iff _ _ _ _ _).mp hclose)
      rcases (separatedList_eq_ok_iff hround hfirst (pos + 1) stop values).mp hvalues with
        ⟨rfl, rfl, e, hvalue, hle⟩ | ⟨first, others, next, rfl, hvalue, hchain, hends⟩
      · -- no item has been read, and what stands in its place begins none
        refine ⟨[opening], (cons_prefix_drop_iff _ _ _ _).mpr ⟨hat, List.nil_prefix⟩, ?_,
          .behind [] ⟨_, rfl⟩⟩
        refine Stops.expecting hlist hitem hne hclosing [] ?_ fun _ => hunclosed
        intro token htoken
        exact hpin.refused hvalue hle htoken
      · obtain ⟨hstands, rfl⟩ := (hitem.items_iff input _ stop first others).mp ⟨next, hvalue, hchain⟩
        rcases hends with ⟨e, hmark⟩ | ⟨start, _, e, hmark, hother, hle⟩
        · -- some have, and neither a separator nor the closing mark follows
          have hunmarked := ((unit_equal_eq_error_iff mark input _ e).mp hmark).1
          refine ⟨_, (cons_prefix_drop_iff _ _ _ _).mpr ⟨hat, hstands⟩, ?_,
            .behind _ ⟨describe closing, ?_⟩⟩
          · rw [place_cons]
            exact Stops.behind hlist hitem hne hclosing first others hunmarked hunclosed
          · rw [place_cons]
        · -- some have, and a separator follows that no item stands behind
          obtain ⟨hat', rfl⟩ := (unit_equal_eq_ok_iff mark input _ _ _).mp hmark
          -- the closing mark is missed at the separator, one token before the item is
          have herror : pos + 1 + (List.intercalate [mark] ((first :: others).map tokens)).length =
              pos + (pending mark tokens (first :: others)).length := by
            rw [add_length_pending, Nat.add_right_comm]
          have hpending := (pending_prefix_drop_iff input (pos + 1) first others).mpr ⟨hstands, hat'⟩
          refine ⟨opening :: pending mark tokens (first :: others),
            (cons_prefix_drop_iff _ _ _ _).mpr ⟨hat, hpending⟩, ?_, ?_⟩
          · refine Stops.expecting hlist hitem hne hclosing _ ?_ fun hnil => absurd hnil (List.cons_ne_nil _ _)
            intro token htoken
            rw [place_cons, add_length_pending] at htoken
            exact hpin.refused hother hle htoken
          · rw [hat', herror]
            exact .dangling (List.cons_ne_nil _ _)

end Lists

end RuleText.Parser

import RuleText.Proofs.Grammar.Parser

/-!
# Parsers that read what is written

Most parsers of a grammar read their values off a fixed way of writing them: a parser reads a value exactly
where its tokens stand, and then the position behind is the one behind these tokens. `Parser.Reads` says
this as an equivalence, so it holds of a sequence as soon as it holds of the parts, and at the top of a
grammar it says both that nothing else is accepted and that everything written is.

A list does not read its items in this sense, since a longer list may stand in the same place. Between two
marks it does: the closing mark ends it, being neither a separator nor the beginning of an item.

Main statements:

- `Reads.map`, `Reads.pair`, `Reads.triple`, `Reads.preceded`: sequences of parsers;
- `Reads.delimitedList`: a list between marks.
-/

namespace RuleText.Parser

variable {τ α β γ : Type}

/-- The parser reads a value exactly where the tokens of the value stand, and takes these tokens. -/
def Reads (p : Parser τ α) (tokens : α → List τ) : Prop :=
  ∀ input pos next value, p input pos = .ok (next, value) ↔
    tokens value <+: input.toList.drop pos ∧ next = pos + (tokens value).length

/-! ### What stands at a position -/

theorem cons_prefix_drop_iff (token : τ) (others : List τ) (input : Array τ) (pos : Nat) :
    token :: others <+: input.toList.drop pos ↔
      input[pos]? = some token ∧ others <+: input.toList.drop (pos + 1) := by
  rw [List.cons_prefix_iff, ← List.tail_drop, ← Array.getElem?_toList, ← List.head?_drop]
  cases input.toList.drop pos with
  | nil => simp
  | cons first rest =>
    simp only [List.head?_cons, List.tail_cons, Option.some.injEq, List.cons.injEq]
    refine ⟨?_, ?_⟩
    · rintro ⟨_, ⟨hfirst, rfl⟩, hothers⟩
      exact ⟨hfirst, hothers⟩
    · rintro ⟨hfirst, hothers⟩
      exact ⟨rest, ⟨hfirst, rfl⟩, hothers⟩

theorem append_prefix_drop_iff (these those : List τ) (input : Array τ) (pos : Nat) :
    these ++ those <+: input.toList.drop pos ↔
      these <+: input.toList.drop pos ∧ those <+: input.toList.drop (pos + these.length) := by
  induction these generalizing pos with
  | nil => simp
  | cons token others ih =>
    rw [List.cons_append, cons_prefix_drop_iff, cons_prefix_drop_iff, ih, List.length_cons,
      Nat.add_assoc, Nat.add_comm 1, and_assoc]

theorem append_prefix_iff (these those input : List τ) :
    these ++ those <+: input ↔
      these <+: input ∧ those <+: input.toArray.toList.drop these.length := by
  have hiff := append_prefix_drop_iff these those input.toArray 0
  rw [List.drop_zero, Nat.zero_add] at hiff
  exact hiff

theorem drop_eq_append_iff (input : List τ) (pos : Nat) (these those : List τ) :
    input.drop pos = these ++ those ↔
      these <+: input.drop pos ∧ input.drop (pos + these.length) = those := by
  rw [← List.drop_drop]
  refine ⟨fun h => ?_, ?_⟩
  · rw [h]
    exact ⟨List.prefix_append these those, List.drop_left⟩
  · rintro ⟨hthese, rfl⟩
    exact List.prefix_iff_eq_append.mp hthese |>.symm

theorem length_le_of_prefix_drop {tokens : List τ} {input : Array τ} {pos : Nat}
    (h : tokens <+: input.toList.drop pos) (hne : tokens ≠ []) :
    pos + tokens.length ≤ input.size := by
  have hle := h.length_le
  have hpos := List.length_pos_iff.mpr hne
  have hsize : input.toList.length = input.size := Array.length_toList
  rw [List.length_drop, hsize] at hle
  omega

namespace Reads

variable {p : Parser τ α} {q : Parser τ β} {r : Parser τ γ} {tokens : α → List τ}
  {tokensq : β → List τ} {tokensr : γ → List τ}

/-! ### One token -/

theorem satisfy [Describe τ] (expected : String) {f : τ → Option α} {write : α → τ}
    (h : ∀ token value, f token = some value ↔ token = write value) :
    (Parser.satisfy expected f).Reads fun value => [write value] := by
  intro input pos next value
  rw [satisfy_eq_ok_iff, cons_prefix_drop_iff]
  simp only [h, List.nil_prefix, and_true, List.length_singleton]
  refine ⟨?_, ?_⟩
  · rintro ⟨token, htoken, rfl, hnext⟩
    exact ⟨htoken, hnext⟩
  · rintro ⟨htoken, hnext⟩
    exact ⟨_, htoken, rfl, hnext⟩

theorem unit_equal [DecidableEq τ] [Describe τ] (token : τ) :
    (unit (equal token)).Reads fun _ => [token] := by
  intro input pos next value
  rw [unit_equal_eq_ok_iff, cons_prefix_drop_iff]
  simp only [List.nil_prefix, and_true, List.length_singleton]

/-! ### Sequences -/

/-- A parser whose values are written differently. -/
theorem map {f : α → β} (hp : p.Reads tokens) (back : β → α) (hback : ∀ value, f (back value) = value)
    (hf : ∀ before, back (f before) = before) : (p.map f).Reads fun value => tokens (back value) := by
  intro input pos next value
  rw [map_eq_ok_iff, ← hp input pos next]
  refine ⟨?_, fun h => ⟨back value, h, hback value⟩⟩
  rintro ⟨before, hbefore, rfl⟩
  rw [hf]
  exact hbefore

/-- Another way to write down the same tokens. -/
theorem congr (hp : p.Reads tokens) {tokens' : α → List τ} (h : ∀ value, tokens value = tokens' value) :
    p.Reads tokens' := by
  obtain rfl : tokens = tokens' := funext h
  exact hp

theorem inContext (hp : p.Reads tokens) (construct : String) :
    (Parser.inContext construct p).Reads tokens := by
  intro input pos next value
  rw [inContext_eq_ok_iff]
  exact hp input pos next value

theorem pair (hp : p.Reads tokens) (hq : q.Reads tokensq) :
    (Parser.pair p q).Reads fun values => tokens values.1 ++ tokensq values.2 := by
  intro input pos next values
  rw [Parser.pair, andThen_eq_ok_iff, append_prefix_drop_iff, List.length_append]
  simp only [map_eq_ok_iff, hp input, hq input]
  refine ⟨?_, ?_⟩
  · rintro ⟨behind, a, ⟨ha, rfl⟩, b, ⟨hb, rfl⟩, rfl⟩
    exact ⟨⟨ha, hb⟩, Nat.add_assoc _ _ _⟩
  · rintro ⟨⟨ha, hb⟩, hnext⟩
    exact ⟨_, _, ⟨ha, rfl⟩, _, ⟨hb, hnext.trans (Nat.add_assoc _ _ _).symm⟩, rfl⟩

theorem triple (hp : p.Reads tokens) (hq : q.Reads tokensq) (hr : r.Reads tokensr) :
    (Parser.triple p q r).Reads fun values =>
      tokens values.1 ++ (tokensq values.2.1 ++ tokensr values.2.2) := by
  -- three in sequence are one and then two
  have hpair := hp.pair (hq.pair hr)
  intro input pos next values
  rw [← hpair input pos next values]
  simp only [Parser.triple, Parser.pair, andThen_eq_ok_iff, map_eq_ok_iff]
  refine ⟨?_, ?_⟩
  · rintro ⟨behind, a, ha, behind', b, hb, c, hc, rfl⟩
    exact ⟨behind, a, ha, (b, c), ⟨behind', b, hb, c, hc, rfl⟩, rfl⟩
  · rintro ⟨behind, a, ha, _, ⟨behind', b, hb, c, hc, rfl⟩, rfl⟩
    exact ⟨behind, a, ha, behind', b, hb, c, hc, rfl⟩

/-- A parser behind a certain token. -/
theorem preceded [DecidableEq τ] [Describe τ] (token : τ) (hp : p.Reads tokens) :
    (Parser.preceded (equal token) p).Reads fun value => token :: tokens value := by
  intro input pos next value
  rw [Parser.preceded, andThen_eq_ok_iff, cons_prefix_drop_iff, List.length_cons]
  refine ⟨?_, ?_⟩
  · rintro ⟨behind, found, hfound, hvalue⟩
    obtain ⟨hat, rfl, rfl⟩ := (equal_eq_ok_iff token input pos behind found).mp hfound
    obtain ⟨hstands, hnext⟩ := (hp _ _ _ _).mp hvalue
    exact ⟨⟨hat, hstands⟩, by omega⟩
  · rintro ⟨⟨hat, hstands⟩, hnext⟩
    have hfound := (equal_eq_ok_iff token input pos (pos + 1) token).mpr ⟨hat, rfl, rfl⟩
    exact ⟨pos + 1, token, hfound, (hp _ _ _ _).mpr ⟨hstands, by omega⟩⟩

/-! ### Lists -/

variable {item : Parser τ α}

theorem chain_iff [DecidableEq τ] [Describe τ] {mark : τ} (hitem : item.Reads tokens)
    (input : Array τ) (pos stop : Nat) (values : List α) :
    Chain item (unit (equal mark)) input pos values stop ↔
      (values.flatMap fun value => mark :: tokens value) <+: input.toList.drop pos ∧
        stop = pos + (values.flatMap fun value => mark :: tokens value).length := by
  -- the induction is on the values, from wherever the first mark stands
  induction values generalizing pos with
  | nil =>
    refine ⟨?_, ?_⟩
    · intro hchain
      cases hchain
      exact ⟨List.nil_prefix, rfl⟩
    · rintro ⟨-, rfl⟩
      exact Chain.done _
  | cons value others ih =>
    have hmark := unit_equal_eq_ok_iff mark input pos
    rw [List.flatMap_cons, List.cons_append, cons_prefix_drop_iff, append_prefix_drop_iff,
      List.length_cons, List.length_append]
    refine ⟨?_, ?_⟩
    · intro hchain
      -- each round is one mark and one item
      cases hchain with
      | more hseparator hvalue hothers =>
        obtain ⟨hat, rfl⟩ := (hmark _ _).mp hseparator
        obtain ⟨hstands, rfl⟩ := (hitem _ _ _ _).mp hvalue
        obtain ⟨hrest, rfl⟩ := (ih _).mp hothers
        exact ⟨⟨hat, hstands, hrest⟩, by omega⟩
    · rintro ⟨⟨hat, hstands, hrest⟩, hstop⟩
      have hseparator := (hmark (pos + 1) ()).mpr ⟨hat, rfl⟩
      have hvalue := (hitem input (pos + 1) _ value).mpr ⟨hstands, rfl⟩
      exact .more hseparator hvalue ((ih _).mpr ⟨hrest, by omega⟩)

/-- Writing a list with marks between its items. -/
theorem intercalate_cons (mark : τ) (first : List τ) (others : List (List τ)) :
    List.intercalate [mark] (first :: others) = first ++ others.flatMap (mark :: ·) := by
  induction others generalizing first with
  | nil => rw [List.intercalate_singleton, List.flatMap_nil, List.append_nil]
  | cons second others ih =>
    rw [List.intercalate_cons_cons, ih, List.flatMap_cons, List.append_assoc]
    rfl

/-- A round takes the mark and an item, so it goes on and stays within the tokens. -/
theorem round [DecidableEq τ] [Describe τ] (hitem : item.Reads tokens) (hne : ∀ value, tokens value ≠ [])
    (mark : τ) (input : Array τ) (pos start next : Nat) (found : Unit) (value : α)
    (hseparator : unit (equal mark) input pos = .ok (start, found))
    (hvalue : item input start = .ok (next, value)) : pos < next ∧ next ≤ input.size := by
  obtain ⟨-, rfl⟩ := (unit_equal_eq_ok_iff mark input pos start found).mp hseparator
  obtain ⟨hstands, rfl⟩ := (hitem _ _ _ _).mp hvalue
  exact ⟨by omega, length_le_of_prefix_drop hstands (hne value)⟩

theorem le_next (hitem : item.Reads tokens) (input : Array τ) (pos next : Nat) (value : α)
    (hvalue : item input pos = .ok (next, value)) : pos ≤ next := by
  obtain ⟨-, rfl⟩ := (hitem _ _ _ _).mp hvalue
  exact Nat.le_add_right _ _

/-- An item and a chain from there are the items with marks between them. -/
theorem items_iff [DecidableEq τ] [Describe τ] {mark : τ} (hitem : item.Reads tokens) (input : Array τ)
    (pos stop : Nat) (first : α) (others : List α) :
    (∃ next, item input pos = .ok (next, first) ∧
        Chain item (unit (equal mark)) input next others stop) ↔
      List.intercalate [mark] ((first :: others).map tokens) <+: input.toList.drop pos ∧
        stop = pos + (List.intercalate [mark] ((first :: others).map tokens)).length := by
  rw [List.map_cons, intercalate_cons, List.flatMap_map, append_prefix_drop_iff, List.length_append,
    ← Nat.add_assoc]
  simp only [hitem input, hitem.chain_iff input]
  refine ⟨?_, ?_⟩
  · rintro ⟨next, ⟨hfirst, rfl⟩, hothers, hstop⟩
    exact ⟨⟨hfirst, hothers⟩, hstop⟩
  · rintro ⟨⟨hfirst, hothers⟩, hstop⟩
    exact ⟨_, ⟨hfirst, rfl⟩, hothers, hstop⟩

/-- In front of a closing mark a list ends: the mark is no separator, and no item begins with it. -/
theorem separatedList_before [DecidableEq τ] [Describe τ] {mark closing : τ} (hitem : item.Reads tokens)
    (hne : ∀ value, tokens value ≠ []) (hclosing : closing ≠ mark)
    (hrefuses : ∀ input pos, input[pos]? = some closing →
      ∃ e, item input pos = .error e ∧ e.position ≤ pos)
    {input : Array τ} {stop : Nat} (hstop : input[stop]? = some closing) (pos : Nat)
    (values : List α) :
    separatedList item (unit (equal mark)) input pos = .ok (stop, values) ↔
      List.intercalate [mark] (values.map tokens) <+: input.toList.drop pos ∧
        stop = pos + (List.intercalate [mark] (values.map tokens)).length := by
  have hround := hitem.round hne mark input
  have hfirst := hitem.le_next input
  -- the closing mark is no separator
  have hends : ListEnds item (unit (equal mark)) input stop := by
    rcases hseparator : unit (equal mark) input stop with e | ⟨start, mark'⟩
    · exact Or.inl ⟨e, hseparator⟩
    · obtain ⟨hmark, -⟩ := (unit_equal_eq_ok_iff mark input stop start mark').mp hseparator
      rw [hstop] at hmark
      exact absurd (Option.some.inj hmark) hclosing
  rw [separatedList_eq_ok_iff hround hfirst]
  cases values with
  | nil =>
    -- no items: the closing mark itself is where the first one is looked for
    refine ⟨?_, ?_⟩
    · rintro (⟨-, rfl, -⟩ | ⟨first, others, next, heq, -⟩)
      · exact ⟨List.nil_prefix, rfl⟩
      · cases heq
    · rintro ⟨-, hpos⟩
      obtain rfl : stop = pos := hpos
      exact Or.inl ⟨rfl, rfl, hrefuses input stop hstop⟩
  | cons first others =>
    -- in front of the closing mark any row of items is the whole of the list
    rw [← hitem.items_iff]
    refine ⟨?_, ?_⟩
    · rintro (⟨heq, -⟩ | ⟨first', others', next, heq, hvalue, hchain, -⟩)
      · cases heq
      · obtain ⟨rfl, rfl⟩ := List.cons.inj heq
        exact ⟨next, hvalue, hchain⟩
    · rintro ⟨next, hvalue, hchain⟩
      exact Or.inr ⟨first, others, next, rfl, hvalue, hchain, hends⟩

/-- **A list between marks.** -/
theorem delimitedList [DecidableEq τ] [Describe τ] (opening : τ) {mark closing : τ}
    (hitem : item.Reads tokens) (hne : ∀ value, tokens value ≠ []) (hclosing : closing ≠ mark)
    (hrefuses : ∀ input pos, input[pos]? = some closing →
      ∃ e, item input pos = .error e ∧ e.position ≤ pos) :
    (delimited (unit (equal opening)) (separatedList item (unit (equal mark)))
        (unit (equal closing))).Reads fun values =>
      opening :: (List.intercalate [mark] (values.map tokens) ++ [closing]) := by
  intro input pos next values
  simp only [delimited, andThen_eq_ok_iff, map_eq_ok_iff, unit_equal_eq_ok_iff, cons_prefix_drop_iff,
    append_prefix_drop_iff, List.nil_prefix, and_true, List.length_cons, List.length_append]
  refine ⟨?_, ?_⟩
  · rintro ⟨_, -, ⟨hopening, rfl⟩, stop, _, hlist, -, ⟨hstop, rfl⟩, rfl⟩
    obtain ⟨hstands, rfl⟩ :=
      (hitem.separatedList_before hne hclosing hrefuses hstop _ _).mp hlist
    exact ⟨⟨hopening, hstands, hstop⟩, by simp only [List.length_nil]; omega⟩
  · rintro ⟨⟨hopening, hstands, hstop⟩, hnext⟩
    have hlist :=
      (hitem.separatedList_before hne hclosing hrefuses hstop (pos + 1) values).mpr ⟨hstands, rfl⟩
    refine ⟨_, (), ⟨hopening, rfl⟩, _, values, hlist, (), ⟨hstop, ?_⟩, rfl⟩
    rw [hnext, List.length_nil]
    omega

end Reads

end RuleText.Parser

import Mathlib.Data.List.Basic
import Mathlib.Order.Bounds.Basic
import RuleText.Proofs.Program.Mistake

/-!
# The first wrong token of a document

Tokens are viable if they are the beginning of some program. The longest viable beginning of a document
ends in front of the first token that is wrong, whatever might still follow. That is also where the error
of the document lies, except behind a comma, where the comma itself is blamed.

Reading stops within one item, behind others that are whole. Whole items are the first items of any program
that goes on from there, so it is enough to look at the one that has begun. The context of the error does
not depend on how the beginning is taken apart: if it ends within a binding or a condition in one way, the
parser is led there and fails.

Main definitions:

- `Program.Viable`: the beginning of a program;
- `Program.InBinding`, `Program.InCondition`: tokens that end within these constructs.

Main statements:

- `Program.isGreatest_of_stops`: where reading stops, the longest viable beginning ends;
- `Program.contexts_in_binding`, `Program.contexts_in_condition`: the contexts of errors;
- `Program.ofTokens?_first_wrong`: errors point at the first wrong token.
-/

namespace RuleText.Program

open RuleText.Parser

/-- The tokens are the beginning of a program. -/
def Viable (tokens : List Token) : Prop :=
  ∃ p : Program, tokens <+: p.tokens

/-- The tokens end within a binding. -/
def InBinding (tokens : List Token) : Prop :=
  ∃ (p : Program) (b : Binding) (n : Nat), 0 < n ∧ n < 4 ∧ tokens = p.tokens ++ b.tokens.take n

/-- The tokens end within a condition, in front of its equals sign or of its pattern. -/
def InCondition (tokens : List Token) : Prop :=
  ∃ (p : Program) (done : List Condition) (c : Condition) (n : Nat), 0 < n ∧ n < 3 ∧
    tokens = p.tokens ++ (.delimiter .openParen :: (conditionsBefore done ++ c.tokens.take n))

/-! ### The longest viable beginning -/

/-- Items in front of what begins a program are the first items of that program. -/
theorem exists_others_of_prefix {p q : Program} {these : List Token}
    (h : p.tokens ++ these <+: q.tokens) :
    ∃ others : Program, q.tokens = p.tokens ++ others.tokens ∧ these <+: others.tokens := by
  obtain ⟨items⟩ := p
  obtain ⟨all⟩ := q
  induction items generalizing all with
  | nil => exact ⟨⟨all⟩, rfl, h⟩
  | cons first items ih =>
    have hsplit : (Program.mk (first :: items)).tokens = first.tokens ++ (Program.mk items).tokens :=
      List.flatMap_cons
    rw [hsplit, List.append_assoc] at h
    cases all with
    | nil =>
      obtain ⟨hfirst, -⟩ := List.append_eq_nil_iff.mp (List.prefix_nil.mp h)
      exact absurd hfirst first.tokens_ne_nil
    | cons first' all =>
      have hsplit' : (Program.mk (first' :: all)).tokens = first'.tokens ++ (Program.mk all).tokens :=
        List.flatMap_cons
      rw [hsplit'] at h
      obtain rfl := reads_item.eq_of_prefix ((List.prefix_append _ _).trans h) (List.prefix_append _ _)
      obtain ⟨others, hothers, hthese⟩ := ih all ((List.prefix_append_right_inj _).mp h)
      refine ⟨others, ?_, hthese⟩
      rw [hsplit', hsplit, hothers, List.append_assoc]

/-- Whole items and the beginning of one more are viable. -/
theorem viable_append (p : Program) {begun : List Token} {i : Item} (hi : begun <+: i.tokens) :
    Viable (p.tokens ++ begun) := by
  refine ⟨⟨p.items ++ [i]⟩, ?_⟩
  rw [tokens, tokens, List.flatMap_append, List.prefix_append_right_inj, List.flatMap_singleton]
  exact hi

/-- With a token at which reading stops they are not. -/
theorem not_viable_of_stops {begun : List Token} {token : Token}
    (h : Stops Item.tokens begun (some token)) (p : Program) :
    ¬ Viable (p.tokens ++ (begun ++ [token])) := by
  rintro ⟨q, hq⟩
  obtain ⟨⟨items⟩, -, hthese⟩ := exists_others_of_prefix hq
  cases items with
  | nil => exact List.append_ne_nil_of_right_ne_nil _ (List.cons_ne_nil _ _) (List.prefix_nil.mp hthese)
  | cons first items =>
    rw [tokens, List.flatMap_cons] at hthese
    rcases List.prefix_or_prefix_of_prefix hthese (List.prefix_append _ _) with hlong | hshort
    · exact h.wrong token rfl first hlong
    · exact h.not_stands first hshort

/-- Nor do they make up a program without it, if something has begun. -/
theorem ne_tokens_of_stops {begun : List Token} {next : Option Token} (h : Stops Item.tokens begun next)
    (hne : begun ≠ []) (p q : Program) : p.tokens ++ begun ≠ q.tokens := by
  intro hq
  have hprefix : p.tokens ++ begun <+: q.tokens := ⟨[], (List.append_nil _).trans hq⟩
  obtain ⟨⟨items⟩, hothers, -⟩ := exists_others_of_prefix hprefix
  have hbegun : begun = items.flatMap Item.tokens := List.append_cancel_left (hq.trans hothers)
  cases items with
  | nil => exact hne hbegun
  | cons first items =>
    rw [List.flatMap_cons] at hbegun
    exact h.unfinished first (hbegun ▸ List.prefix_append _ _)

section Greatest

variable {tokens : List Token}

/-- **Reading stops behind the longest viable beginning.** -/
theorem isGreatest_of_stops {p : Program} {begun : List Token} (hstands : p.tokens ++ begun <+: tokens)
    (hstops : Stops Item.tokens begun tokens[(p.tokens ++ begun).length]?) :
    IsGreatest {n | n ≤ tokens.length ∧ Viable (tokens.take n)} (p.tokens ++ begun).length := by
  have htake := List.prefix_iff_eq_take.mp hstands
  obtain ⟨i, hi⟩ := hstops.begins
  refine ⟨⟨hstands.length_le, htake ▸ viable_append p hi⟩, ?_⟩
  rintro n ⟨hn, q, hq⟩
  by_contra hlt
  -- a longer beginning would contain the wrong token
  have hlt' : (p.tokens ++ begun).length < tokens.length := by omega
  rw [List.getElem?_eq_getElem hlt'] at hstops
  have hmore : p.tokens ++ begun ++ [tokens[(p.tokens ++ begun).length]] <+: tokens.take n :=
    calc p.tokens ++ begun ++ [tokens[(p.tokens ++ begun).length]]
        = tokens.take (p.tokens ++ begun).length ++ [tokens[(p.tokens ++ begun).length]] := by
          rw [← htake]
      _ = tokens.take ((p.tokens ++ begun).length + 1) := List.take_append_getElem hlt'
      _ <+: tokens.take n := List.take_prefix_take_left (by omega)
  refine not_viable_of_stops hstops p ⟨q, ?_⟩
  rw [← List.append_assoc]
  exact hmore.trans hq

variable {k : Nat} (hk : IsGreatest {n | n ≤ tokens.length ∧ Viable (tokens.take n)} k)
include hk

/-- No other viable beginning is longer. -/
theorem length_le_of_viable {these : List Token} (hstands : these <+: tokens) (hviable : Viable these) :
    these.length ≤ k := by
  rw [List.prefix_iff_eq_take.mp hstands] at hviable
  exact hk.2 ⟨hstands.length_le, hviable⟩

/-! ### Contexts -/

omit hk in
/-- The error of the item behind some whole items is that of the document. -/
theorem eq_within_program {e inner : ParseError} (h : ofTokens? tokens = .error e) {p : Program}
    {more : List Token} (hne : more ≠ []) (hstands : p.tokens ++ more <+: tokens)
    (hitem : item tokens.toArray p.tokens.length = .error inner) : e = inner.within "program" := by
  have hp : p.tokens <+: tokens := (List.prefix_append _ _).trans hstands
  have hlt : p.tokens.length < tokens.length := by
    have hlength := hstands.length_le
    have hpos := List.length_pos_iff.mpr hne
    rw [List.length_append] at hlength
    omega
  have herror := (ofTokens?_eq_error_iff tokens _).mpr ⟨p, inner, hp, hlt, hitem, rfl⟩
  exact Except.error.inj (h.symm.trans herror)

/-- **Within a binding.** If the binding were whole, a longer beginning would be viable. -/
theorem contexts_in_binding {e : ParseError} (h : ofTokens? tokens = .error e)
    (hin : InBinding (tokens.take k)) : e.contexts = ["binding", "program"] := by
  obtain ⟨p, b, n, hpos, hlt, htake⟩ := hin
  obtain ⟨m, rfl⟩ := Nat.exists_eq_succ_of_ne_zero (Nat.ne_of_gt hpos)
  have hstands : p.tokens ++ b.tokens.take (m + 1) <+: tokens := htake ▸ List.take_prefix k tokens
  obtain ⟨hp, hbegun⟩ := (append_prefix_iff _ _ _).mp hstands
  have hbind := ((cons_prefix_drop_iff _ _ _ _).mp hbegun).1
  rcases hbinding : binding tokens.toArray p.tokens.length with inner | ⟨next, b'⟩
  · obtain ⟨begun, -, -, hmisses⟩ := pinpoints_binding _ _ _ hbinding
    have hitem := (item_of_bind hbind inner).mpr hbinding
    rw [eq_within_program h (List.cons_ne_nil _ _) hstands hitem]
    exact (hmisses.within "program").contexts_eq
  · exfalso
    obtain ⟨hb', -⟩ := (reads_binding _ _ next b').mp hbinding
    have hviable := viable_append p (List.prefix_refl (Item.binding b').tokens)
    have hle := length_le_of_viable hk ((append_prefix_iff _ _ _).mpr ⟨hp, hb'⟩) hviable
    have hlength := congrArg List.length htake
    rw [List.length_take_of_le hk.1.1, List.length_append, List.length_take] at hlength
    rw [List.length_append] at hle
    have hwhole : b'.tokens.length = 4 := rfl
    omega

/-- **Within a condition.** The list of conditions goes on to it, and its error is that of the list. -/
theorem contexts_in_condition {e : ParseError} (h : ofTokens? tokens = .error e)
    (hin : InCondition (tokens.take k)) : e.contexts = ["condition", "statement", "program"] := by
  obtain ⟨p, done, c, n, hpos, hlt, htake⟩ := hin
  obtain ⟨m, rfl⟩ := Nat.exists_eq_succ_of_ne_zero (Nat.ne_of_gt hpos)
  have hstands : p.tokens ++ (.delimiter .openParen :: (conditionsBefore done ++ c.tokens.take (m + 1))) <+:
      tokens := htake ▸ List.take_prefix k tokens
  -- the beginning is cut up: whole items, a parenthesis, whole conditions and a part of one
  obtain ⟨hp, hbegun⟩ := (append_prefix_iff _ _ _).mp hstands
  obtain ⟨hopen, hrest⟩ := (cons_prefix_drop_iff _ _ _ _).mp hbegun
  obtain ⟨hdone, hc⟩ := (append_prefix_drop_iff _ _ _ _).mp hrest
  have hname := ((cons_prefix_drop_iff _ _ _ _).mp hc).1
  rcases hcondition : condition tokens.toArray (p.tokens.length + 1 + (conditionsBefore done).length) with
    inner | ⟨next, c'⟩
  · -- the condition is refused behind its name, so its error has got further than its start
    obtain ⟨begun, -, hstops, hmisses⟩ := pinpoints_condition _ _ _ hcondition
    have hne : begun ≠ [] := by
      rintro rfl
      exact hstops.wrong _ hname c (List.prefix_append _ _)
    have hlate : p.tokens.length + 1 + (conditionsBefore done).length < inner.position := by
      rw [hmisses.position_eq]
      exact Nat.lt_add_of_pos_right (List.length_pos_iff.mpr hne)
    -- the conditions in front of it are whole, so the list breaks off in this one
    have hlist := (reads_condition.brokenList_iff (fun _ => List.cons_ne_nil _ _) tokens.toArray
      (p.tokens.length + 1) inner).mpr ⟨done, hdone, hcondition, hlate⟩
    have hopening := (unit_equal_eq_ok_iff _ _ _ _ ()).mpr ⟨hopen, rfl⟩
    have hconditions : conditions tokens.toArray p.tokens.length = .error inner :=
      (andThen_eq_error_iff _ _ _ _ _).mpr
        (Or.inr ⟨_, (), hopening, (andThen_eq_error_iff _ _ _ _ _).mpr (Or.inl hlist)⟩)
    have hitem := (item_of_open hopen _).mpr (statement_of_conditions hconditions)
    rw [eq_within_program h (List.cons_ne_nil _ _) hstands hitem]
    exact ((hmisses.within "statement").within "program").contexts_eq
  · -- had it been read, the beginning up to its end would be viable, and longer
    exfalso
    obtain ⟨hc', -⟩ := (reads_condition _ _ next c').mp hcondition
    have hbegins : .delimiter .openParen :: (conditionsBefore done ++ c'.tokens) <+:
        (Item.statement ⟨done ++ [c'], ⟨""⟩⟩).tokens := by
      rw [Item.tokens, statement_tokens]
      exact (pending_prefix_listed (List.prefix_refl c'.tokens) done).1.trans (List.prefix_append _ _)
    have hmore := (append_prefix_iff _ _ _).mpr ⟨hp, (cons_prefix_drop_iff _ _ _ _).mpr
      ⟨hopen, (append_prefix_drop_iff _ _ _ _).mpr ⟨hdone, hc'⟩⟩⟩
    have hle := length_le_of_viable hk hmore (viable_append p hbegins)
    have hlength := congrArg List.length htake
    rw [List.length_take_of_le hk.1.1] at hlength
    simp only [List.length_append, List.length_cons, List.length_take] at hlength hle
    have hwhole : c'.tokens.length = 3 := rfl
    omega

end Greatest

/-! ### The error of a document -/

/-- No whole item ends in a comma. -/
theorem getLast?_tokens_ne_comma (p : Program) : p.tokens.getLast? ≠ some (.delimiter .comma) := by
  obtain ⟨items⟩ := p
  rcases List.eq_nil_or_concat items with rfl | ⟨before, last, rfl⟩
  · intro hlast
    cases hlast
  · rw [tokens, List.concat_eq_append, List.flatMap_append, List.flatMap_singleton,
      List.getLast?_append_of_ne_nil _ last.tokens_ne_nil]
    intro hlast
    cases last with
    | binding b => cases hlast
    | statement s =>
      rw [Item.tokens, statement_tokens, List.getLast?_concat] at hlast
      cases hlast

/-- What is missing something does not end in a comma either: a comma is followed by a condition. -/
theorem Around.getLast?_ne_comma {begun : List Token} {contexts : List String}
    (h : Around begun contexts) : begun.getLast? ≠ some (.delimiter .comma) := by
  intro hlast
  cases h with
  | binding b n hpos hlt =>
    obtain rfl | rfl | rfl : n = 1 ∨ n = 2 ∨ n = 3 := by omega
    all_goals cases hlast
  | condition done c n hpos hlt =>
    obtain ⟨m, rfl⟩ := Nat.exists_eq_succ_of_ne_zero (Nat.ne_of_gt hpos)
    have hne : c.tokens.take (m + 1) ≠ [] := List.cons_ne_nil _ _
    rw [← List.cons_append, List.getLast?_append_of_ne_nil _ hne] at hlast
    obtain rfl | rfl : m = 0 ∨ m = 1 := by omega
    · cases hlast
    · cases hlast
  | conditions conditions =>
    rcases List.eq_nil_or_concat conditions with rfl | ⟨done, last, rfl⟩
    · cases hlast
    · have hne : last.tokens ≠ [] := List.cons_ne_nil _ _
      rw [List.concat_eq_append, conditionList, intercalate_concat, ← List.cons_append,
        List.getLast?_append_of_ne_nil _ hne] at hlast
      obtain ⟨name, pattern⟩ := last
      cases pattern with
      | literal text => cases hlast
      | regex text => cases hlast
  | block conditions =>
    rw [guardTokens, listed, ← List.cons_append, List.getLast?_concat] at hlast
    cases hlast

/-- **Errors point at the first wrong token.** For tokens that are no program let `k` be the length of the
longest viable beginning. If that ends in a comma, the error is that the comma is no closing parenthesis.
Otherwise the error lies at `k`, where the input ends, no item begins, or the token is not the one that was
expected; its context is the construct that the beginning breaks off in. -/
theorem ofTokens?_first_wrong {tokens : List Token} {e : ParseError} (h : ofTokens? tokens = .error e) :
    ∃ k, IsGreatest {n | n ≤ tokens.length ∧ Viable (tokens.take n)} k ∧
      ((tokens.take k).getLast? = some (.delimiter .comma) →
        0 < k ∧ e.position = k - 1 ∧ e.fault = .unexpected "`)`" "`,`" ∧
          e.context = some "statement -> program") ∧
      ((tokens.take k).getLast? ≠ some (.delimiter .comma) →
        e.position = k ∧
        ((∃ p : Program, tokens.take k = p.tokens) →
          k < tokens.length ∧ e.fault = .noAlternative ∧ e.context = some "program") ∧
        ((¬ ∃ p : Program, tokens.take k = p.tokens) →
          (k = tokens.length → ∃ expected, e.fault = .endOfInput expected) ∧
          (∀ token, tokens[k]? = some token →
            ∃ expected, e.fault = .unexpected expected token.describe) ∧
          (InBinding (tokens.take k) → e.context = some "binding -> program") ∧
          (InCondition (tokens.take k) → e.context = some "condition -> statement -> program") ∧
          (¬ InBinding (tokens.take k) → ¬ InCondition (tokens.take k) →
            e.context = some "statement -> program"))) := by
  -- whole items stand before the one with the mistake, and a part of it before the mistake
  obtain ⟨p, inner, hp, hlt, hitem, he⟩ := (ofTokens?_eq_error_iff tokens e).mp h
  obtain ⟨begun, hbegun, hstops, hmistake⟩ := item_mistake hitem
  have hstands : p.tokens ++ begun <+: tokens := (append_prefix_iff _ _ _).mpr ⟨hp, hbegun⟩
  have htake := (List.prefix_iff_eq_take.mp hstands).symm
  rw [← List.length_append, List.getElem?_toArray] at hstops hmistake
  -- so the longest viable beginning ends where that part stops
  have hk := isGreatest_of_stops hstands hstops
  have hbinding := contexts_in_binding hk h
  have hcondition := contexts_in_condition hk h
  refine ⟨_, hk, ?_⟩
  rw [htake] at hbinding hcondition ⊢
  cases hmistake with
  | start hnil =>
    rw [hnil, List.append_nil]
    -- nothing of an item stands there, so what has been read is a program
    refine ⟨fun hcomma => absurd hcomma p.getLast?_tokens_ne_comma, fun _ => ⟨?_, ?_, ?_⟩⟩
    · rw [he]
      rfl
    · intro _
      rw [he]
      exact ⟨hlt, rfl, rfl⟩
    · intro hnot
      exact absurd ⟨p, rfl⟩ hnot
  | missing haround hmisses =>
    -- a part of an item stands there, which makes no program and does not end with a comma
    have hne := haround.ne_nil
    have hlast := List.getLast?_append_of_ne_nil p.tokens hne
    have hprogram : ¬ ∃ q : Program, p.tokens ++ begun = q.tokens := by
      rintro ⟨q, hq⟩
      exact ne_tokens_of_stops hstops hne p q hq
    have hmisses' := hmisses.within "program"
    rw [← he, ← List.length_append] at hmisses'
    refine ⟨fun hcomma => absurd (hlast ▸ hcomma) haround.getLast?_ne_comma, fun _ =>
      ⟨hmisses'.position_eq, fun hq => absurd hq hprogram, fun _ => ⟨?_, ?_, ?_, ?_, ?_⟩⟩⟩
    · intro hend
      rw [List.getElem?_eq_none (Nat.le_of_eq hend.symm)] at hmisses'
      exact hmisses'.endOfInput
    · intro token htoken
      rw [htoken] at hmisses'
      exact hmisses'.unexpected
    · intro hin
      rw [ParseError.context, hbinding hin]
      rfl
    · intro hin
      rw [ParseError.context, hcondition hin]
      rfl
    · intro hnoBinding hnoCondition
      have hcontexts := hmisses'.contexts_eq
      -- only the list of conditions and the end of it are left
      cases haround with
      | binding b n hpos hlt => exact absurd ⟨p, b, n, hpos, hlt, rfl⟩ hnoBinding
      | condition done c n hpos hlt => exact absurd ⟨p, done, c, n, hpos, hlt, rfl⟩ hnoCondition
      | conditions conditions =>
        rw [ParseError.context, hcontexts]
        rfl
      | block conditions =>
        rw [ParseError.context, hcontexts]
        rfl
  | comma done hdone heq =>
    -- a comma with no condition behind it; the list before it has been read, so it is in the place of the end
    obtain ⟨first, others, rfl⟩ := List.exists_cons_of_ne_nil hdone
    have hlast : (p.tokens ++ begun).getLast? = some (.delimiter .comma) := by
      rw [heq, conditionsBefore, ← intercalate_concat_mark, ← List.cons_append, ← List.append_assoc,
        List.getLast?_concat]
    refine ⟨fun _ => ⟨?_, ?_, ?_, ?_⟩, fun hcomma => absurd hlast hcomma⟩
    · rw [heq, List.length_append, List.length_cons]
      exact Nat.succ_pos _
    · rw [he, heq, List.length_append, List.length_cons]
      rfl
    · rw [he]
      rfl
    · rw [he]
      rfl

/-- In `bind a=` the end of the text is wrong, and nothing before it. -/
theorem ofTokens?_first_wrong_binding :
    ofTokens? [.keyword .bind, .identifier "a", .delimiter .equal] =
        .error { fault := .endOfInput "identifier", position := 3, contexts := ["binding", "program"] } ∧
      IsGreatest {n | n ≤ 3 ∧
        Viable (List.take n [.keyword .bind, .identifier "a", .delimiter .equal])} 3 := by
  have herror : ofTokens? [.keyword .bind, .identifier "a", .delimiter .equal] =
      .error { fault := .endOfInput "identifier", position := 3, contexts := ["binding", "program"] } := rfl
  obtain ⟨k, hk, hcomma, hother⟩ := ofTokens?_first_wrong herror
  refine ⟨herror, ?_⟩
  by_cases hlast : (List.take k [.keyword .bind, .identifier "a", .delimiter .equal]).getLast? =
      some (Token.delimiter .comma)
  · obtain ⟨-, -, hfault, -⟩ := hcomma hlast
    cases hfault
  · obtain ⟨rfl, -⟩ := hother hlast
    exact hk

end RuleText.Program

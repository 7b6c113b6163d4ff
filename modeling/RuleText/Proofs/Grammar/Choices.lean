import Mathlib.Data.List.Pairwise
import Mathlib.Order.Bounds.Basic
import RuleText.Proofs.Grammar.Parser

/-!
# What a choice reports

A choice goes through its alternatives in order and stops at the first that succeeds, so the errors of those
before it are forgotten. When all of them fail, the error that lies furthest on is reported, and of several
that lie equally far the first (`FirstFurthest`). An alternative that fails without getting beyond the start
has nothing to say about what is wrong. If no alternative got further than that, or if there is none, the
choice reports an error of its own.

The loop keeps one error, the furthest so far. Which error this is among all the errors seen is an invariant
of the loop, and the report at the end can be read off it.

The position of a report is then the greatest of the start and the positions of all errors. This does not
depend on the order of the alternatives. Neither does success, and where at most one alternative succeeds
its answer is that of the choice in any order.

Main definitions:

- `FirstSuccess`: the answer of the first alternative that succeeds;
- `FirstFurthest`: the first of the errors that lie furthest on.

Main statements:

- `choice_eq_ok_iff`, `choice_eq_error_iff`: the answers and the errors of a choice;
- `choice_perm`: choices between the same alternatives in different orders;
- `choice_reports`: all of this.
-/

namespace RuleText.Parser

variable {τ α : Type}

/-! ### The furthest error -/

/-- An error is the first of those that lie furthest on: the errors before it lie less far, and those after
it no further. -/
def FirstFurthest (errors : List ParseError) (e : ParseError) : Prop :=
  ∃ before after, errors = before ++ e :: after ∧ (∀ f ∈ before, f.position < e.position) ∧
    ∀ f ∈ after, f.position ≤ e.position

theorem firstFurthest_singleton (e : ParseError) : FirstFurthest [e] e := by
  refine ⟨[], [], rfl, ?_, ?_⟩ <;> simp

namespace FirstFurthest

variable {errors : List ParseError} {e f : ParseError}

theorem mem (h : FirstFurthest errors e) : e ∈ errors := by
  obtain ⟨before, after, rfl, -, -⟩ := h
  exact List.mem_append_right before List.mem_cons_self

theorem position_le (h : FirstFurthest errors e) (hf : f ∈ errors) : f.position ≤ e.position := by
  obtain ⟨before, after, rfl, hbefore, hafter⟩ := h
  rcases List.mem_append.mp hf with hf | hf
  · exact Nat.le_of_lt (hbefore f hf)
  · rcases List.mem_cons.mp hf with rfl | hf
    · exact Nat.le_refl _
    · exact hafter f hf

/-- There is only one first. -/
theorem unique (he : FirstFurthest errors e) (hf : FirstFurthest errors f) : e = f := by
  have hle := hf.position_le he.mem
  have hge := he.position_le hf.mem
  obtain ⟨before, after, rfl, hbefore, -⟩ := he
  obtain ⟨before', after', heq, hbefore', -⟩ := hf
  -- neither of the two stands before the other, since it would lie less far
  rcases List.append_eq_append_iff.mp heq with ⟨between, rfl, hrest⟩ | ⟨between, rfl, hrest⟩
  · cases between with
    | nil => exact (List.cons.inj hrest).1
    | cons g between =>
      obtain rfl := (List.cons.inj hrest).1
      have hlt := hbefore' e (List.mem_append_right before List.mem_cons_self)
      omega
  · cases between with
    | nil => exact (List.cons.inj hrest).1.symm
    | cons g between =>
      obtain rfl := (List.cons.inj hrest).1
      have hlt := hbefore f (List.mem_append_right before' List.mem_cons_self)
      omega

/-- **One error more.** The error that the loop keeps is the first of the furthest so far. -/
theorem furthest (h : FirstFurthest errors f) (e : ParseError) :
    FirstFurthest (errors ++ [e]) (Parser.furthest (some f) e) := by
  simp only [Parser.furthest]
  split
  · -- the new error lies further on than the one kept, and so than all others
    rename_i hlt
    refine ⟨errors, [], rfl, ?_, by simp⟩
    intro g hg
    exact Nat.lt_of_le_of_lt (h.position_le hg) hlt
  · rename_i hge
    obtain ⟨before, after, rfl, hbefore, hafter⟩ := h
    refine ⟨before, after ++ [e], by simp, hbefore, ?_⟩
    intro g hg
    rcases List.mem_append.mp hg with hg | hg
    · exact hafter g hg
    · obtain rfl := List.mem_singleton.mp hg
      exact Nat.le_of_not_lt hge

end FirstFurthest

/-! ### The first success -/

variable {parsers others : List (Parser τ α)} {input : Array τ} {pos : Nat}

/-- The answer of the first alternative that succeeds. -/
def FirstSuccess (parsers : List (Parser τ α)) (input : Array τ) (pos : Nat) (answer : Nat × α) : Prop :=
  ∃ before p after, parsers = before ++ p :: after ∧ p input pos = .ok answer ∧
    ∀ q ∈ before, ∃ e, q input pos = .error e

/-- Whatever error has been kept, a choice goes on to the first alternative that succeeds. -/
theorem choiceFrom_eq_ok_iff (failed : Option ParseError) (answer : Nat × α) :
    choiceFrom failed parsers input pos = .ok answer ↔ FirstSuccess parsers input pos answer := by
  induction parsers generalizing failed with
  | nil =>
    constructor
    · intro h
      exact absurd h (choiceFrom_nil_ne_ok failed input pos answer)
    · rintro ⟨before, p, after, hnil, -, -⟩
      simp at hnil
  | cons p others ih =>
    rw [choiceFrom_cons_eq_ok_iff]
    constructor
    · rintro (hanswer | ⟨e, he, hothers⟩)
      · exact ⟨[], p, others, rfl, hanswer, by simp⟩
      · obtain ⟨before, q, after, rfl, hanswer, hbefore⟩ := (ih _).mp hothers
        exact ⟨p :: before, q, after, rfl, hanswer, List.forall_mem_cons.mpr ⟨⟨e, he⟩, hbefore⟩⟩
    · rintro ⟨before, q, after, heq, hanswer, hbefore⟩
      cases before with
      | nil =>
        obtain ⟨rfl, -⟩ := List.cons.inj heq
        exact Or.inl hanswer
      | cons q' before =>
        obtain ⟨rfl, rfl⟩ := List.cons.inj heq
        obtain ⟨⟨e, he⟩, hbefore⟩ := List.forall_mem_cons.mp hbefore
        exact Or.inr ⟨e, he, (ih _).mpr ⟨before, q, after, rfl, hanswer, hbefore⟩⟩

/-- **The answer of a choice** is that of the first alternative that succeeds. -/
theorem choice_eq_ok_iff (answer : Nat × α) :
    choice parsers input pos = .ok answer ↔ FirstSuccess parsers input pos answer :=
  choiceFrom_eq_ok_iff none answer

/-- A choice fails only if every alternative does; with their errors in order. -/
theorem exists_errors_of_choiceFrom {failed : Option ParseError} {e : ParseError}
    (h : choiceFrom failed parsers input pos = .error e) :
    ∃ errors : List ParseError, parsers.map (fun p => p input pos) = errors.map .error := by
  induction parsers generalizing failed with
  | nil => exact ⟨[], rfl⟩
  | cons p others ih =>
    rw [choiceFrom] at h
    rcases hanswer : p input pos with f | answer
    · simp only [hanswer] at h
      obtain ⟨errors, herrors⟩ := ih h
      exact ⟨f :: errors, by rw [List.map_cons, List.map_cons, hanswer, herrors]⟩
    · simp only [hanswer] at h
      cases h

/-! ### Reports -/

/-- The error of a choice that keeps `e` to the end. -/
def report (pos : Nat) (e : ParseError) : ParseError :=
  if pos < e.position then e else { fault := .noAlternative, position := pos }

/-- **The loop keeps the first of the furthest errors**, and reports it if it lies beyond the start. -/
theorem choiceFrom_of_errors {seen errors : List ParseError} {f : ParseError}
    (hseen : FirstFurthest seen f)
    (herrors : parsers.map (fun p => p input pos) = errors.map .error) :
    ∃ e, FirstFurthest (seen ++ errors) e ∧
      choiceFrom (some f) parsers input pos = .error (report pos e) := by
  -- by induction on the alternatives; `seen` are the errors of those tried before
  induction parsers generalizing seen errors f with
  | nil =>
    obtain rfl : errors = [] := List.map_eq_nil_iff.mp herrors.symm
    refine ⟨f, by rwa [List.append_nil], ?_⟩
    rw [choiceFrom, report]
    exact (apply_ite Except.error (pos < f.position) f _).symm
  | cons p others ih =>
    obtain ⟨e, errors, rfl⟩ : ∃ e rest, errors = e :: rest := by
      cases errors with
      | nil => cases herrors
      | cons e rest => exact ⟨e, rest, rfl⟩
    obtain ⟨hanswer, hothers⟩ := List.cons.inj herrors
    have hanswer : p input pos = .error e := hanswer
    obtain ⟨last, hlast, hchoice⟩ := ih (hseen.furthest e) hothers
    rw [List.append_assoc] at hlast
    refine ⟨last, hlast, ?_⟩
    rw [choiceFrom, hanswer]
    exact hchoice

/-- A choice between alternatives that all fail. -/
theorem choice_of_errors {errors : List ParseError}
    (herrors : parsers.map (fun p => p input pos) = errors.map .error) (e : ParseError) :
    choice parsers input pos = .error e ↔
      (FirstFurthest errors e ∧ pos < e.position) ∨
        ((∀ f ∈ errors, f.position ≤ pos) ∧
          e = { fault := .noAlternative, position := pos, contexts := [] }) := by
  cases parsers with
  | nil =>
    -- without alternatives there is no error to report
    obtain rfl : errors = [] := List.map_eq_nil_iff.mp herrors.symm
    have hnone : ¬ FirstFurthest [] e := fun h => List.not_mem_nil h.mem
    simp [choice, choiceFrom, hnone, eq_comm]
  | cons p others =>
    obtain ⟨first, errors, rfl⟩ : ∃ first rest, errors = first :: rest := by
      cases errors with
      | nil => cases herrors
      | cons first rest => exact ⟨first, rest, rfl⟩
    obtain ⟨hanswer, hothers⟩ := List.cons.inj herrors
    have hanswer : p input pos = .error first := hanswer
    -- with them, the search keeps the first error that is furthest
    obtain ⟨last, hlast, hchoice⟩ := choiceFrom_of_errors (firstFurthest_singleton first) hothers
    have hreport : choice (p :: others) input pos = .error (report pos last) := by
      rw [choice, choiceFrom, hanswer]
      exact hchoice
    rw [hreport, Except.error.injEq, report]
    split
    · -- it is reported if it lies beyond the start
      rename_i hbeyond
      constructor
      · rintro rfl
        exact Or.inl ⟨hlast, hbeyond⟩
      · rintro (⟨he, -⟩ | ⟨hall, -⟩)
        · exact hlast.unique he
        · -- the last error kept is one of them, and lies beyond the start
          have hle := hall last hlast.mem
          omega
    · -- and if it does not, then none does
      rename_i hnone
      constructor
      · rintro rfl
        refine Or.inr ⟨?_, rfl⟩
        intro f hf
        have hle := hlast.position_le hf
        omega
      · rintro (⟨he, hbeyond⟩ | ⟨-, rfl⟩)
        · obtain rfl := hlast.unique he
          exact absurd hbeyond hnone
        · rfl

/-- **The error of a choice**: all alternatives fail, and it is the first of the furthest errors, if that
lies beyond the start. -/
theorem choice_eq_error_iff (e : ParseError) :
    choice parsers input pos = .error e ↔
      ∃ errors : List ParseError, parsers.map (fun p => p input pos) = errors.map .error ∧
        ((FirstFurthest errors e ∧ pos < e.position) ∨
          ((∀ f ∈ errors, f.position ≤ pos) ∧
            e = { fault := .noAlternative, position := pos, contexts := [] })) := by
  constructor
  · intro h
    obtain ⟨errors, herrors⟩ := exists_errors_of_choiceFrom h
    exact ⟨errors, herrors, (choice_of_errors herrors e).mp h⟩
  · rintro ⟨errors, herrors, he⟩
    exact (choice_of_errors herrors e).mpr he

/-! ### The order of the alternatives -/

/-- The positions that the report of a choice is chosen from. -/
def reportPositions (parsers : List (Parser τ α)) (input : Array τ) (pos : Nat) : Set Nat :=
  {n | n = pos ∨ ∃ p ∈ parsers, ∃ f, p input pos = .error f ∧ f.position = n}

/-- A choice reports the greatest position. -/
theorem isGreatest_of_choice {e : ParseError} (h : choice parsers input pos = .error e) :
    IsGreatest (reportPositions parsers input pos) e.position := by
  obtain ⟨errors, herrors, he⟩ := (choice_eq_error_iff e).mp h
  have hmem : ∀ f, f ∈ errors ↔ ∃ p ∈ parsers, p input pos = .error f := by
    intro f
    have hmap : (Except.error f : Except ParseError (Nat × α)) ∈ errors.map .error ↔ f ∈ errors := by
      simp
    rw [← hmap, ← herrors, List.mem_map]
  -- it is enough to compare with the errors, and with the start
  have hupper : pos ≤ e.position → (∀ f ∈ errors, f.position ≤ e.position) →
      e.position ∈ upperBounds (reportPositions parsers input pos) := by
    rintro hstart hall n (rfl | ⟨p, hp, f, hf, rfl⟩)
    · exact hstart
    · exact hall f ((hmem f).mpr ⟨p, hp, hf⟩)
  rcases he with ⟨hfirst, hbeyond⟩ | ⟨hall, rfl⟩
  · obtain ⟨p, hp, hanswer⟩ := (hmem e).mp hfirst.mem
    refine ⟨Or.inr ⟨p, hp, e, hanswer, rfl⟩, hupper (Nat.le_of_lt hbeyond) ?_⟩
    intro f hf
    exact hfirst.position_le hf
  · exact ⟨Or.inl rfl, hupper (Nat.le_refl pos) hall⟩

/-- At most one alternative of a list succeeds. -/
def AtMostOneSucceeds (parsers : List (Parser τ α)) (input : Array τ) (pos : Nat) : Prop :=
  parsers.Pairwise fun p q => ¬ ((∃ a, p input pos = .ok a) ∧ ∃ b, q input pos = .ok b)

/-- So there is only one answer. -/
theorem AtMostOneSucceeds.unique (h : AtMostOneSucceeds parsers input pos) {p q : Parser τ α}
    (hp : p ∈ parsers) (hq : q ∈ parsers) {a b : Nat × α} (ha : p input pos = .ok a)
    (hb : q input pos = .ok b) : a = b := by
  by_cases heq : p = q
  · subst heq
    exact Except.ok.inj (ha.symm.trans hb)
  · have : Std.Symm fun p q : Parser τ α =>
        ¬ ((∃ a, p input pos = .ok a) ∧ ∃ b, q input pos = .ok b) :=
      ⟨fun p q hpq hboth => hpq hboth.symm⟩
    exact absurd ⟨⟨a, ha⟩, b, hb⟩ (List.Pairwise.forall h hp hq heq)

/-- A choice that fails has no alternative that succeeds. -/
theorem ne_ok_of_choice {e : ParseError} (h : choice parsers input pos = .error e) {p : Parser τ α}
    (hp : p ∈ parsers) (answer : Nat × α) : p input pos ≠ .ok answer := by
  obtain ⟨errors, herrors⟩ := exists_errors_of_choiceFrom h
  have hmem := List.mem_map_of_mem (f := fun p => p input pos) hp
  rw [herrors] at hmem
  obtain ⟨f, -, hf⟩ := List.mem_map.mp hmem
  rw [← hf]
  intro hok
  cases hok

/-- **The order of alternatives** matters neither for success nor for the answer, if at most one of them
succeeds, nor for the position that is reported. -/
theorem choice_perm (hperm : parsers.Perm others) (honce : AtMostOneSucceeds parsers input pos) :
    (choice others input pos).mapError ParseError.position =
      (choice parsers input pos).mapError ParseError.position := by
  have hmem : ∀ p, p ∈ others ↔ p ∈ parsers := fun p => hperm.mem_iff.symm
  rcases hchoice : choice parsers input pos with e | a
  · rcases hother : choice others input pos with f | b
    · -- the same errors have the same greatest position
      have hset : reportPositions others input pos = reportPositions parsers input pos := by
        simp only [reportPositions, hmem]
      have hgreatest := isGreatest_of_choice hother
      rw [hset] at hgreatest
      exact congrArg Except.error (hgreatest.unique (isGreatest_of_choice hchoice))
    · obtain ⟨before, q, after, rfl, hb, -⟩ := (choice_eq_ok_iff b).mp hother
      have hq := (hmem q).mp (List.mem_append_right before List.mem_cons_self)
      exact absurd hb (ne_ok_of_choice hchoice hq b)
  · obtain ⟨before, p, after, rfl, ha, -⟩ := (choice_eq_ok_iff a).mp hchoice
    have hp := List.mem_append_right before (List.mem_cons_self (a := p) (l := after))
    rcases hother : choice others input pos with f | b
    · exact absurd ha (ne_ok_of_choice hother ((hmem p).mpr hp) a)
    · obtain ⟨before', q, after', rfl, hb, -⟩ := (choice_eq_ok_iff b).mp hother
      have hq := (hmem q).mp (List.mem_append_right before' List.mem_cons_self)
      exact congrArg Except.ok (honce.unique hq hp hb ha)

/-- **What a choice reports.** If an alternative succeeds, the first that does gives the answer, whatever
went wrong before it. Otherwise the error that lies furthest on is reported as it is, of several that lie
equally far the first; and if none lies beyond the start, an error without a context says that no alternative
is left. In another order of the alternatives, of which at most one succeeds, the choice succeeds with the
same answer or reports the same position. -/
theorem choice_reports (parsers : List (Parser τ α)) (input : Array τ) (pos : Nat) :
    (∀ answer, choice parsers input pos = .ok answer ↔ FirstSuccess parsers input pos answer) ∧
      (∀ e, choice parsers input pos = .error e ↔
        ∃ errors : List ParseError, parsers.map (fun p => p input pos) = errors.map .error ∧
          ((FirstFurthest errors e ∧ pos < e.position) ∨
            ((∀ f ∈ errors, f.position ≤ pos) ∧
              e = { fault := .noAlternative, position := pos, contexts := [] }))) ∧
      ∀ others : List (Parser τ α), parsers.Perm others → AtMostOneSucceeds parsers input pos →
        (choice others input pos).mapError ParseError.position =
          (choice parsers input pos).mapError ParseError.position := by
  refine ⟨choice_eq_ok_iff, choice_eq_error_iff, ?_⟩
  intro others hperm honce
  exact choice_perm hperm honce

/-- An alternative that gives up further on is reported in place of a token that is missing before. -/
example : choice [equal 'a', fail "no sum" 2, equal 'b'] #['c', '+', 'd'] 0 =
    (.error { fault := .failure "no sum", position := 2 } : Except ParseError (Nat × Char)) := rfl

/-- Two alternatives miss different letters at the same place, and one misses a letter before. Which of the
two errors is reported depends on the order, but not its position. -/
theorem choice_reports_ties :
    let near : Parser Char Char := equal 'a'
    let first : Parser Char Char := preceded (equal 'x') (equal 'b')
    let second : Parser Char Char := preceded (equal 'x') (equal 'c')
    let input : Array Char := #['x', 'y']
    [near, first, second].Perm [near, second, first] ∧
      AtMostOneSucceeds [near, first, second] input 0 ∧
      choice [near, first, second] input 0 =
        .error { fault := .unexpected (describe 'b') (describe 'y'), position := 1 } ∧
      choice [near, second, first] input 0 =
        .error { fault := .unexpected (describe 'c') (describe 'y'), position := 1 } ∧
      (choice [near, second, first] input 0).mapError ParseError.position =
        (choice [near, first, second] input 0).mapError ParseError.position := by
  intro near first second input
  have hperm : [near, first, second].Perm [near, second, first] :=
    .cons near (.swap second first [])
  have honce : AtMostOneSucceeds [near, first, second] input 0 := by
    -- none of them does
    have hfails : choice [near, first, second] input 0 =
        .error { fault := .unexpected (describe 'b') (describe 'y'), position := 1 } := rfl
    refine List.pairwise_of_forall_mem_list ?_
    rintro p hp q - ⟨⟨a, ha⟩, -⟩
    exact ne_ok_of_choice hfails hp a ha
  exact ⟨hperm, honce, rfl, rfl, (choice_reports [near, first, second] input 0).2.2 _ hperm honce⟩

end RuleText.Parser

import RuleText.Proofs.Regex.Reach
import RuleText.Regex.Route

/-!
# Following routes

The search answers whether an expression matches somewhere in a text. The expression is cut up into a
route, and the route is entered at positions again and again, each time with a track of the positions
before. Two things have to be shown: cutting up keeps the meaning (`Regex.leads_route`), and entering a route
finds every end position that the positions before did not lead to (`Route.advances_advance`).

For the second, `Route.Records` says which set of positions a track stands for. The track of a loop holds
all positions that rounds of the loop lead to from that set, a set that is closed under further rounds. While
the loop runs, the positions entered together with those that come next are closed in the same sense, and
each round enters at least one position more; so the rounds end before the fuel does, with a closed set.

Main statements:

- `Route.advances_advance`: entering a route;
- `CharRegex.foundIn_eq_true_iff`: the search succeeds exactly when the expression matches some stretch of
  the text.
-/

namespace RuleText

/-! ### Closed sets of positions -/

/-- The positions to which chains of steps lead, of any length. -/
def closure (R : Nat → Nat → Prop) (S : Set Nat) : Set Nat :=
  ⋃ n, forward (Steps R n) S

theorem subset_closure (R : Nat → Nat → Prop) (S : Set Nat) : S ⊆ closure R S := by
  intro i hi
  rw [closure, Set.mem_iUnion]
  exact ⟨0, i, hi, rfl⟩

theorem forward_closure_subset (R : Nat → Nat → Prop) (S : Set Nat) :
    forward R (closure R S) ⊆ closure R S := by
  rintro j ⟨k, hk, hkj⟩
  rw [closure, Set.mem_iUnion] at hk ⊢
  obtain ⟨n, i, hi, hik⟩ := hk
  exact ⟨n + 1, i, hi, (steps_succ_iff R n i j).mpr ⟨k, hik, hkj⟩⟩

/-- The closure is the least closed set. -/
theorem closure_subset {R : Nat → Nat → Prop} {S T : Set Nat} (hST : S ⊆ T)
    (hT : forward R T ⊆ T) : closure R S ⊆ T := by
  intro j hj
  rw [closure, Set.mem_iUnion] at hj
  obtain ⟨n, i, hi, hij⟩ := hj
  exact hij.stays (P := (· ∈ T)) (fun a b ha hab => hT ⟨a, ha, hab⟩) (hST hi)

theorem closure_mono (R : Nat → Nat → Prop) {S T : Set Nat} (h : S ⊆ T) :
    closure R S ⊆ closure R T :=
  closure_subset (h.trans (subset_closure R T)) (forward_closure_subset R T)

theorem closure_eq_of_closed {R : Nat → Nat → Prop} {S : Set Nat} (h : forward R S ⊆ S) :
    closure R S = S :=
  Set.Subset.antisymm (closure_subset subset_rfl h) (subset_closure R S)

@[simp] theorem closure_empty (R : Nat → Nat → Prop) : closure R ∅ = ∅ :=
  closure_eq_of_closed (by rw [forward_empty])

/-- What is added to a closure may as well be added to the set. -/
theorem closure_closure_union (R : Nat → Nat → Prop) (S T : Set Nat) :
    closure R (closure R S ∪ T) = closure R (S ∪ T) := by
  apply Set.Subset.antisymm
  · refine closure_subset (Set.union_subset ?_ ?_) (forward_closure_subset R _)
    · exact closure_mono R Set.subset_union_left
    · exact Set.subset_union_right.trans (subset_closure R _)
  · exact closure_mono R (Set.union_subset_union_left T (subset_closure R S))

/-! ### Cutting up an expression -/

namespace Route

/-- The meaning of a route. -/
def Leads : Route → Nat → Nat → Prop
  | leap r => r.Leads
  | seq q r => fun i j => ∃ k, q.Leads i k ∧ r.Leads k j
  | alt q r => fun i j => q.Leads i j ∨ r.Leads i j
  | loop body => fun i j => ∃ n, Steps body.Leads (n + 1) i j

theorem leads_andThen (q r : Route) (i j : Nat) :
    (q.andThen r).Leads i j ↔ ∃ k, q.Leads i k ∧ r.Leads k j := by
  cases q <;> cases r <;> rfl

theorem leads_orElse (q r : Route) (i j : Nat) :
    (q.orElse r).Leads i j ↔ q.Leads i j ∨ r.Leads i j := by
  cases q <;> cases r <;> rfl

theorem leads_optional (r : Route) (i j : Nat) :
    (optional r).Leads i j ↔ i = j ∨ r.Leads i j := Iff.rfl

theorem leads_inRow (n : Nat) (r : Route) (i j : Nat) :
    (inRow n r).Leads i j ↔ Steps r.Leads n i j := by
  induction n generalizing i with
  | zero => rfl
  | succ n ih => simp only [inRow, Leads, ih, Steps]

/-- A counted repetition of an expression without loops. -/
theorem leads_leap_times (r : Regex Nat Nat) (least most i j : Nat) :
    (leap (.times r least (some most))).Leads i j ↔
      ∃ n, least ≤ n ∧ n ≤ most ∧ Steps r.Leads n i j := by
  refine ⟨?_, ?_⟩
  · rintro ⟨n, hleast, hmost, hn⟩
    exact ⟨n, hleast, hmost most rfl, hn⟩
  · rintro ⟨n, hleast, hmost, hn⟩
    refine ⟨n, hleast, ?_, hn⟩
    rintro m ⟨⟩
    exact hmost

theorem leads_exactly (n : Nat) (r : Route) (i j : Nat) :
    (exactly n r).Leads i j ↔ Steps r.Leads n i j := by
  cases r with
  | leap r =>
    rw [exactly, leads_leap_times]
    refine ⟨?_, ?_⟩
    · rintro ⟨m, hnm, hmn, hm⟩
      obtain rfl := Nat.le_antisymm hnm hmn
      exact hm
    · intro h
      exact ⟨n, Nat.le_refl n, Nat.le_refl n, h⟩
  | seq q r => exact leads_inRow n _ i j
  | alt q r => exact leads_inRow n _ i j
  | loop body => exact leads_inRow n _ i j

theorem leads_atMost (n : Nat) (r : Route) (i j : Nat) :
    (atMost n r).Leads i j ↔ ∃ k ≤ n, Steps r.Leads k i j := by
  induction n generalizing i with
  | zero =>
    refine ⟨?_, ?_⟩
    · intro h
      exact ⟨0, Nat.le_refl 0, h⟩
    · rintro ⟨k, hk, h⟩
      obtain rfl : k = 0 := Nat.le_zero.mp hk
      exact h
  | succ n ih =>
    rw [atMost, leads_optional]
    refine ⟨?_, ?_⟩
    · rintro (rfl | ⟨l, hil, hlj⟩)
      · exact ⟨0, Nat.zero_le _, rfl⟩
      · obtain ⟨k, hk, h⟩ := (ih l).mp hlj
        exact ⟨k + 1, Nat.succ_le_succ hk, l, hil, h⟩
    · rintro ⟨k, hk, h⟩
      cases k with
      | zero => exact Or.inl h
      | succ k =>
        obtain ⟨l, hil, hlj⟩ := h
        exact Or.inr ⟨l, hil, (ih l).mpr ⟨k, Nat.le_of_succ_le_succ hk, hlj⟩⟩

/-- A repetition that is written out in part: so many rounds, and at most so many behind them. -/
theorem leads_exactly_atMost (r : Route) {least most : Nat} (h : least ≤ most) (i j : Nat) :
    (seq (exactly least r) (atMost (most - least) r)).Leads i j ↔
      ∃ n, least ≤ n ∧ n ≤ most ∧ Steps r.Leads n i j := by
  refine ⟨?_, ?_⟩
  · rintro ⟨l, hil, hlj⟩
    have hil := (leads_exactly least r i l).mp hil
    obtain ⟨k, hk, hlj⟩ := (leads_atMost (most - least) r l j).mp hlj
    exact ⟨least + k, Nat.le_add_right _ _, by omega, hil.trans hlj⟩
  · rintro ⟨n, hleast, hmost, hn⟩
    obtain ⟨k, rfl⟩ := Nat.exists_eq_add_of_le hleast
    obtain ⟨l, hil, hlj⟩ := (steps_add_iff _ _ _ _ _).mp hn
    refine ⟨l, (leads_exactly least r i l).mpr hil, ?_⟩
    exact (leads_atMost (most - least) r l j).mpr ⟨k, by omega, hlj⟩

theorem leads_times_none (r : Route) (least i j : Nat) :
    (r.times least none).Leads i j ↔ ∃ n, least ≤ n ∧ Steps r.Leads n i j := by
  match least with
  | 0 =>
    refine ⟨?_, ?_⟩
    · rintro (h | ⟨n, hn⟩)
      · exact ⟨0, Nat.le_refl 0, h⟩
      · exact ⟨n + 1, Nat.zero_le _, hn⟩
    · rintro ⟨n, -, hn⟩
      cases n with
      | zero => exact Or.inl hn
      | succ n => exact Or.inr ⟨n, hn⟩
  | 1 =>
    refine ⟨?_, ?_⟩
    · rintro ⟨n, hn⟩
      exact ⟨n + 1, Nat.succ_le_succ (Nat.zero_le n), hn⟩
    · rintro ⟨n, hn, h⟩
      obtain ⟨k, rfl⟩ := Nat.exists_eq_add_of_le' hn
      exact ⟨k, h⟩
  | least + 2 =>
    -- all rounds but the last of the least number are written out before the loop
    refine ⟨?_, ?_⟩
    · rintro ⟨l, hil, n, hlj⟩
      have hil := (leads_exactly (least + 1) r i l).mp hil
      exact ⟨least + 1 + (n + 1), by omega, hil.trans hlj⟩
    · rintro ⟨n, hleast, hn⟩
      obtain ⟨k, rfl⟩ : ∃ k, n = least + 1 + (k + 1) := ⟨n - (least + 2), by omega⟩
      obtain ⟨l, hil, hlj⟩ := (steps_add_iff _ _ _ _ _).mp hn
      exact ⟨l, (leads_exactly (least + 1) r i l).mpr hil, k, hlj⟩

theorem leads_times_some (r : Route) (least most i j : Nat) :
    (r.times least (some most)).Leads i j ↔
      ∃ n, least ≤ n ∧ n ≤ most ∧ Steps r.Leads n i j := by
  have hwritten : (if most < least then leap (.times .empty least (some most)) else
      seq (exactly least r) (atMost (most - least) r)).Leads i j ↔
        ∃ n, least ≤ n ∧ n ≤ most ∧ Steps r.Leads n i j := by
    by_cases hmost : most < least
    · -- no number of rounds is allowed, whatever the rounds are
      rw [if_pos hmost, leads_leap_times]
      refine iff_of_false ?_ ?_
      · rintro ⟨n, hleast, hle, -⟩
        omega
      · rintro ⟨n, hleast, hle, -⟩
        omega
    · rw [if_neg hmost]
      exact leads_exactly_atMost r (Nat.le_of_not_lt hmost) i j
  cases r with
  | leap r => exact leads_leap_times r least most i j
  | seq q r => exact hwritten
  | alt q r => exact hwritten
  | loop body => exact hwritten

theorem leads_times (r : Route) (least : Nat) (most : Option Nat) (i j : Nat) :
    (r.times least most).Leads i j ↔
      ∃ n, least ≤ n ∧ (∀ m, most = some m → n ≤ m) ∧ Steps r.Leads n i j := by
  cases most with
  | none =>
    rw [leads_times_none]
    simp only [reduceCtorEq, false_implies, implies_true, true_and]
  | some m =>
    have hmost (n : Nat) : (∀ m', some m = some m' → n ≤ m') ↔ n ≤ m := by simp
    rw [leads_times_some]
    simp only [hmost]

end Route

/-- **Cutting an expression up at its loops keeps its meaning.** -/
theorem Regex.leads_route (r : Regex Nat Nat) (i j : Nat) : r.route.Leads i j ↔ r.Leads i j := by
  induction r generalizing i j with
  | empty => rfl
  | one steps => rfl
  | assert a => rfl
  | seq q r ihq ihr =>
    rw [route, Route.leads_andThen]
    simp only [ihq, ihr]
    rfl
  | alt q r ihq ihr =>
    rw [route, Route.leads_orElse]
    simp only [ihq, ihr]
    rfl
  | times r least most ih =>
    have hr : r.route.Leads = r.Leads := by
      funext i j
      exact propext (ih i j)
    rw [route, Route.leads_times, hr]
    rfl

/-! ### Routes stay within the text -/

namespace Route

/-- No step of the route leads to a position from `count` on. -/
def Within (count : Nat) : Route → Prop
  | leap r => r.Within count
  | seq q r | alt q r => q.Within count ∧ r.Within count
  | loop body => body.Within count

theorem Leads.lt_count {count : Nat} {r : Route} (hr : r.Within count) {i j : Nat}
    (hi : i < count) (h : r.Leads i j) : j < count := by
  induction r generalizing i j with
  | leap r => exact Regex.Leads.lt_count hr hi h
  | seq q r ihq ihr =>
    obtain ⟨k, hik, hkj⟩ := h
    exact ihr hr.2 (ihq hr.1 hi hik) hkj
  | alt q r ihq ihr =>
    rcases h with h | h
    · exact ihq hr.1 hi h
    · exact ihr hr.2 hi h
  | loop body ih =>
    obtain ⟨n, hn⟩ := h
    exact hn.stays (P := (· < count)) (fun a b ha hab => ih hr ha hab) hi

theorem forward_subset {count : Nat} {r : Route} (hr : r.Within count) {S : Set Nat}
    (hS : S ⊆ Set.Iio count) : forward r.Leads S ⊆ Set.Iio count := by
  rintro j ⟨i, hi, hij⟩
  exact hij.lt_count hr (hS hi)

theorem within_inRow {count : Nat} {r : Route} (hr : r.Within count) (n : Nat) :
    (inRow n r).Within count := by
  induction n with
  | zero => exact trivial
  | succ n ih => exact ⟨hr, ih⟩

theorem within_exactly {count : Nat} {r : Route} (hr : r.Within count) (n : Nat) :
    (exactly n r).Within count := by
  cases r with
  | leap r => exact hr
  | seq q r => exact within_inRow hr n
  | alt q r => exact within_inRow hr n
  | loop body => exact within_inRow hr n

theorem within_atMost {count : Nat} {r : Route} (hr : r.Within count) (n : Nat) :
    (atMost n r).Within count := by
  induction n with
  | zero => exact trivial
  | succ n ih => exact ⟨trivial, hr, ih⟩

theorem within_times {count : Nat} {r : Route} (hr : r.Within count) (least : Nat)
    (most : Option Nat) : (r.times least most).Within count := by
  cases most with
  | none =>
    match least with
    | 0 => exact ⟨trivial, hr⟩
    | 1 => exact hr
    | least + 2 => exact ⟨within_exactly hr (least + 1), hr⟩
  | some m =>
    have hrest : (if m < least then leap (.times .empty least (some m)) else
        seq (exactly least r) (atMost (m - least) r)).Within count := by
      by_cases hm : m < least
      · rw [if_pos hm]
        exact trivial
      · rw [if_neg hm]
        exact ⟨within_exactly hr least, within_atMost hr (m - least)⟩
    cases r with
    | leap r => exact hr
    | seq q r => exact hrest
    | alt q r => exact hrest
    | loop body => exact hrest

end Route

theorem Regex.within_route {count : Nat} {r : Regex Nat Nat} (hr : r.Within count) :
    r.route.Within count := by
  induction r with
  | empty => exact trivial
  | one steps => exact hr
  | assert a => exact trivial
  | seq q r ihq ihr =>
    have hq := ihq hr.1
    have hr := ihr hr.2
    rw [route]
    revert hq hr
    cases q.route <;> cases r.route <;> exact fun hq hr => ⟨hq, hr⟩
  | alt q r ihq ihr =>
    have hq := ihq hr.1
    have hr := ihr hr.2
    rw [route]
    revert hq hr
    cases q.route <;> cases r.route <;> exact fun hq hr => ⟨hq, hr⟩
  | times r least most ih => exact Route.within_times (ih hr) least most

/-! ### Entering a route -/

namespace Route

/-- The positions at which a route has been entered are those of a set, going by its track. -/
def Records : Route → Set Nat → Track → Prop
  | leap _, _, _ => True
  | seq q r, E, track => q.Records E track.first ∧ r.Records (forward q.Leads E) track.second
  | alt q r, E, track => q.Records E track.first ∧ r.Records E track.second
  | loop body, E, track =>
    positions track.entered = closure body.Leads E ∧
      body.Records (positions track.entered) track.body

/-- A fresh track stands for no position. -/
theorem records_fresh (r : Route) : r.Records ∅ .fresh := by
  induction r with
  | leap r => exact trivial
  | seq q r ihq ihr =>
    refine ⟨ihq, ?_⟩
    rw [forward_empty]
    exact ihr
  | alt q r ihq ihr => exact ⟨ihq, ihr⟩
  | loop body ih =>
    have hentered : positions Track.fresh.entered = ∅ := positions_zero
    refine ⟨by rw [hentered, closure_empty], ?_⟩
    rw [hentered]
    exact ih

/-- What entering a route at the positions `next` has to answer if the positions before are those of
`E`: the track of all of them, and end positions, among them all that `E` did not lead to. -/
structure Advances (r : Route) (E : Set Nat) (next : Nat) (answer : Nat × Track) : Prop where
  records : r.Records (E ∪ positions next) answer.2
  sound : positions answer.1 ⊆ forward r.Leads (E ∪ positions next)
  complete : forward r.Leads (E ∪ positions next) ⊆ forward r.Leads E ∪ positions answer.1

theorem advances_nowhere {r : Route} {E : Set Nat} {track : Track} (h : r.Records E track) :
    r.Advances E 0 (0, track) := by
  have hE : E ∪ positions 0 = E := by rw [positions_zero, Set.union_empty]
  refine ⟨?_, ?_, ?_⟩
  · rwa [hE]
  · rw [positions_zero]
    exact Set.empty_subset _
  · rw [hE]
    exact Set.subset_union_left

theorem forward_leads_loop (body : Route) (S : Set Nat) :
    forward (loop body).Leads S = forward body.Leads (closure body.Leads S) := by
  ext j
  refine ⟨?_, ?_⟩
  · rintro ⟨i, hi, n, hij⟩
    obtain ⟨k, hik, hkj⟩ := (steps_succ_iff _ n i j).mp hij
    refine ⟨k, ?_, hkj⟩
    rw [closure, Set.mem_iUnion]
    exact ⟨n, i, hi, hik⟩
  · rintro ⟨k, hk, hkj⟩
    rw [closure, Set.mem_iUnion] at hk
    obtain ⟨n, i, hi, hik⟩ := hk
    exact ⟨i, hi, n, (steps_succ_iff _ n i j).mpr ⟨k, hik, hkj⟩⟩

theorem forward_leads_seq (q r : Route) (S : Set Nat) :
    forward (seq q r).Leads S = forward r.Leads (forward q.Leads S) := by
  ext j
  refine ⟨?_, ?_⟩
  · rintro ⟨i, hi, k, hik, hkj⟩
    exact ⟨k, ⟨i, hi, hik⟩, hkj⟩
  · rintro ⟨k, ⟨i, hi, hik⟩, hkj⟩
    exact ⟨i, hi, k, hik, hkj⟩

theorem forward_leads_alt (q r : Route) (S : Set Nat) :
    forward (alt q r).Leads S = forward q.Leads S ∪ forward r.Leads S := by
  ext j
  refine ⟨?_, ?_⟩
  · rintro ⟨i, hi, hij | hij⟩
    · exact Or.inl ⟨i, hi, hij⟩
    · exact Or.inr ⟨i, hi, hij⟩
  · rintro (⟨i, hi, hij⟩ | ⟨i, hi, hij⟩)
    · exact ⟨i, hi, Or.inl hij⟩
    · exact ⟨i, hi, Or.inr hij⟩

/-- What the rounds of a loop have done when they end: the set of positions entered is closed, and what
the body found from positions that are new is among what was found. -/
structure Completes (body : Route) (entered next found : Nat) (answer : Nat × Track) : Prop where
  entered_eq : positions answer.2.entered =
    closure body.Leads (positions entered ∪ positions next)
  records : body.Records (positions answer.2.entered) answer.2.body
  keeps : positions found ⊆ positions answer.1
  sound : positions answer.1 ⊆ positions found ∪ forward body.Leads (positions answer.2.entered)
  complete : forward body.Leads (positions answer.2.entered) ⊆
    forward body.Leads (positions entered) ∪ positions answer.1

/-- Where nothing new comes next, the positions entered are closed, and the rounds are over. -/
theorem Completes.of_closed {body : Route} {entered next found : Nat} {track : Track}
    (hsub : positions next ⊆ positions entered) (htrack : body.Records (positions entered) track)
    (hclosed : forward body.Leads (positions entered) ⊆ positions entered ∪ positions next) :
    body.Completes entered next found (found, .loop entered track) := by
  rw [Set.union_eq_self_of_subset_right hsub] at hclosed
  refine ⟨?_, htrack, subset_rfl, Set.subset_union_left, Set.subset_union_left⟩
  rw [Set.union_eq_self_of_subset_right hsub]
  exact (closure_eq_of_closed hclosed).symm

/-- **One round more.** The body is entered at the positions `new`, and what it leads to comes next. -/
theorem Completes.of_round {body : Route} {entered new next found exits : Nat} {track : Track}
    {answer : Nat × Track}
    (hunion : positions entered ∪ positions new = positions entered ∪ positions next)
    (hround : body.Advances (positions entered) new (exits, track))
    (hrest : body.Completes (entered ||| new) exits (found ||| exits) answer) :
    body.Completes entered next found answer := by
  obtain ⟨heq, hrecords, hkeeps, hsound, hcomplete⟩ := hrest
  have hexits : positions exits ⊆ forward body.Leads (positions entered ∪ positions new) :=
    hround.sound
  rw [positions_or] at heq hkeeps hsound hcomplete
  obtain ⟨hfound, hexitsKept⟩ := Set.union_subset_iff.mp hkeeps
  -- the rounds behind this one forget no position
  have hgrown : positions entered ∪ positions new ⊆ positions answer.2.entered := by
    rw [heq]
    exact Set.subset_union_left.trans (subset_closure _ _)
  refine ⟨?_, hrecords, hfound, ?_, ?_⟩
  · -- the positions that come next follow from those entered, so they add nothing to the closure
    rw [heq, hunion]
    apply Set.Subset.antisymm
    · refine closure_subset (Set.union_subset (subset_closure _ _) ?_) (forward_closure_subset _ _)
      rw [hunion] at hexits
      refine hexits.trans ?_
      exact (forward_mono _ (subset_closure _ _)).trans (forward_closure_subset _ _)
    · exact closure_mono _ Set.subset_union_left
  · refine hsound.trans (Set.union_subset ?_ Set.subset_union_right)
    refine Set.union_subset Set.subset_union_left (hexits.trans ?_)
    exact (forward_mono _ hgrown).trans Set.subset_union_right
  · refine hcomplete.trans (Set.union_subset ?_ Set.subset_union_right)
    exact hround.complete.trans (Set.union_subset_union_right _ hexitsKept)

/-- What comes next after a round is what follows from the positions entered, as far as it is new. -/
theorem closed_of_round {body : Route} {entered new next exits : Nat} {track : Track}
    (hunion : positions entered ∪ positions new = positions entered ∪ positions next)
    (hround : body.Advances (positions entered) new (exits, track))
    (hclosed : forward body.Leads (positions entered) ⊆ positions entered ∪ positions next) :
    forward body.Leads (positions (entered ||| new)) ⊆
      positions (entered ||| new) ∪ positions exits := by
  rw [positions_or]
  refine hround.complete.trans (Set.union_subset ?_ Set.subset_union_right)
  rw [hunion]
  exact hclosed.trans Set.subset_union_left

/-- A round enters at least one position more. -/
theorem countBelow_entered_lt {count entered next : Nat} (hnext : positions next ⊆ Set.Iio count)
    (hne : minus next entered ≠ 0) :
    countBelow count entered < countBelow count (entered ||| minus next entered) := by
  obtain ⟨i, hi⟩ : (positions (minus next entered)).Nonempty := by
    rw [Set.nonempty_iff_ne_empty]
    exact fun h => hne ((eq_zero_iff_positions_eq_empty _).mpr h)
  have hnew : i ∈ positions next ∧ i ∉ positions entered := by
    rw [positions_minus] at hi
    exact hi
  refine countBelow_lt (i := i) ?_ (hnext hnew.1) hnew.2 ?_
  · rw [positions_or]
    exact Set.subset_union_left
  · rw [positions_or]
    exact Or.inr hi

/-- **The rounds of a loop.** The invariant is `hclosed`: whatever follows from the positions entered has
been entered or comes next. Every round enters a position more, which the fuel accounts for. -/
theorem completes_rounds {count : Nat} {body : Route} {enter : Track → Nat → Nat × Track}
    (hbody : body.Within count)
    (henter : ∀ (E : Set Nat) (track : Track) (next : Nat), E ⊆ Set.Iio count →
      positions next ⊆ Set.Iio count → body.Records E track →
        body.Advances E next (enter track next))
    {fuel entered next found : Nat} {track : Track}
    (hentered : positions entered ⊆ Set.Iio count) (hnext : positions next ⊆ Set.Iio count)
    (htrack : body.Records (positions entered) track)
    (hclosed : forward body.Leads (positions entered) ⊆ positions entered ∪ positions next)
    (hfuel : count + 1 ≤ fuel + countBelow count entered) :
    body.Completes entered next found (Track.rounds enter fuel entered track next found) := by
  -- the induction is on the rounds; each one enters a position that has not been entered before
  induction fuel generalizing entered next found track with
  | zero =>
    -- there are no more positions to enter than the fuel counts
    have hle := countBelow_le count entered
    omega
  | succ fuel ih =>
    rw [Track.rounds]
    have hnew : positions (minus next entered) = positions next \ positions entered :=
      positions_minus next entered
    by_cases hzero : minus next entered = 0
    · simp only [hzero, if_true]
      rw [hzero, positions_zero] at hnew
      -- nothing new comes, so what has been entered is closed
      exact .of_closed (Set.sdiff_eq_empty.mp hnew.symm) htrack hclosed
    · simp only [hzero, if_false]
      have hunion : positions entered ∪ positions (minus next entered) =
          positions entered ∪ positions next := by
        rw [hnew, Set.union_sdiff_self]
      have hnewBound : positions (minus next entered) ⊆ Set.Iio count := by
        rw [hnew]
        exact Set.sdiff_subset.trans hnext
      have hround := henter (positions entered) track (minus next entered) hentered hnewBound htrack
      generalize enter track (minus next entered) = answer at hround ⊢
      obtain ⟨exits, track'⟩ := answer
      -- the invariant holds of the positions entered now and those that come next
      have hentered' : positions (entered ||| minus next entered) ⊆ Set.Iio count := by
        rw [positions_or]
        exact Set.union_subset hentered hnewBound
      have hexits : positions exits ⊆ Set.Iio count :=
        hround.sound.trans (forward_subset hbody (Set.union_subset hentered hnewBound))
      have htrack' : body.Records (positions (entered ||| minus next entered)) track' := by
        rw [positions_or]
        exact hround.records
      have hfuel' : count + 1 ≤ fuel + countBelow count (entered ||| minus next entered) := by
        have hlt := countBelow_entered_lt hnext hzero
        omega
      have hclosed' := closed_of_round hunion hround hclosed
      exact .of_round hunion hround (ih hentered' hexits htrack' hclosed' hfuel')

/-- A sequence enters its second part where the first one led to, before and now. -/
theorem Advances.seq {q r : Route} {E : Set Nat} {next middle exits : Nat} {first second : Track}
    (hq : q.Advances E next (middle, first))
    (hr : r.Advances (forward q.Leads E) middle (exits, second)) :
    (seq q r).Advances E next (exits, .pair first second) := by
  have hmiddle : forward q.Leads E ∪ positions middle = forward q.Leads (E ∪ positions next) := by
    apply Set.Subset.antisymm
    · exact Set.union_subset (forward_mono _ Set.subset_union_left) hq.sound
    · exact hq.complete
  obtain ⟨hrecords, hsound, hcomplete⟩ := hr
  rw [hmiddle] at hrecords hsound hcomplete
  refine ⟨⟨hq.records, hrecords⟩, ?_, ?_⟩
  · rw [forward_leads_seq]
    exact hsound
  · rw [forward_leads_seq, forward_leads_seq]
    exact hcomplete

theorem Advances.alt {q r : Route} {E : Set Nat} {next exits exits' : Nat} {first second : Track}
    (hq : q.Advances E next (exits, first)) (hr : r.Advances E next (exits', second)) :
    (alt q r).Advances E next (exits ||| exits', .pair first second) := by
  refine ⟨⟨hq.records, hr.records⟩, ?_, ?_⟩
  · rw [forward_leads_alt, positions_or]
    exact Set.union_subset_union hq.sound hr.sound
  · rw [forward_leads_alt, forward_leads_alt, positions_or, Set.union_union_union_comm]
    exact Set.union_subset_union hq.complete hr.complete

/-- **Entering a route.** -/
theorem advances_advance {count : Nat} {r : Route} (hr : r.Within count) {E : Set Nat}
    {next : Nat} {track : Track} (hE : E ⊆ Set.Iio count) (hnext : positions next ⊆ Set.Iio count)
    (htrack : r.Records E track) : r.Advances E next (r.advance count track next) := by
  -- the induction is on the route; the positions already entered are those the track is about
  induction r generalizing E next track with
  | leap r =>
    have hreach := Regex.positions_reach hr hnext
    refine ⟨trivial, ?_, ?_⟩
    · rw [advance, hreach]
      exact forward_mono _ Set.subset_union_right
    · rw [advance, hreach, forward_union]
      exact subset_rfl
  | seq q r ihq ihr =>
    rw [advance]
    by_cases hzero : next = 0
    · subst hzero
      -- from nowhere nothing is reached, and the track stays as it is
      exact advances_nowhere htrack
    · simp only [hzero, if_false]
      have hq := ihq hr.1 hE hnext htrack.1
      generalize q.advance count track.first next = answer at hq ⊢
      obtain ⟨middle, first⟩ := answer
      -- the second part goes on from where the first one came out, within the text
      have hbound : positions middle ⊆ Set.Iio count :=
        hq.sound.trans (forward_subset hr.1 (Set.union_subset hE hnext))
      exact hq.seq (ihr hr.2 (forward_subset hr.1 hE) hbound htrack.2)
  | alt q r ihq ihr =>
    rw [advance]
    by_cases hzero : next = 0
    · subst hzero
      exact advances_nowhere htrack
    · simp only [hzero, if_false]
      exact (ihq hr.1 hE hnext htrack.1).alt (ihr hr.2 hE hnext htrack.2)
  | loop body ih =>
    obtain ⟨hentered, hbodyTrack⟩ := htrack
    -- what the track holds is closed, so the invariant of the rounds is there at the start
    have hbody : body.Within count := hr
    have hclosed : forward body.Leads (positions track.entered) ⊆ positions track.entered := by
      rw [hentered]
      exact forward_closure_subset _ _
    have hbound : positions track.entered ⊆ Set.Iio count := by
      rw [hentered]
      exact closure_subset hE (forward_subset hbody subset_rfl)
    have hdone : body.Completes track.entered next 0
        (Track.rounds (body.advance count) (count + 1) track.entered track.body next 0) :=
      completes_rounds hbody (fun E track next hE hnext htrack => ih hbody hE hnext htrack)
        hbound hnext hbodyTrack (hclosed.trans Set.subset_union_left) (Nat.le_add_right _ _)
    rw [advance]
    -- what was entered before is a closure already, so the closure of both is that of the positions
    have heq := hdone.entered_eq
    rw [hentered, closure_closure_union] at heq
    refine ⟨⟨heq, hdone.records⟩, ?_, ?_⟩
    · rw [forward_leads_loop, ← heq]
      refine hdone.sound.trans (Set.union_subset ?_ subset_rfl)
      rw [positions_zero]
      exact Set.empty_subset _
    · rw [forward_leads_loop, forward_leads_loop, ← heq, ← hentered]
      exact hdone.complete

end Route

/-! ### The search -/

namespace CharRegex

/-- The expression over sets of positions of a text. -/
abbrev placed (r : CharRegex) (text : List Char) : Regex Nat Nat :=
  Regex.mapLeaves (fun cls => (Places.ofText text).of fun c => cls.has c.toNat)
    (Places.ofText text).holding r

/-- A class is placed at the positions before its characters. -/
theorem mem_placed_class (text : List Char) (cls : CharClass) (i : Nat) :
    i ∈ positions ((Places.ofText text).of fun c => cls.has c.toNat) ↔
      ∃ c, text[i]? = some c ∧ cls.has c.toNat = true :=
  Places.mem_of_ofText text _ i

theorem lt_of_mem_placed_class {text : List Char} {cls : CharClass} {i : Nat}
    (h : i ∈ positions ((Places.ofText text).of fun c => cls.has c.toNat)) : i < text.length := by
  obtain ⟨c, hc, -⟩ := (mem_placed_class text cls i).mp h
  exact (List.getElem?_eq_some_iff.mp hc).1

theorem within_placed (r : CharRegex) (text : List Char) :
    (r.placed text).Within (text.length + 1) := by
  induction r with
  | empty => exact trivial
  | one cls => exact fun i hi => Nat.succ_lt_succ (lt_of_mem_placed_class hi)
  | assert a => exact trivial
  | seq q r ihq ihr => exact ⟨ihq, ihr⟩
  | alt q r ihq ihr => exact ⟨ihq, ihr⟩
  | times r least most ih => exact ih

/-- Between positions of the text, the placed expression means what the expression does. -/
theorem leads_placed (r : CharRegex) (text : List Char) {i j : Nat} (hi : i ≤ text.length) :
    (r.placed text).Leads i j ↔ r.Matches text i j := by
  rw [Regex.Leads, Regex.spans_mapLeaves]
  exact Regex.spans_congr (fun cls i h => lt_of_mem_placed_class h)
    (fun cls i _ => mem_placed_class text cls i)
    (fun a i hi => Places.mem_holding_ofText text a hi) r hi

/-- Entered at all positions, the route finds all end positions. -/
theorem positions_advance_all (r : CharRegex) (text : List Char) :
    positions ((r.placed text).route.advance (text.length + 1) .fresh (Places.ofText text).all).1 =
      forward (r.placed text).Leads (positions (Places.ofText text).all) := by
  have hall : positions (Places.ofText text).all ⊆ Set.Iio (text.length + 1) := by
    intro i hi
    exact Nat.lt_succ_of_le (mem_positions_all.mp hi)
  have hadv := Route.advances_advance (Regex.within_route (r.within_placed text))
    (Set.empty_subset _) hall (r.placed text).route.records_fresh
  have hroute : (r.placed text).route.Leads = (r.placed text).Leads := by
    funext i j
    exact propext ((r.placed text).leads_route i j)
  have hsound := hadv.sound
  have hcomplete := hadv.complete
  -- no position has been entered before
  rw [Set.empty_union, hroute] at hsound hcomplete
  rw [forward_empty, Set.empty_union] at hcomplete
  exact Set.Subset.antisymm hsound hcomplete

/-- **The search is right.** It succeeds exactly when the expression matches some stretch of the text. -/
theorem foundIn_eq_true_iff (r : CharRegex) (text : List Char) :
    r.foundIn text = true ↔ r.FoundIn text := by
  have hfound : r.foundIn text = true ↔ (positions
      ((r.placed text).route.advance (text.length + 1) .fresh (Places.ofText text).all).1).Nonempty := by
    rw [Set.nonempty_iff_ne_empty, Ne, ← eq_zero_iff_positions_eq_empty]
    exact bne_iff_ne
  rw [hfound, positions_advance_all]
  refine ⟨?_, ?_⟩
  · rintro ⟨j, i, hi, hij⟩
    have hi : i ≤ text.length := mem_positions_all.mp hi
    exact ⟨i, j, hi, (r.leads_placed text hi).mp hij⟩
  · rintro ⟨i, j, hi, hij⟩
    exact ⟨j, i, mem_positions_all.mpr hi, (r.leads_placed text hi).mpr hij⟩

instance (r : CharRegex) (text : List Char) : Decidable (r.FoundIn text) :=
  decidable_of_iff (r.foundIn text = true) (foundIn_eq_true_iff r text)

end CharRegex

end RuleText

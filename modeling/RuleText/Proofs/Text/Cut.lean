import Mathlib.Data.List.TakeDrop
import Mathlib.Data.List.TakeWhile

/-!
# Cuts of a list

The first run of a class, as `List.span` cuts it off, and what the cut is when the list is put together from
a run and what stands behind it.

Main statements:

- `span_eq_iff`: the two parts of a cut;
- `span_append_of_stop`: the cut of a run with something behind it that does not go on with it;
- `span_append_of_cons`: what follows behind the place of a cut does not matter to it;
- `span_append_of_run`: a run that goes on to the end.
-/

namespace RuleText

variable {α : Type} {p : α → Bool}

theorem length_dropWhile_le (p : α → Bool) (text : List α) :
    (text.dropWhile p).length ≤ text.length :=
  (List.dropWhile_sublist p).length_le

/-- A run and something behind it that does not go on with it are cut apart. -/
theorem span_append_of_stop {taken rest : List α} (htaken : ∀ c ∈ taken, p c = true)
    (hrest : ∀ c ∈ rest.head?, p c = false) : (taken ++ rest).span p = (taken, rest) := by
  rw [List.span_eq_takeWhile_dropWhile, List.takeWhile_append_of_pos htaken, List.dropWhile_append_of_pos htaken]
  cases rest with
  | nil => simp
  | cons c rest =>
    have hc : p c = false := hrest c rfl
    simp [hc]

/-- What the two parts of a cut are like. -/
theorem span_eq_iff {text taken rest : List α} :
    text.span p = (taken, rest) ↔
      text = taken ++ rest ∧ (∀ c ∈ taken, p c = true) ∧ ∀ c ∈ rest.head?, p c = false := by
  refine ⟨fun h => ?_, ?_⟩
  · rw [List.span_eq_takeWhile_dropWhile] at h
    obtain ⟨rfl, rfl⟩ := Prod.mk.inj h
    refine ⟨(List.takeWhile_append_dropWhile).symm, fun c hc => List.mem_takeWhile_imp hc, ?_⟩
    intro c hc
    have hhead := List.head?_dropWhile_not p text
    rw [Option.mem_def] at hc
    rw [hc] at hhead
    exact hhead
  · rintro ⟨rfl, htaken, hrest⟩
    exact span_append_of_stop htaken hrest

/-- Where a cut has been made within a list, what follows further on does not matter. -/
theorem span_append_of_cons {text taken rest : List α} {c : α}
    (h : text.span p = (taken, c :: rest)) (suffix : List α) :
    (text ++ suffix).span p = (taken, c :: (rest ++ suffix)) := by
  obtain ⟨rfl, htaken, hrest⟩ := span_eq_iff.mp h
  rw [List.append_assoc]
  exact span_append_of_stop htaken hrest

/-- A run that has not ended goes on with characters of its kind. -/
theorem span_append_of_run {text taken suffix : List α} (h : text.span p = (taken, []))
    (hsuffix : suffix.all p = true) : (text ++ suffix).span p = (text ++ suffix, []) := by
  obtain ⟨rfl, htaken, -⟩ := span_eq_iff.mp h
  have hall : ∀ c ∈ taken ++ [] ++ suffix, p c = true := by
    intro c hc
    rw [List.append_nil, List.mem_append] at hc
    rcases hc with hc | hc
    · exact htaken c hc
    · exact List.all_eq_true.mp hsuffix c hc
  have hstop : ∀ c ∈ ([] : List α).head?, p c = false := nofun
  have hwhole := span_append_of_stop hall hstop
  rwa [List.append_nil] at hwhole

end RuleText

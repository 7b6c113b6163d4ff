import Mathlib.Data.List.TakeDrop
import RuleText.Sink.Staged

/-!
# What reaches a sink

A sink with a limit ends up with the first bytes of everything that is offered to it, however the bytes are
cut into pieces: once it is full, further offers change nothing. So a sink is determined by the stream that
has been offered to it (`Sink.given`), and two ways of writing agree if they offer the same stream, or
streams that are the same up to the limit.

A staged sink offers its bytes later, and it offers some of them twice when it is given up. What it keeps is
that the bytes offered and the bytes held back make up the stream written so far (`Staged.Carries`). When
a write fails, the sink is full, and the bytes that are still held back no longer matter.

Both ways of writing are summed up by `Relays`: as long as writes succeed the whole stream is on its way,
and when one fails the sink holds all that it will ever take.

Main definitions:

- `upTo`, `Exceeds`, `Sink.given`: a limit and a stream of bytes;
- `Delivery`, `Relays`: what comes of a write.

Main statements:

- `Sink.offer_given`: offering more of a stream;
- `Sink.relays`, `Staged.relays`: the two ways of writing;
- `Staged.Carries.passOn`, `Staged.Carries.abandon`, `Staged.Carries.finish`: what happens to the bytes held
  back.
-/

namespace RuleText

/-! ### Limits -/

/-- As much of a stream of bytes as a limit allows. -/
def upTo (limit : Option Nat) (stream : Bytes) : Bytes :=
  match limit with
  | none => stream
  | some n => stream.take n

/-- A stream is longer than a limit allows. -/
def Exceeds (limit : Option Nat) (stream : Bytes) : Prop :=
  ∃ n ∈ limit, n < stream.length

theorem not_exceeds_nil (limit : Option Nat) : ¬ Exceeds limit [] := by
  rintro ⟨n, -, hlt⟩
  exact absurd hlt (Nat.not_lt_zero n)

theorem not_exceeds_none (stream : Bytes) : ¬ Exceeds none stream := by
  rintro ⟨n, hn, -⟩
  cases hn

theorem upTo_nil (limit : Option Nat) : upTo limit [] = [] := by
  cases limit with
  | none => rfl
  | some n => exact List.take_nil

section Limit

variable {limit : Option Nat} {stream : Bytes}

theorem Exceeds.append (h : Exceeds limit stream) (more : Bytes) : Exceeds limit (stream ++ more) := by
  obtain ⟨n, hn, hlt⟩ := h
  refine ⟨n, hn, ?_⟩
  rw [List.length_append]
  exact Nat.lt_add_right _ hlt

/-- Behind the limit nothing counts. -/
theorem Exceeds.upTo_append (h : Exceeds limit stream) (more : Bytes) :
    upTo limit (stream ++ more) = upTo limit stream := by
  obtain ⟨n, rfl, hlt⟩ := h
  exact List.take_append_of_le_length (Nat.le_of_lt hlt)

end Limit

namespace Sink

/-- A sink to which a stream of bytes has been offered. -/
def given (sink : Sink) (stream : Bytes) : Sink :=
  { sink with taken := upTo sink.limit stream }

variable (sink : Sink) {stream : Bytes}

theorem given_append_of_exceeds (h : Exceeds sink.limit stream) (more : Bytes) :
    sink.given (stream ++ more) = sink.given stream := by
  rw [given, given, h.upTo_append]

/-- What a sink takes on top of a stream completes the stream up to the limit. -/
theorem snd_offer_given (stream bytes : Bytes) :
    ((sink.given stream).offer bytes).2 = sink.given (stream ++ bytes) := by
  rw [offer, given, given, room]
  cases hlimit : sink.limit with
  | none =>
    simp only [upTo]
    rw [List.take_length]
  | some n =>
    simp only [upTo, List.length_take]
    -- what is missing up to the limit is taken off the front of the bytes
    have hroom : n - min n stream.length = n - stream.length := by omega
    have htake : bytes.take (min bytes.length (n - stream.length)) = bytes.take (n - stream.length) := by
      rw [Nat.min_comm, List.take_eq_take_min.symm]
    rw [hroom, htake, List.take_append]

/-- Something is left over exactly if the stream becomes too long. -/
theorem fst_offer_given_eq_nil_iff (h : ¬ Exceeds sink.limit stream) (bytes : Bytes) :
    ((sink.given stream).offer bytes).1 = [] ↔ ¬ Exceeds sink.limit (stream ++ bytes) := by
  have hroom : ((sink.given stream).offer bytes).1 = [] ↔ bytes.length ≤ (sink.given stream).room bytes :=
    List.drop_eq_nil_iff
  rw [hroom, room, given]
  cases hlimit : sink.limit with
  | none => exact ⟨fun _ => not_exceeds_none _, fun _ => Nat.le_refl _⟩
  | some n =>
    have hfits : stream.length ≤ n := by
      by_contra hlt
      exact h ⟨n, hlimit, Nat.lt_of_not_le hlt⟩
    simp only [upTo, List.length_take]
    refine ⟨?_, fun hnot => ?_⟩
    · rintro hle ⟨m, hm, hlt⟩
      obtain rfl := Option.some.inj hm
      rw [List.length_append] at hlt
      omega
    · by_contra hlt
      refine hnot ⟨n, rfl, ?_⟩
      rw [List.length_append]
      omega

/-- **Offering more of a stream.** -/
theorem offer_given (stream bytes : Bytes) :
    ∃ rest, (sink.given stream).offer bytes = (rest, sink.given (stream ++ bytes)) ∧
      (¬ Exceeds sink.limit stream → (rest = [] ↔ ¬ Exceeds sink.limit (stream ++ bytes))) := by
  refine ⟨((sink.given stream).offer bytes).1, ?_, fun h => sink.fst_offer_given_eq_nil_iff h bytes⟩
  rw [← sink.snd_offer_given stream bytes]

end Sink

/-! ### Outcomes of writing -/

/-- What comes of writing the last bytes of a stream to an output in front of a sink: the output carries the
whole stream, or the stream is too long and the sink will end up with its first bytes. -/
inductive Delivery {ω : Type} (sink : Sink) (carries : Bytes → ω → Prop) (final : ω → Sink)
    (stream : Bytes) : Except WriteFault Unit × ω → Prop where
  | carried {out : ω} (h : carries stream out) : Delivery sink carries final stream (.ok (), out)
  | full {fault : WriteFault} {out : ω} (hfinal : final out = sink.given stream)
      (hexceeds : Exceeds sink.limit stream) : Delivery sink carries final stream (.error fault, out)

/-- An output relays to a sink what is written to it. -/
structure Relays {ω : Type} [Output ω] (sink : Sink) (carries : Bytes → ω → Prop) (final : ω → Sink) :
    Prop where
  write {stream : Bytes} {out : ω} (h : carries stream out) (bytes : Bytes) :
    Delivery sink carries final (stream ++ bytes) (Output.writeAll out bytes)

/-- With more of the stream behind it, a write that failed still leaves the sink as it will be. -/
theorem Delivery.append {ω : Type} {sink : Sink} {carries : Bytes → ω → Prop} {final : ω → Sink}
    {stream : Bytes} {fault : WriteFault} {out : ω}
    (h : Delivery sink carries final stream (.error fault, out)) (more : Bytes) :
    Delivery sink carries final (stream ++ more) (.error fault, out) := by
  cases h with
  | full hfinal hexceeds =>
    refine .full ?_ (hexceeds.append more)
    rw [sink.given_append_of_exceeds hexceeds, hfinal]

/-! ### Writing to the sink -/

namespace Sink

/-- A sink that has taken a whole stream. -/
def Took (sink : Sink) (stream : Bytes) (out : Sink) : Prop :=
  out = sink.given stream ∧ ¬ Exceeds sink.limit stream

/-- **A sink relays what is written to it.** -/
theorem relays (sink : Sink) : Relays sink sink.Took id := by
  refine ⟨?_⟩
  rintro stream _ ⟨rfl, hfits⟩ bytes
  obtain ⟨rest, hoffer, hleft⟩ := sink.offer_given stream bytes
  simp only [Output.writeAll, hoffer]
  cases rest with
  | nil => exact .carried ⟨rfl, (hleft hfits).mp rfl⟩
  | cons b rest =>
    refine .full rfl ?_
    by_contra hnot
    cases (hleft hfits).mpr hnot

end Sink

/-! ### Writing to a stage -/

namespace Staged

/-- The stream that has been written to a stage has been taken by its sink up to the bytes held back. -/
def Carries (sink : Sink) (stream : Bytes) (stage : Staged) : Prop :=
  ∃ passed, sink.Took passed stage.sink ∧ stream = passed ++ stage.held

variable {sink : Sink} {stream : Bytes} {stage : Staged}

/-- What becomes of the bytes held back when they are passed on. -/
theorem Carries.passOn (h : Carries sink stream stage) :
    Delivery sink (fun stream stage => sink.Took stream stage.sink ∧ stage.held = []) Staged.sink stream
      stage.passOn := by
  obtain ⟨passed, ⟨hstage, hfits⟩, rfl⟩ := h
  obtain ⟨rest, hoffer, hleft⟩ := sink.offer_given passed stage.held
  rw [Staged.passOn, hstage, hoffer]
  cases rest with
  | nil => exact .carried ⟨⟨rfl, (hleft hfits).mp rfl⟩, rfl⟩
  | cons b rest =>
    refine .full rfl ?_
    by_contra hnot
    cases (hleft hfits).mpr hnot

/-- A full sink takes nothing when its stage is given up. -/
theorem abandon_of_full (hstage : stage.sink = sink.given stream) (h : Exceeds sink.limit stream) :
    stage.abandon = sink.given stream := by
  obtain ⟨rest, hoffer, -⟩ := sink.offer_given stream stage.held
  rw [sink.given_append_of_exceeds h] at hoffer
  rw [abandon, Staged.passOn, hstage, hoffer]
  cases rest with
  | nil => rfl
  | cons b rest => rfl

/-- **Giving a stage up** offers the sink the rest of the stream. -/
theorem Carries.abandon (h : Carries sink stream stage) : stage.abandon = sink.given stream := by
  have hpassed := h.passOn
  rw [Staged.abandon]
  generalize stage.passOn = answer at hpassed ⊢
  cases hpassed with
  | carried hcarried => exact hcarried.1.1
  | full hfinal hexceeds => exact hfinal

/-- **Finishing a stage** ends well if the whole stream fits and the sink can be flushed. When the stage is
given up after that, the sink has what it would have had anyway. -/
theorem Carries.finish (h : Carries sink stream stage) :
    stage.finish.2.abandon = sink.given stream ∧
      (stage.finish.1 = .ok () ↔ sink.failsFlush = false ∧ ¬ Exceeds sink.limit stream) := by
  have hpassed := h.passOn
  rw [Staged.finish]
  generalize stage.passOn = answer at hpassed ⊢
  cases hpassed with
  | full hfinal hexceeds =>
    refine ⟨abandon_of_full hfinal hexceeds, nofun, ?_⟩
    rintro ⟨-, hfits⟩
    exact absurd hexceeds hfits
  | @carried stage' hcarried =>
    obtain ⟨⟨hsink, hfits⟩, hheld⟩ := hcarried
    have hcarries : Carries sink stream stage' := by
      refine ⟨stream, ⟨hsink, hfits⟩, ?_⟩
      rw [hheld, List.append_nil]
    have hflush : stage'.sink.flush = .ok () ↔ sink.failsFlush = false := by
      rw [hsink, Sink.flush, Sink.given]
      cases sink.failsFlush <;> simp
    exact ⟨hcarries.abandon, hflush.trans (and_iff_left hfits).symm⟩

/-- Writing to a stage that has nothing to pass on first. -/
theorem Carries.place (h : Carries sink stream stage) (bytes : Bytes)
    (hheld : bytes.length < capacity ∨ stage.held = []) :
    Delivery sink (Carries sink) Staged.abandon (stream ++ bytes) (stage.place bytes) := by
  obtain ⟨passed, htook, rfl⟩ := h
  rw [Staged.place]
  split
  · -- the bytes are held back behind the others
    refine .carried ⟨passed, htook, ?_⟩
    rw [List.append_assoc]
  · rename_i hlarge
    have hheld : stage.held = [] := hheld.resolve_left hlarge
    rw [hheld, List.append_nil]
    -- the bytes go to the sink directly, and nothing is held back behind them
    have hwrite := sink.relays.write htook bytes
    rcases hanswer : Output.writeAll stage.sink bytes with ⟨answer, out⟩
    rw [hanswer] at hwrite
    cases hwrite with
    | carried hcarried =>
      exact .carried ⟨passed ++ bytes, hcarried, (List.append_nil _).symm⟩
    | full hfinal hexceeds => exact .full (abandon_of_full hfinal hexceeds) hexceeds

/-- **A stage relays what is written to it.** -/
theorem relays (sink : Sink) : Relays sink (Carries sink) Staged.abandon := by
  refine ⟨?_⟩
  intro stream stage h bytes
  simp only [Output.writeAll]
  split
  · rename_i hfits
    refine h.place bytes ?_
    -- bytes that would fill the stage only fit if it is empty
    by_cases hsmall : bytes.length < capacity
    · exact Or.inl hsmall
    · refine Or.inr (List.eq_nil_of_length_eq_zero ?_)
      have hpos : 0 < capacity := by decide
      omega
  · have hpassed := h.passOn
    generalize stage.passOn = answer at hpassed ⊢
    cases hpassed with
    | @carried stage' hcarried =>
      obtain ⟨htook, hempty⟩ := hcarried
      have hcarries : Carries sink stream stage' := by
        refine ⟨stream, htook, ?_⟩
        rw [hempty, List.append_nil]
      exact hcarries.place bytes (Or.inr hempty)
    | @full fault stage' hfinal hexceeds =>
      -- the bytes are not written at all, but the sink is full anyway
      have hfull : Delivery sink (Carries sink) Staged.abandon stream (.error fault, stage') :=
        .full (abandon_of_full hfinal hexceeds) hexceeds
      exact hfull.append bytes

end Staged

end RuleText

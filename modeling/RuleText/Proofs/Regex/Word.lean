import RuleText.Proofs.Evaluation.Agreement
import RuleText.Proofs.Program.WellLexed
import RuleText.Proofs.Regex.Anchors

/-!
# Words as patterns

A bare word in a condition is a pattern without being escaped. The characters of words have no meaning in
patterns, but for the dot; so a word is read as a row of single characters, whatever its length and
whichever letters and digits of Unicode it is made of (`Reading.run_word`). Between the anchors the same row
stands in a group, and what it matches is compared with the value character by character.

A pattern also has to keep within the bounds. The nesting of a word does not depend on its length. The
memory of its automata does, and that it suffices remains an assumption (`Pattern.WithinSize`).

Main definitions:

- `wordClass`: what a character of a word stands for;
- `Pattern.WithinSize`: the automata of an anchored pattern keep within the bound;
- `FitsWord`: a value that a word matches.

Main statements:

- `Reading.run_word`: words are read character by character;
- `CharRegex.matches_seqs_iff`: a row of classes;
- `Pattern.compile?_word`: words are regular expressions;
- `Program.literal_condition`: what a condition with a bare word demands.
-/

namespace RuleText

open Regex

/-! ### Reading -/

namespace Regex

/-- What a character of a word stands for in a pattern. -/
def wordClass (c : Char) : CharClass :=
  if c = '.' then .compl (.single '\n') else .single c

/-- A character of a word as a piece of a pattern. -/
def wordPiece (c : Char) : Piece :=
  Piece.one {} (wordClass c)

namespace Reading

/-- The reading behind a word. -/
def pushWord (reading : Reading) (word : List Char) : Reading :=
  { reading with
    branch :=
      { reading.branch with items := (word.map wordPiece).reverse ++ reading.branch.items } }

theorem pushWord_nil (reading : Reading) : reading.pushWord [] = reading := rfl

theorem pushWord_cons (reading : Reading) (c : Char) (word : List Char) :
    reading.pushWord (c :: word) = (reading.push (wordPiece c)).pushWord word := by
  have hitems : ((c :: word).map wordPiece).reverse ++ reading.branch.items =
      (word.map wordPiece).reverse ++ wordPiece c :: reading.branch.items := by
    rw [List.map_cons, List.reverse_cons, List.append_assoc]
    rfl
  rw [pushWord, hitems]
  rfl

/-- **One character of a word.** None but the dot has a meaning in patterns. -/
theorem step_wordChar {reading : Reading} {c : Char} (hflags : reading.flags = {})
    (hc : isIdentifierChar c = true) (bound : Nat) (rest : List Char) :
    reading.step bound c rest = some (reading.push (wordPiece c), rest) := by
  have hother : ∀ d, isIdentifierChar d = false → c ≠ d := by
    rintro d hd rfl
    rw [hc] at hd
    cases hd
  unfold step
  rw [hflags]
  split
  -- the characters with a meaning, in the order in which they are tried
  case h_10 =>
    rfl
  case h_13 hopen hclose hbar hbracket hmark hstar hplus hbrace hescape hdot hstart hend =>
    rw [wordPiece, wordClass, if_neg hdot]
    rfl
  all_goals exact absurd rfl (hother _ (by decide))

/-- **Words are read character by character.** -/
theorem run_word {reading : Reading} {word : List Char} (hflags : reading.flags = {})
    (hword : ∀ c ∈ word, isIdentifierChar c = true) (fuel : Nat) (rest : List Char) :
    reading.run (word.length + fuel) (word ++ rest) = (reading.pushWord word).run fuel rest := by
  induction word generalizing reading with
  | nil => rw [List.length_nil, Nat.zero_add, List.nil_append, pushWord_nil]
  | cons c word ih =>
    obtain ⟨hc, hothers⟩ := List.forall_mem_cons.mp hword
    have hlayout : skipLayout reading.flags (c :: (word ++ rest)) = c :: (word ++ rest) := by
      rw [hflags]
      rfl
    have hround : reading.run (word.length + fuel + 1) (c :: (word ++ rest)) =
        (reading.push (wordPiece c)).run (word.length + fuel) (word ++ rest) := by
      rw [run, hlayout]
      simp only [step_wordChar hflags hc, Option.bind_eq_bind, Option.bind_some]
    rw [List.length_cons, List.cons_append, pushWord_cons, Nat.add_right_comm, hround]
    exact ih hflags hothers

end Reading

/-! ### Between the anchors -/

/-- A word between the anchors. -/
def anchoredWord (word : List Char) : Piece :=
  Piece.join [Piece.assert .textStart,
    { regex := (Piece.join (word.map wordPiece)).regex
      blueprint := (Piece.join (word.map wordPiece)).blueprint.group none
      depth := (Piece.join (word.map wordPiece)).depth + 1 },
    Piece.assert .textEnd]

theorem close_pushWord (word : List Char) :
    (Reading.pushWord {} word).branch.close = Piece.join (word.map wordPiece) := by
  have hitems : (Reading.pushWord {} word).branch.items.reverse = word.map wordPiece := by
    rw [Reading.pushWord, List.append_nil, List.reverse_reverse]
  rw [Branch.close, Branch.bar, hitems]
  rfl

theorem depth_join_word_le (word : List Char) : (Piece.join (word.map wordPiece)).depth ≤ 1 := by
  have hzero : (word.map wordPiece).foldl (fun d piece => max d piece.depth) 0 = 0 := by
    induction word with
    | nil => rfl
    | cons c word ih => exact ih
  rw [Piece.join]
  simp only [hzero]
  split
  · exact Nat.zero_le 1
  · exact Nat.le_refl 1

/-- However long a word is, it nests hardly. -/
theorem depth_anchoredWord_le (word : List Char) : (anchoredWord word).depth ≤ maxDepth := by
  have hle := depth_join_word_le word
  have hdepth : (anchoredWord word).depth = (Piece.join (word.map wordPiece)).depth + 2 := by
    simp [anchoredWord, Piece.join, Piece.assert]
  have hbound : 3 ≤ maxDepth := by decide
  omega

end Regex

namespace CharRegex

/-- What a text is read as, the bounds aside that patterns keep. -/
def piece? (text : List Char) : Option Piece :=
  (Reading.run {} (text.length + 1) text).bind Reading.finish?

theorem ofText?_of_piece? {text : List Char} {whole : Piece} (h : piece? text = some whole)
    (hdepth : whole.depth ≤ maxDepth) (hfits : whole.blueprint.fits = true) :
    ofText? text = some whole.regex := by
  obtain ⟨reading, hrun, hfinish⟩ := Option.bind_eq_some_iff.mp h
  rw [ofText?, hrun]
  simp only [Option.bind_eq_bind, Option.bind_some, hfinish]
  rw [decide_eq_true hdepth, hfits]
  rfl

/-- A word between the anchors is read as that. -/
theorem piece?_anchored_word {word : List Char} (hword : ∀ c ∈ word, isIdentifierChar c = true) :
    piece? (anchored word) = some (anchoredWord word) := by
  have hlength : (anchored word).length + 1 = word.length + 5 + 2 := by
    simp [anchored]
  have hrun : (Reading.under {} [Reading.anchorFrame]).run (word.length + 5) (word ++ anchorEnd) =
      ((Reading.pushWord {} word).under [Reading.anchorFrame]).run 5 anchorEnd :=
    Reading.run_word rfl hword 5 anchorEnd
  have hframes : (Reading.pushWord {} word).frames = [] := rfl
  have hclosed := Reading.run_anchorEnd hframes 2
  rw [close_pushWord] at hclosed
  rw [piece?, hlength, Reading.run_anchored, hrun]
  exact hclosed

end CharRegex

/-- The automata of a pattern between the anchors keep within the bound on their memory. -/
def Pattern.WithinSize (p : Pattern) : Prop :=
  ∀ whole ∈ CharRegex.piece? (anchored p.source.toList), whole.blueprint.fits = true

/-- **Words are regular expressions.** -/
theorem Pattern.compile?_word {p : Pattern} (hword : ∀ c ∈ p.source.toList, isIdentifierChar c = true)
    (hsize : p.WithinSize) : p.compile? = some (anchoredWord p.source.toList).regex := by
  have hpiece := CharRegex.piece?_anchored_word hword
  exact CharRegex.ofText?_of_piece? hpiece (depth_anchoredWord_le _) (hsize _ hpiece)

/-! ### Matching -/

namespace CharRegex

variable (text : List Char)

theorem matches_seqs_cons (r : CharRegex) (others : List CharRegex) (i j : Nat) :
    Matches (.seqs (r :: others)) text i j ↔
      ∃ k, r.Matches text i k ∧ Matches (.seqs others) text k j := by
  cases others with
  | nil =>
    refine ⟨fun h => ⟨j, h, rfl⟩, ?_⟩
    rintro ⟨k, h, rfl⟩
    exact h
  | cons second more => rfl

/-- **A row of classes** matches as many characters, each out of its class. -/
theorem matches_seqs_iff (classes : List CharClass) (i j : Nat) :
    Matches (.seqs (classes.map .one)) text i j ↔
      j = i + classes.length ∧ ∀ (k : Nat) (cls : CharClass), classes[k]? = some cls →
        ∃ c, text[i + k]? = some c ∧ cls.has c.toNat = true := by
  -- the induction is on the row, from any position on
  induction classes generalizing i with
  | nil =>
    refine ⟨fun h => ⟨?_, nofun⟩, ?_⟩
    · obtain rfl : i = j := h
      rfl
    · rintro ⟨rfl, -⟩
      rfl
  | cons cls others ih =>
    rw [List.map_cons, matches_seqs_cons, List.length_cons]
    refine ⟨?_, ?_⟩
    · rintro ⟨k, ⟨hfirst, rfl⟩, hothers⟩
      obtain ⟨rfl, hall⟩ := (ih (i + 1)).mp hothers
      refine ⟨by omega, ?_⟩
      intro k later hlater
      -- the first class takes the first character, and the others come one position later
      cases k with
      | zero =>
        obtain rfl := Option.some.inj hlater
        exact hfirst
      | succ k =>
        have hk := hall k later hlater
        rw [Nat.add_right_comm] at hk
        exact hk
    · rintro ⟨rfl, hall⟩
      -- in the other direction the first character ends at the next position
      refine ⟨i + 1, ⟨hall 0 cls rfl, rfl⟩, (ih (i + 1)).mpr ⟨by omega, ?_⟩⟩
      intro k later hlater
      rw [Nat.add_right_comm]
      exact hall (k + 1) later hlater

end CharRegex

/-- A value has as many characters as a word, and each of them is that of the word, or any character but a
line feed where the word has a dot. -/
def FitsWord (word value : List Char) : Prop :=
  value.length = word.length ∧ ∀ (i : Nat) (a b : Char), word[i]? = some a → value[i]? = some b →
    (a = '.' ∧ b ≠ '\n') ∨ (a ≠ '.' ∧ b = a)

theorem has_wordClass_iff (a b : Char) :
    (wordClass a).has b.toNat = true ↔ (a = '.' ∧ b ≠ '\n') ∨ (a ≠ '.' ∧ b = a) := by
  rw [wordClass]
  by_cases hdot : a = '.'
  · rw [if_pos hdot, CharClass.has, CharClass.has_single, Bool.not_eq_true', beq_eq_false_iff_ne]
    refine ⟨fun hne => Or.inl ⟨hdot, hne.symm⟩, ?_⟩
    rintro (⟨-, hne⟩ | ⟨hnot, -⟩)
    · exact hne.symm
    · exact absurd hdot hnot
  · rw [if_neg hdot, CharClass.has_single, beq_iff_eq]
    refine ⟨fun heq => Or.inr ⟨hdot, heq.symm⟩, ?_⟩
    rintro (⟨heq, -⟩ | ⟨-, heq⟩)
    · exact absurd heq hdot
    · exact heq.symm

/-- **What a word matches.** -/
theorem foundIn_anchoredWord_iff (word value : List Char) :
    (anchoredWord word).regex.foundIn value = true ↔ FitsWord word value := by
  have hregex : (anchoredWord word).regex = .seqs [.assert .textStart,
      .seqs ((word.map wordClass).map .one), .assert .textEnd] := by
    rw [anchoredWord, Piece.join, List.map_map]
    simp only [Piece.join, List.map_map]
    rfl
  rw [CharRegex.foundIn_eq_true_iff, hregex, CharRegex.foundIn_anchors_iff, CharRegex.matches_seqs_iff,
    Nat.zero_add, List.length_map, FitsWord]
  refine and_congr_right fun hlength => ?_
  refine ⟨?_, ?_⟩
  · intro hall i a b ha hb
    have hclass : (word.map wordClass)[i]? = some (wordClass a) := by
      rw [List.getElem?_map, ha]
      rfl
    obtain ⟨c, hc, hhas⟩ := hall i (wordClass a) hclass
    rw [Nat.zero_add, hb] at hc
    obtain rfl := Option.some.inj hc
    exact (has_wordClass_iff a b).mp hhas
  · intro hall i cls hcls
    rw [List.getElem?_map] at hcls
    obtain ⟨a, ha, rfl⟩ := Option.map_eq_some_iff.mp hcls
    -- the value is as long as the word, so it has a character there too
    have hi : i < value.length := by
      rw [hlength]
      exact (List.getElem?_eq_some_iff.mp ha).1
    have hb : value[i]? = some value[i] := List.getElem?_eq_getElem hi
    rw [Nat.zero_add]
    exact ⟨value[i], hb, (has_wordClass_iff a value[i]).mpr (hall i a value[i] ha hb)⟩

/-- A word without a dot fits the equal value only. -/
theorem fitsWord_iff_eq {word : List Char} (hdot : '.' ∉ word) (value : List Char) :
    FitsWord word value ↔ value = word := by
  refine ⟨?_, ?_⟩
  · rintro ⟨hlength, hall⟩
    refine List.ext_getElem hlength fun i hi hi' => ?_
    have hchar := hall i word[i] value[i] (List.getElem?_eq_getElem hi') (List.getElem?_eq_getElem hi)
    rcases hchar with ⟨heq, -⟩ | ⟨-, heq⟩
    · exact absurd (heq ▸ List.getElem_mem hi') hdot
    · exact heq
  · rintro rfl
    refine ⟨rfl, fun i a b ha hb => Or.inr ⟨?_, ?_⟩⟩
    · rintro rfl
      exact hdot (List.mem_of_getElem? ha)
    · rw [ha] at hb
      exact (Option.some.inj hb).symm

/-! ### Conditions -/

theorem Program.mem_statements_iff (p : Program) (s : Statement) :
    s ∈ p.statements ↔ .statement s ∈ p.items := by
  rw [statements, List.mem_filterMap]
  refine ⟨?_, fun h => ⟨_, h, rfl⟩⟩
  rintro ⟨item, hitem, hstatement⟩
  cases item with
  | binding b => cases hstatement
  | statement s' =>
    obtain rfl := Option.some.inj hstatement
    exact hitem

/-- The patterns of a program that comes from a text are well-lexed. -/
theorem Program.wellLexed_pattern {text : List Char} {p : Program} (hread : ofText? text = .ok p)
    {s : Statement} (hs : s ∈ p.statements) {c : Condition} (hc : c ∈ s.conditions) :
    c.pattern.WellLexed := by
  have hstatement : s.WellLexed := wellLexed_of_ofText? hread _ ((p.mem_statements_iff s).mp hs)
  exact (hstatement.1 c hc).2

/-- And so literal patterns are words. -/
theorem Program.isWord_of_literal {text : List Char} {p : Program} (hread : ofText? text = .ok p)
    {s : Statement} (hs : s ∈ p.statements) {c : Condition} (hc : c ∈ s.conditions) {literal : String}
    (hliteral : c.pattern = .literal literal) : IsWord literal := by
  have hpattern : c.pattern.WellLexed := wellLexed_pattern hread hs hc
  rw [hliteral] at hpattern
  exact hpattern

/-- **What a condition with a bare word demands.** If a text is read as a program and a literal pattern in
it keeps within the size, it is never refused, and the condition holds of a value exactly if the value has
as many characters and agrees with the literal at each of them, where a dot agrees with all but a line
feed. Without a dot only the value that equals the literal will do. -/
theorem Program.literal_condition {text : List Char} {p : Program} (hread : ofText? text = .ok p)
    {s : Statement} (hs : s ∈ p.statements) {c : Condition} (hc : c ∈ s.conditions) {literal : String}
    (hliteral : c.pattern = .literal literal) (hsize : c.pattern.WithinSize) :
    (∀ (context : Context) (name : String),
      ((context.setPattern c.pattern).collect name).1 = .ok ()) ∧
      ∀ (context : Context) (name value : String), context.conditions = {} →
        context.bindings.get? name = some value →
          let after := ((context.setPattern c.pattern).collect name).2
          (after.conditionsHold = true ↔ FitsWord literal.toList value.toList) ∧
            ('.' ∉ literal.toList → (after.conditionsHold = true ↔ value = literal)) := by
  have hword := isWord_of_literal hread hs hc hliteral
  rw [hliteral] at hsize ⊢
  have hcompiles := Pattern.compile?_word (p := .literal literal) hword.chars hsize
  refine ⟨?_, ?_⟩
  · intro context name
    rw [context.collect_of_compiles hcompiles name]
  · intro context name value hempty hbound
    have hholds : ((context.setPattern (.literal literal)).collect name).2.conditionsHold = true ↔
        FitsWord literal.toList value.toList := by
      rw [context.collect_of_compiles hcompiles name, Context.conditionsHold_only _ hempty hbound]
      exact foundIn_anchoredWord_iff literal.toList value.toList
    refine ⟨hholds, fun hdot => hholds.trans ?_⟩
    rw [fitsWord_iff_eq hdot, String.toList_inj]

/-- A word with a letter beyond ASCII and a hyphen. -/
theorem Program.literal_condition_umlaut :
    let c : Condition := ⟨"v", .literal "ä-1"⟩
    let p : Program := ⟨[.statement ⟨[c], ⟨"\x7b\x7d"⟩⟩]⟩
    let context : Context := { bindings := ⟨[("v", "ä-1")]⟩ }
    ofText? "(v=ä-1)\x7b\x7d".toList = .ok p ∧ c.pattern.WithinSize ∧
      ((context.setPattern c.pattern).collect "v").2.conditionsHold = true := by
  intro c p context
  have hread : ofText? "(v=ä-1)\x7b\x7d".toList = .ok p := by rfl
  have hs : ⟨[c], ⟨"\x7b\x7d"⟩⟩ ∈ p.statements := List.mem_singleton.mpr rfl
  have hc : c ∈ [c] := List.mem_singleton.mpr rfl
  have hsize : c.pattern.WithinSize := by
    intro whole hwhole
    have hpiece := CharRegex.piece?_anchored_word (isWord_of_literal hread hs hc rfl).chars
    obtain rfl := Option.some.inj (hpiece.symm.trans hwhole)
    decide +kernel
  refine ⟨hread, hsize, ?_⟩
  have hholds := (literal_condition hread hs hc rfl hsize).2 context "v" "ä-1" rfl rfl
  exact (hholds.2 (by decide)).mpr rfl

end RuleText

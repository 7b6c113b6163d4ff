import RuleText.CharClass.Property

/-!
# Cutting texts

Texts are handled as lists of characters wherever they are taken apart. Here are the cuts that more than
one part of the library makes: white space off the ends, and a split at a mark.

Main definitions:

- `trimStart`, `trimEnd`, `trim`: a text without white space at its ends;
- `splitAtMark`: a text split at the first place where a mark begins;
- `byteLength`: the length of a text in UTF-8.

Main statements:

- `exists_trim`: only white space is cut off the ends of a text;
- `isWhite_of_head?_trim`, `isWhite_of_getLast?_trim`: and none is left there.
-/

namespace RuleText

/-- A text without the white space at its start. -/
def trimStart (text : List Char) : List Char :=
  text.dropWhile isWhite

/-- A text without the white space at its end. -/
def trimEnd (text : List Char) : List Char :=
  (text.reverse.dropWhile isWhite).reverse

/-- A text without the white space at its ends. -/
def trim (text : List Char) : List Char :=
  trimEnd (trimStart text)

/-! ### White space at the ends -/

theorem exists_trimStart (text : List Char) :
    ∃ before, text = before ++ trimStart text ∧ ∀ c ∈ before, isWhite c = true :=
  ⟨text.takeWhile isWhite, List.takeWhile_append_dropWhile.symm, List.all_eq_true.mp List.all_takeWhile⟩

theorem exists_trimEnd (text : List Char) :
    ∃ after, text = trimEnd text ++ after ∧ ∀ c ∈ after, isWhite c = true := by
  obtain ⟨before, htext, hbefore⟩ := exists_trimStart text.reverse
  refine ⟨before.reverse, ?_, fun c hc => hbefore c (List.mem_reverse.mp hc)⟩
  rw [trimEnd, ← List.reverse_append]
  exact List.reverse_eq_iff.mp htext

/-- **Only white space is cut off** the ends of a text. -/
theorem exists_trim (text : List Char) :
    ∃ before after, text = before ++ trim text ++ after ∧ (∀ c ∈ before, isWhite c = true) ∧
      ∀ c ∈ after, isWhite c = true := by
  obtain ⟨before, hstart, hbefore⟩ := exists_trimStart text
  obtain ⟨after, hend, hafter⟩ := exists_trimEnd (trimStart text)
  refine ⟨before, after, ?_, hbefore, hafter⟩
  rw [trim, List.append_assoc, ← hend]
  exact hstart

/-- What is left does not begin with white space, -/
theorem isWhite_of_head?_trimStart {text : List Char} {c : Char} (h : (trimStart text).head? = some c) :
    isWhite c = false := by
  have hhead := List.head?_dropWhile_not isWhite text
  rw [show (text.dropWhile isWhite).head? = some c from h] at hhead
  exact hhead

/-- does not end with any -/
theorem isWhite_of_getLast?_trim {text : List Char} {c : Char} (h : (trim text).getLast? = some c) :
    isWhite c = false := by
  rw [trim, trimEnd, List.getLast?_reverse] at h
  exact isWhite_of_head?_trimStart h

/-- and, with the end cut as well, still does not begin with any. -/
theorem isWhite_of_head?_trim {text : List Char} {c : Char} (h : (trim text).head? = some c) :
    isWhite c = false := by
  obtain ⟨after, hend, -⟩ := exists_trimEnd (trimStart text)
  have hstart : (trimStart text).head? = some c := by
    rw [hend, List.head?_append]
    show (trim text).head?.or _ = _
    rw [h, Option.some_or]
  exact isWhite_of_head?_trimStart hstart

/-- **Nothing is left** of white space alone, and of nothing else. -/
theorem trim_eq_nil_iff (text : List Char) : trim text = [] ↔ ∀ c ∈ text, isWhite c = true := by
  obtain ⟨before, after, htext, hbefore, hafter⟩ := exists_trim text
  constructor
  · intro hnil c hc
    rw [htext, hnil, List.append_nil] at hc
    exact (List.mem_append.mp hc).elim (hbefore c) (hafter c)
  · intro hwhite
    -- what is left would begin with something else
    cases hrest : trim text with
    | nil => rfl
    | cons c rest =>
      have hhead : (trim text).head? = some c := congrArg List.head? hrest
      have hmem : c ∈ text := by
        rw [htext, hrest]
        simp
      cases (hwhite c hmem).symm.trans (isWhite_of_head?_trim hhead)

/-! ### Splits -/

/-- What stands before and behind the first occurrence of a mark. -/
def splitAtMark (mark : List Char) : List Char → Option (List Char × List Char)
  | [] => none
  | c :: rest =>
    if mark.isPrefixOf (c :: rest) then some ([], (c :: rest).drop mark.length)
    else (splitAtMark mark rest).map fun (before, after) => (c :: before, after)

/-- The number of bytes that a text takes in UTF-8. -/
def byteLength : List Char → Nat
  | [] => 0
  | c :: rest => c.utf8Size + byteLength rest

@[simp] theorem byteLength_append (a b : List Char) :
    byteLength (a ++ b) = byteLength a + byteLength b := by
  induction a with
  | nil => simp [byteLength]
  | cons c rest ih => simp [byteLength, ih, Nat.add_assoc]

end RuleText

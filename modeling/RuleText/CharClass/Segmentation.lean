import RuleText.CharClass.Property
import RuleText.Unicode.Age
import RuleText.Unicode.Script

/-!
# Properties with many values

Text is cut into graphemes, words and sentences by rules over properties that give every character one of
a few values. The values are written here as the standard derives them, from categories and other
properties with the exceptions it lists. The age of a character is a property of this kind as well.

Main definitions:

- `CharClass.graphemeBreaks`, `CharClass.wordBreaks`, `CharClass.sentenceBreaks`: the values of the three
  properties with the names they go by;
- `CharClass.ofAge?`: the characters of an edition and of those before it.
-/

namespace RuleText.CharClass

open Unicode

/-- The first of two classes without the others. -/
def without (a : CharClass) (others : List CharClass) : CharClass :=
  diff a (unions others)

private def carriageReturn : CharClass := single '\r'

private def lineFeed : CharClass := single '\n'

private def joiner : CharClass := between 0x200D 0x200D

/-- Signs that stand around a number and count as part of it. -/
private def numberSign : CharClass :=
  diff (table prependedConcatenationMark) (between 0x70F 0x70F)

/-! ### Graphemes -/

private def graphemeExtending : CharClass := unions [graphemeExtend, table emojiModifier]

private def graphemeControl : CharClass :=
  without
    (unions [ofTables [lineSeparator, paragraphSeparator, control, format],
      inter unassigned (table defaultIgnorable)])
    [carriageReturn, lineFeed, between 0x200C 0x200D, table prependedConcatenationMark,
      graphemeExtending]

private def graphemePrepend : CharClass :=
  ofTables [prependedConcatenationMark,
    [⟨0xD4E, 0xD4E, 1⟩, ⟨0x111C2, 0x111C3, 1⟩, ⟨0x113D1, 0x113D1, 1⟩, ⟨0x1193F, 0x1193F, 1⟩,
      ⟨0x11941, 0x11941, 1⟩, ⟨0x11A3A, 0x11A3A, 1⟩, ⟨0x11A84, 0x11A89, 1⟩, ⟨0x11D46, 0x11D46, 1⟩,
      ⟨0x11F02, 0x11F02, 1⟩]]

private def graphemeSpacing : CharClass :=
  without (ofTables [spacingMark, [⟨0xE33, 0xE33, 1⟩, ⟨0xEB3, 0xEB3, 1⟩]])
    [graphemeExtending,
      table [⟨0x102B, 0x102C, 1⟩, ⟨0x1038, 0x1038, 1⟩, ⟨0x1062, 0x1064, 1⟩, ⟨0x1067, 0x106D, 1⟩,
        ⟨0x1083, 0x1083, 1⟩, ⟨0x1087, 0x108C, 1⟩, ⟨0x108F, 0x108F, 1⟩, ⟨0x109A, 0x109C, 1⟩,
        ⟨0x1A61, 0x1A63, 2⟩, ⟨0x1A64, 0x1A64, 1⟩, ⟨0xAA7B, 0xAA7D, 2⟩, ⟨0x11720, 0x11721, 1⟩]]

/-- Syllables without a final consonant: every twenty-eighth. -/
private def openSyllable : CharClass := table [⟨0xAC00, 0xD788, 28⟩]

private def syllable : CharClass := between 0xAC00 0xD7A3

/-- The values that govern where graphemes end. -/
def graphemeBreaks : List (List String × CharClass) := [
  (["cn", "control"], graphemeControl),
  (["cr"], carriageReturn),
  (["ex", "extend"], graphemeExtending),
  (["l"], table [⟨0x1100, 0x115F, 1⟩, ⟨0xA960, 0xA97C, 1⟩]),
  (["lf"], lineFeed),
  (["lv"], openSyllable),
  (["lvt"], diff syllable openSyllable),
  (["pp", "prepend"], graphemePrepend),
  (["ri", "regionalindicator"], table regionalIndicator),
  (["sm", "spacingmark"], graphemeSpacing),
  (["t"], table [⟨0x11A8, 0x11FF, 1⟩, ⟨0xD7CB, 0xD7FB, 1⟩]),
  (["v"], table [⟨0x1160, 0x11A7, 1⟩, ⟨0xD7B0, 0xD7C6, 1⟩, ⟨0x16D63, 0x16D63, 1⟩,
    ⟨0x16D67, 0x16D6A, 1⟩]),
  (["zwj"], joiner)]

/-! ### Words -/

private def wordExtending : CharClass :=
  diff (unions [graphemeExtend, ofTables [spacingMark, emojiModifier]]) joiner

private def wordKatakana : CharClass :=
  ofTables [katakana, [⟨0x3031, 0x3035, 1⟩, ⟨0x309B, 0x309C, 1⟩, ⟨0x30A0, 0x30A0, 1⟩,
    ⟨0x30FC, 0x30FC, 1⟩, ⟨0xFF70, 0xFF70, 1⟩]]

private def hebrewLetter : CharClass := inter (table hebrew) (table otherLetter)

/-- Letters of scripts that put no space between words. -/
private def unspacedLetter : CharClass :=
  inter (ofTables [ahom, khmer, lao, myanmar, newTaiLue, taiLe, taiTham, taiViet, thai])
    (ofTables [modifierLetter, otherLetter])

private def wordLetter : CharClass :=
  without
    (unions [alphabetic, table [⟨0x2C2, 0x2C5, 1⟩, ⟨0x2D2, 0x2D7, 1⟩, ⟨0x2DE, 0x2DF, 1⟩,
      ⟨0x2E5, 0x2EB, 1⟩, ⟨0x2ED, 0x2ED, 1⟩, ⟨0x2EF, 0x2FF, 1⟩, ⟨0x55A, 0x55C, 1⟩, ⟨0x55E, 0x55E, 1⟩,
      ⟨0x58A, 0x58A, 1⟩, ⟨0x5F3, 0x5F3, 1⟩, ⟨0x70F, 0x70F, 1⟩, ⟨0xA708, 0xA716, 1⟩,
      ⟨0xA720, 0xA721, 1⟩, ⟨0xA789, 0xA78A, 1⟩, ⟨0xAB5B, 0xAB5B, 1⟩]])
    [table ideographic, wordKatakana, unspacedLetter, table hiragana, wordExtending, hebrewLetter]

/-- The values that govern where words end. -/
def wordBreaks : List (List String × CharClass) := [
  (["cr"], carriageReturn),
  (["dq", "doublequote"], single '"'),
  (["ex", "extendnumlet"], ofTables [connectorPunctuation, [⟨0x202F, 0x202F, 1⟩]]),
  (["extend"], wordExtending),
  (["fo", "format"],
    without (table format)
      [table [⟨0x200B, 0x200D, 1⟩], table prependedConcatenationMark, wordExtending]),
  (["hl", "hebrewletter"], hebrewLetter),
  (["ka", "katakana"], wordKatakana),
  (["le", "aletter"], wordLetter),
  (["lf"], lineFeed),
  (["mb", "midnumlet"], table [⟨0x2E, 0x2E, 1⟩, ⟨0x2018, 0x2019, 1⟩, ⟨0x2024, 0x2024, 1⟩,
    ⟨0xFE52, 0xFE52, 1⟩, ⟨0xFF07, 0xFF0E, 7⟩]),
  (["ml", "midletter"], table [⟨0x3A, 0x3A, 1⟩, ⟨0xB7, 0xB7, 1⟩, ⟨0x387, 0x387, 1⟩,
    ⟨0x55F, 0x55F, 1⟩, ⟨0x5F4, 0x5F4, 1⟩, ⟨0x2027, 0x2027, 1⟩, ⟨0xFE13, 0xFE13, 1⟩,
    ⟨0xFE55, 0xFE55, 1⟩, ⟨0xFF1A, 0xFF1A, 1⟩]),
  (["mn", "midnum"], table [⟨0x2C, 0x2C, 1⟩, ⟨0x3B, 0x3B, 1⟩, ⟨0x37E, 0x37E, 1⟩, ⟨0x589, 0x589, 1⟩,
    ⟨0x60C, 0x60D, 1⟩, ⟨0x66C, 0x66C, 1⟩, ⟨0x7F8, 0x7F8, 1⟩, ⟨0x2044, 0x2044, 1⟩,
    ⟨0xFE50, 0xFE54, 4⟩, ⟨0xFF0C, 0xFF0C, 1⟩, ⟨0xFF1B, 0xFF1B, 1⟩]),
  (["nl", "newline"], table [⟨0x0B, 0x0C, 1⟩, ⟨0x85, 0x85, 1⟩, ⟨0x2028, 0x2029, 1⟩]),
  (["nu", "numeric"], unions [digit, between 0x66B 0x66B, numberSign]),
  (["ri", "regionalindicator"], table regionalIndicator),
  (["sq", "singlequote"], single '\''),
  (["wsegspace"], diff (table spaceSeparator) (table [⟨0xA0, 0xA0, 1⟩, ⟨0x2007, 0x202F, 40⟩])),
  (["zwj"], joiner)]

/-! ### Sentences -/

private def sentenceSeparator : CharClass := table [⟨0x85, 0x85, 1⟩, ⟨0x2028, 0x2029, 1⟩]

private def sentenceExtending : CharClass := unions [graphemeExtend, table spacingMark, joiner]

private def sentenceLower : CharClass :=
  without lowercase [graphemeExtend, table [⟨0x10D0, 0x10FA, 1⟩, ⟨0x10FD, 0x10FF, 1⟩]]

private def sentenceUpper : CharClass :=
  diff (unions [table titlecaseLetter, uppercase]) (table [⟨0x1C90, 0x1CBA, 1⟩, ⟨0x1CBD, 0x1CBF, 1⟩])

private def ambiguousEnd : CharClass :=
  table [⟨0x2E, 0x2E, 1⟩, ⟨0x2024, 0x2024, 1⟩, ⟨0xFE52, 0xFE52, 1⟩, ⟨0xFF0E, 0xFF0E, 1⟩]

/-- The values that govern where sentences end. -/
def sentenceBreaks : List (List String × CharClass) := [
  (["at", "aterm"], ambiguousEnd),
  (["cl", "close"],
    diff
      (ofTables [openPunctuation, closePunctuation, initialPunctuation, finalPunctuation,
        [⟨0x22, 0x22, 1⟩, ⟨0x27, 0x27, 1⟩, ⟨0x275B, 0x2760, 1⟩, ⟨0x2E00, 0x2E01, 1⟩,
          ⟨0x2E06, 0x2E08, 1⟩, ⟨0x2E0B, 0x2E0B, 1⟩, ⟨0x1F676, 0x1F678, 1⟩]])
      (between 0x5F3 0x5F3)),
  (["cr"], carriageReturn),
  (["ex", "extend"], sentenceExtending),
  (["fo", "format"], without (table format) [sentenceExtending, numberSign]),
  (["le", "oletter"],
    without (unions [alphabetic, between 0x5F3 0x5F3])
      [sentenceLower, sentenceUpper, sentenceExtending]),
  (["lf"], lineFeed),
  (["lo", "lower"], sentenceLower),
  (["nu", "numeric"], unions [digit, between 0x66B 0x66C, numberSign]),
  (["sc", "scontinue"], table [⟨0x2C, 0x2D, 1⟩, ⟨0x3A, 0x3B, 1⟩, ⟨0x37E, 0x37E, 1⟩, ⟨0x55D, 0x55D, 1⟩,
    ⟨0x60C, 0x60D, 1⟩, ⟨0x7F8, 0x7F8, 1⟩, ⟨0x1802, 0x1808, 6⟩, ⟨0x2013, 0x2014, 1⟩,
    ⟨0x3001, 0x3001, 1⟩, ⟨0xFE10, 0xFE11, 1⟩, ⟨0xFE13, 0xFE14, 1⟩, ⟨0xFE31, 0xFE32, 1⟩,
    ⟨0xFE50, 0xFE51, 1⟩, ⟨0xFE54, 0xFE55, 1⟩, ⟨0xFE58, 0xFE58, 1⟩, ⟨0xFE63, 0xFE63, 1⟩,
    ⟨0xFF0C, 0xFF0D, 1⟩, ⟨0xFF1A, 0xFF1B, 1⟩, ⟨0xFF64, 0xFF64, 1⟩]),
  (["se", "sep"], sentenceSeparator),
  (["sp"], without white [sentenceSeparator, carriageReturn, lineFeed]),
  (["st", "sterm"], diff (table sentenceTerminal) ambiguousEnd),
  (["up", "upper"], sentenceUpper)]

/-! ### Ages -/

/-- The names of an edition: its number with a point, or with a letter in front and no point. -/
def editionNames (edition : Edition) : List String :=
  [s!"{edition.major}.{edition.minor}", s!"v{edition.major}{edition.minor}"]

/-- The characters that were part of the standard in the edition of a name. -/
def ofAge? (name : String) : Option CharClass :=
  let earlier := editions.takeWhile fun edition => !(editionNames edition).contains name
  (editions[earlier.length]?).map fun last =>
    ofTables ((earlier ++ [last]).map (·.added))

end RuleText.CharClass

import RuleText.CharClass.Basic
import RuleText.Unicode.Category
import RuleText.Unicode.Binary
import RuleText.Unicode.Recent

/-!
# Properties of characters

The properties of the Unicode standard that are unions of general categories with a few characters
more, written as the standard derives them, and the predicates on characters that the rest of the
library asks for.

Main definitions:

- `CharClass.alphabetic`, `CharClass.number`, `CharClass.word`, `CharClass.white` and their like;
- `isWhite`, `isWordChar`: predicates for patterns, with a short path for ASCII;
- `isAlphabetic`, `isAlphanumeric`: the same for names;
- `isPrintable`, `extendsGrapheme`: which characters may stand as they are in quoted text.

Names and quoted text follow a later edition of the standard than patterns do.
-/

namespace RuleText

open Unicode

namespace CharClass

/-- A union of tables. -/
def ofTables (tables : List CodeTable) : CharClass :=
  unions (tables.map table)

/-! ### Groups of general categories -/

def casedLetter : CharClass := ofTables [uppercaseLetter, lowercaseLetter, titlecaseLetter]

def letter : CharClass :=
  ofTables [uppercaseLetter, lowercaseLetter, titlecaseLetter, modifierLetter, otherLetter]

def mark : CharClass := ofTables [nonspacingMark, spacingMark, enclosingMark]

def number : CharClass := ofTables [decimalNumber, letterNumber, otherNumber]

def punctuation : CharClass :=
  ofTables [connectorPunctuation, dashPunctuation, openPunctuation, closePunctuation,
    initialPunctuation, finalPunctuation, otherPunctuation]

def symbol : CharClass := ofTables [mathSymbol, currencySymbol, modifierSymbol, otherSymbol]

def separator : CharClass := ofTables [spaceSeparator, lineSeparator, paragraphSeparator]

/-- Characters that some general category claims. -/
def assigned : CharClass :=
  unions [letter, mark, number, punctuation, symbol, separator,
    ofTables [control, format, privateUse]]

def unassigned : CharClass := compl assigned

/-- Controls, format characters, private use and unassigned characters. -/
def otherCategory : CharClass := unions [ofTables [control, format, privateUse], unassigned]

/-! ### Derived properties -/

def alphabetic : CharClass := unions [letter, ofTables [letterNumber, otherAlphabetic]]

def lowercase : CharClass := ofTables [lowercaseLetter, otherLowercase]

def uppercase : CharClass := ofTables [uppercaseLetter, otherUppercase]

def cased : CharClass := unions [lowercase, uppercase, table titlecaseLetter]

def caseIgnorable : CharClass :=
  ofTables [nonspacingMark, enclosingMark, format, modifierLetter, modifierSymbol, otherCaseIgnorable]

def changesWhenCasemapped : CharClass :=
  ofTables [changesWhenLowercased, changesWhenUppercased, changesWhenTitlecased]

def math : CharClass := ofTables [mathSymbol, otherMath]

def graphemeExtend : CharClass := ofTables [nonspacingMark, enclosingMark, otherGraphemeExtend]

def graphemeBase : CharClass :=
  compl (unions [ofTables [control, format, privateUse, lineSeparator, paragraphSeparator],
    unassigned, graphemeExtend])

def idStart : CharClass :=
  diff (unions [letter, ofTables [letterNumber, otherIdStart]])
    (ofTables [patternSyntax, patternWhiteSpace])

def idContinue : CharClass :=
  unions [idStart, ofTables [nonspacingMark, spacingMark, decimalNumber, connectorPunctuation,
    otherIdContinue]]

def xidStart : CharClass := diff idStart (table xidStartExceptions)

def xidContinue : CharClass := diff idContinue (table xidContinueExceptions)

def white : CharClass := table whiteSpace

def digit : CharClass := table decimalNumber

/-- What a word is made of: letters and other alphabetic characters, marks, decimal digits, connectors
and joiners. -/
def word : CharClass :=
  unions [alphabetic, mark, ofTables [decimalNumber, connectorPunctuation, joinControl]]

end CharClass

/-! ### Predicates on characters -/

/-- Alphabetic characters, the latest included. -/
def isAlphabetic (c : Char) : Bool :=
  if c.toNat < 0x80 then c.isAlpha
  else CharClass.alphabetic.has c.toNat || Recent.alphabetic.has c.toNat

/-- Alphabetic characters and numbers of every kind, the latest included. -/
def isAlphanumeric (c : Char) : Bool :=
  if c.toNat < 0x80 then c.isAlphanum
  else isAlphabetic c || CharClass.number.has c.toNat || Recent.number.has c.toNat

/-- White space. -/
def isWhite (c : Char) : Bool :=
  CharClass.white.has c.toNat

/-- ASCII letters, digits and the underscore. -/
def isAsciiWordChar (c : Char) : Bool :=
  c.isAlphanum || c == '_'

/-- Characters of words. -/
def isWordChar (c : Char) : Bool :=
  if c.toNat < 0x80 then isAsciiWordChar c else CharClass.word.has c.toNat

/-- Characters that extend the grapheme before them, the latest included. Two letters that do are left
out, since they are legible on their own. -/
def extendsGrapheme (c : Char) : Bool :=
  !(c.toNat < 0x80) &&
    ((CharClass.diff .graphemeExtend .letter).has c.toNat || Recent.graphemeExtend.has c.toNat)

/-- Characters with a visible form: all but controls, format characters, separators other than the
space, private use, unassigned characters and letters that stand for nothing. -/
def isPrintable (c : Char) : Bool :=
  if c.toNat < 0x80 then 0x20 ≤ c.toNat && c.toNat < 0x7F
  else Recent.added.has c.toNat ||
    CharClass.assigned.has c.toNat &&
      !(CharClass.ofTables [control, format, privateUse, spaceSeparator, lineSeparator,
          paragraphSeparator, defaultIgnorable]).has c.toNat

end RuleText

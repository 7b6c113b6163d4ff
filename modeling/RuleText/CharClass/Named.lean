import RuleText.CharClass.Segmentation

/-!
# Naming classes of characters

Patterns name classes in two ways: the classes of ASCII by a fixed word, and the properties of the
Unicode standard by any of their names, compared loosely (case, blanks, hyphens, underscores and a
leading `is` do not matter). A property is named alone, as a binary property, a general category or a
script, or together with a value.

Main definitions:

- `CharClass.ascii?`: the classes of ASCII;
- `CharClass.named?`: a property named alone;
- `CharClass.valued?`: a property with a value.
-/

namespace RuleText.CharClass

open Unicode

/-! ### Classes of ASCII -/

private def ranges (pairs : List (Char × Char)) : CharClass :=
  unions (pairs.map fun (first, last) => between first.toNat last.toNat)

/-- The class of ASCII characters that a word names between `[:` and `:]`. -/
def ascii? : String → Option CharClass
  | "alnum" => some (ranges [('0', '9'), ('A', 'Z'), ('a', 'z')])
  | "alpha" => some (ranges [('A', 'Z'), ('a', 'z')])
  | "ascii" => some (between 0 0x7F)
  | "blank" => some (ranges [('\t', '\t'), (' ', ' ')])
  | "cntrl" => some (unions [between 0 0x1F, between 0x7F 0x7F])
  | "digit" => some (ranges [('0', '9')])
  | "graph" => some (ranges [('!', '~')])
  | "lower" => some (ranges [('a', 'z')])
  | "print" => some (ranges [(' ', '~')])
  | "punct" => some (ranges [('!', '/'), (':', '@'), ('[', '\x60'), ('\x7b', '~')])
  | "space" => some (unions [between 0x09 0x0D, single ' '])
  | "upper" => some (ranges [('A', 'Z')])
  | "word" => some (ranges [('0', '9'), ('A', 'Z'), ('_', '_'), ('a', 'z')])
  | "xdigit" => some (ranges [('0', '9'), ('A', 'F'), ('a', 'f')])
  | _ => none

/-! ### Loose names -/

/-- The form of a name in which loosely equal names are equal: lower case, without blanks, hyphens,
underscores and characters outside ASCII, and without a leading `is`, unless only `c` would be left. -/
def looseName (name : List Char) : String :=
  let starts : Bool := match name with
    | i :: s :: _ => (i == 'i' || i == 'I') && (s == 's' || s == 'S')
    | _ => false
  let kept := ((if starts then name.drop 2 else name).filter fun c =>
    c.toNat < 0x80 && c != ' ' && c != '_' && c != '-').map Char.toLower
  if starts && kept == ['c'] then "isc" else String.ofList kept

/-- The first entry of a list of alternatives one of whose names is `key`. -/
private def lookupNamed (key : String) (entries : List (List String × CharClass)) :
    Option CharClass :=
  (entries.find? fun (names, _) => names.contains key).map (·.2)

/-! ### General categories -/

private def generalCategories : List (List String × CharClass) := [
  (["any"], any),
  (["assigned"], assigned),
  (["ascii"], between 0 0x7F),
  (["c", "other"], otherCategory),
  (["cc", "control", "cntrl"], table control),
  (["cf", "format"], table format),
  (["cn", "unassigned"], unassigned),
  (["co", "privateuse"], table privateUse),
  (["l", "letter"], letter),
  (["lc", "casedletter"], casedLetter),
  (["ll", "lowercaseletter"], table lowercaseLetter),
  (["lm", "modifierletter"], table modifierLetter),
  (["lo", "otherletter"], table otherLetter),
  (["lt", "titlecaseletter"], table titlecaseLetter),
  (["lu", "uppercaseletter"], table uppercaseLetter),
  (["m", "mark", "combiningmark"], mark),
  (["mc", "spacingmark"], table spacingMark),
  (["me", "enclosingmark"], table enclosingMark),
  (["mn", "nonspacingmark"], table nonspacingMark),
  (["n", "number"], number),
  (["nd", "decimalnumber", "digit"], table decimalNumber),
  (["nl", "letternumber"], table letterNumber),
  (["no", "othernumber"], table otherNumber),
  (["p", "punctuation", "punct"], punctuation),
  (["pc", "connectorpunctuation"], table connectorPunctuation),
  (["pd", "dashpunctuation"], table dashPunctuation),
  (["pe", "closepunctuation"], table closePunctuation),
  (["pf", "finalpunctuation"], table finalPunctuation),
  (["pi", "initialpunctuation"], table initialPunctuation),
  (["po", "otherpunctuation"], table otherPunctuation),
  (["ps", "openpunctuation"], table openPunctuation),
  (["s", "symbol"], symbol),
  (["sc", "currencysymbol"], table currencySymbol),
  (["sk", "modifiersymbol"], table modifierSymbol),
  (["sm", "mathsymbol"], table mathSymbol),
  (["so", "othersymbol"], table otherSymbol),
  (["z", "separator"], separator),
  (["zl", "lineseparator"], table lineSeparator),
  (["zp", "paragraphseparator"], table paragraphSeparator),
  (["zs", "spaceseparator"], table spaceSeparator)]

/-! ### Binary properties -/

private def binaryProperties : List (List String × CharClass) := [
  (["ahex", "asciihexdigit"], table asciiHexDigit),
  (["alpha", "alphabetic"], alphabetic),
  (["bidic", "bidicontrol"], table bidiControl),
  (["bidim", "bidimirrored"], table bidiMirrored),
  (["cased"], cased),
  (["ci", "caseignorable"], caseIgnorable),
  (["cwcf", "changeswhencasefolded"], table changesWhenCasefolded),
  (["cwcm", "changeswhencasemapped"], changesWhenCasemapped),
  (["cwl", "changeswhenlowercased"], table changesWhenLowercased),
  (["cwt", "changeswhentitlecased"], table changesWhenTitlecased),
  (["cwu", "changeswhenuppercased"], table changesWhenUppercased),
  (["dash"], table dash),
  (["dep", "deprecated"], table deprecated),
  (["di", "defaultignorablecodepoint"], table defaultIgnorable),
  (["dia", "diacritic"], table diacritic),
  (["ebase", "emojimodifierbase"], table emojiModifierBase),
  (["ecomp", "emojicomponent"], table emojiComponent),
  (["emod", "emojimodifier"], table emojiModifier),
  (["emoji"], table emoji),
  (["epres", "emojipresentation"], table emojiPresentation),
  (["ext", "extender"], table extender),
  (["extpict", "extendedpictographic"], table extendedPictographic),
  (["grbase", "graphemebase"], graphemeBase),
  (["grext", "graphemeextend"], graphemeExtend),
  (["grlink", "graphemelink"], table graphemeLink),
  (["hex", "hexdigit"], table hexDigit),
  (["hyphen"], table hyphen),
  (["idc", "idcontinue"], idContinue),
  (["idcompatmathcontinue"], ofTables [idCompatMathStart, idCompatMathContinue]),
  (["idcompatmathstart"], table idCompatMathStart),
  (["ideo", "ideographic"], table ideographic),
  (["ids", "idstart"], idStart),
  (["idsb", "idsbinaryoperator"], table idsBinaryOperator),
  (["idst", "idstrinaryoperator"], table idsTrinaryOperator),
  (["idsu", "idsunaryoperator"], table idsUnaryOperator),
  (["joinc", "joincontrol"], table joinControl),
  (["loe", "logicalorderexception"], table logicalOrderException),
  (["lower", "lowercase"], lowercase),
  (["math"], math),
  (["mcm", "modifiercombiningmark"], table modifierCombiningMark),
  (["nchar", "noncharactercodepoint"], table noncharacter),
  (["oalpha", "otheralphabetic"], table otherAlphabetic),
  (["odi", "otherdefaultignorablecodepoint"], table otherDefaultIgnorable),
  (["ogrext", "othergraphemeextend"], table otherGraphemeExtend),
  (["oidc", "otheridcontinue"], table otherIdContinue),
  (["oids", "otheridstart"], table otherIdStart),
  (["olower", "otherlowercase"], table otherLowercase),
  (["omath", "othermath"], table otherMath),
  (["oupper", "otheruppercase"], table otherUppercase),
  (["patsyn", "patternsyntax"], table patternSyntax),
  (["patws", "patternwhitespace"], table patternWhiteSpace),
  (["pcm", "prependedconcatenationmark"], table prependedConcatenationMark),
  (["qmark", "quotationmark"], table quotationMark),
  (["radical"], table radical),
  (["ri", "regionalindicator"], table regionalIndicator),
  (["sd", "softdotted"], table softDotted),
  (["sterm", "sentenceterminal"], table sentenceTerminal),
  (["term", "terminalpunctuation"], table terminalPunctuation),
  (["uideo", "unifiedideograph"], table unifiedIdeograph),
  (["upper", "uppercase"], uppercase),
  (["vs", "variationselector"], table variationSelector),
  (["wspace", "whitespace", "space"], white),
  (["xidc", "xidcontinue"], xidContinue),
  (["xids", "xidstart"], xidStart)]

/-! ### Scripts -/

/-- The script of a name. -/
def script? (key : String) : Option Script :=
  scripts.find? fun script =>
    (script.name :: script.aliases).any fun name => looseName name.toList == key

/-- The characters used with a script. -/
def scriptExtended (script : Script) : CharClass :=
  if script.drops then diff (table script.own) (table script.extra)
  else union (table script.own) (table script.extra)

/-! ### Looking a property up -/

/-- The class of a property named alone: a binary property, else a general category, else a script. -/
def named? (name : List Char) : Option CharClass :=
  let key := looseName name
  (lookupNamed key binaryProperties).or <| (lookupNamed key generalCategories).or <|
    (script? key).map fun script => table script.own

/-- The class of a property and its value. -/
def valued? (name value : List Char) : Option CharClass :=
  let key := looseName value
  match looseName name with
  | "gc" | "generalcategory" => lookupNamed key generalCategories
  | "sc" | "script" => (script? key).map fun script => table script.own
  | "scx" | "scriptextensions" => (script? key).map scriptExtended
  | "gcb" | "graphemeclusterbreak" => lookupNamed key graphemeBreaks
  | "wb" | "wordbreak" => lookupNamed key wordBreaks
  | "sb" | "sentencebreak" => lookupNamed key sentenceBreaks
  | "age" => ofAge? key
  | _ => none

end RuleText.CharClass

import RuleText.Json.Number
import RuleText.Text.Utf8

/-!
# Reading JSON

The reader takes one value off the front of a text. Two things can go wrong: the text ends too early, or
it goes on with something that cannot stand there. Which of the two it was is all that is reported.

The text is a list of characters among which bytes that encode none are marked by `none`. Outside strings
such a byte can stand nowhere; inside it goes unnoticed until the string ends.

Main definitions:

- `JsonFault`: what can go wrong;
- `Json.readString`, `Json.readNumber`, `Json.readWord`: the scalars, from behind their first character;
- `Json.readValue`: a whole value;
- `Json.nextMember`: one member of an object, for readers that judge members as they come.
-/

namespace RuleText

/-- What is wrong with a text that is no JSON: it ends too early, or something in it does not belong there, be it
only that a number is out of range. -/
inductive JsonFault where
  | tooShort
  | misplaced
deriving Repr, DecidableEq

/-- A text to read JSON from; `none` is a byte that is no part of a character. -/
abbrev JsonText := List (Option Char)

namespace Json

/-- The fault at a place where something else had to stand. -/
def faultAt (text : JsonText) : JsonFault :=
  if text.isEmpty then .tooShort else .misplaced

/-- White space of JSON. -/
def isSpace (c : Option Char) : Bool :=
  c == some ' ' || c == some '\n' || c == some '\t' || c == some '\r'

/-- A text without the white space at its start. -/
def skipSpace (text : JsonText) : JsonText :=
  text.dropWhile isSpace

/-! ### Words -/

/-- Reads the rest of a word such as `null`. -/
def readWord : List Char → JsonText → Except JsonFault JsonText
  | [], text => .ok text
  | c :: word, text =>
    match text with
    | some d :: rest => if c = d then readWord word rest else .error .misplaced
    | _ => .error (faultAt text)

/-! ### Strings -/

/-- The number of bytes of a text. -/
def textBytes (text : JsonText) : Nat :=
  text.foldl (fun n c => n + (c.map Char.utf8Size).getD 1) 0

/-- Reads four hexadecimal digits. A text of less than four bytes is too short, whatever they are. -/
def readFourDigits (text : JsonText) : Except JsonFault (Nat × JsonText) :=
  match text with
  | a :: b :: c :: d :: rest =>
    match a.bind hexDigit?, b.bind hexDigit?, c.bind hexDigit?, d.bind hexDigit? with
    | some a, some b, some c, some d => .ok (((a * 16 + b) * 16 + c) * 16 + d, rest)
    | _, _, _, _ => .error (if textBytes text < 4 then .tooShort else .misplaced)
  | _ => .error (if textBytes text < 4 then .tooShort else .misplaced)

/-- Reads the character of a `\u` escape from behind the letter. The first half of a surrogate pair needs
the second half as an escape behind it, and the second half cannot stand alone. -/
def readCodeEscape (text : JsonText) : Except JsonFault (Char × JsonText) :=
  match readFourDigits text with
  | .error fault => .error fault
  | .ok (n, rest) =>
    if 0xDC00 ≤ n ∧ n ≤ 0xDFFF then .error .misplaced
    else if 0xD800 ≤ n ∧ n ≤ 0xDBFF then
      match readWord ['\\', 'u'] rest with
      | .error fault => .error fault
      | .ok rest =>
        match readFourDigits rest with
        | .error fault => .error fault
        | .ok (m, rest) =>
          if 0xDC00 ≤ m ∧ m ≤ 0xDFFF then
            .ok (Char.ofNat (0x10000 + (n - 0xD800) * 0x400 + (m - 0xDC00)), rest)
          else .error .misplaced
    else .ok (Char.ofNat n, rest)

/-- Reads the character of an escape from behind its backslash. -/
def readEscape : JsonText → Except JsonFault (Char × JsonText)
  | [] => .error .tooShort
  | none :: _ => .error .misplaced
  | some c :: rest =>
    match c with
    | '"' | '\\' | '/' => .ok (c, rest)
    | 'b' => .ok ('\x08', rest)
    | 'f' => .ok ('\x0c', rest)
    | 'n' => .ok ('\n', rest)
    | 'r' => .ok ('\r', rest)
    | 't' => .ok ('\t', rest)
    | 'u' => readCodeEscape rest
    | _ => .error .misplaced

/-- Reads a string from behind its opening quote. `sound` is false once a byte came by that is no part of
a character. -/
def readStringFrom : (fuel : Nat) → (sound : Bool) → (done : List Char) → JsonText →
    Except JsonFault (List Char × JsonText)
  | 0, _, _, _ => .error .tooShort
  | _ + 1, _, _, [] => .error .tooShort
  | fuel + 1, _, done, none :: rest => readStringFrom fuel false done rest
  | fuel + 1, sound, done, some c :: rest =>
    match c with
    | '"' => if sound then .ok (done.reverse, rest) else .error .misplaced
    | '\\' =>
      match readEscape rest with
      | .error fault => .error fault
      | .ok (c, rest) => readStringFrom fuel sound (c :: done) rest
    | _ =>
      if c.toNat < 0x20 then .error .misplaced
      else readStringFrom fuel sound (c :: done) rest

/-- Reads a string from behind its opening quote. -/
def readString (text : JsonText) : Except JsonFault (List Char × JsonText) :=
  readStringFrom (text.length + 1) true [] text

/-! ### Numbers -/

/-- Takes the digits at the start of a text. -/
def takeDigits : JsonText → List Char × JsonText
  | [] => ([], [])
  | none :: rest => ([], none :: rest)
  | some c :: rest =>
    if c.isDigit then
      let (digits, after) := takeDigits rest
      (c :: digits, after)
    else ([], some c :: rest)

/-- Takes digits, of which there has to be one at least. -/
def needDigits (text : JsonText) : Except JsonFault (List Char × JsonText) :=
  match takeDigits text with
  | ([], rest) => .error (faultAt rest)
  | answer => .ok answer

/-- Reads the digits before the point: a zero alone, or digits that do not begin with one. -/
def readWhole (text : JsonText) : Except JsonFault (List Char × JsonText) :=
  match needDigits text with
  | .error fault => .error fault
  | .ok (digits, rest) =>
    if digits.head? = some '0' ∧ digits.length ≠ 1 then .error .misplaced else .ok (digits, rest)

/-- Reads a fraction, if there is one. -/
def readFraction : JsonText → Except JsonFault (List Char × JsonText)
  | some '.' :: rest => needDigits rest
  | text => .ok ([], text)

/-- Reads the digits of an exponent behind its sign. -/
def readExponentDigits (minus : Bool) (text : JsonText) :
    Except JsonFault (Option Int × JsonText) :=
  match needDigits text with
  | .error fault => .error fault
  | .ok (digits, rest) =>
    let e : Int := decimalValue digits
    .ok (some (if minus then -e else e), rest)

/-- Reads an exponent, if there is one. -/
def readExponent (text : JsonText) : Except JsonFault (Option Int × JsonText) :=
  match text with
  | some mark :: rest =>
    if mark = 'e' ∨ mark = 'E' then
      match rest with
      | some '-' :: rest => readExponentDigits true rest
      | some '+' :: rest => readExponentDigits false rest
      | rest => readExponentDigits false rest
    else .ok (none, text)
  | _ => .ok (none, text)

/-- Reads a number behind its sign. -/
def readNumber (negative : Bool) (text : JsonText) : Except JsonFault (Json × JsonText) :=
  match readWhole text with
  | .error fault => .error fault
  | .ok (whole, rest) =>
    match readFraction rest with
    | .error fault => .error fault
    | .ok (fraction, rest) =>
      match readExponent rest with
      | .error fault => .error fault
      | .ok (exponent, rest) =>
        match number? negative whole fraction exponent with
        | none => .error .misplaced
        | some n => .ok (n, rest)

/-! ### Values -/

/-- The number of containers that may be open at the same time. -/
def maxNesting : Nat := 127

mutual

/-- Reads a value; `room` containers may still be opened. -/
def readValue : (fuel room : Nat) → JsonText → Except JsonFault (Json × JsonText)
  | 0, _, _ => .error .tooShort
  | fuel + 1, room, text =>
    match skipSpace text with
    | some 'n' :: rest => (readWord ['u', 'l', 'l'] rest).map (.null, ·)
    | some 't' :: rest => (readWord ['r', 'u', 'e'] rest).map (.boolean true, ·)
    | some 'f' :: rest => (readWord ['a', 'l', 's', 'e'] rest).map (.boolean false, ·)
    | some '"' :: rest => (readString rest).map fun (text, rest) => (.string text, rest)
    | some '-' :: rest => readNumber true rest
    | some '[' :: rest =>
      if room = 0 then .error .misplaced
      else (readItems fuel (room - 1) true [] rest).map fun (items, rest) => (.array items, rest)
    | some '\x7b' :: rest =>
      if room = 0 then .error .misplaced
      else (readMembers fuel (room - 1) true [] rest).map fun (members, rest) =>
        (.object members, rest)
    | some c :: rest =>
      if c.isDigit then readNumber false (some c :: rest) else .error .misplaced
    | other => .error (faultAt other)

/-- Reads the items of an array up to its end; `first` says that none has been read yet. -/
def readItems : (fuel room : Nat) → (first : Bool) → (done : List Json) → JsonText →
    Except JsonFault (List Json × JsonText)
  | 0, _, _, _, _ => .error .tooShort
  | fuel + 1, room, first, done, text =>
    let item (text : JsonText) : Except JsonFault (List Json × JsonText) :=
      match readValue fuel room text with
      | .error fault => .error fault
      | .ok (value, rest) => readItems fuel room false (value :: done) rest
    match skipSpace text with
    | some ']' :: rest => .ok (done.reverse, rest)
    | some ',' :: rest =>
      -- a comma needs an item before it and one behind it
      if first then .error .misplaced
      else match skipSpace rest with
        | some ']' :: _ => .error .misplaced
        | rest => item rest
    | rest => if first then item rest else .error (faultAt rest)

/-- Reads the next member of an object, or its end; `first` says that no member has been read yet. -/
def nextMember : (fuel room : Nat) → (first : Bool) → JsonText →
    Except JsonFault (Option (List Char × Json) × JsonText)
  | 0, _, _, _ => .error .tooShort
  | fuel + 1, room, first, text =>
    let member (text : JsonText) : Except JsonFault (Option (List Char × Json) × JsonText) :=
      match text with
      | some '"' :: rest =>
        match readString rest with
        | .error fault => .error fault
        | .ok (key, rest) =>
          match skipSpace rest with
          | some ':' :: rest =>
            (readValue fuel room rest).map fun (value, rest) => (some (key, value), rest)
          | rest => .error (faultAt rest)
      | rest => .error (faultAt rest)
    match skipSpace text with
    | some '\x7d' :: rest => .ok (none, rest)
    | some ',' :: rest =>
      if first then .error .misplaced else member (skipSpace rest)
    | rest => if first then member rest else .error (faultAt rest)

/-- Reads the members of an object up to its end; `first` says that none has been read yet. -/
def readMembers : (fuel room : Nat) → (first : Bool) → (done : List (List Char × Json)) →
    JsonText → Except JsonFault (List (List Char × Json) × JsonText)
  | 0, _, _, _, _ => .error .tooShort
  | fuel + 1, room, first, done, text =>
    match nextMember fuel room first text with
    | .error fault => .error fault
    | .ok (none, rest) => .ok (done.reverse, rest)
    | .ok (some member, rest) => readMembers fuel room false (member :: done) rest

end

/-- Fuel enough to read a text: at most three rounds of reading take a character off it. -/
def fuelFor (text : JsonText) : Nat := 3 * text.length + 3

end Json

end RuleText

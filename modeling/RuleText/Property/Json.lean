import RuleText.Property.Basic
import RuleText.Json.Reader
import RuleText.Json.Writer

/-!
# Properties from and to JSON

Properties are given as one JSON object whose members are scalars. Members are judged as they are read, so
a member of the wrong kind is reported before a fault further on in the text, while a container in place of
a scalar is read to its end first.

Main definitions:

- `PropertiesError`: why properties could not be had;
- `Value.ofJson?`: the kind of value that a JSON value is;
- `Properties.ofJson?`, `Properties.ofJsonBytes?`: the properties of a JSON text;
- `Value.toJson`, `Properties.toJson`: back to JSON.
-/

namespace RuleText

/-- Why properties could not be had. -/
inductive PropertiesError where
  /-- The file could not be read; with the reason of the system. -/
  | unreadable (reason : String)
  /-- The text is no JSON. -/
  | json (fault : JsonFault)
  /-- Reading the file broke off; with the reason of the system. -/
  | interrupted (reason : String)
  /-- The text is JSON but holds something else than an object. -/
  | notAnObject (found : String)
  /-- A member is no scalar. -/
  | notAScalar
  /-- An assignment without a name or without an equals sign. -/
  | invalidAssignment (text : String)
deriving Repr, DecidableEq

/-- The error as a message. What is wrong with a text that is no JSON is left open. -/
def PropertiesError.message : PropertiesError → String
  | unreadable reason => s!"Failed to read properties file: {reason}"
  | json _ => "Failed to parse properties: "
  | interrupted reason => s!"Failed to parse properties: {reason}"
  | notAnObject found => s!"Failed to parse properties: invalid type: {found}, expected a map"
  | notAScalar =>
    "Failed to parse properties: data did not match any variant of untagged enum PropertyValue"
  | invalidAssignment text => s!"Invalid property assignment `{text}`, expected KEY=VALUE"

/-- The value that a JSON value is: an integer if it fits 64 bits with a sign, and else the nearest
floating point number. -/
def Value.ofJson? : Json → Option Value
  | .boolean b => some (.boolean b)
  | .integer n =>
    if Int64.minValue.toInt ≤ n ∧ n ≤ Int64.maxValue.toInt then some (.integer (Int64.ofInt n))
    else some (.float (Binary64.ofDecimal (n < 0) n.natAbs 0))
  | .real x => some (.float x)
  | .string text => some (.string (String.ofList text))
  | .null | .array _ | .object _ => none

namespace Properties

/-- Reads members from behind the opening brace, each put into the properties read so far. -/
def readEntries : (fuel : Nat) → (first : Bool) → Properties → JsonText →
    Except PropertiesError (Properties × JsonText)
  | 0, _, _, _ => .error (.json .tooShort)
  | fuel + 1, first, properties, text =>
    match Json.nextMember (Json.fuelFor text) (Json.maxNesting - 1) first text with
    | .error fault => .error (.json fault)
    | .ok (none, rest) => .ok (properties, rest)
    | .ok (some (name, value), rest) =>
      match Value.ofJson? value with
      | none => .error .notAScalar
      | some value =>
        readEntries fuel false (properties.insert (String.ofList name) value) rest

/-- How a message names a JSON value that is no object. -/
def describeJson : Json → String
  | .null => "null"
  | .boolean b => s!"boolean `{String.ofList (Json.booleanText b)}`"
  | .integer n => s!"integer `{String.ofList (integerText n)}`"
  | .real x => s!"floating point `{String.ofList (Json.realText x)}`"
  | .string text => s!"string {quoted (String.ofList text)}"
  | .array _ => "sequence"
  | .object _ => "map"

/-- The properties of a JSON text, which may hold nothing but one object. -/
def readJson (text : JsonText) : Except PropertiesError Properties :=
  match Json.skipSpace text with
  | some '\x7b' :: rest =>
    match readEntries (rest.length + 1) true {} rest with
    | .error e => .error e
    | .ok (properties, rest) =>
      if (Json.skipSpace rest).isEmpty then .ok properties else .error (.json .misplaced)
  | some '[' :: _ => .error (.notAnObject (describeJson (.array [])))
  | rest =>
    match Json.readValue (Json.fuelFor rest) Json.maxNesting rest with
    | .error fault => .error (.json fault)
    | .ok (value, _) => .error (.notAnObject (describeJson value))

/-- The properties of a JSON text. -/
def ofJson? (text : String) : Except PropertiesError Properties :=
  readJson (text.toList.map some)

/-- The properties of the bytes of a JSON text. -/
def ofJsonBytes? (bytes : Bytes) : Except PropertiesError Properties :=
  readJson (decodeMarked bytes)

end Properties

/-! ### Writing -/

/-- A value as JSON. -/
def Value.toJson : Value → List Char
  | boolean b => Json.booleanText b
  | integer n => integerText n.toInt
  | float x => Json.realText x
  | string s => Json.stringText s.toList

/-- Properties as a JSON object. -/
def Properties.toJson (p : Properties) : List Char :=
  let member (entry : String × Value) : List Char :=
    Json.stringText entry.1.toList ++ ':' :: entry.2.toJson
  let members := p.entries.map member
  '\x7b' :: [','].intercalate members ++ ['\x7d']

end RuleText

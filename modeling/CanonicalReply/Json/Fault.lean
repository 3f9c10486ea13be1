import CanonicalReply.Json.Writer
import CanonicalReply.Text.Quoted

/-!
# What can be wrong with a JSON text or value

A text may break the grammar, and a value may not be of the wanted shape. Both kinds of fault have
one type, since a text can be read and decoded in one go. A fault found in a text carries the
position at which reading stood, in lines and in bytes.
-/

namespace CanonicalReply.Json

/-- What was found where something else was wanted. -/
inductive Found where
  | null
  | bool (value : Bool)
  | number (value : Number)
  | text (value : String)
  | list
  | object
  deriving DecidableEq

/-- What a value is, as far as a message shows it. -/
def found : Json → Found
  | .null => .null
  | .bool b => .bool b
  | .num n => .number n
  | .str s => .text s
  | .arr _ => .list
  | .obj _ => .object

/-- A value as a message names it. -/
def Found.message : Found → String
  | .null => "null"
  | .bool true => "boolean `true`"
  | .bool false => "boolean `false`"
  | .number (.int n) => s!"integer `{String.ofList (intChars n)}`"
  | .number (.double x) => s!"floating point `{String.ofList (doubleChars x)}`"
  | .text s => "string " ++ Text.quoted s
  | .list => "sequence"
  | .object => "map"

/-- One thing that can be wrong. -/
inductive Fault where
  /-- The text ends where a value is due. -/
  | endInValue
  | endInList
  | endInObject
  | endInString
  | expectedColon
  | expectedCommaOrListEnd
  | expectedCommaOrObjectEnd
  /-- A word begins like `null`, `true` or `false` and goes on differently. -/
  | expectedWord
  | expectedValue
  | invalidEscape
  | invalidNumber
  /-- A number is too large for a double. -/
  | numberOutOfRange
  /-- A surrogate is not half of a pair in order. -/
  | loneSurrogate
  /-- The second half of a surrogate pair is missing. -/
  | unpairedSurrogate
  | controlCharacter
  | keyNotString
  | trailingComma
  | trailingCharacters
  | tooDeep
  /-- A value of another type than the wanted one. -/
  | invalidType (found : Found) (wanted : String)
  /-- A value of the wanted type that is out of range. -/
  | invalidValue (found : Found) (wanted : String)
  /-- An array of the wrong length in place of a record. -/
  | invalidLength (length : Nat) (wanted : String)
  | missingField (name : String)
  | duplicateField (name : String)
  | unknownField (name : String) (known : List String)
  deriving DecidableEq

/-- The names of the fields that would have been known. -/
def oneOf : List String → String
  | [] => "there are no fields"
  | [a] => s!"expected `{a}`"
  | [a, b] => s!"expected `{a}` or `{b}`"
  | names => "expected one of " ++ ", ".intercalate (names.map fun n => s!"`{n}`")

/-- The text of a fault, without its position. -/
def Fault.message : Fault → String
  | .endInValue => "EOF while parsing a value"
  | .endInList => "EOF while parsing a list"
  | .endInObject => "EOF while parsing an object"
  | .endInString => "EOF while parsing a string"
  | .expectedColon => "expected `:`"
  | .expectedCommaOrListEnd => "expected `,` or `]`"
  | .expectedCommaOrObjectEnd => "expected `,` or `\x7d`"
  | .expectedWord => "expected ident"
  | .expectedValue => "expected value"
  | .invalidEscape => "invalid escape"
  | .invalidNumber => "invalid number"
  | .numberOutOfRange => "number out of range"
  | .loneSurrogate => "lone leading surrogate in hex escape"
  | .unpairedSurrogate => "unexpected end of hex escape"
  | .controlCharacter =>
    "control character (\\u0000-\\u001F) found while parsing a string"
  | .keyNotString => "key must be a string"
  | .trailingComma => "trailing comma"
  | .trailingCharacters => "trailing characters"
  | .tooDeep => "recursion limit exceeded"
  | .invalidType found wanted => s!"invalid type: {found.message}, expected {wanted}"
  | .invalidValue found wanted => s!"invalid value: {found.message}, expected {wanted}"
  | .invalidLength length wanted => s!"invalid length {length}, expected {wanted}"
  | .missingField name => s!"missing field `{name}`"
  | .duplicateField name => s!"duplicate field `{name}`"
  | .unknownField name known => s!"unknown field `{name}`, {oneOf known}"

/-! ## Positions -/

/-- A position in a text: the line, counted from 1, and the number of bytes before it in the
line. -/
structure Position where
  line : Nat
  column : Nat
  deriving DecidableEq

namespace Position

/-- The position behind one more character. -/
def after (p : Position) (c : Char) : Position :=
  if c = '\n' then ⟨p.line + 1, 0⟩ else ⟨p.line, p.column + c.utf8Size⟩

/-- The position behind so many more bytes of a text, which may end inside a character. -/
def afterBytes (p : Position) : Nat → List Char → Position
  | 0, _ => p
  | _, [] => p
  | n, c :: rest =>
    if c.utf8Size ≤ n then (p.after c).afterBytes (n - c.utf8Size) rest
    else ⟨p.line, p.column + n⟩

end Position

/-- A place in a text that is being read: what remains of it, and how many bytes of that have been
taken already. -/
structure Mark where
  rest : List Char
  taken : Nat
  deriving DecidableEq

/-- Where a mark lies in the text that is read. -/
def Mark.position (text : List Char) (m : Mark) : Position :=
  let before := text.take (text.length - m.rest.length)
  (before.foldl Position.after ⟨1, 0⟩).afterBytes m.taken m.rest

/-- A fault with its position, if it was found in a text. -/
structure Error where
  fault : Fault
  position? : Option Position
  deriving DecidableEq

/-- The text of an error. -/
def Error.message (e : Error) : String :=
  match e.position? with
  | none => e.fault.message
  | some p => s!"{e.fault.message} at line {p.line} column {p.column}"

end CanonicalReply.Json

import CanonicalReply.Json.Fault
import CanonicalReply.Yaml.Token.Lexer
import CanonicalReply.Yaml.Value

/-!
# Reading records from YAML texts

A record is written as a mapping, and the empty document is one without entries. Only the first
document of a text is read, and the text must not hold another one.
-/

namespace CanonicalReply.Yaml

/-! ## Faults -/

/-- What can be wrong with a document that can be read. -/
inductive Fault where
  | invalidType (found : Value) (wanted : String)
  | invalidValue (found : Value) (wanted : String)
  | unknownField (name : String) (known : List String)
  | duplicateField (name : String)
  deriving DecidableEq

/-- The fault in words. -/
def Fault.message : Fault → String
  | invalidType found wanted => s!"invalid type: {found.message}, expected {wanted}"
  | invalidValue found wanted => s!"invalid value: {found.message}, expected {wanted}"
  | unknownField name known => s!"unknown field `{name}`, {Json.oneOf known}"
  | duplicateField name => s!"duplicate field `{name}`"

/-- Why a text gives no record. -/
inductive Error where
  | text (problem : Problem)
  /-- A fault, with the key to whose value it belongs, and its place. -/
  | content (fault : Fault) (key : Option String) (mark : Mark)
  | severalDocuments
  deriving DecidableEq

namespace Error

/-- Where the error is, as far as that is known. -/
def mark? : Error → Option Mark
  | text problem => some problem.mark
  | content _ _ mark => some mark
  | severalDocuments => none

/-- The error in words. -/
def message : Error → String
  | text problem => problem.message
  | content fault none mark => fault.message ++ mark.suffix
  | content fault (some key) mark => s!"{key}: {fault.message}" ++ mark.suffix
  | severalDocuments =>
    "deserializing from YAML containing more than one document is not supported"

end Error

/-! ## Values of fields -/

/-- Makes an `α` of a part of a document, or says what is wrong with the part. -/
abbrev Decoder (α : Type) := Part → Except Fault α

/-- The fault of a part that is not of the wanted type. -/
def mismatch {α : Type} (part : Part) (wanted : String) : Except Fault α :=
  match part with
  | .scalar s =>
    match s.value with
    | .ok found => .error (.invalidType found wanted)
    | .error needed => .error (.invalidValue (.text s.text) needed)
  | .sequenceStart | .sequenceEnd => .error (.invalidType .sequence wanted)
  | .mappingStart | .mappingEnd | .reference _ => .error (.invalidType .mapping wanted)

namespace Decoder

/-- Any scalar, as a text. -/
def textFor (wanted : String) : Decoder String
  | .scalar s => .ok s.text
  | part => mismatch part wanted

/-- Any scalar, as a text. -/
def text : Decoder String := textFor "a string"

/-- True or false. -/
def bool : Decoder Bool
  | .scalar s =>
    match if s.isOpenTo "tag:yaml.org,2002:bool" then bool? s.text else none with
    | some b => .ok b
    | none => mismatch (.scalar s) "a boolean"
  | part => mismatch part "a boolean"

/-- A natural number below a limit, which is at most `2 ^ 64`. -/
def natBelow (limit : Nat) (wanted : String) : Decoder Nat
  | .scalar s =>
    match if s.isOpenTo "tag:yaml.org,2002:int" then unsigned? UInt64.size s.text.toList
      else none with
    | some n => if n < limit then .ok n else .error (.invalidValue (.integer n) wanted)
    | none => mismatch (.scalar s) wanted
  | part => mismatch part wanted

/-- A natural number of 16 bits. -/
def uint16 : Decoder UInt16 := fun part => (natBelow UInt16.size "u16" part).map UInt16.ofNat

/-- A natural number of 64 bits. -/
def uint64 : Decoder UInt64 := fun part => (natBelow UInt64.size "usize" part).map UInt64.ofNat

end Decoder

/-! ## Records -/

/-- How a field of a record is read into a draft of the record. -/
structure FieldReader (δ : Type) where
  key : String
  isSet : δ → Bool
  read : δ → Decoder δ

/-- How a record is read. -/
structure RecordReader (δ : Type) where
  name : String
  start : δ
  fields : List (FieldReader δ)

namespace RecordReader

variable {δ : Type} (r : RecordReader δ)

/-- The field that a key names. -/
def field (key : Part × Mark) : Except Error (FieldReader δ) :=
  match Decoder.textFor "field identifier" key.1 with
  | .error fault => .error (.content fault none key.2)
  | .ok name =>
    match r.fields.find? (·.key = name) with
    | some field => .ok field
    | none => .error (.content (.unknownField name (r.fields.map (·.key))) none key.2)

/-- How messages show the place of a value: by its key, if that is not a reference. -/
def keyText : Part → String
  | .scalar s => s.text
  | _ => "?"

/-- The draft, if the document does not end too early. -/
def settle (problem : Option Problem) (d : δ) : Except Error δ :=
  match problem with
  | none => .ok d
  | some p => .error (.text p)

/-- Read the entries of the mapping that begins at `start`. -/
def readEntries (doc : Document) (start : Mark) :
    List (Part × Mark) → δ → Except Error δ
  | [], d => settle doc.problem d
  | (.mappingEnd, _) :: _, d => .ok d
  | key :: rest, d =>
    match r.field (doc.resolve key) with
    | .error e => .error e
    | .ok field =>
      if field.isSet d then .error (.content (.duplicateField field.key) none start)
      else
        match rest with
        | [] => settle doc.problem d
        | value :: rest =>
          let (part, mark) := doc.resolve value
          match field.read d part with
          | .error fault => .error (.content fault (some (keyText key.1)) mark)
          | .ok d => readEntries doc start rest d

/-- Read the record that a document holds. -/
def readDocument (doc : Document) : Except Error δ :=
  match doc.parts with
  | [] => settle doc.problem r.start
  | root :: rest =>
    match doc.resolve root with
    | (.mappingStart, mark) => r.readEntries doc mark rest r.start
    | (.scalar ⟨"", .plain, _⟩, _) => .ok r.start
    | (part, mark) =>
      (mismatch part s!"struct {r.name}").mapError fun fault => .content fault none mark

/-- Read a record from the only document of a text. -/
def parse (text : String) : Except Error δ :=
  let doc := Document.first (tokens text).events
  match r.readDocument doc with
  | .error e => .error e
  | .ok d =>
    match settle doc.problem d with
    | .error e => .error e
    | .ok d => if doc.isLast then .ok d else .error .severalDocuments

end RecordReader

end CanonicalReply.Yaml

import CanonicalReply.Json.Decoder
import CanonicalReply.Json.Skip

/-!
# Reading records from text

A text that ought to be a record is decoded while it is read. What breaks the grammar behind the
first fault of a field is therefore never seen, and every fault of a field has a position: behind a
value of the wrong type or out of range, in front of the bracket of a list or an object that stands
for something else, and behind the key of a member that is unknown or comes twice.
-/

namespace CanonicalReply.Json

/-! ## Scalars and lists -/

/-- A value that is neither an array nor an object, for the given decoder. -/
def readScalar {α : Type} (wanted : String) (decode : Decoder α) (s : List Char) : Reading α :=
  match skipSpace s with
  | '[' :: rest => failAt (.invalidType .list wanted) ('[' :: rest)
  | '\x7b' :: rest => failAt (.invalidType .object wanted) ('\x7b' :: rest)
  | s =>
    match readValue (stepLimit s) 0 s with
    | .error e => .error e
    | .ok (v, rest) =>
      match decode v with
      | .error f => failAt f rest
      | .ok a => .ok (a, rest)

/-- A value where another type is wanted. -/
def readMismatch {α : Type} (wanted : String) (s : List Char) : Reading α :=
  readScalar wanted (fun v => mismatch v wanted) s

/-- The items of an array up to its closing bracket, in at most so many steps. -/
def readItemsWith {α : Type} (reader : List Char → Reading α) :
    Nat → Bool → List Char → Reading (List α)
  | 0, _, s => failAt .endInList s
  | steps + 1, first, s =>
    match skipSpace s with
    | [] => failAt .endInList []
    | ']' :: rest => .ok ([], rest)
    | s =>
      match itemStart first s with
      | .error e => .error e
      | .ok s =>
        match reader s with
        | .error e => .error e
        | .ok (a, rest) =>
          (readItemsWith reader steps false rest).map fun r => (a :: r.1, r.2)

/-- An array of the given items, which may go one level less deep than it. -/
def readListOf {α : Type} (reader : Nat → List Char → Reading α) (depth : Nat) (s : List Char) :
    Reading (List α) :=
  match skipSpace s with
  | '[' :: rest =>
    match depth with
    | 0 => failPast 1 .tooDeep ('[' :: rest)
    | depth + 1 => readItemsWith (reader depth) (rest.length + 1) true rest
  | s => readMismatch "a sequence" s

/-! ## Records -/

/-- How one field of a record in the making is read. -/
structure FieldReader (σ : Type) where
  key : String
  /-- Whether the record has the field already. -/
  isSet : σ → Bool
  /-- Read the field at the given depth and set it. -/
  read : σ → Nat → List Char → Reading σ

/-- How a record is read: into a record in the making, which is then finished. -/
structure RecordReader (σ α : Type) where
  name : String
  start : σ
  /-- The fields in the order of declaration. -/
  fields : List (FieldReader σ)
  /-- Whether a member with another key is a fault. -/
  closed : Bool
  /-- The record, if nothing is missing; the function names the fault of a missing field. -/
  finish : (String → Fault) → σ → Except Fault α

namespace RecordReader

variable {σ α : Type} (r : RecordReader σ α)

/-- Name and keys of the record. -/
def shape : Shape := ⟨r.name, r.fields.map (·.key)⟩

/-- A fault between a key and its colon. If the object ends there, its end counts as read. -/
def failAtKey (fault : Fault) (s : List Char) : Marked α :=
  match skipSpace s with
  | '\x7d' :: rest => failAt fault rest
  | s => failAt fault s

/-- Finish a record of which the end has been read. -/
def conclude (missing : String → Fault) (draft : σ) (rest : List Char) : Reading α :=
  match r.finish missing draft with
  | .error f => failAt f rest
  | .ok a => .ok (a, rest)

/-- One member whose key has been read. -/
def readMember (depth : Nat) (draft : σ) (key : String) (s : List Char) : Reading σ :=
  match r.fields.find? (·.key = key) with
  | some field =>
    if field.isSet draft then failAtKey (.duplicateField key) s
    else
      match colonEnd s with
      | .error e => .error e
      | .ok s => field.read draft depth s
  | none =>
    if r.closed then failAtKey (.unknownField key r.shape.keys) s
    else
      match colonEnd s with
      | .error e => .error e
      | .ok s => (skipValue (stepLimit s) s).map (draft, ·)

/-- The members of an object up to its closing brace, in at most so many steps. -/
def readMembers (depth : Nat) : Nat → Bool → σ → List Char → Reading α
  | 0, _, _, s => failAt .endInObject s
  | steps + 1, first, draft, s =>
    match skipSpace s with
    | [] => failAt .endInObject []
    | '\x7d' :: rest => r.conclude .missingField draft rest
    | s =>
      match keyStart first s with
      | .error e => .error e
      | .ok s =>
        match readString s with
        | .error e => .error e
        | .ok (key, s) =>
          match r.readMember depth draft key s with
          | .error e => .error e
          | .ok (draft, s) => readMembers depth steps false draft s

/-- The end of an array whose items have all been asked for. -/
def listEnd (s : List Char) : Marked (List Char) :=
  match skipSpace s with
  | [] => failAt .endInList []
  | ']' :: rest => .ok rest
  | ',' :: rest =>
    match skipSpace rest with
    | ']' :: rest => failPast 1 .trailingComma (']' :: rest)
    | s => failPast 1 .trailingCharacters s
  | s => failPast 1 .trailingCharacters s

/-- The fields of a record from the items of an array up to its closing bracket. -/
def readPlaces (depth : Nat) : List (FieldReader σ) → Bool → σ → List Char → Reading α
  | [], _, draft, s =>
    match listEnd s with
    | .error e => .error e
    | .ok rest => r.conclude .missingField draft rest
  | field :: fields, first, draft, s =>
    match skipSpace s with
    | [] => failAt .endInList []
    | ']' :: rest =>
      r.conclude (fun key => .invalidLength (r.shape.index key) r.shape.wantedItems) draft rest
    | s =>
      match itemStart first s with
      | .error e => .error e
      | .ok s =>
        match field.read draft depth s with
        | .error e => .error e
        | .ok (draft, s) => readPlaces depth fields false draft s

/-- A record, as an object or as an array. -/
def read (depth : Nat) (s : List Char) : Reading α :=
  match skipSpace s with
  | '[' :: rest =>
    match depth with
    | 0 => failPast 1 .tooDeep ('[' :: rest)
    | depth + 1 => r.readPlaces depth r.fields true r.start rest
  | '\x7b' :: rest =>
    match depth with
    | 0 => failPast 1 .tooDeep ('\x7b' :: rest)
    | depth + 1 => r.readMembers depth (rest.length + 1) true r.start rest
  | s => readMismatch r.shape.wanted s

/-- A text that is one record. -/
def parse (text : String) : Except Error α :=
  readWhole (r.read depthLimit) text.toList

end RecordReader

end CanonicalReply.Json

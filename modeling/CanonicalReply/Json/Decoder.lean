import CanonicalReply.Json.Fault

/-!
# Decoding JSON values

A decoder makes a typed value of a JSON value or says what is wrong with it. Records are described
field by field in the order of their declaration, by an applicative expression over `Fields`.

A record is written as an object or as an array with one item for each field. Of several faults the
one that shows first is reported: in an object, faults of members come in key order and missing
fields after them, in the order of declaration; in an array everything comes in the order of
declaration.
-/

namespace CanonicalReply.Json

/-- Makes an `α` of a value, or says what is wrong with the value. -/
abbrev Decoder (α : Type) := Json → Except Fault α

/-- The fault of a value that is not of the wanted type. -/
def mismatch {α : Type} (v : Json) (wanted : String) : Except Fault α :=
  .error (.invalidType v.found wanted)

namespace Decoder

/-! ## Simple values -/

/-- Any value, as it is. -/
def any : Decoder Json := .ok

/-- A string. -/
def text : Decoder String
  | .str s => .ok s
  | v => mismatch v "a string"

/-- True or false. -/
def bool : Decoder Bool
  | .bool b => .ok b
  | v => mismatch v "a boolean"

/-- An integer from `low` up to, not including, `high`. -/
def intWithin (low high : Int) (wanted : String) : Decoder Int
  | .num (.int n) =>
    if low ≤ n ∧ n < high then .ok n else .error (.invalidValue (.number (.int n)) wanted)
  | v => mismatch v wanted

/-- A natural number. Integers are read from 64 bits, so no larger one has to be refused. -/
def size : Decoder Nat
  | .num (.int (.ofNat n)) => .ok n
  | .num (.int n) => .error (.invalidValue (.number (.int n)) "usize")
  | v => mismatch v "usize"

/-- A natural number of 16 bits. -/
def uint16 : Decoder UInt16 := fun v =>
  (intWithin 0 UInt16.size "u16" v).map fun n => UInt16.ofNat n.toNat

/-- A natural number of 32 bits. -/
def uint32 : Decoder UInt32 := fun v =>
  (intWithin 0 UInt32.size "u32" v).map fun n => UInt32.ofNat n.toNat

/-- A natural number of 64 bits. -/
def uint64 : Decoder UInt64 := fun v =>
  (intWithin 0 UInt64.size "usize" v).map fun n => UInt64.ofNat n.toNat

/-- An integer of 64 bits with sign. -/
def int64 : Decoder Int64 := fun v =>
  (intWithin Int64.minValue.toInt (Int64.maxValue.toInt + 1) "i64" v).map Int64.ofInt

/-- A number as a double. -/
def double : Decoder Binary64
  | .num n => .ok n.toDouble
  | v => mismatch v "f64"

/-! ## Values made of others -/

/-- Null, or a value for the given decoder. -/
def nullable {α : Type} (decode : Decoder α) : Decoder (Option α)
  | .null => .ok none
  | v => (decode v).map some

/-- Every item for the given decoder; the first one that fails counts. -/
def items {α : Type} (decode : Decoder α) : List Json → Except Fault (List α)
  | [] => .ok []
  | v :: rest =>
    match decode v with
    | .error e => .error e
    | .ok a => (items decode rest).map (a :: ·)

/-- An array whose items are for the given decoder. -/
def list {α : Type} (decode : Decoder α) : Decoder (List α)
  | .arr vs => items decode vs
  | v => mismatch v "a sequence"

/-- An object with any members. -/
def object : Decoder (Dict Json)
  | .obj members => .ok (.ofList members)
  | v => mismatch v "a map"

/-- Every member's value for the given decoder; the first one that fails counts. -/
def members {α : Type} (decode : Decoder α) :
    List (String × Json) → Except Fault (List (String × α))
  | [] => .ok []
  | (k, v) :: rest =>
    match decode v with
    | .error e => .error e
    | .ok a => (members decode rest).map ((k, a) :: ·)

/-- An object whose values are for the given decoder. -/
def dict {α : Type} (decode : Decoder α) : Decoder (Dict α)
  | .obj ms => (members decode (Dict.ofList ms).entries).map Dict.ofList
  | v => mismatch v "a map"

end Decoder

/-! ## Records -/

/-- The name of a record type and the keys of its fields, in the order of declaration. -/
structure Shape where
  name : String
  keys : List String

namespace Shape

/-- The place of a key among the fields. -/
def index (shape : Shape) (key : String) : Nat := shape.keys.idxOf key

/-- What is wanted where a record is due. -/
def wanted (shape : Shape) : String := s!"struct {shape.name}"

/-- What is wanted where an array stands for a record. -/
def wantedItems (shape : Shape) : String :=
  let noun := if shape.keys.length = 1 then "element" else "elements"
  s!"struct {shape.name} with {shape.keys.length} {noun}"

end Shape

/-- Where the fields of a record are looked up: by key or by place. -/
inductive Source where
  | byKey (members : Dict Json)
  | byPlace (items : List Json)

/-- Where a fault of a record shows. -/
inductive Place where
  | member (key : String)
  | missing (index : Nat)
  | item (index : Nat)
  deriving DecidableEq

/-- Whether a fault at the first place shows before one at the second. -/
def Place.before : Place → Place → Bool
  | .member j, .member k => j < k
  | .member _, _ => true
  | .missing i, .missing j => i < j
  | .item i, .item j => i < j
  | _, _ => false

/-- A reader of some fields of a record. -/
def Fields (α : Type) := Shape → Source → Except (Place × Fault) α

namespace Fields

variable {α β : Type}

/-- Two readings side by side: both results, or the fault that shows first. -/
def both {ε : Type} (before : ε → ε → Bool) (f : Except ε (α → β)) (a : Except ε α) :
    Except ε β :=
  match f, a with
  | .ok f, .ok a => .ok (f a)
  | .ok _, .error e => .error e
  | .error e, .ok _ => .error e
  | .error d, .error e => .error (if before e d then e else d)

instance : Applicative Fields where
  pure a := fun _ _ => .ok a
  seq f a := fun shape source =>
    both (fun d e => d.1.before e.1) (f shape source) (a () shape source)

/-- One field. If it is absent, `byKey` stands for it in an object and `byPlace` in an array; where
that is nothing, its absence is a fault. -/
def field (key : String) (decode : Decoder α) (byKey byPlace : Option α) : Fields α :=
  fun shape source =>
    match source with
    | .byKey members =>
      match members.get? key with
      | some v => (decode v).mapError fun e => (.member key, e)
      | none =>
        match byKey with
        | some a => .ok a
        | none => .error (.missing (shape.index key), .missingField key)
    | .byPlace items =>
      let i := shape.index key
      match items[i]? with
      | some v => (decode v).mapError fun e => (.item i, e)
      | none =>
        match byPlace with
        | some a => .ok a
        | none => .error (.item i, .invalidLength i shape.wantedItems)

/-- A field that has to be there. -/
def required (key : String) (decode : Decoder α) : Fields α := field key decode none none

/-- A field that may be null, and absent from an object but not from an array. -/
def optional (key : String) (decode : Decoder α) : Fields (Option α) :=
  field key (Decoder.nullable decode) (some none) none

/-- A field that may be absent; the default stands for it then. -/
def defaulted (key : String) (decode : Decoder α) (default : α) : Fields α :=
  field key decode (some default) (some default)

/-- A field that may be null or absent, which is the same. -/
def lenient (key : String) (decode : Decoder α) : Fields (Option α) :=
  defaulted key (Decoder.nullable decode) none

/-- A field that may be null or absent, which is not the same: null is `some none`. -/
def presence (key : String) (decode : Decoder α) : Fields (Option (Option α)) :=
  defaulted key (fun v => (Decoder.nullable decode v).map some) none

end Fields

namespace Decoder

variable {α : Type}

/-- What remains of a reading of fields when the place of its fault is dropped. -/
def settle (r : Except (Place × Fault) α) : Except Fault α := r.mapError (·.2)

/-- A record whose fields are all taken from an array. -/
def placed (shape : Shape) (fields : Fields α) (vs : List Json) : Except Fault α :=
  match settle (fields shape (.byPlace vs)) with
  | .error e => .error e
  | .ok a =>
    if shape.keys.length < vs.length then
      .error (.invalidLength vs.length "fewer elements in array")
    else .ok a

/-- A record that ignores members it does not know. -/
def record (shape : Shape) (fields : Fields α) : Decoder α
  | .obj ms => settle (fields shape (.byKey (.ofList ms)))
  | .arr vs => placed shape fields vs
  | v => mismatch v shape.wanted

/-- The fault of the first member that a record does not know, if there is one. -/
def noStranger (shape : Shape) (members : Dict Json) : Except (Place × Fault) (α → α) :=
  match members.keys.find? (fun k => !shape.keys.contains k) with
  | none => .ok id
  | some k => .error (.member k, .unknownField k shape.keys)

/-- A record that refuses members it does not know. -/
def closedRecord (shape : Shape) (fields : Fields α) : Decoder α
  | .obj ms =>
    settle (Fields.both (fun d e => d.1.before e.1) (noStranger shape (.ofList ms))
      (fields shape (.byKey (.ofList ms))))
  | .arr vs => placed shape fields vs
  | v => mismatch v shape.wanted

/-- A record that collects the members it does not know. It has no form as an array. -/
def openRecord (shape : Shape) (fields : Fields (Dict Json → α)) : Decoder α
  | .obj ms =>
    let members := Dict.ofList ms
    (settle (fields shape (.byKey members))).map fun f =>
      f (members.filterKeys fun k => !shape.keys.contains k)
  | v => mismatch v shape.wanted

end Decoder

/-! ## Writing records -/

/-- The object of those members that have a value, in the given order. -/
def objectOf (members : List (String × Option Json)) : Json :=
  .obj (members.filterMap fun e => e.2.map (e.1, ·))

/-- A value, or null. -/
def orNull : Option Json → Json
  | some v => v
  | none => .null

end CanonicalReply.Json

import CanonicalReply.Binary64
import CanonicalReply.Dict

/-!
# JSON values

Numbers keep apart what a text can tell apart: an integer and a double of the same size are
different values. The reader makes integers only of literals that fit 64 bits, signed or unsigned;
any other literal is a double. The members of an object are a list of pairs. In a value that was
read they stand in key order without repetition, as in a `Dict`; a response about to be written
lists them in the order in which they are written.
-/

namespace CanonicalReply

/-- A JSON number. -/
inductive Json.Number where
  | int (value : Int)
  | double (value : Binary64)
  deriving DecidableEq, Inhabited

/-- A JSON value. -/
inductive Json where
  | null
  | bool (value : Bool)
  | num (value : Json.Number)
  | str (value : String)
  | arr (items : List Json)
  | obj (members : List (String × Json))
  deriving Inhabited

namespace Json

/-! ## Equality is decidable -/

mutual

/-- Decide whether two values are equal. -/
def decEq : (v w : Json) → Decidable (v = w)
  | .null, .null => isTrue rfl
  | .bool a, .bool b => decidable_of_iff (a = b) (by simp)
  | .num a, .num b => decidable_of_iff (a = b) (by simp)
  | .str a, .str b => decidable_of_iff (a = b) (by simp)
  | .arr a, .arr b =>
    match decEqItems a b with
    | isTrue h => isTrue (by rw [h])
    | isFalse h => isFalse (fun e => h (by cases e; rfl))
  | .obj a, .obj b =>
    match decEqMembers a b with
    | isTrue h => isTrue (by rw [h])
    | isFalse h => isFalse (fun e => h (by cases e; rfl))
  | .null, .bool _ | .null, .num _ | .null, .str _ | .null, .arr _ | .null, .obj _
  | .bool _, .null | .bool _, .num _ | .bool _, .str _ | .bool _, .arr _ | .bool _, .obj _
  | .num _, .null | .num _, .bool _ | .num _, .str _ | .num _, .arr _ | .num _, .obj _
  | .str _, .null | .str _, .bool _ | .str _, .num _ | .str _, .arr _ | .str _, .obj _
  | .arr _, .null | .arr _, .bool _ | .arr _, .num _ | .arr _, .str _ | .arr _, .obj _
  | .obj _, .null | .obj _, .bool _ | .obj _, .num _ | .obj _, .str _ | .obj _, .arr _ =>
    isFalse (fun e => nomatch e)

/-- Decide whether two lists of values are equal. -/
def decEqItems : (v w : List Json) → Decidable (v = w)
  | [], [] => isTrue rfl
  | [], _ :: _ | _ :: _, [] => isFalse (fun e => nomatch e)
  | a :: v, b :: w =>
    match decEq a b, decEqItems v w with
    | isTrue h, isTrue t => isTrue (by rw [h, t])
    | isFalse h, _ => isFalse (fun e => h (by cases e; rfl))
    | _, isFalse t => isFalse (fun e => t (by cases e; rfl))

/-- Decide whether two lists of members are equal. -/
def decEqMembers : (v w : List (String × Json)) → Decidable (v = w)
  | [], [] => isTrue rfl
  | [], _ :: _ | _ :: _, [] => isFalse (fun e => nomatch e)
  | (j, a) :: v, (k, b) :: w =>
    match decEq a b, decEqMembers v w with
    | isTrue h, isTrue t =>
      if hk : j = k then isTrue (by rw [h, t, hk]) else isFalse (fun e => hk (by cases e; rfl))
    | isFalse h, _ => isFalse (fun e => h (by cases e; rfl))
    | _, isFalse t => isFalse (fun e => t (by cases e; rfl))

end

instance : DecidableEq Json := decEq

/-! ## Looking into values -/

/-- A map as an object. -/
def ofDict (d : Dict Json) : Json := .obj d.entries

/-- The object's map; of several members with one key the last counts. -/
def dict? : Json → Option (Dict Json)
  | .obj members => some (.ofList members)
  | _ => none

/-- The items of an array. -/
def items? : Json → Option (List Json)
  | .arr items => some items
  | _ => none

/-- The text of a string. -/
def text? : Json → Option String
  | .str s => some s
  | _ => none

/-- The member of an object with the given key; other values have none. -/
def get? (v : Json) (key : String) : Option Json := v.dict?.bind (·.get? key)

/-- Whether a value is null. -/
def isNull : Json → Bool
  | .null => true
  | _ => false

/-- Whether a value is an object. -/
def isObject : Json → Bool
  | .obj _ => true
  | _ => false

/-- A number as a double, rounded if it has to be. -/
def Number.toDouble : Number → Binary64
  | .int n => .ofInt n
  | .double x => x

end Json

end CanonicalReply

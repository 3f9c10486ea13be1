import CanonicalReply.Binary64.Shortest
import CanonicalReply.Text.Digits
import CanonicalReply.Text.Quoted
import CanonicalReply.Yaml.Document

/-!
# What scalars stand for

A plain scalar without a tag may stand for nothing, a truth value or a number, by the way it is
written; all others are texts, unless their tag says something else.
-/

namespace CanonicalReply.Yaml

open Text (numeral?)

/-! ## Values -/

/-- What a part of a document stands for. -/
inductive Value where
  | null
  | bool (value : Bool)
  | integer (value : Int)
  /-- An integer that takes more than 64 bits. -/
  | wideInteger (value : Int)
  | float (value : Binary64)
  | infinity (negative : Bool)
  | notANumber
  | text (value : String)
  | sequence
  | mapping
  deriving DecidableEq

/-- A finite double with a point and without an exponent. -/
def floatText (x : Binary64) : String :=
  String.ofList ((if x.negative then ['-'] else []) ++ x.shortest.positional)

/-- A value as a message names it. -/
def Value.message : Value → String
  | null => "unit value"
  | bool true => "boolean `true`"
  | bool false => "boolean `false`"
  | integer n => s!"integer `{n}`"
  | wideInteger n => s!"integer `{n}` as " ++ if n < 0 then "i128" else "u128"
  | float x => s!"floating point `{floatText x}`"
  | infinity false => "floating point `inf`"
  | infinity true => "floating point `-inf`"
  | notANumber => "floating point `NaN`"
  | text s => "string " ++ Text.quoted s
  | sequence => "sequence"
  | mapping => "map"

/-! ## Words -/

/-- Whether a text stands for nothing. -/
def isNull (s : String) : Bool := s = "null" || s = "Null" || s = "NULL" || s = "~"

/-- The truth value that a text stands for. -/
def bool? (s : String) : Option Bool :=
  if s = "true" ∨ s = "True" ∨ s = "TRUE" then some true
  else if s = "false" ∨ s = "False" ∨ s = "FALSE" then some false
  else none

/-! ## Integers -/

/-- A text without a sign in front. -/
def withoutSign : List Char → List Char
  | '+' :: rest => rest
  | '-' :: rest => rest
  | cs => cs

/-- Whether a text looks like an integer but is none, because it has a zero in front. -/
def hasLeadingZero (cs : List Char) : Bool :=
  match withoutSign cs with
  | '0' :: c :: rest => (c :: rest).all Char.isDigit
  | _ => false

/-- The number that digits denote, in a base that a letter behind a zero may show. -/
def basedNumeral? : List Char → Option Nat
  | '0' :: 'x' :: digits => numeral? 16 digits
  | '0' :: 'o' :: digits => numeral? 8 digits
  | '0' :: 'b' :: digits => numeral? 2 digits
  | digits => numeral? 10 digits

/-- The natural number below a limit that a text stands for. -/
def unsigned? (limit : Nat) (cs : List Char) : Option Nat :=
  if hasLeadingZero cs then none
  else
    (basedNumeral? (match cs with
      | '+' :: rest => rest
      | _ => cs)).filter (· < limit)

/-- The natural number up to a limit whose negative a text stands for. -/
def negated? (limit : Nat) (cs : List Char) : Option Nat :=
  if hasLeadingZero cs then none
  else
    match cs with
    | '-' :: rest => (basedNumeral? rest).filter (· ≤ limit)
    | _ => none

/-- The integer that a text stands for. -/
def integer? (cs : List Char) : Option Value :=
  ((unsigned? UInt64.size cs).map fun n => .integer n)
    <|> ((negated? (Nat.pow 2 63) cs).map fun n => .integer (-n))
    <|> ((unsigned? (Nat.pow 2 128) cs).map fun n => .wideInteger n)
    <|> ((negated? (Nat.pow 2 127) cs).map fun n => .wideInteger (-n))

/-! ## Floating-point numbers -/

/-- The digits of a number, together with how many of them stand behind the point, and what
follows them. There is at least one digit. -/
def readDecimal? (cs : List Char) : Option (Nat × Nat × List Char) :=
  let whole := cs.takeWhile Char.isDigit
  let rest := cs.drop whole.length
  let fraction :=
    match rest with
    | '.' :: rest => rest.takeWhile Char.isDigit
    | _ => []
  let rest :=
    match rest with
    | '.' :: rest => rest.drop fraction.length
    | _ => rest
  (numeral? 10 (whole ++ fraction)).map fun n => (n, fraction.length, rest)

/-- The exponent that ends a number. -/
def exponent? : List Char → Option Int
  | [] => some 0
  | c :: rest =>
    if c = 'e' ∨ c = 'E' then
      match rest with
      | '-' :: digits => (numeral? 10 digits).map fun n => -(n : Int)
      | _ => (numeral? 10 (match rest with
        | '+' :: digits => digits
        | _ => rest)).map fun n => (n : Int)
    else none

/-- The double nearest to `± digits · 10 ^ exponent`, unless that is too large. Exponents at which
the answer is clear from the number of digits are not worked with. -/
def nearest? (negative : Bool) (digits : Nat) (exponent : Int) : Option Binary64 :=
  let size : Int := (Nat.toDigits 10 digits).length
  if digits = 0 ∨ exponent + size < -400 then some { Binary64.zero with negative }
  else if 400 < exponent + size then none
  else
    let (up, down) := Binary64.decimalScale exponent
    Binary64.ofRatio? negative (digits * up) down

/-- The double that a text without a plus sign denotes. -/
def decimal? (cs : List Char) : Option Binary64 :=
  let negative := cs.head? = some '-'
  match readDecimal? (if negative then cs.tail else cs) with
  | none => none
  | some (digits, places, rest) =>
    match exponent? rest with
    | none => none
    | some e => nearest? negative digits (e - places)

/-- The floating-point value that a text stands for. -/
def float? (s : String) : Option Value :=
  if s = ".inf" ∨ s = ".Inf" ∨ s = ".INF" ∨ s = "+.inf" ∨ s = "+.Inf" ∨ s = "+.INF" then
    some (.infinity false)
  else if s = "-.inf" ∨ s = "-.Inf" ∨ s = "-.INF" then some (.infinity true)
  else if s = ".nan" ∨ s = ".NaN" ∨ s = ".NAN" then some .notANumber
  else
    (match s.toList with
      | '+' :: '-' :: _ => none
      | '+' :: rest => decimal? rest
      | cs => decimal? cs).map .float

/-! ## Scalars -/

/-- What a plain scalar stands for by the way it is written. -/
def plainValue (s : String) : Value :=
  if s = "" ∨ isNull s then .null
  else
    match bool? s with
    | some b => .bool b
    | none =>
      match integer? s.toList with
      | some v => v
      | none =>
        if hasLeadingZero s.toList then .text s else (float? s).getD (.text s)

/-- The tags that say what a scalar stands for, with what they need it to be. -/
def tagged? (tag : String) (s : String) : Option (String × Option Value) :=
  if tag = "tag:yaml.org,2002:bool" then some ("a boolean", (bool? s).map .bool)
  else if tag = "tag:yaml.org,2002:int" then some ("an integer", integer? s.toList)
  else if tag = "tag:yaml.org,2002:float" then some ("a float", float? s)
  else if tag = "tag:yaml.org,2002:null" then
    some ("null", if isNull s then some .null else none)
  else none

namespace Scalar

/-- Whether the scalar is written without quotes and not as a block. -/
def isPlain (s : Scalar) : Bool := s.style = .plain

/-- What the scalar stands for, or what its tag needs it to be and it is not. -/
def value (s : Scalar) : Except String Value :=
  match s.tag with
  | none => .ok (if s.isPlain then plainValue s.text else .text s.text)
  | some tag =>
    match tagged? tag s.text with
    | some (_, some v) => .ok v
    | some (needed, none) => .error needed
    | none =>
      .ok (if tag.toList.head? = some '!' ∧ s.isPlain then plainValue s.text else .text s.text)

/-- Whether the scalar's text may be read as a value of a kind for which there is a tag: if it is
plain, or if it is a literal block with that tag. -/
def isOpenTo (tag : String) (s : Scalar) : Bool :=
  s.isPlain || (s.style = .literal && s.tag = some tag)

end Scalar

end CanonicalReply.Yaml

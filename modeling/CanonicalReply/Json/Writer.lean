import CanonicalReply.Binary64.Shortest
import CanonicalReply.Json

/-!
# JSON text, without blanks

Members are written in the order in which they stand. Text is written as it is, apart from quotes,
backslashes and control characters. A double is written with the fewest digits that read back, and
always so that it reads as a double again.
-/

namespace CanonicalReply.Json

/-! ## Numbers -/

/-- The exponents of the leading digit for which a double is written without an exponent. -/
def isPositional (leading : Int) : Bool := -5 ≤ leading && leading < 16

/-- A double in as few digits as read back. -/
def doubleChars (x : Binary64) : List Char :=
  let d := x.shortest
  let magnitude := if isPositional d.leading then d.positional else d.scientific
  if x.negative then '-' :: magnitude else magnitude

/-- An integer in decimal digits. -/
def intChars (n : Int) : List Char :=
  if n < 0 then '-' :: Nat.toDigits 10 n.natAbs else Nat.toDigits 10 n.natAbs

/-- A number as it is written. -/
def Number.chars : Number → List Char
  | .int n => intChars n
  | .double x => doubleChars x

/-! ## Strings -/

/-- How one character stands in a string. -/
def escapeChar (c : Char) : List Char :=
  match c with
  | '"' => ['\\', '"']
  | '\\' => ['\\', '\\']
  | '\x08' => ['\\', 'b']
  | '\t' => ['\\', 't']
  | '\n' => ['\\', 'n']
  | '\x0c' => ['\\', 'f']
  | '\r' => ['\\', 'r']
  | c =>
    if c.toNat < 0x20 then
      ['\\', 'u', '0', '0', Nat.digitChar (c.toNat / 16), Nat.digitChar (c.toNat % 16)]
    else [c]

/-- A string between its quotes. -/
def stringChars (s : String) : List Char :=
  '"' :: (s.toList.flatMap escapeChar ++ ['"'])

/-! ## Values -/

mutual

/-- The characters of a value. -/
def chars : Json → List Char
  | .null => ['n', 'u', 'l', 'l']
  | .bool true => ['t', 'r', 'u', 'e']
  | .bool false => ['f', 'a', 'l', 's', 'e']
  | .num n => n.chars
  | .str s => stringChars s
  | .arr items => '[' :: itemChars items
  | .obj members => '\x7b' :: memberChars members

/-- The items of an array with the closing bracket. -/
def itemChars : List Json → List Char
  | [] => [']']
  | [v] => v.chars ++ [']']
  | v :: w :: rest => v.chars ++ ',' :: itemChars (w :: rest)

/-- The members of an object with the closing brace. -/
def memberChars : List (String × Json) → List Char
  | [] => ['\x7d']
  | [(k, v)] => stringChars k ++ ':' :: v.chars ++ ['\x7d']
  | (k, v) :: e :: rest => stringChars k ++ ':' :: v.chars ++ ',' :: memberChars (e :: rest)

end

/-- The compact text of a value. -/
def compact (v : Json) : String := String.ofList v.chars

end CanonicalReply.Json

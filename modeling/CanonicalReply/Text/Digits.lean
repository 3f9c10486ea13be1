/-!
# Digits

The values of digits in bases up to sixteen, and of numbers written with them.
-/

namespace CanonicalReply.Text

/-- The value of a hexadecimal digit. -/
def hexValue? (c : Char) : Option Nat :=
  if c.isDigit then some (c.toNat - '0'.toNat)
  else if 'a' ≤ c ∧ c ≤ 'f' then some (c.toNat - 'a'.toNat + 10)
  else if 'A' ≤ c ∧ c ≤ 'F' then some (c.toNat - 'A'.toNat + 10)
  else none

/-- The value of a digit in a base of at most sixteen. -/
def digitValue? (base : Nat) (c : Char) : Option Nat := (hexValue? c).filter (· < base)

/-- The value of digits behind others of a given value, most significant first. -/
def numeralFrom (base : Nat) : Nat → List Char → Option Nat
  | n, [] => some n
  | n, c :: rest =>
    match digitValue? base c with
    | some d => numeralFrom base (n * base + d) rest
    | none => none

/-- The number that digits denote; at least one digit is needed. -/
def numeral? (base : Nat) (cs : List Char) : Option Nat :=
  if cs = [] then none else numeralFrom base 0 cs

end CanonicalReply.Text

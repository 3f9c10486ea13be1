/-!
# Finite binary floating-point numbers of 64 bits

A `Binary64` is a sign and a position in the increasing sequence of the finite non-negative
numbers of the binary format with 53 significant bits. Zero has position 0, and the position of
`m · 2 ^ q` is `(q + 1074) · 2 ^ 52 + m`. Infinities and "not a number" have no position, so every
value of the type is finite. Arithmetic is exact on ratios of natural numbers and rounds once, to
the nearest number, a half going to the even neighbour.
-/

namespace CanonicalReply

/-- A finite double: its sign and its position among the non-negative finite doubles. -/
structure Binary64 where
  negative : Bool
  position : Fin (2047 * Nat.pow 2 52)
  deriving DecidableEq

namespace Binary64

instance : Inhabited Binary64 := ⟨⟨false, 0⟩⟩

/-- The quotient of two natural numbers, rounded to the nearest; a half goes to the even one. -/
def divToEven (n d : Nat) : Nat :=
  let q := n / d
  let r := n % d
  if 2 * r < d then q
  else if d < 2 * r then q + 1
  else q + q % 2

/-- A power of two in front of or below a fraction bar. -/
def scale (e : Int) : Nat × Nat :=
  if 0 ≤ e then (Nat.pow 2 e.toNat, 1) else (1, Nat.pow 2 (-e).toNat)

/-! ## The parts of a number -/

/-- The significand, an integer below `2 ^ 53`. -/
def significand (x : Binary64) : Nat :=
  if x.position.val < Nat.pow 2 52 then x.position.val
  else x.position.val % Nat.pow 2 52 + Nat.pow 2 52

/-- The exponent of two that goes with `significand`. -/
def exponent (x : Binary64) : Int :=
  if x.position.val < Nat.pow 2 52 then -1074 else (x.position.val / Nat.pow 2 52 : Nat) - 1075

/-- The magnitude as a numerator over a denominator. -/
def magnitude (x : Binary64) : Nat × Nat :=
  let (up, down) := scale x.exponent
  (x.significand * up, down)

/-! ## Rounding -/

/-- The position of the number nearest to `n / d`, were there no largest one. -/
def nearestPosition (n d : Nat) : Nat :=
  if n = 0 then 0
  else
    let top : Int := (n.log2 : Int) - d.log2
    -- `n / d` lies between `2 ^ (top - 1)` and `2 ^ (top + 1)`
    let (up, down) := scale top
    let lead : Int := if n * down < d * up then top - 1 else top
    let q : Int := max (lead - 52) (-1074)
    let (up, down) := scale q
    (q + 1074).toNat * Nat.pow 2 52 + divToEven (n * down) (d * up)

/-- The number nearest to `± n / d`, unless that rounds beyond the largest one. -/
def ofRatio? (negative : Bool) (n d : Nat) : Option Binary64 :=
  if h : nearestPosition n d < 2047 * Nat.pow 2 52 then some ⟨negative, nearestPosition n d, h⟩
  else none

/-- The number nearest to `± n / d`; the largest one stands for all beyond it. -/
def ofRatio (negative : Bool) (n d : Nat) : Binary64 :=
  (ofRatio? negative n d).getD ⟨negative, 2047 * Nat.pow 2 52 - 1, by decide⟩

/-- The number nearest to an integer. -/
def ofInt (n : Int) : Binary64 := ofRatio (n < 0) n.natAbs 1

/-- Zero, as the sum of nothing. -/
def zero : Binary64 := ⟨false, 0⟩

/-! ## Arithmetic -/

/-- The negated number; zero has a negative twin. -/
def neg (x : Binary64) : Binary64 := { x with negative := !x.negative }

/-- The rounded product, unless it is too large. -/
def mul? (x y : Binary64) : Option Binary64 :=
  let (a, b) := x.magnitude
  let (c, d) := y.magnitude
  ofRatio? (x.negative != y.negative) (a * c) (b * d)

/-- The rounded quotient, unless it is too large. -/
def div? (x y : Binary64) : Option Binary64 :=
  let (a, b) := x.magnitude
  let (c, d) := y.magnitude
  ofRatio? (x.negative != y.negative) (a * d) (b * c)

/-- The rounded sum of the magnitudes of two numbers. -/
def addMagnitudes (x y : Binary64) : Binary64 :=
  let (a, b) := x.magnitude
  let (c, d) := y.magnitude
  ofRatio false (a * d + c * b) (b * d)

/-- The integer part: what is left of a number when its fraction is dropped. -/
def truncate (x : Binary64) : Int :=
  let (a, b) := x.magnitude
  if x.negative then -(a / b : Nat) else (a / b : Nat)

end Binary64

end CanonicalReply

import CanonicalReply.Binary64

/-!
# The fewest decimal digits that read back

`Binary64.shortest` gives a number's decimal form with the fewest digits among all decimals that
round to it, and of those the one nearest to it. For one digit, two digits, and so on, the two
neighbours of the number on the grid of decimals with that many digits are compared with the
interval of reals that round to it; the first grid with a neighbour inside wins.
-/

namespace CanonicalReply

/-- A decimal number `digits · 10 ^ exponent`. -/
structure Decimal where
  digits : Nat
  exponent : Int
  deriving DecidableEq

namespace Binary64

/-- The reals that round to a positive number, over one denominator, with the number itself. -/
structure Interval where
  low : Nat
  value : Nat
  high : Nat
  denominator : Nat
  /-- Whether the two ends still round to the number. -/
  closed : Bool

/-- The interval of the reals that round to the number's magnitude. Below a power of two the
spacing halves, so the lower end comes nearer. -/
def interval (x : Binary64) : Interval :=
  let m := x.significand
  let (up, down) := scale x.exponent
  let below := if m = Nat.pow 2 52 ∧ -1074 < x.exponent then 1 else 2
  { low := (4 * m - below) * up, value := 4 * m * up, high := (4 * m + 2) * up,
    denominator := 4 * down, closed := m % 2 = 0 }

/-- A power of ten in front of or below a fraction bar. -/
def decimalScale (e : Int) : Nat × Nat :=
  if 0 ≤ e then (Nat.pow 10 e.toNat, 1) else (1, Nat.pow 10 (-e).toNat)

namespace Interval

/-- Whether `digits · 10 ^ exponent` lies in the interval. -/
def contains (i : Interval) (d : Decimal) : Bool :=
  let (up, down) := decimalScale d.exponent
  let point := d.digits * up * i.denominator
  if i.closed then i.low * down ≤ point ∧ point ≤ i.high * down
  else i.low * down < point ∧ point < i.high * down

/-- Whether the number is at least `10 ^ e`. -/
def reaches (i : Interval) (e : Int) : Bool :=
  let (up, down) := decimalScale e
  up * i.denominator ≤ i.value * down

/-- The number of digits before the point (at most 0 for a number below one tenth), found from
an estimate that is at most one off. -/
def wholeDigits (i : Interval) : Int :=
  let top : Int := (i.value.log2 : Int) - i.denominator.log2
  let guess := Int.fdiv (top * 30103) 100000
  if i.reaches (guess + 1) then guess + 2
  else if i.reaches guess then guess + 1
  else if i.reaches (guess - 1) then guess
  else guess - 1

/-- The better of the number's two neighbours on the grid of spacing `10 ^ e`, if one of them lies
in the interval: the nearer, and the even one at equal distance. -/
def neighbour? (i : Interval) (e : Int) : Option Decimal :=
  let (up, down) := decimalScale e
  let n := i.value * down
  let step := i.denominator * up
  let below : Decimal := ⟨n / step, e⟩
  let above : Decimal := ⟨n / step + 1, e⟩
  let nearest : Decimal := ⟨divToEven n step, e⟩
  let other := if nearest = below then above else below
  if i.contains nearest then some nearest
  else if i.contains other then some other
  else none

/-- The neighbour on the coarsest grid that has one, tried with `tries` more digits at most. -/
def coarsest (i : Interval) (e : Int) : Nat → Decimal
  | 0 => ⟨i.value / i.denominator, 0⟩
  | tries + 1 =>
    match i.neighbour? e with
    | some d => d
    | none => coarsest i (e - 1) tries

end Interval

/-- Move zeros at the end of the digits into the exponent, at most `tries` of them. -/
def stripZeros (d : Decimal) : Nat → Decimal
  | 0 => d
  | tries + 1 =>
    if d.digits % 10 = 0 ∧ d.digits ≠ 0 then stripZeros ⟨d.digits / 10, d.exponent + 1⟩ tries else d

/-- The decimal with the fewest digits that rounds to the number's magnitude, and among those the
nearest one. -/
def shortest (x : Binary64) : Decimal :=
  if x.position.val = 0 then ⟨0, 0⟩
  else
    let i := x.interval
    stripZeros (i.coarsest (i.wholeDigits - 1) 18) 18

end Binary64

namespace Decimal

/-- The digits, most significant first. -/
def text (d : Decimal) : List Char := Nat.toDigits 10 d.digits

/-- The exponent of ten of the leading digit. -/
def leading (d : Decimal) : Int := d.exponent + d.text.length - 1

/-- Digits with a point, no exponent, and at least one digit on either side of the point. -/
def positional (d : Decimal) : List Char :=
  if 0 ≤ d.exponent then
    d.text ++ List.replicate d.exponent.toNat '0' ++ ['.', '0']
  else
    let places := (-d.exponent).toNat
    if places < d.text.length then
      d.text.take (d.text.length - places) ++ '.' :: d.text.drop (d.text.length - places)
    else
      '0' :: '.' :: (List.replicate (places - d.text.length) '0' ++ d.text)

/-- One digit before the point, and the exponent with its sign. -/
def scientific (d : Decimal) : List Char :=
  let mantissa :=
    match d.text with
    | [] => []
    | [c] => [c]
    | c :: rest => c :: '.' :: rest
  let sign := if d.leading < 0 then '-' else '+'
  mantissa ++ 'e' :: sign :: Nat.toDigits 10 d.leading.natAbs

end Decimal

end CanonicalReply

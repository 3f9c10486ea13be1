import CanonicalReply.Binary64

/-!
# How long a call took

The time before and after a call is read from one of two clocks. One only runs forward; the other
tells the time of day. The difference of two readings of one clock is given in milliseconds.
-/

namespace CanonicalReply

/-- A time of day: seconds since 1970 began, and nanoseconds. A leap second has no number of its
own: it is the last second of its minute with a billion nanoseconds or more. -/
structure WallTime where
  seconds : Int
  nanoseconds : Nat
  deriving DecidableEq

/-- A reading of a clock. -/
inductive Timestamp where
  /-- Nanoseconds of the clock that only runs forward. -/
  | monotonic (nanoseconds : Nat)
  | wall (time : WallTime)
  deriving DecidableEq

namespace Timestamp

/-- Nanoseconds in a second. -/
def billion : Nat := 1000000000

/-- Seconds in a day. -/
def daySeconds : Nat := 86400

end Timestamp

namespace WallTime

open Timestamp (billion daySeconds)

/-- The second of the day. -/
def secondOfDay (t : WallTime) : Int := t.seconds % daySeconds

/-- The nanoseconds from one time to another. When the clock passes a leap second on its way
within the day, the leap second counts. -/
def nanosecondsTo (start stop : WallTime) : Int :=
  let leap : Int :=
    if start.secondOfDay < stop.secondOfDay ∧ billion ≤ start.nanoseconds then 1
    else if stop.secondOfDay < start.secondOfDay ∧ billion ≤ stop.nanoseconds then -1
    else 0
  (stop.seconds - start.seconds + leap) * billion + (stop.nanoseconds - start.nanoseconds)

end WallTime

namespace Latency

open Timestamp (billion)

/-- A thousand, as a double. -/
def thousand : Binary64 := .ofInt 1000

/-- Milliseconds of so many nanoseconds: seconds and their fraction are rounded one by one, then
added, then scaled. -/
def ofNanoseconds (n : Nat) : Option Binary64 :=
  ((Binary64.ofInt (n % billion : Nat)).div? (.ofInt billion)).bind fun fraction =>
    ((Binary64.ofInt (n / billion : Nat)).addMagnitudes fraction).mul? thousand

/-- Milliseconds of so many nanoseconds by the time of day: whole microseconds, scaled. There is no
latency of more microseconds than 64 bits hold. -/
def ofWallNanoseconds (n : Int) : Option Binary64 :=
  let microseconds := n.tdiv 1000
  if Int64.minValue.toInt ≤ microseconds ∧ microseconds ≤ Int64.maxValue.toInt then
    (Binary64.ofInt microseconds).div? thousand
  else none

/-- The milliseconds between two readings, if there are two and of one clock. A clock that only
runs forward never gives a negative latency. -/
def between (start stop : Option Timestamp) : Option Binary64 :=
  match start, stop with
  | some (.monotonic a), some (.monotonic b) => ofNanoseconds (b - a)
  | some (.wall a), some (.wall b) => ofWallNanoseconds (a.nanosecondsTo b)
  | _, _ => none

end Latency

end CanonicalReply

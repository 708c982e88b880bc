import WorkHost.Calendar.Civil

/-!
Contract: points in time with nanoseconds.

A leap second is kept as a nanosecond part of a thousand million or more on the
second before it.
-/

namespace WorkHost.Calendar

structure Instant where
  /-- Whole seconds since the start of 1970. -/
  seconds : Int
  nanos : Nat
deriving DecidableEq, Repr, Inhabited

namespace Instant

def nanosPerSecond : Nat := 1000000000

def isLeapSecond (instant : Instant) : Bool :=
  nanosPerSecond ≤ instant.nanos

def ofCivil (time : Civil) : Instant := ⟨time.toSeconds, 0⟩

def civil (instant : Instant) : Civil := Civil.ofSeconds instant.seconds

/-- Order in time. -/
def le (left right : Instant) : Bool :=
  left.seconds < right.seconds
    || (left.seconds == right.seconds && left.nanos ≤ right.nanos)

def max (left right : Instant) : Instant :=
  if left.le right then right else left

def plusMilliseconds (instant : Instant) (milliseconds : Nat) : Instant :=
  let nanos := instant.nanos + milliseconds * 1000000
  ⟨instant.seconds + (nanos / nanosPerSecond : Nat), nanos % nanosPerSecond⟩

/-- The years whose days can be named. -/
def firstYear : Int := -262143

def lastYear : Int := 262142

def isRepresentable (instant : Instant) : Bool :=
  dayNumber firstYear 1 1 * 86400 ≤ instant.seconds
    && instant.seconds < dayNumber (lastYear + 1) 1 1 * 86400

end Instant

end WorkHost.Calendar

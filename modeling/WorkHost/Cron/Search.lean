import WorkHost.Cron.Schedule

/-!
Contract: the search for the next time at which a schedule fires.

The search goes through the scheduled years, months, days, hours, minutes and
seconds in ascending order. The fields of the instant at which it starts are lower
bounds for one reading each (`Bounds`): a unit read again, or reset because a
coarser unit has moved on, starts at its least value.
-/

namespace WorkHost.Cron

open WorkHost.Calendar

/-- The lower bounds that have not been read yet. -/
structure Bounds where
  month : Option Nat
  day : Option Nat
  hour : Option Nat
  minute : Option Nat
  second : Option Nat
deriving DecidableEq, Repr

namespace Bounds

def ofCivil (time : Civil) : Bounds :=
  ⟨some time.month, some time.day, some time.hour, some time.minute, some time.second⟩

def resetSecond (bounds : Bounds) : Bounds := { bounds with second := none }
def resetMinute (bounds : Bounds) : Bounds := { bounds.resetSecond with minute := none }
def resetHour (bounds : Bounds) : Bounds := { bounds.resetMinute with hour := none }
def resetDay (bounds : Bounds) : Bounds := { bounds.resetHour with day := none }
def resetMonth (bounds : Bounds) : Bounds := { bounds.resetDay with month := none }

end Bounds

namespace Schedule

/-- The seconds that may still fire in a minute. -/
def secondsFrom (schedule : Schedule) (bounds : Bounds) : Option Nat × Bounds :=
  let start := bounds.second.getD 0
  (schedule.seconds.find? (start ≤ ·), bounds.resetSecond)

def findMinute (schedule : Schedule) : List Nat → Bounds → Option (Nat × Nat) × Bounds
  | [], bounds => (none, bounds)
  | minute :: rest, bounds =>
    match schedule.secondsFrom bounds with
    | (some second, bounds) => (some (minute, second), bounds)
    | (none, bounds) => findMinute schedule rest bounds.resetMinute

/-- The first minute and second that may still fire in an hour. -/
def minutesFrom (schedule : Schedule) (bounds : Bounds) : Option (Nat × Nat) × Bounds :=
  let start := bounds.minute.getD 0
  let bounds := { bounds with minute := none }
  let bounds := if schedule.minutes.contains start then bounds else bounds.resetMinute
  findMinute schedule (schedule.minutes.filter (start ≤ ·)) bounds

def findHour (schedule : Schedule) : List Nat → Bounds → Option (Nat × Nat × Nat) × Bounds
  | [], bounds => (none, bounds)
  | hour :: rest, bounds =>
    match schedule.minutesFrom bounds with
    | (some time, bounds) => (some (hour, time), bounds)
    | (none, bounds) => findHour schedule rest bounds.resetHour

/-- The first time of day that may still fire in a day. -/
def hoursFrom (schedule : Schedule) (bounds : Bounds) : Option (Nat × Nat × Nat) × Bounds :=
  let start := bounds.hour.getD 0
  let bounds := { bounds with hour := none }
  let bounds := if schedule.hours.contains start then bounds else bounds.resetHour
  findHour schedule (schedule.hours.filter (start ≤ ·)) bounds

/-- A day of the wrong weekday is left at once. -/
def findDay (schedule : Schedule) (year month : Nat) :
    List Nat → Bounds → Option (Nat × Nat × Nat × Nat) × Bounds
  | [], bounds => (none, bounds)
  | day :: rest, bounds =>
    match schedule.hoursFrom bounds with
    | (some time, bounds) =>
      if schedule.daysOfWeek.contains (weekday year month day) then (some (day, time), bounds)
      else findDay schedule year month rest bounds
    | (none, bounds) => findDay schedule year month rest bounds.resetDay

def daysFrom (schedule : Schedule) (year month : Nat) (bounds : Bounds) :
    Option (Nat × Nat × Nat × Nat) × Bounds :=
  let start := bounds.day.getD 1
  let bounds := { bounds with day := none }
  let bounds := if schedule.daysOfMonth.contains start then bounds else bounds.resetDay
  let last := daysInMonth year month
  let days := schedule.daysOfMonth.filter fun day => min start last ≤ day && day ≤ last
  findDay schedule year month days bounds

def findMonth (schedule : Schedule) (year : Nat) :
    List Nat → Bounds → Option (Nat × Nat × Nat × Nat × Nat) × Bounds
  | [], bounds => (none, bounds)
  | month :: rest, bounds =>
    match schedule.daysFrom year month bounds with
    | (some found, bounds) => (some (month, found), bounds)
    | (none, bounds) => findMonth schedule year rest bounds.resetMonth

def monthsFrom (schedule : Schedule) (year : Nat) (bounds : Bounds) :
    Option (Nat × Nat × Nat × Nat × Nat) × Bounds :=
  let start := bounds.month.getD 1
  let bounds := { bounds with month := none }
  let bounds := if schedule.months.contains start then bounds else bounds.resetMonth
  findMonth schedule year (schedule.months.filter (start ≤ ·)) bounds

def findYear (schedule : Schedule) : List Nat → Bounds → Option Civil
  | [], _ => none
  | year :: rest, bounds =>
    match schedule.monthsFrom year bounds with
    | (some (month, day, hour, minute, second), _) =>
      some { year, month, day, hour, minute, second }
    | (none, bounds) => findYear schedule rest bounds

/-- The search from the second `start` on. -/
def nextFrom (schedule : Schedule) (start : Civil) : Option Civil :=
  if start.year < 0 then none
  else findYear schedule (schedule.years.filter (start.year.toNat ≤ ·)) (.ofCivil start)

/-- The next fire time after an instant, whose fraction of a second is ignored. -/
def nextAfter (schedule : Schedule) (after : Instant) : Option Instant :=
  (schedule.nextFrom (Civil.ofSeconds (after.seconds + 1))).map Instant.ofCivil

/-- Up to `count` fire times, each searched from the one before. -/
def firesAfter (schedule : Schedule) (after : Instant) : Nat → List Instant
  | 0 => []
  | count + 1 =>
    match schedule.nextAfter after with
    | some fire => fire :: firesAfter schedule fire count
    | none => []

end Schedule

end WorkHost.Cron

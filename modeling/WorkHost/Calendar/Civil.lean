/-!
Contract: civil dates and times of the proleptic Gregorian calendar in UTC.

Instants are counted in seconds from the start of 1970. `Civil.toSeconds` and
`Civil.ofSeconds` convert between the count and the fields of date and time. Years
are reckoned from March, so that the leap day is the last day of its year.
-/

namespace WorkHost.Calendar

/-- A date and a time of day, to the second. -/
structure Civil where
  year : Int
  month : Nat
  day : Nat
  hour : Nat
  minute : Nat
  second : Nat
deriving DecidableEq, Repr, Inhabited

def isLeapYear (year : Int) : Bool :=
  year % 4 == 0 && (year % 100 != 0 || year % 400 == 0)

def daysInMonth (year : Int) (month : Nat) : Nat :=
  if month = 2 then (if isLeapYear year then 29 else 28)
  else if month = 4 ∨ month = 6 ∨ month = 9 ∨ month = 11 then 30
  else 31

/-- Days from the start of 1970 to a date; negative before it. -/
def dayNumber (year : Int) (month day : Nat) : Int :=
  let shifted : Int := if month ≤ 2 then year - 1 else year
  let yearOfEra := shifted % 400
  let dayOfYear : Int := ((153 * ((month + 9) % 12) + 2) / 5 + day : Nat) - 1
  shifted / 400 * 146097 + (yearOfEra * 365 + yearOfEra / 4 - yearOfEra / 100 + dayOfYear)
    - 719468

/-- The date that lies `days` days after the start of 1970. -/
def dateOfDay (days : Int) : Int × Nat × Nat :=
  let sinceEpoch := days + 719468
  let era := sinceEpoch / 146097
  let dayOfEra := sinceEpoch % 146097
  let yearOfEra :=
    (dayOfEra - dayOfEra / 1460 + dayOfEra / 36524 - dayOfEra / 146096) / 365
  let dayOfYear := (dayOfEra - (365 * yearOfEra + yearOfEra / 4 - yearOfEra / 100)).toNat
  let monthFromMarch := (5 * dayOfYear + 2) / 153
  let day := dayOfYear - (153 * monthFromMarch + 2) / 5 + 1
  let month := if monthFromMarch < 10 then monthFromMarch + 3 else monthFromMarch - 9
  let year := yearOfEra + era * 400 + (if month ≤ 2 then 1 else 0)
  (year, month, day)

/-- The day of the week, from 1 for Sunday to 7 for Saturday. -/
def weekday (year : Int) (month day : Nat) : Nat :=
  ((dayNumber year month day + 4) % 7).toNat + 1

def Civil.toSeconds (time : Civil) : Int :=
  dayNumber time.year time.month time.day * 86400
    + (time.hour * 3600 + time.minute * 60 + time.second : Nat)

def Civil.ofSeconds (seconds : Int) : Civil :=
  let (year, month, day) := dateOfDay (seconds / 86400)
  let secondOfDay := (seconds % 86400).toNat
  { year, month, day
    hour := secondOfDay / 3600
    minute := secondOfDay % 3600 / 60
    second := secondOfDay % 60 }

/-- The fields name a day that exists and a time of day. -/
def Civil.IsValid (time : Civil) : Prop :=
  1 ≤ time.month ∧ time.month ≤ 12 ∧ 1 ≤ time.day
    ∧ time.day ≤ daysInMonth time.year time.month
    ∧ time.hour ≤ 23 ∧ time.minute ≤ 59 ∧ time.second ≤ 59

instance (time : Civil) : Decidable time.IsValid := by
  unfold Civil.IsValid
  infer_instance

end WorkHost.Calendar

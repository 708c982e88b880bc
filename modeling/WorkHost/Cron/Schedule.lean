import WorkHost.Calendar.Instant
import WorkHost.Cron.Expression

/-!
Contract: schedules, and what an expression denotes.

A schedule is a set of values for each of seven units of time. An instant matches
it when each of its units lies in the set of that unit (`Schedule.Matches`); a day
has to match both as a day of the month and as a day of the week.
-/

namespace WorkHost.Cron

open WorkHost.Calendar

/-- A unit of time: its range of values and the names some of them have. -/
structure TimeUnit where
  first : Nat
  last : Nat
  value? : String → Option Nat

def unnamed (_ : String) : Option Nat := none

/-- The value of a name, whatever its case. -/
def lookUp (names : List (String × Nat)) (name : String) : Option Nat :=
  let lowered := String.ofList (Text.lowerAscii name.toList)
  (names.find? (fun entry => entry.1 = lowered)).map Prod.snd

def monthNames : List (String × Nat) :=
  [("jan", 1), ("january", 1), ("feb", 2), ("february", 2), ("mar", 3), ("march", 3),
    ("apr", 4), ("april", 4), ("may", 5), ("jun", 6), ("june", 6), ("jul", 7), ("july", 7),
    ("aug", 8), ("august", 8), ("sep", 9), ("september", 9), ("oct", 10), ("october", 10),
    ("nov", 11), ("november", 11), ("dec", 12), ("december", 12)]

def weekdayNames : List (String × Nat) :=
  [("sun", 1), ("sunday", 1), ("mon", 2), ("monday", 2), ("tue", 3), ("tues", 3),
    ("tuesday", 3), ("wed", 4), ("wednesday", 4), ("thu", 5), ("thurs", 5), ("thursday", 5),
    ("fri", 6), ("friday", 6), ("sat", 7), ("saturday", 7)]

namespace TimeUnit

def second : TimeUnit := ⟨0, 59, unnamed⟩
def minute : TimeUnit := ⟨0, 59, unnamed⟩
def hour : TimeUnit := ⟨0, 23, unnamed⟩
def dayOfMonth : TimeUnit := ⟨1, 31, unnamed⟩
def month : TimeUnit := ⟨1, 12, lookUp monthNames⟩
def dayOfWeek : TimeUnit := ⟨1, 7, lookUp weekdayNames⟩
def year : TimeUnit := ⟨1970, 2100, unnamed⟩

def contains (unit : TimeUnit) (value : Nat) : Bool :=
  unit.first ≤ value && value ≤ unit.last

/-- The values from `first` to `last`. -/
def interval (first last : Nat) : List Nat :=
  List.range' first (last + 1 - first)

/-- All values of the unit in ascending order. -/
def values (unit : TimeUnit) : List Nat := interval unit.first unit.last

/-- A range needs both ends within the unit and in order. -/
def range? (unit : TimeUnit) (first last : Nat) : Option (List Nat) :=
  if unit.contains first ∧ unit.contains last ∧ first ≤ last then some (interval first last)
  else none

def specValues? (unit : TimeUnit) : Spec → Option (List Nat)
  | .all => some unit.values
  | .point value => if unit.contains value then some [value] else none
  | .range first last => unit.range? first last
  | .namedRange first last => do
    unit.range? (← unit.value? first) (← unit.value? last)

/-- The set that steps run through: a single value stands for all from it on. -/
def steppedBase? (unit : TimeUnit) : Spec → Option (List Nat)
  | .point value => unit.range? value unit.last
  | spec => unit.specValues? spec

/-- Every `step`-th element, from the first one on; `skip` more are left out first. -/
def everyNth (step : Nat) : Nat → List Nat → List Nat
  | _, [] => []
  | 0, value :: rest => value :: everyNth step (step - 1) rest
  | skip + 1, _ :: rest => everyNth step skip rest

def itemValues? (unit : TimeUnit) : Item → Option (List Nat)
  | .spec spec => unit.specValues? spec
  | .stepped spec step =>
    if step = 0 then none else (unit.steppedBase? spec).map (everyNth step 0)
  | .named name => (unit.value? name).map ([·])

/-- The union of the items' sets, in ascending order. -/
def fieldValues? (unit : TimeUnit) (items : List Item) : Option (List Nat) :=
  (items.mapM unit.itemValues?).map fun sets =>
    unit.values.filter fun value => sets.any (·.contains value)

end TimeUnit

/-- For each unit the values at which the schedule fires, in ascending order. -/
structure Schedule where
  seconds : List Nat
  minutes : List Nat
  hours : List Nat
  daysOfMonth : List Nat
  months : List Nat
  daysOfWeek : List Nat
  years : List Nat
deriving DecidableEq, Repr

namespace Schedule

/-- A time of day that lies in the sets of hours, minutes and seconds. -/
def MatchesTime (schedule : Schedule) (time : Civil) : Prop :=
  time.hour ∈ schedule.hours ∧ time.minute ∈ schedule.minutes
    ∧ time.second ∈ schedule.seconds

/-- A date that lies in the sets of years, months, days and days of the week. -/
def MatchesDate (schedule : Schedule) (time : Civil) : Prop :=
  time.year.toNat ∈ schedule.years ∧ 0 ≤ time.year ∧ time.month ∈ schedule.months
    ∧ time.day ∈ schedule.daysOfMonth
    ∧ weekday time.year time.month time.day ∈ schedule.daysOfWeek

/-- The times at which the schedule fires. -/
def Matches (schedule : Schedule) (time : Civil) : Prop :=
  time.IsValid ∧ schedule.MatchesDate time ∧ schedule.MatchesTime time

instance (schedule : Schedule) (time : Civil) : Decidable (schedule.Matches time) := by
  unfold Matches MatchesDate MatchesTime
  infer_instance

/-- Fires once in each period that a keyword names. -/
def ofKeyword? : String → Option Schedule
  | "@yearly" => some ⟨[0], [0], [0], [1], [1], TimeUnit.dayOfWeek.values, TimeUnit.year.values⟩
  | "@monthly" => some ⟨[0], [0], [0], [1], TimeUnit.month.values, TimeUnit.dayOfWeek.values,
      TimeUnit.year.values⟩
  | "@weekly" => some ⟨[0], [0], [0], TimeUnit.dayOfMonth.values, TimeUnit.month.values, [1],
      TimeUnit.year.values⟩
  | "@daily" => some ⟨[0], [0], [0], TimeUnit.dayOfMonth.values, TimeUnit.month.values,
      TimeUnit.dayOfWeek.values, TimeUnit.year.values⟩
  | "@hourly" => some ⟨[0], [0], TimeUnit.hour.values, TimeUnit.dayOfMonth.values,
      TimeUnit.month.values, TimeUnit.dayOfWeek.values, TimeUnit.year.values⟩
  | _ => none

/-- Reads a field and takes the set it denotes in a unit. -/
def readUnit (unit : TimeUnit) (anyMark : Bool) (text : List Char) :
    Option (List Nat × List Char) := do
  let (items, rest) ← readField anyMark text
  let values ← unit.fieldValues? items
  return (values, rest)

/-- Six fields, and years if a valid field of years follows. -/
def readFields (text : List Char) : Option (Schedule × List Char) := do
  let (seconds, rest) ← readUnit .second false text
  let (minutes, rest) ← readUnit .minute false rest
  let (hours, rest) ← readUnit .hour false rest
  let (daysOfMonth, rest) ← readUnit .dayOfMonth true rest
  let (months, rest) ← readUnit .month false rest
  let (daysOfWeek, rest) ← readUnit .dayOfWeek true rest
  let (years, rest) := (readUnit .year false rest).getD (TimeUnit.year.values, rest)
  return ({ seconds, minutes, hours, daysOfMonth, months, daysOfWeek, years }, rest)

def parseFields? (text : List Char) : Option Schedule :=
  match readFields text with
  | some (schedule, []) => some schedule
  | _ => none

/-- A keyword between blanks. -/
def parseKeyword? (text : List Char) : Option Schedule :=
  let word := ((skipSpace (skipSpace text).reverse)).reverse
  ofKeyword? (String.ofList word)

def parse? (expression : String) : Option Schedule :=
  parseKeyword? expression.toList <|> parseFields? expression.toList

end Schedule

end WorkHost.Cron

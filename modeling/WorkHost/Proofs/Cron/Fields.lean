import Mathlib.Data.List.Pairwise
import WorkHost.Cron.Job

/-!
Contract: what an accepted expression denotes.

Every schedule that is read from an expression lists values of the units in ascending order
(`parse?_wellFormed`), and all years if the expression has no field for them
(`years_of_leavesOutYears`).
-/

namespace WorkHost.Cron

namespace TimeUnit

/-- Values of the unit, in ascending order. -/
structure Lists (unit : TimeUnit) (values : List Nat) : Prop where
  increasing : values.Pairwise (· < ·)
  inside : ∀ value ∈ values, unit.first ≤ value ∧ value ≤ unit.last

theorem mem_values (unit : TimeUnit) (value : Nat) :
    value ∈ unit.values ↔ unit.first ≤ value ∧ value ≤ unit.last := by
  rw [values, interval, List.mem_range'_1]
  omega

theorem values_lists (unit : TimeUnit) : unit.Lists unit.values where
  increasing := List.pairwise_lt_range' _
  inside value isValue := (unit.mem_values value).mp isValue

theorem singleton_lists {unit : TimeUnit} {value : Nat}
    (inside : unit.first ≤ value ∧ value ≤ unit.last) : unit.Lists [value] where
  increasing := List.pairwise_singleton _ _
  inside other isOther := by
    rw [List.mem_singleton.mp isOther]
    exact inside

theorem fieldValues?_lists {unit : TimeUnit} {items : List Item} {values : List Nat}
    (denotes : unit.fieldValues? items = some values) : unit.Lists values := by
  obtain ⟨sets, -, rfl⟩ := Option.map_eq_some_iff.mp denotes
  refine ⟨unit.values_lists.increasing.filter _, ?_⟩
  intro value isValue
  exact unit.values_lists.inside value (List.mem_filter.mp isValue).1

end TimeUnit

namespace Schedule

/-- Each field lists values of its unit, in ascending order. -/
structure WellFormed (schedule : Schedule) : Prop where
  seconds : TimeUnit.second.Lists schedule.seconds
  minutes : TimeUnit.minute.Lists schedule.minutes
  hours : TimeUnit.hour.Lists schedule.hours
  daysOfMonth : TimeUnit.dayOfMonth.Lists schedule.daysOfMonth
  months : TimeUnit.month.Lists schedule.months
  daysOfWeek : TimeUnit.dayOfWeek.Lists schedule.daysOfWeek
  years : TimeUnit.year.Lists schedule.years

theorem readUnit_lists {unit : TimeUnit} {anyMark : Bool} {text rest : List Char}
    {values : List Nat} (reads : readUnit unit anyMark text = some (values, rest)) :
    unit.Lists values := by
  obtain ⟨⟨items, left⟩, -, denotes⟩ := Option.bind_eq_some_iff.mp reads
  obtain ⟨found, isField, same⟩ := Option.bind_eq_some_iff.mp denotes
  cases same
  exact TimeUnit.fieldValues?_lists isField

theorem readUnit_nil (unit : TimeUnit) (anyMark : Bool) : readUnit unit anyMark [] = none := by
  cases anyMark <;> rfl

/-- The six fields before the years. -/
def readSix (text : List Char) : Option ((List Nat → Schedule) × List Char) := do
  let (seconds, rest) ← readUnit .second false text
  let (minutes, rest) ← readUnit .minute false rest
  let (hours, rest) ← readUnit .hour false rest
  let (daysOfMonth, rest) ← readUnit .dayOfMonth true rest
  let (months, rest) ← readUnit .month false rest
  let (daysOfWeek, rest) ← readUnit .dayOfWeek true rest
  return (fun years => { seconds, minutes, hours, daysOfMonth, months, daysOfWeek, years }, rest)

theorem readFields_eq (text : List Char) :
    readFields text = (readSix text).map fun (schedule, rest) =>
      let (years, rest) := (readUnit .year false rest).getD (TimeUnit.year.values, rest)
      (schedule years, rest) := by
  simp only [readFields, readSix, Option.bind_eq_bind, Option.map_bind, Function.comp_def,
    Option.pure_def, Option.map_some]

/-- The expression has no field for years: it is a keyword, or six fields are all of it. -/
def leavesOutYears (expression : String) : Bool :=
  (parseKeyword? expression.toList).isSome ||
    match readSix expression.toList with
    | some (_, []) => true
    | _ => false

theorem readSix_wellFormed {text rest : List Char} {schedule : List Nat → Schedule}
    (reads : readSix text = some (schedule, rest)) {years : List Nat}
    (lists : TimeUnit.year.Lists years) :
    (schedule years).WellFormed ∧ (schedule years).years = years := by
  simp only [readSix, Option.bind_eq_bind, Option.bind_eq_some_iff] at reads
  obtain ⟨⟨seconds, _⟩, readSeconds, ⟨minutes, _⟩, readMinutes, ⟨hours, _⟩, readHours,
    ⟨daysOfMonth, _⟩, readDaysOfMonth, ⟨months, _⟩, readMonths, ⟨daysOfWeek, _⟩,
    readDaysOfWeek, same⟩ := reads
  cases same
  exact ⟨⟨readUnit_lists readSeconds, readUnit_lists readMinutes, readUnit_lists readHours,
    readUnit_lists readDaysOfMonth, readUnit_lists readMonths, readUnit_lists readDaysOfWeek,
    lists⟩, rfl⟩

theorem ofKeyword?_wellFormed {word : String} {schedule : Schedule}
    (isKeyword : ofKeyword? word = some schedule) :
    schedule.WellFormed ∧ schedule.years = TimeUnit.year.values := by
  have second : TimeUnit.second.Lists [0] := TimeUnit.singleton_lists (by decide)
  have minute : TimeUnit.minute.Lists [0] := TimeUnit.singleton_lists (by decide)
  have hour : TimeUnit.hour.Lists [0] := TimeUnit.singleton_lists (by decide)
  have day : TimeUnit.dayOfMonth.Lists [1] := TimeUnit.singleton_lists (by decide)
  have month : TimeUnit.month.Lists [1] := TimeUnit.singleton_lists (by decide)
  have sunday : TimeUnit.dayOfWeek.Lists [1] := TimeUnit.singleton_lists (by decide)
  have all := TimeUnit.values_lists
  unfold ofKeyword? at isKeyword
  split at isKeyword <;> cases isKeyword
  · exact ⟨⟨second, minute, hour, day, month, all _, all _⟩, rfl⟩
  · exact ⟨⟨second, minute, hour, day, all _, all _, all _⟩, rfl⟩
  · exact ⟨⟨second, minute, hour, all _, all _, sunday, all _⟩, rfl⟩
  · exact ⟨⟨second, minute, hour, all _, all _, all _, all _⟩, rfl⟩
  · exact ⟨⟨second, minute, all _, all _, all _, all _, all _⟩, rfl⟩

theorem readFields_wellFormed {text rest : List Char} {schedule : Schedule}
    (reads : readFields text = some (schedule, rest)) : schedule.WellFormed := by
  rw [readFields_eq] at reads
  obtain ⟨⟨six, left⟩, readsSix, same⟩ := Option.map_eq_some_iff.mp reads
  cases readsYears : readUnit .year false left with
  | none =>
    simp only [readsYears, Option.getD_none] at same
    cases same
    exact (readSix_wellFormed readsSix (TimeUnit.values_lists _)).1
  | some found =>
    simp only [readsYears, Option.getD_some] at same
    cases same
    exact (readSix_wellFormed readsSix (readUnit_lists readsYears)).1

theorem parseFields?_eq_some {text : List Char} {schedule : Schedule}
    (parses : parseFields? text = some schedule) : readFields text = some (schedule, []) := by
  unfold parseFields? at parses
  split at parses
  · rename_i reads
    cases parses
    exact reads
  · cases parses

theorem parse?_eq_some {expression : String} {schedule : Schedule}
    (parses : parse? expression = some schedule) :
    parseKeyword? expression.toList = some schedule ∨
      parseKeyword? expression.toList = none ∧
        readFields expression.toList = some (schedule, []) := by
  unfold parse? at parses
  cases keyword : parseKeyword? expression.toList with
  | some other =>
    rw [keyword] at parses
    exact .inl parses
  | none =>
    rw [keyword] at parses
    exact .inr ⟨rfl, parseFields?_eq_some parses⟩

theorem parse?_wellFormed {expression : String} {schedule : Schedule}
    (parses : parse? expression = some schedule) : schedule.WellFormed := by
  rcases parse?_eq_some parses with keyword | ⟨-, reads⟩
  · exact (ofKeyword?_wellFormed keyword).1
  · exact readFields_wellFormed reads

/-- Without a field for the years a schedule lists all of them. -/
theorem years_of_leavesOutYears {expression : String} {schedule : Schedule}
    (parses : parse? expression = some schedule) (leavesOut : leavesOutYears expression = true) :
    schedule.years = TimeUnit.year.values := by
  rcases parse?_eq_some parses with keyword | ⟨noKeyword, reads⟩
  · exact (ofKeyword?_wellFormed keyword).2
  · rw [readFields_eq] at reads
    simp only [leavesOutYears, noKeyword, Option.isSome_none, Bool.false_or] at leavesOut
    split at leavesOut
    · rename_i six readsSix
      simp only [readsSix, Option.map_some, readUnit_nil, Option.getD_none] at reads
      cases reads
      exact (readSix_wellFormed readsSix (TimeUnit.values_lists _)).2
    · cases leavesOut

end Schedule

theorem Job.schedule_of_parse {name expression : String} {job : Job}
    (accepted : Job.parse name expression = .ok job) :
    Schedule.parse? expression = some job.schedule := by
  unfold Job.parse at accepted
  split at accepted
  · rename_i schedule parses
    cases accepted
    exact parses
  · cases accepted

end WorkHost.Cron

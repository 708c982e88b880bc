import Mathlib.Tactic.IntervalCases
import WorkHost.Calendar.Instant

/-!
Contract: dates, days and seconds.

Months and years follow each other without a gap, so that a later date has a higher day
number (`dayNumber_lt_of_month_lt`, `dayNumber_lt_of_year_lt`). Every day has a date and every
date is that of its day (`isDate_dateOfDay`), and in the same way valid civil times stand for
seconds (`Civil.toSeconds_ofSeconds`, `Civil.ofSeconds_toSeconds`).
-/

namespace WorkHost.Calendar

theorem isLeapYear_iff (year : Int) :
    isLeapYear year = true ↔ year % 4 = 0 ∧ (year % 100 ≠ 0 ∨ year % 400 = 0) := by
  simp [isLeapYear]

theorem daysInMonth_bounds (year : Int) (month : Nat) :
    28 ≤ daysInMonth year month ∧ daysInMonth year month ≤ 31 := by
  unfold daysInMonth
  split
  · split <;> omega
  · split <;> omega

/-- The day exists. -/
structure IsDate (year : Int) (month day : Nat) : Prop where
  month_pos : 1 ≤ month
  month_le : month ≤ 12
  day_pos : 1 ≤ day
  day_le : day ≤ daysInMonth year month

/-! ## Months and years in a row -/

theorem dayNumber_eq_add (year : Int) (month day : Nat) :
    dayNumber year month day = dayNumber year month 1 + day - 1 := by
  simp only [dayNumber]
  omega

/-- The leap day stands between February and March. -/
theorem dayNumber_march (year : Int) :
    dayNumber year 3 1 = dayNumber year 2 1 + daysInMonth year 2 := by
  by_cases leap : isLeapYear year = true
  · simp only [dayNumber, daysInMonth, leap, if_true]
    rw [isLeapYear_iff] at leap
    norm_num
    omega
  · simp only [dayNumber, daysInMonth, leap, if_true]
    rw [isLeapYear_iff] at leap
    norm_num
    omega

theorem dayNumber_succ_month (year : Int) {month : Nat} (positive : 1 ≤ month)
    (below : month < 12) :
    dayNumber year (month + 1) 1 = dayNumber year month 1 + daysInMonth year month := by
  by_cases february : month = 2
  · subst february
    exact dayNumber_march year
  · have others : month ∈ [1, 3, 4, 5, 6, 7, 8, 9, 10, 11] := by
      simp only [List.mem_cons, List.not_mem_nil]
      omega
    simp only [List.mem_cons, List.not_mem_nil, or_false] at others
    rcases others with rfl | rfl | rfl | rfl | rfl | rfl | rfl | rfl | rfl | rfl <;>
      norm_num [dayNumber, daysInMonth] <;> omega

theorem dayNumber_succ_year (year : Int) :
    dayNumber (year + 1) 1 1 = dayNumber year 12 1 + 31 := by
  norm_num [dayNumber]
  omega

/-- Every later month starts after the last day of a month. -/
theorem dayNumber_month_le (year : Int) {month month' : Nat} (positive : 1 ≤ month)
    (earlier : month < month') (below : month' ≤ 12) :
    dayNumber year month 1 + daysInMonth year month ≤ dayNumber year month' 1 := by
  induction month', earlier using Nat.le_induction with
  | base => exact (dayNumber_succ_month year positive below).ge
  | succ later isLater inductionHypothesis =>
    have before := inductionHypothesis (by omega)
    have next := dayNumber_succ_month year (by omega : 1 ≤ later) below
    omega

/-- Every later year starts after the last day of a year. -/
theorem dayNumber_year_le {year year' : Int} (earlier : year < year') :
    dayNumber year 12 1 + 31 ≤ dayNumber year' 1 1 := by
  obtain ⟨gap, rfl⟩ : ∃ gap : Nat, year' = year + 1 + gap :=
    ⟨(year' - year - 1).toNat, by omega⟩
  clear earlier
  induction gap with
  | zero => exact (dayNumber_succ_year year).symm.le.trans_eq (by simp)
  | succ gap inductionHypothesis =>
    have within := dayNumber_month_le (year + 1 + gap) (by decide : 1 ≤ 1)
      (by decide : 1 < 12) (Nat.le_refl 12)
    have next := dayNumber_succ_year (year + 1 + gap)
    have regroup : year + 1 + ((gap + 1 : Nat) : Int) = year + 1 + gap + 1 := by omega
    rw [regroup]
    omega

theorem IsDate.dayNumber_bounds {year : Int} {month day : Nat} (date : IsDate year month day) :
    dayNumber year 1 1 ≤ dayNumber year month day ∧
      dayNumber year month day ≤ dayNumber year 12 1 + 30 := by
  obtain ⟨positive, below, inside, last⟩ := date
  rw [dayNumber_eq_add year month day]
  constructor
  · rcases Nat.lt_or_eq_of_le positive with later | rfl
    · have first := dayNumber_month_le year (Nat.le_refl 1) later below
      omega
    · omega
  · rcases Nat.lt_or_eq_of_le below with earlier | rfl
    · have final := dayNumber_month_le year positive earlier (Nat.le_refl 12)
      omega
    · have december : daysInMonth year 12 = 31 := rfl
      omega

section Order

variable {year year' : Int} {month month' day day' : Nat}

theorem dayNumber_lt_of_year_lt (date : IsDate year month day)
    (date' : IsDate year' month' day') (earlier : year < year') :
    dayNumber year month day < dayNumber year' month' day' := by
  have last := date.dayNumber_bounds.2
  have first := date'.dayNumber_bounds.1
  have between := dayNumber_year_le earlier
  omega

theorem dayNumber_lt_of_month_lt (date : IsDate year month day)
    (date' : IsDate year month' day') (earlier : month < month') :
    dayNumber year month day < dayNumber year month' day' := by
  have between := dayNumber_month_le year date.month_pos earlier date'.month_le
  have last := date.day_le
  have first := date'.day_pos
  rw [dayNumber_eq_add year month day, dayNumber_eq_add year month' day']
  omega

theorem dayNumber_lt_of_day_lt (year : Int) (month : Nat) (earlier : day < day') :
    dayNumber year month day < dayNumber year month day' := by
  rw [dayNumber_eq_add year month day, dayNumber_eq_add year month day']
  omega

/-- A day has one date. -/
theorem IsDate.eq_of_dayNumber_eq (date : IsDate year month day)
    (date' : IsDate year' month' day')
    (same : dayNumber year month day = dayNumber year' month' day') :
    year = year' ∧ month = month' ∧ day = day' := by
  rcases lt_trichotomy year year' with earlier | rfl | later
  · exact absurd same (dayNumber_lt_of_year_lt date date' earlier).ne
  · rcases lt_trichotomy month month' with earlier | rfl | later
    · exact absurd same (dayNumber_lt_of_month_lt date date' earlier).ne
    · rw [dayNumber_eq_add year month day, dayNumber_eq_add year month day'] at same
      refine ⟨rfl, rfl, ?_⟩
      omega
    · exact absurd same (dayNumber_lt_of_month_lt date' date later).ne'
  · exact absurd same (dayNumber_lt_of_year_lt date' date later).ne'

end Order

/-! ## The date of a day -/

/-- The year, reckoned from March, in which a day of an era of four hundred years lies. -/
def yearOfEra (dayOfEra : Int) : Int :=
  (dayOfEra - dayOfEra / 1460 + dayOfEra / 36524 - dayOfEra / 146096) / 365

section Era

variable {dayOfEra : Int}

theorem yearOfEra_bounds (nonneg : 0 ≤ dayOfEra) (below : dayOfEra < 146097) :
    0 ≤ yearOfEra dayOfEra ∧ yearOfEra dayOfEra < 400 := by
  unfold yearOfEra
  omega

/-- The last day of the era counts to its fourth century. -/
theorem yearOfEra_century (nonneg : 0 ≤ dayOfEra) (below : dayOfEra < 146097) :
    yearOfEra dayOfEra / 100 = dayOfEra / 36524 - dayOfEra / 146096 := by
  have centuries : dayOfEra / 36524 = 0 ∨ dayOfEra / 36524 = 1 ∨ dayOfEra / 36524 = 2 ∨
      dayOfEra / 36524 = 3 ∨ dayOfEra / 36524 = 4 := by omega
  unfold yearOfEra
  rcases centuries with century | century | century | century | century <;> omega

/-- So many leap days are gone, or one more on the last days of a leap year. -/
theorem yearOfEra_quarter (nonneg : 0 ≤ dayOfEra) (below : dayOfEra < 146097) :
    dayOfEra / 1460 = yearOfEra dayOfEra / 4 ∨
      dayOfEra / 1460 = yearOfEra dayOfEra / 4 + 1 ∧ yearOfEra dayOfEra % 4 = 3 := by
  have century := yearOfEra_century nonneg below
  unfold yearOfEra at century ⊢
  omega

/-- The day of the year, reckoned from March. -/
def dayOfYear (dayOfEra : Int) : Int :=
  dayOfEra - (365 * yearOfEra dayOfEra + yearOfEra dayOfEra / 4 - yearOfEra dayOfEra / 100)

/-- The last day of the longest years is a leap day. -/
theorem dayOfYear_bounds (nonneg : 0 ≤ dayOfEra) (below : dayOfEra < 146097) :
    0 ≤ dayOfYear dayOfEra ∧ dayOfYear dayOfEra ≤ 365 ∧
      (dayOfYear dayOfEra = 365 → yearOfEra dayOfEra % 4 = 3 ∧
        (yearOfEra dayOfEra % 100 ≠ 99 ∨ yearOfEra dayOfEra = 399)) := by
  have century := yearOfEra_century nonneg below
  have quarter := yearOfEra_quarter nonneg below
  have whole : 365 * yearOfEra dayOfEra ≤
      dayOfEra - dayOfEra / 1460 + dayOfEra / 36524 - dayOfEra / 146096 ∧
        dayOfEra - dayOfEra / 1460 + dayOfEra / 36524 - dayOfEra / 146096 <
          365 * yearOfEra dayOfEra + 365 := by
    unfold yearOfEra
    omega
  unfold dayOfYear
  omega

end Era

/-- The month and the year of a month counted from March. -/
def monthOf (fromMarch : Nat) : Nat := if fromMarch < 10 then fromMarch + 3 else fromMarch - 9

def yearOf (era year : Int) (fromMarch : Nat) : Int :=
  year + era * 400 + if monthOf fromMarch ≤ 2 then 1 else 0

section FromMarch

variable {era year : Int} {fromMarch day : Nat}

theorem dayNumber_fromMarch (nonneg : 0 ≤ year) (below : year < 400) (inside : fromMarch ≤ 11) :
    dayNumber (yearOf era year fromMarch) (monthOf fromMarch) day =
      era * 146097 + (year * 365 + year / 4 - year / 100 +
        (((153 * fromMarch + 2) / 5 + day : Nat) : Int) - 1) - 719468 := by
  have cyclic : (monthOf fromMarch + 9) % 12 = fromMarch := by
    unfold monthOf
    split <;> omega
  have shifted : (if monthOf fromMarch ≤ 2 then yearOf era year fromMarch - 1
      else yearOf era year fromMarch) = year + era * 400 := by
    unfold yearOf
    split <;> omega
  simp only [dayNumber, cyclic, shifted]
  omega

/-- The months from March on have 31, 30, 31, 30 and 31 days, and so on from August and from
January on; only the last one, February, has fewer. -/
theorem le_daysInMonth_fromMarch (inside : fromMarch ≤ 11)
    (after : (153 * fromMarch + 2) / 5 ≤ day) (before : 5 * day + 2 < 153 * (fromMarch + 1))
    (year : Int)
    (last : day ≤ 365 ∧ (day = 365 → isLeapYear year = true)) :
    day - (153 * fromMarch + 2) / 5 + 1 ≤ daysInMonth year (monthOf fromMarch) := by
  unfold daysInMonth monthOf
  interval_cases fromMarch
  all_goals norm_num at after before ⊢
  all_goals try omega
  split <;> rename_i leap
  · omega
  · have notLast : day ≠ 365 := fun isLast => leap (last.2 isLast)
    omega

end FromMarch

/-- Each day has a date. -/
theorem isDate_dateOfDay (days : Int) :
    let date := dateOfDay days
    IsDate date.1 date.2.1 date.2.2 ∧ dayNumber date.1 date.2.1 date.2.2 = days := by
  obtain ⟨era, isEra⟩ : ∃ era, era = (days + 719468) / 146097 := ⟨_, rfl⟩
  obtain ⟨dayOfEra, isDay⟩ : ∃ day, day = (days + 719468) % 146097 := ⟨_, rfl⟩
  obtain ⟨year, isYear⟩ : ∃ year, year = yearOfEra dayOfEra := ⟨_, rfl⟩
  obtain ⟨day, isDayOfYear⟩ : ∃ day, day = (dayOfYear dayOfEra).toNat := ⟨_, rfl⟩
  obtain ⟨fromMarch, isMonth⟩ : ∃ month, month = (5 * day + 2) / 153 := ⟨_, rfl⟩
  have date : dateOfDay days =
      (yearOf era year fromMarch, monthOf fromMarch, day - (153 * fromMarch + 2) / 5 + 1) := by
    subst isMonth isDayOfYear isYear isEra isDay
    rfl
  have nonneg : 0 ≤ dayOfEra := by omega
  have below : dayOfEra < 146097 := by omega
  obtain ⟨first, last, leaps⟩ := dayOfYear_bounds nonneg below
  obtain ⟨yearNonneg, yearBelow⟩ := yearOfEra_bounds nonneg below
  rw [← isYear] at leaps yearNonneg yearBelow
  have inside : fromMarch ≤ 11 := by omega
  have after : (153 * fromMarch + 2) / 5 ≤ day := by omega
  have leapDay : day = 365 → isLeapYear (yearOf era year fromMarch) = true := by
    intro isLast
    obtain ⟨fourth, notCentury⟩ := leaps (by omega)
    have february : monthOf fromMarch ≤ 2 := by
      unfold monthOf
      split <;> omega
    rw [isLeapYear_iff, yearOf, if_pos february]
    omega
  have bounds : 1 ≤ monthOf fromMarch ∧ monthOf fromMarch ≤ 12 := by
    unfold monthOf
    split <;> omega
  rw [date]
  refine ⟨⟨bounds.1, bounds.2, Nat.le_add_left 1 _, ?_⟩, ?_⟩
  · exact le_daysInMonth_fromMarch inside after (by omega) _ ⟨by omega, leapDay⟩
  · have ofYear : dayOfYear dayOfEra = dayOfEra - (365 * year + year / 4 - year / 100) := by
      rw [isYear, dayOfYear]
    have whole : (153 * fromMarch + 2) / 5 + (day - (153 * fromMarch + 2) / 5 + 1) = day + 1 := by
      omega
    have counted : (day : Int) = dayOfYear dayOfEra := by omega
    have total : days + 719468 = era * 146097 + dayOfEra := by omega
    show dayNumber (yearOf era year fromMarch) (monthOf fromMarch) _ = days
    rw [dayNumber_fromMarch yearNonneg yearBelow inside, whole]
    rw [Nat.cast_succ, counted, ofYear]
    omega

/-! ## Civil times -/

namespace Civil

theorem IsValid.isDate {time : Civil} (valid : time.IsValid) :
    IsDate time.year time.month time.day :=
  ⟨valid.1, valid.2.1, valid.2.2.1, valid.2.2.2.1⟩

theorem ofSeconds_isValid (seconds : Int) : (ofSeconds seconds).IsValid := by
  obtain ⟨monthPos, monthLe, dayPos, dayLe⟩ := (isDate_dateOfDay (seconds / 86400)).1
  refine ⟨monthPos, monthLe, dayPos, dayLe, ?_⟩
  simp only [ofSeconds]
  omega

theorem toSeconds_ofSeconds (seconds : Int) : (ofSeconds seconds).toSeconds = seconds := by
  have day := (isDate_dateOfDay (seconds / 86400)).2
  simp only [toSeconds, ofSeconds, day]
  omega

theorem toSeconds_injective {time other : Civil} (valid : time.IsValid)
    (otherValid : other.IsValid) (same : time.toSeconds = other.toSeconds) : time = other := by
  have clock := valid.2.2.2.2
  have otherClock := otherValid.2.2.2.2
  simp only [toSeconds] at same
  obtain ⟨years, months, days⟩ := valid.isDate.eq_of_dayNumber_eq otherValid.isDate (by omega)
  rw [years, months, days] at same
  have hours : time.hour = other.hour := by omega
  have minutes : time.minute = other.minute := by omega
  have seconds : time.second = other.second := by omega
  cases time
  cases other
  simp_all

theorem ofSeconds_toSeconds {time : Civil} (valid : time.IsValid) :
    ofSeconds time.toSeconds = time :=
  toSeconds_injective (ofSeconds_isValid _) valid (toSeconds_ofSeconds _)

/-- A later date comes later, whatever the time of day. -/
theorem toSeconds_lt_of_dayNumber_lt {time other : Civil} (valid : time.IsValid)
    (earlier : dayNumber time.year time.month time.day <
      dayNumber other.year other.month other.day) : time.toSeconds < other.toSeconds := by
  have clock := valid.2.2.2.2
  simp only [toSeconds]
  omega

theorem toSeconds_lt_of_year_lt {time other : Civil} (valid : time.IsValid)
    (otherValid : other.IsValid) (earlier : time.year < other.year) :
    time.toSeconds < other.toSeconds :=
  toSeconds_lt_of_dayNumber_lt valid
    (dayNumber_lt_of_year_lt valid.isDate otherValid.isDate earlier)

/-- The first second of a year. -/
def newYear (year : Int) : Civil := ⟨year, 1, 1, 0, 0, 0⟩

theorem newYear_isValid (year : Int) : (newYear year).IsValid := by
  have first := (daysInMonth_bounds year 1).1
  simp only [IsValid, newYear]
  omega

theorem newYear_le {time : Civil} (valid : time.IsValid) {year : Int}
    (reached : year ≤ time.year) : (newYear year).toSeconds ≤ time.toSeconds := by
  rcases reached.lt_or_eq with later | rfl
  · exact (toSeconds_lt_of_year_lt (newYear_isValid year) valid later).le
  · have first := valid.isDate.dayNumber_bounds.1
    simp only [toSeconds, newYear]
    omega

/-- A year is followed by the first second of the next one. -/
theorem ofSeconds_succ (seconds : Int) :
    (ofSeconds (seconds + 1)).year = (ofSeconds seconds).year ∨
      ofSeconds (seconds + 1) = newYear ((ofSeconds seconds).year + 1) := by
  have valid := ofSeconds_isValid seconds
  have nextValid := ofSeconds_isValid (seconds + 1)
  have now := toSeconds_ofSeconds seconds
  have next := toSeconds_ofSeconds (seconds + 1)
  have nextYear := newYear_isValid ((ofSeconds seconds).year + 1)
  have before := toSeconds_lt_of_year_lt valid nextYear (Int.lt_succ _)
  rcases lt_trichotomy (ofSeconds (seconds + 1)).year (ofSeconds seconds).year with
    earlier | same | later
  · have backwards := toSeconds_lt_of_year_lt nextValid valid earlier
    omega
  · exact .inl same
  · have reached := newYear_le nextValid (Int.add_one_le_of_lt later)
    exact .inr (toSeconds_injective nextValid nextYear (by omega))

end Civil

/-! ## Points in time -/

namespace Instant

/-- Strictly earlier in time. -/
def IsBefore (first second : Instant) : Prop := second.le first = false

theorem isBefore_iff {first second : Instant} :
    first.IsBefore second ↔ first.seconds < second.seconds ∨
      first.seconds = second.seconds ∧ first.nanos < second.nanos := by
  simp only [IsBefore, le, Bool.or_eq_false_iff, decide_eq_false_iff_not, Bool.and_eq_false_iff,
    beq_eq_false_iff_ne]
  omega

theorem isBefore_iff_of_whole {first second : Instant} (whole : second.nanos = 0) :
    first.IsBefore second ↔ first.seconds < second.seconds := by
  rw [isBefore_iff, whole]
  omega

theorem IsBefore.trans {first second third : Instant} (earlier : first.IsBefore second)
    (later : second.IsBefore third) : first.IsBefore third := by
  rw [isBefore_iff] at earlier later ⊢
  omega

theorem eq_of_whole {first second : Instant} (whole : first.nanos = 0)
    (whole' : second.nanos = 0) (same : first.seconds = second.seconds) : first = second := by
  cases first
  cases second
  simp_all only

/-- Between two instants there is no room for more whole seconds than that. -/
theorem add_length_lt {first last : Instant} {between : List Instant}
    (increasing : (first :: between).Pairwise IsBefore)
    (whole : ∀ instant ∈ between, instant.nanos = 0) (lastWhole : last.nanos = 0)
    (below : ∀ instant ∈ first :: between, instant.IsBefore last) :
    first.seconds + between.length < last.seconds := by
  induction between generalizing first with
  | nil =>
    have earlier := (isBefore_iff_of_whole lastWhole).mp (below first List.mem_cons_self)
    simpa using earlier
  | cons next rest inductionHypothesis =>
    obtain ⟨above, increasing⟩ := List.pairwise_cons.mp increasing
    obtain ⟨nextWhole, whole⟩ := List.forall_mem_cons.mp whole
    have earlier := (isBefore_iff_of_whole nextWhole).mp (above next List.mem_cons_self)
    have remaining := inductionHypothesis increasing whole (List.forall_mem_cons.mp below).2
    rw [List.length_cons]
    omega

end Instant

end WorkHost.Calendar

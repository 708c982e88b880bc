import WorkHost.Proofs.Cron.FireTimes

/-!
Contract: what the search for a fire time misses.

A search that starts in a year without fire times enters the next scheduled year with the
bounds of its start, as if it went on at the same date (`Schedule.resumption`). The fire times
of that year before then lie in its shadow. The search finds the first of the later fire times
that is not shadowed (`Schedule.nextAfter_firstOf`), so it finds nothing exactly if all of them
are. Then a job is left without a next time although it would still fire.
-/

namespace WorkHost.Cron

open WorkHost.Calendar

namespace Schedule

variable {schedule : Schedule}

/-! ## The year that is entered -/

/-- The bounds with which the days of a month are searched, once the day has been read. -/
def dayRead (schedule : Schedule) (bounds : Bounds) : Bounds :=
  if bounds.lowDay ∈ schedule.daysOfMonth then { bounds with day := none }
  else Bounds.resetDay { bounds with day := none }

/-- A month that is too short for its bound is searched from its last day on. -/
theorem daysFrom_of_short (schedule : Schedule) {year month : Nat} {bounds : Bounds}
    (short : daysInMonth year month < bounds.lowDay) :
    (schedule.daysFrom year month bounds).1 =
      (searchFrom (schedule.inDay year month) .resetDay
        (schedule.daysOfMonth.filter (· ≤ daysInMonth year month)) (daysInMonth year month)
        (schedule.dayRead bounds)).1 := by
  obtain ⟨last, isLast⟩ : ∃ last, last = daysInMonth year month := ⟨_, rfl⟩
  have same : (if schedule.daysOfMonth.contains bounds.lowDay then { bounds with day := none }
      else Bounds.resetDay { bounds with day := none }) = schedule.dayRead bounds := by
    simp only [dayRead, List.contains_iff_mem]
  rw [daysFrom_eq, Nat.min_eq_right (by omega), same, searchFrom, ← isLast]
  by_cases isDay : last ∈ schedule.daysOfMonth.filter (· ≤ last)
  · rw [if_pos (by simpa using isDay)]
  · -- There is no day left to search, so the bounds do not matter.
    have nothing : (schedule.daysOfMonth.filter (· ≤ last)).filter (last ≤ ·) = [] := by
      rw [List.filter_eq_nil_iff]
      intro day member
      have below : day ≤ last := by simpa using (List.mem_filter.mp member).2
      have other : day ≠ last := fun equal => isDay (equal ▸ member)
      simp only [decide_eq_true_eq]
      omega
    rw [nothing]
    rfl

theorem daysFrom_firstOf_of_short (wellFormed : schedule.WellFormed) {year month : Nat}
    {bounds : Bounds} (short : daysInMonth year month < bounds.lowDay)
    (hourBound : bounds.lowHour ≤ 23) (minuteBound : bounds.lowMinute ≤ 59)
    (secondBound : bounds.lowSecond ≤ 59) :
    FirstOf (fun found => schedule.FiresInMonth year month found ∧
        monthClock year month (daysInMonth year month, (schedule.dayRead bounds).lowHour,
          (schedule.dayRead bounds).lowMinute, (schedule.dayRead bounds).lowSecond) ≤
            monthClock year month found)
      (monthClock year month) (schedule.daysFrom year month bounds).1 := by
  obtain ⟨left, isLeft⟩ : ∃ left, left = schedule.dayRead bounds := ⟨_, rfl⟩
  obtain ⟨last, isLast⟩ : ∃ last, last = daysInMonth year month := ⟨_, rfl⟩
  have inBounds : left.lowHour ≤ 23 ∧ left.lowMinute ≤ 59 ∧ left.lowSecond ≤ 59 := by
    rw [isLeft, dayRead]
    split
    · exact ⟨hourBound, minuteBound, secondBound⟩
    · exact ⟨Nat.zero_le 23, Nat.zero_le 59, Nat.zero_le 59⟩
  rw [schedule.daysFrom_of_short short, ← isLeft, ← isLast]
  have level := inDay_level wellFormed year month
  rw [← isLast] at level
  refine (level.searchFrom_firstOf
    (monthClock year month (last, left.lowHour, left.lowMinute, left.lowSecond))
    ?_ ?_ ?_ ?_).congr ?_
  · exact ⟨rfl, rfl, rfl⟩
  · intro _
    exact inDay_firstOf wellFormed year month last inBounds.2.1 inBounds.2.2
  · intro day isDay later
    have below : day ≤ last := by simpa using (List.mem_filter.mp isDay).2
    omega
  · intro day _ earlier time fires
    have inside := (dayClock_bounds wellFormed fires.2).2
    have days := dayNumber_lt_of_day_lt year month earlier
    simp only [monthClock, dayClock, minuteClock] at inside ⊢
    omega
  · intro found
    rw [List.mem_filter, decide_eq_true_iff, FiresInMonth, ← isLast]
    exact and_assoc.symm

/-- Where in a year a search goes on that has started in an earlier one: at the same date and
time. A month that is too short for the date has its last day instead, and the time of day
is dropped there unless the day of the start is scheduled. -/
def resumption (schedule : Schedule) (start : Civil) (year : Int) : Civil :=
  if start.day ≤ daysInMonth year start.month then { start with year }
  else if start.day ∈ schedule.daysOfMonth then
    { start with year, day := daysInMonth year start.month }
  else ⟨year, start.month, daysInMonth year start.month, 0, 0, 0⟩

theorem resumption_year (schedule : Schedule) (start : Civil) (year : Int) :
    (schedule.resumption start year).year = year := by
  unfold resumption
  split
  · rfl
  · split <;> rfl

theorem resumption_month (schedule : Schedule) (start : Civil) (year : Int) :
    (schedule.resumption start year).month = start.month := by
  unfold resumption
  split
  · rfl
  · split <;> rfl

theorem resumption_isValid {start : Civil} (valid : start.IsValid) (year : Int) :
    (schedule.resumption start year).IsValid := by
  have length := daysInMonth_bounds year start.month
  obtain ⟨monthPos, monthLe, dayPos, -, hour, minute, second⟩ := valid
  unfold resumption
  split
  · exact ⟨monthPos, monthLe, dayPos, by assumption, hour, minute, second⟩
  · have positive : 1 ≤ daysInMonth year start.month := by omega
    split
    · exact ⟨monthPos, monthLe, positive, le_rfl, hour, minute, second⟩
    · exact ⟨monthPos, monthLe, positive, le_rfl, Nat.zero_le _, Nat.zero_le _, Nat.zero_le _⟩

theorem resumption_self {start : Civil} (valid : start.IsValid) :
    schedule.resumption start start.year = start := by
  rw [resumption, if_pos valid.isDate.day_le]

theorem toSeconds_resumption_of_short {start : Civil} {year : Int}
    (short : daysInMonth year start.month < start.day) {bounds : Bounds}
    (monthRead : bounds = { Bounds.ofCivil start with month := none }) :
    (schedule.resumption start year).toSeconds =
      monthClock year start.month (daysInMonth year start.month,
        (schedule.dayRead bounds).lowHour, (schedule.dayRead bounds).lowMinute,
        (schedule.dayRead bounds).lowSecond) := by
  subst monthRead
  have isDay : Bounds.lowDay { Bounds.ofCivil start with month := none } = start.day := rfl
  rw [resumption, if_neg (Nat.not_le.mpr short), dayRead, isDay]
  by_cases scheduled : start.day ∈ schedule.daysOfMonth
  · rw [if_pos scheduled, if_pos scheduled]
    simp only [Civil.toSeconds, monthClock, dayClock, minuteClock, Bounds.lowHour,
      Bounds.lowMinute, Bounds.lowSecond, Bounds.ofCivil, Option.getD_some]
    omega
  · rw [if_neg scheduled, if_neg scheduled]
    simp only [Civil.toSeconds, monthClock, dayClock, minuteClock, Bounds.lowHour,
      Bounds.lowMinute, Bounds.lowSecond, Bounds.resetDay, Bounds.resetHour, Bounds.resetMinute,
      Bounds.resetSecond, Option.getD_none]
    omega

theorem toSeconds_lt_of_month_lt {time other : Civil} (valid : time.IsValid)
    (otherValid : other.IsValid) (sameYear : time.year = other.year)
    (earlier : time.month < other.month) : time.toSeconds < other.toSeconds := by
  have date := valid.isDate
  rw [sameYear] at date
  have days := dayNumber_lt_of_month_lt date otherValid.isDate earlier
  rw [← sameYear] at days
  exact Civil.toSeconds_lt_of_dayNumber_lt valid (sameYear ▸ days)

/-- A year that is entered with the bounds of a start is searched from the resumption on. -/
theorem monthsFrom_firstOf_resumption (wellFormed : schedule.WellFormed) {start : Civil}
    (valid : start.IsValid) (year : Nat) :
    FirstOf (fun found => schedule.FiresInYear year found ∧
        (schedule.resumption start year).toSeconds ≤ yearClock year found)
      (yearClock year) (schedule.monthsFrom year (.ofCivil start)).1 := by
  obtain ⟨monthPos, monthLe, dayPos, -⟩ := valid.isDate
  have clock := valid.2.2.2.2
  by_cases fits : start.day ≤ daysInMonth year start.month
  · have date : IsDate year start.month start.day := ⟨monthPos, monthLe, dayPos, fits⟩
    have resumed := toSeconds_civilIn
      (year, start.month, start.day, start.hour, start.minute, start.second)
    simp only [civilIn] at resumed
    rw [resumption, if_pos fits, resumed]
    exact @monthsFrom_firstOf _ wellFormed _ (.ofCivil start) date clock.1 clock.2.1 clock.2.2
  · have short := Nat.lt_of_not_le fits
    have resumed := schedule.resumption_isValid valid year
    obtain ⟨bounds, monthRead⟩ : ∃ bounds : Bounds,
        bounds = { Bounds.ofCivil start with month := none } := ⟨_, rfl⟩
    have atClock := schedule.toSeconds_resumption_of_short short monthRead
    rw [monthsFrom_eq]
    refine ((inMonth_level wellFormed year).searchFrom_firstOf
      (schedule.resumption start year).toSeconds ?_ ?_ ?_ ?_).congr fun found => and_assoc.symm
    · exact ⟨rfl, rfl, rfl, rfl⟩
    · intro _
      rw [inMonth, retry_fst, atClock, ← monthRead]
      subst monthRead
      exact daysFrom_firstOf_of_short wellFormed short clock.1 clock.2.1 clock.2.2
    · intro month isScheduled later found fires
      have shown := toSeconds_civilIn (year, month, found)
      simp only [yearClock] at shown
      rw [← shown]
      refine (toSeconds_lt_of_month_lt resumed (civilIn_isValid wellFormed ⟨isScheduled, fires⟩)
        (schedule.resumption_year start year) ?_).le
      rwa [resumption_month]
    · intro month isScheduled earlier found fires
      have shown := toSeconds_civilIn (year, month, found)
      simp only [yearClock] at shown
      rw [← shown]
      refine toSeconds_lt_of_month_lt (civilIn_isValid wellFormed ⟨isScheduled, fires⟩) resumed
        (schedule.resumption_year start year).symm ?_
      rwa [resumption_month]

/-! ## The shadow of a start -/

/-- The time lies in the first scheduled year from the start on, before the place at which the
search goes on there. -/
def Shadowed (schedule : Schedule) (start time : Civil) : Prop :=
  (∀ year ∈ schedule.years, start.year ≤ (year : Int) → time.year ≤ (year : Int)) ∧
    time.toSeconds < (schedule.resumption start time.year).toSeconds

/-- A start in a scheduled year shadows nothing that comes after it. -/
theorem not_shadowed_of_mem {start time : Civil} (valid : start.IsValid) (timeValid : time.IsValid)
    (nonneg : 0 ≤ start.year) (isYear : start.year.toNat ∈ schedule.years)
    (later : start.toSeconds ≤ time.toSeconds) : ¬ schedule.Shadowed start time := by
  rintro ⟨entered, before⟩
  have notAfter : time.year ≤ start.year := by
    have bound := entered _ isYear (by omega)
    omega
  rcases notAfter.lt_or_eq with earlier | same
  · exact absurd (Civil.toSeconds_lt_of_year_lt timeValid valid earlier) (Int.not_lt.mpr later)
  · rw [same, resumption_self valid] at before
    exact absurd before (Int.not_lt.mpr later)

/-- The years that are searched begin with the one that a start may shadow. -/
theorem shadowed_civilIn_iff {start : Civil} {first : Nat} {rest : List Nat}
    (increasing : schedule.years.Pairwise (· < ·))
    (searched : schedule.years.filter (start.year.toNat ≤ ·) = first :: rest)
    {found : Nat × Nat × Nat × Nat × Nat × Nat} (reached : found.1 ∈ first :: rest) :
    schedule.Shadowed start (civilIn found) ↔
      found.1 = first ∧ yearClock first found.2 < (schedule.resumption start first).toSeconds := by
  have least : ∀ year ∈ schedule.years, start.year ≤ (year : Int) → first ≤ year := by
    intro year isYear bound
    have isReached : year ∈ first :: rest := by
      rw [← searched, List.mem_filter, decide_eq_true_iff]
      exact ⟨isYear, by omega⟩
    rcases List.mem_cons.mp isReached with rfl | isLater
    · exact le_rfl
    · have ordered := increasing.filter (start.year.toNat ≤ ·)
      rw [searched] at ordered
      exact ((List.pairwise_cons.mp ordered).1 year isLater).le
  have isFirst : first ∈ schedule.years ∧ start.year ≤ (first : Int) := by
    have member : first ∈ schedule.years.filter (start.year.toNat ≤ ·) := by
      rw [searched]
      exact List.mem_cons_self
    rw [List.mem_filter, decide_eq_true_iff] at member
    exact ⟨member.1, by omega⟩
  have notBefore : first ≤ found.1 := by
    rw [← searched, List.mem_filter, decide_eq_true_iff] at reached
    exact least found.1 reached.1 (by omega)
  have isYear : (civilIn found).year = (found.1 : Int) := rfl
  rw [Shadowed, isYear, toSeconds_civilIn]
  constructor
  · rintro ⟨entered, before⟩
    have bound := entered first isFirst.1 isFirst.2
    have same : found.1 = first := by omega
    exact ⟨same, same ▸ before⟩
  · rintro ⟨same, before⟩
    rw [same]
    exact ⟨fun year isYear bound => Int.ofNat_le.mpr (least year isYear bound), before⟩

theorem searched_firstOf (wellFormed : schedule.WellFormed) {start : Civil}
    (valid : start.IsValid) :
    FirstOf (fun found => found.1 ∈ schedule.years.filter (start.year.toNat ≤ ·) ∧
        schedule.FiresInYear found.1 found.2 ∧ ¬ schedule.Shadowed start (civilIn found))
      (fun found => yearClock found.1 found.2)
      (firstWithin schedule.monthsFrom (schedule.years.filter (start.year.toNat ≤ ·))
        (.ofCivil start)).1 := by
  have level := (years_level wellFormed).filter (start.year.toNat ≤ ·)
  cases searched : schedule.years.filter (start.year.toNat ≤ ·) with
  | nil =>
    rintro found ⟨isYear, -⟩
    cases isYear
  | cons first rest =>
    rw [searched] at level
    refine (level.firstOf_cons (monthsFrom_firstOf_resumption wellFormed valid first)
      level.tail.firstWithin_firstOf).congr ?_
    intro found
    refine and_congr_right fun reached => and_congr_right fun _ => ?_
    rw [shadowed_civilIn_iff wellFormed.years.increasing searched reached, not_and, Int.not_lt]

/-- The search finds what comes first from the start on and is not shadowed. -/
theorem nextFrom_firstOf_unshadowed (wellFormed : schedule.WellFormed) {start : Civil}
    (valid : start.IsValid) (nonneg : 0 ≤ start.year) :
    FirstOf (fun time => (schedule.Matches time ∧ start.toSeconds ≤ time.toSeconds) ∧
        ¬ schedule.Shadowed start time)
      Civil.toSeconds (schedule.nextFrom start) := by
  rw [nextFrom, if_neg (Int.not_lt.mpr nonneg), findYear_eq]
  refine (searched_firstOf wellFormed valid).map civilIn ?_ ?_ toSeconds_civilIn
  · rintro found ⟨reached, fires, unshadowed⟩
    obtain ⟨isYear, bound⟩ := List.mem_filter.mp reached
    rw [decide_eq_true_iff] at bound
    have isFire := (matches_civilIn wellFormed found).mpr ⟨isYear, fires⟩
    refine ⟨⟨isFire, ?_⟩, unshadowed⟩
    rcases (show start.year ≤ found.1 by omega).lt_or_eq with later | same
    · exact (Civil.toSeconds_lt_of_year_lt valid isFire.1 later).le
    · -- The start's own year is resumed at the start itself.
      by_contra early
      have isYear : (civilIn found).year = start.year := same.symm
      refine unshadowed ⟨fun year _ reached => isYear.symm ▸ reached, ?_⟩
      rw [isYear, resumption_self valid]
      exact Int.not_le.mp early
  · rintro time ⟨⟨fires, later⟩, unshadowed⟩
    obtain ⟨found, rfl⟩ := exists_civilIn fires.2.1.2.1
    obtain ⟨isYear, firesInYear⟩ := (matches_civilIn wellFormed found).mp fires
    refine ⟨found, ⟨List.mem_filter.mpr ⟨isYear, ?_⟩, firesInYear, unshadowed⟩, rfl⟩
    rw [decide_eq_true_iff]
    by_contra unreached
    have earlier : (civilIn found).year < start.year := by
      show (found.1 : Int) < start.year
      omega
    exact absurd (Civil.toSeconds_lt_of_year_lt fires.1 valid earlier) (Int.not_lt.mpr later)

/-- The fire times that a search after an instant cannot find. -/
def Misses (schedule : Schedule) (after fire : Instant) : Prop :=
  schedule.Shadowed (Civil.ofSeconds (after.seconds + 1)) fire.civil

theorem nextAfter_firstOf (wellFormed : schedule.WellFormed) {after : Instant}
    (nonneg : 0 ≤ (Civil.ofSeconds (after.seconds + 1)).year) :
    FirstOf (fun fire => (schedule.FiresAt fire ∧ after.IsBefore fire) ∧
        ¬ schedule.Misses after fire)
      Instant.seconds (schedule.nextAfter after) := by
  refine (nextFrom_firstOf_unshadowed wellFormed (Civil.ofSeconds_isValid _) nonneg).map
    Instant.ofCivil ?_ ?_ fun _ => rfl
  · rintro time ⟨⟨fires, later⟩, unshadowed⟩
    refine ⟨⟨firesAt_ofCivil fires, (isBefore_ofCivil after time).mpr later⟩, ?_⟩
    rwa [Misses, Instant.civil, Instant.ofCivil, Civil.ofSeconds_toSeconds fires.1]
  · rintro fire ⟨⟨fires, later⟩, unshadowed⟩
    rw [← fires.ofCivil_civil, isBefore_ofCivil] at later
    exact ⟨fire.civil, ⟨⟨fires.2, later⟩, unshadowed⟩, fires.ofCivil_civil⟩

theorem nextAfter_eq_none_iff (wellFormed : schedule.WellFormed) {after : Instant}
    (nonneg : 0 ≤ (Civil.ofSeconds (after.seconds + 1)).year) :
    schedule.nextAfter after = none ↔
      ∀ fire, schedule.FiresAt fire → after.IsBefore fire → schedule.Misses after fire := by
  have first := nextAfter_firstOf wellFormed nonneg
  constructor
  · intro nothing fire fires later
    rw [nothing] at first
    by_contra unshadowed
    exact first fire ⟨⟨fires, later⟩, unshadowed⟩
  · intro missed
    cases found : schedule.nextAfter after with
    | none => rfl
    | some fire =>
      rw [found] at first
      obtain ⟨⟨⟨fires, later⟩, unshadowed⟩, -⟩ := first
      exact absurd (missed fire fires later) unshadowed

end Schedule

theorem year_le_succ (after : Instant) :
    after.civil.year ≤ (Civil.ofSeconds (after.seconds + 1)).year := by
  rcases Civil.ofSeconds_succ after.seconds with same | isNew
  · exact same.ge
  · rw [isNew]
    exact Int.le_of_lt (Int.lt_succ _)

namespace Schedule

variable {schedule : Schedule}

/-- A search that starts in a scheduled year misses nothing. -/
theorem Covers.not_misses {after fire : Instant} (covered : schedule.Covers after)
    (nonneg : 0 ≤ (Civil.ofSeconds (after.seconds + 1)).year) (fires : schedule.FiresAt fire)
    (later : after.IsBefore fire) : ¬ schedule.Misses after fire := by
  rw [← fires.ofCivil_civil, isBefore_ofCivil] at later
  exact not_shadowed_of_mem (Civil.ofSeconds_isValid _) fires.2.1 nonneg covered later

/-- What fires after an instant fires in its year or a later one. -/
theorem FiresAt.year_le {after fire : Instant} (fires : schedule.FiresAt fire)
    (later : after.IsBefore fire) :
    (Civil.ofSeconds (after.seconds + 1)).year ≤ fire.civil.year := by
  rw [← fires.ofCivil_civil, isBefore_ofCivil] at later
  by_contra earlier
  have before := Civil.toSeconds_lt_of_year_lt fires.2.1 (Civil.ofSeconds_isValid _)
    (Int.not_le.mp earlier)
  exact absurd before (Int.not_lt.mpr later)

end Schedule

namespace Job

/-- The search finds no next fire time only if there is none. -/
def SkippedRightly (job : Job) (after : Instant) : Prop :=
  job.nextAfter after = none → ∀ fire, job.schedule.FiresAt fire → ¬ after.IsBefore fire

/-- Without a field for the years all years are scheduled in which anything fires. -/
theorem skippedRightly_of_leavesOutYears {name expression : String} {job : Job}
    (accepted : Job.parse name expression = .ok job)
    (leavesOut : Schedule.leavesOutYears expression = true) {after : Instant}
    (inRange : 1970 ≤ after.civil.year) : job.SkippedRightly after := by
  intro nothing fire fires later
  have parses := Job.schedule_of_parse accepted
  have wellFormed := Schedule.parse?_wellFormed parses
  have first := year_le_succ after
  have nonneg : 0 ≤ (Civil.ofSeconds (after.seconds + 1)).year := by omega
  have covered : job.schedule.Covers after := by
    have last := (wellFormed.years.inside _ fires.2.2.1.1).2
    have reached := fires.year_le later
    rw [Schedule.Covers, Schedule.years_of_leavesOutYears parses leavesOut, TimeUnit.mem_values]
    simp only [TimeUnit.year] at last ⊢
    omega
  exact covered.not_misses nonneg fires later
    ((Schedule.nextAfter_eq_none_iff wellFormed nonneg).mp nothing fire fires later)

/-- A job is left without a next fire time although it has one exactly if the search misses all
its later fire times. From a scheduled year on nothing is missed, and no expression without a
field for the years misses anything. -/
theorem skippedRightly_iff {name expression : String} {job : Job}
    (accepted : Job.parse name expression = .ok job) {after : Instant}
    (inRange : 1970 ≤ after.civil.year) :
    (job.SkippedRightly after ↔
      (∀ fire, job.schedule.FiresAt fire → ¬ after.IsBefore fire) ∨
        ∃ fire, job.schedule.FiresAt fire ∧ after.IsBefore fire ∧
          ¬ job.schedule.Misses after fire) ∧
    (job.nextAfter after = none ↔ ∀ fire, job.schedule.FiresAt fire → after.IsBefore fire →
      job.schedule.Misses after fire) ∧
    (job.schedule.Covers after ∨ Schedule.leavesOutYears expression = true →
      job.SkippedRightly after) := by
  have wellFormed := Schedule.parse?_wellFormed (Job.schedule_of_parse accepted)
  have first := year_le_succ after
  have nonneg : 0 ≤ (Civil.ofSeconds (after.seconds + 1)).year := by omega
  have isNone : job.nextAfter after = none ↔ ∀ fire, job.schedule.FiresAt fire →
      after.IsBefore fire → job.schedule.Misses after fire :=
    Schedule.nextAfter_eq_none_iff wellFormed nonneg
  refine ⟨⟨?_, ?_⟩, isNone, ?_⟩
  · intro rightly
    by_cases nothing : job.nextAfter after = none
    · exact .inl (rightly nothing)
    · rw [isNone] at nothing
      push Not at nothing
      exact .inr nothing
  · rintro (never | ⟨fire, fires, later, unshadowed⟩) nothing
    · exact never
    · exact absurd (isNone.mp nothing fire fires later) unshadowed
  · rintro (covered | leavesOut)
    · intro nothing fire fires later
      exact covered.not_misses nonneg fires later (isNone.mp nothing fire fires later)
    · exact skippedRightly_of_leavesOutYears accepted leavesOut inRange

/-- From November on, new year is out of reach in 2030, but not in 2031. -/
theorem skippedRightly_iff_november :
    ∃ job, Job.parse "new-year" "0 0 0 1 1 * 2030,2031" = .ok job ∧
      job.SkippedRightly (.ofCivil ⟨2024, 11, 1, 0, 0, 0⟩) := by
  obtain ⟨job, isJob⟩ : ∃ job : Job, job =
      ⟨"new-year", ⟨[0], [0], [0], [1], [1], TimeUnit.dayOfWeek.values, [2030, 2031]⟩⟩ := ⟨_, rfl⟩
  have accepted : Job.parse "new-year" "0 0 0 1 1 * 2030,2031" = .ok job := by
    subst isJob
    decide +kernel
  have inRange : 1970 ≤ (Instant.ofCivil ⟨2024, 11, 1, 0, 0, 0⟩).civil.year := by
    decide +kernel
  have reachable := (skippedRightly_iff accepted inRange).1
  refine ⟨job, accepted, reachable.mpr (.inr ⟨.ofCivil ⟨2031, 1, 1, 0, 0, 0⟩, ?_⟩)⟩
  subst isJob
  unfold Schedule.FiresAt Instant.IsBefore Schedule.Misses Schedule.Shadowed
  decide +kernel

/-- In 2030 alone it is never found. -/
theorem not_skippedRightly_november :
    ∃ job, Job.parse "new-year" "0 0 0 1 1 * 2030" = .ok job ∧
      ¬ job.SkippedRightly (.ofCivil ⟨2024, 11, 1, 0, 0, 0⟩) := by
  obtain ⟨job, isJob⟩ : ∃ job : Job, job =
      ⟨"new-year", ⟨[0], [0], [0], [1], [1], TimeUnit.dayOfWeek.values, [2030]⟩⟩ := ⟨_, rfl⟩
  have accepted : Job.parse "new-year" "0 0 0 1 1 * 2030" = .ok job := by
    subst isJob
    decide +kernel
  have nothing : job.nextAfter (.ofCivil ⟨2024, 11, 1, 0, 0, 0⟩) = none := by
    subst isJob
    decide +kernel
  have fires : job.schedule.FiresAt (.ofCivil ⟨2030, 1, 1, 0, 0, 0⟩) := by
    subst isJob
    unfold Schedule.FiresAt
    decide +kernel
  have later : Instant.IsBefore (.ofCivil ⟨2024, 11, 1, 0, 0, 0⟩)
      (.ofCivil ⟨2030, 1, 1, 0, 0, 0⟩) := by
    unfold Instant.IsBefore
    decide +kernel
  exact ⟨job, accepted, fun rightly => rightly nothing _ fires later⟩

end Job

end WorkHost.Cron

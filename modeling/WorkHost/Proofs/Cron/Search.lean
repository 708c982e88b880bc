import WorkHost.Cron.Search
import WorkHost.Proofs.Calendar.Days
import WorkHost.Proofs.Cron.Fields
import WorkHost.Proofs.Cron.Levels

/-!
Contract: what the search for a fire time finds.

From the seconds to the years each unit is a level of the search. A bound that has been read
counts as the least value of its unit, and what a level finds is then always what comes
first from its bounds on (`secondsFrom_firstOf` to `monthsFrom_firstOf`). -/

namespace WorkHost.Cron

open WorkHost.Calendar

/-- Where nothing is found, the bounds are reset before the search goes on. -/
def retry {α : Type} (reset : Bounds → Bounds) (answer : Option α × Bounds) :
    Option α × Bounds :=
  match answer with
  | (some found, bounds) => (some found, bounds)
  | (none, bounds) => (none, reset bounds)

section Retry

variable {α : Type} {reset : Bounds → Bounds} {answer : Option α × Bounds}

@[simp] theorem retry_fst (reset : Bounds → Bounds) (answer : Option α × Bounds) :
    (retry reset answer).1 = answer.1 := by
  obtain ⟨_ | found, bounds⟩ := answer <;> rfl

/-- What every reset brings about holds where nothing is found. -/
theorem retry_exhausted {leaves : Bounds → Prop} (resets : ∀ bounds, leaves (reset bounds))
    (nothing : (retry reset answer).1 = none) : leaves (retry reset answer).2 := by
  obtain ⟨_ | found, bounds⟩ := answer
  · exact resets bounds
  · cases nothing

theorem retry_of_some (finds : answer.1.isSome) : (retry reset answer).2 = answer.2 := by
  obtain ⟨_ | found, bounds⟩ := answer
  · cases finds
  · rfl

end Retry

namespace Bounds

/-! What has been read is bound by the least value of its unit. -/

def lowSecond (bounds : Bounds) : Nat := bounds.second.getD 0
def lowMinute (bounds : Bounds) : Nat := bounds.minute.getD 0
def lowHour (bounds : Bounds) : Nat := bounds.hour.getD 0
def lowDay (bounds : Bounds) : Nat := bounds.day.getD 1
def lowMonth (bounds : Bounds) : Nat := bounds.month.getD 1

/-- Every second of a minute is in bounds, and so on. -/
def FreshMinute (bounds : Bounds) : Prop := bounds.lowSecond = 0
def FreshHour (bounds : Bounds) : Prop := bounds.lowMinute = 0 ∧ bounds.FreshMinute
def FreshDay (bounds : Bounds) : Prop := bounds.lowHour = 0 ∧ bounds.FreshHour
def FreshMonth (bounds : Bounds) : Prop := bounds.lowDay = 1 ∧ bounds.FreshDay
def FreshYear (bounds : Bounds) : Prop := bounds.lowMonth = 1 ∧ bounds.FreshMonth

end Bounds

/-- The second of its minute, of its hour and of its day at which a time begins. -/
def minuteClock (time : Nat × Nat) : Int := time.1 * 60 + time.2
def dayClock (time : Nat × Nat × Nat) : Int := time.1 * 3600 + minuteClock time.2

namespace Schedule

variable {schedule : Schedule} {bounds : Bounds}

/-! ## Seconds -/

theorem secondsFrom_sound {second : Nat}
    (finds : (schedule.secondsFrom bounds).1 = some second) : second ∈ schedule.seconds :=
  List.mem_of_find?_eq_some finds

theorem secondsFrom_firstOf (wellFormed : schedule.WellFormed) (bounds : Bounds) :
    FirstOf (fun second => second ∈ schedule.seconds ∧ bounds.lowSecond ≤ second)
      (fun second => (second : Int)) (schedule.secondsFrom bounds).1 := by
  have increasing := wellFormed.seconds.increasing
  show FirstOf _ _ (schedule.seconds.find? (bounds.lowSecond ≤ ·))
  cases finds : schedule.seconds.find? (bounds.lowSecond ≤ ·) with
  | none =>
    rintro second ⟨isSecond, bound⟩
    exact absurd (decide_eq_true bound) (List.find?_eq_none.mp finds second isSecond)
  | some first =>
    obtain ⟨reached, before, after, split, skipped⟩ := List.find?_eq_some_iff_append.mp finds
    refine ⟨⟨List.mem_of_find?_eq_some finds, of_decide_eq_true reached⟩, ?_⟩
    rintro second ⟨isSecond, bound⟩
    rw [split, List.mem_append, List.mem_cons] at isSecond
    rw [split] at increasing
    rcases isSecond with isEarlier | rfl | isLater
    · have missed := skipped second isEarlier
      simp [bound] at missed
    · exact Int.le_refl _
    · have above := (List.pairwise_append.mp increasing).2.1
      exact Int.ofNat_le.mpr (Nat.le_of_lt ((List.pairwise_cons.mp above).1 second isLater))

/-! ## Minutes -/

/-- The search below a minute. -/
def inMinute (schedule : Schedule) (_ : Nat) (bounds : Bounds) : Option Nat × Bounds :=
  retry .resetMinute (schedule.secondsFrom bounds)

theorem findMinute_eq (minutes : List Nat) (bounds : Bounds) :
    schedule.findMinute minutes bounds = firstWithin schedule.inMinute minutes bounds := by
  induction minutes generalizing bounds with
  | nil => rfl
  | cons minute rest inductionHypothesis =>
    simp only [findMinute, firstWithin, inMinute]
    rcases schedule.secondsFrom bounds with ⟨_ | second, left⟩
    · exact inductionHypothesis left.resetMinute
    · rfl

theorem minutesFrom_eq (bounds : Bounds) :
    schedule.minutesFrom bounds =
      searchFrom schedule.inMinute .resetMinute schedule.minutes bounds.lowMinute
        { bounds with minute := none } :=
  findMinute_eq _ _

theorem inMinute_level (wellFormed : schedule.WellFormed) :
    Level schedule.inMinute schedule.minutes (fun _ second => second ∈ schedule.seconds)
      (fun minute second => minuteClock (minute, second)) Bounds.FreshMinute where
  increasing := wellFormed.minutes.increasing
  apart := by
    intro minute later second second' _ _ earlier isSecond _
    have inside := (wellFormed.seconds.inside second isSecond).2
    simp only [TimeUnit.second, minuteClock] at inside ⊢
    omega
  sound := by
    intro minute bounds second _ finds
    rw [inMinute, retry_fst] at finds
    exact secondsFrom_sound finds
  whole := by
    intro minute bounds _ isFresh
    rw [inMinute, retry_fst]
    refine (secondsFrom_firstOf wellFormed bounds).shift ?_ (minute * 60) fun second => rfl
    intro second
    rw [isFresh]
    exact and_iff_left (Nat.zero_le _)
  afresh := retry_exhausted fun _ => rfl

/-- A minute and a second of the schedule. -/
def FiresInHour (schedule : Schedule) (time : Nat × Nat) : Prop :=
  time.1 ∈ schedule.minutes ∧ time.2 ∈ schedule.seconds

theorem minutesFrom_sound (wellFormed : schedule.WellFormed) {time : Nat × Nat}
    (finds : (schedule.minutesFrom bounds).1 = some time) : schedule.FiresInHour time := by
  rw [minutesFrom_eq] at finds
  obtain ⟨isMinute, isSecond⟩ :=
    ((inMinute_level wellFormed).filter _).firstWithin_sound finds
  exact ⟨(List.mem_filter.mp isMinute).1, isSecond⟩

theorem minutesFrom_firstOf (wellFormed : schedule.WellFormed) {bounds : Bounds}
    (secondBound : bounds.lowSecond ≤ 59) :
    FirstOf (fun time => schedule.FiresInHour time ∧
        minuteClock (bounds.lowMinute, bounds.lowSecond) ≤ minuteClock time)
      minuteClock (schedule.minutesFrom bounds).1 := by
  rw [minutesFrom_eq]
  refine ((inMinute_level wellFormed).searchFrom_firstOf
    (minuteClock (bounds.lowMinute, bounds.lowSecond)) ?_ ?_ ?_ ?_).congr fun time => and_assoc.symm
  · rfl
  · intro _
    rw [inMinute, retry_fst]
    refine (secondsFrom_firstOf wellFormed { bounds with minute := none }).shift ?_
      (bounds.lowMinute * 60) fun second => rfl
    intro second
    refine and_congr_right fun _ => ?_
    simp only [minuteClock, Bounds.lowSecond]
    omega
  · intro minute _ later second _
    simp only [minuteClock]
    omega
  · intro minute _ earlier second isSecond
    have inside := (wellFormed.seconds.inside second isSecond).2
    simp only [TimeUnit.second, minuteClock] at inside ⊢
    omega

theorem minuteClock_bounds (wellFormed : schedule.WellFormed) {time : Nat × Nat}
    (fires : schedule.FiresInHour time) : 0 ≤ minuteClock time ∧ minuteClock time < 3600 := by
  have minute := (wellFormed.minutes.inside time.1 fires.1).2
  have second := (wellFormed.seconds.inside time.2 fires.2).2
  simp only [TimeUnit.minute, TimeUnit.second, minuteClock] at minute second ⊢
  omega

theorem inMinute_left (minute : Nat) (bounds : Bounds) :
    (schedule.inMinute minute bounds).2 = bounds.resetSecond ∨
      (schedule.inMinute minute bounds).2 = bounds.resetMinute := by
  simp only [inMinute, secondsFrom]
  cases schedule.seconds.find? _ with
  | none => exact .inr rfl
  | some second => exact .inl rfl

/-- The search in an hour reads no other bounds than those for minutes and seconds. -/
theorem minutesFrom_hour (free : bounds.hour = none) :
    (schedule.minutesFrom bounds).2.hour = none := by
  rw [minutesFrom_eq]
  have stays : ∀ (minute : Nat) {bounds : Bounds}, bounds.hour = none →
      (schedule.inMinute minute bounds).2.hour = none := by
    intro minute bounds free
    rcases schedule.inMinute_left minute bounds with left | left <;> rw [left] <;> exact free
  refine firstWithin_keeps stays _ ?_
  split <;> exact free

/-- When a minute has been found, the bounds for it and for the second have been read. -/
theorem minutesFrom_fresh (finds : (schedule.minutesFrom bounds).1.isSome) :
    (schedule.minutesFrom bounds).2.FreshHour := by
  rw [minutesFrom_eq] at finds ⊢
  have reads : ∀ (minute : Nat) {bounds : Bounds}, bounds.minute = none →
      (schedule.inMinute minute bounds).2.minute = none ∧
        (schedule.inMinute minute bounds).2.FreshMinute := by
    intro minute bounds free
    rcases schedule.inMinute_left minute bounds with left | left <;> rw [left]
    · exact ⟨free, rfl⟩
    · exact ⟨rfl, rfl⟩
  have stays : ∀ (minute : Nat) {bounds : Bounds}, bounds.minute = none →
      (schedule.inMinute minute bounds).2.minute = none :=
    fun minute _ free => (reads minute free).1
  refine firstWithin_leaves stays ?_ _ ?_ finds
  · intro minute bounds free _
    obtain ⟨minuteRead, secondRead⟩ := reads minute free
    exact ⟨by rw [Bounds.lowMinute, minuteRead]; rfl, secondRead⟩
  · split <;> rfl

/-! ## Hours -/

/-- The search below an hour. -/
def inHour (schedule : Schedule) (_ : Nat) (bounds : Bounds) : Option (Nat × Nat) × Bounds :=
  retry .resetHour (schedule.minutesFrom bounds)

theorem findHour_eq (hours : List Nat) (bounds : Bounds) :
    schedule.findHour hours bounds = firstWithin schedule.inHour hours bounds := by
  induction hours generalizing bounds with
  | nil => rfl
  | cons hour rest inductionHypothesis =>
    simp only [findHour, firstWithin, inHour]
    rcases schedule.minutesFrom bounds with ⟨_ | time, left⟩
    · exact inductionHypothesis left.resetHour
    · rfl

theorem hoursFrom_eq (bounds : Bounds) :
    schedule.hoursFrom bounds =
      searchFrom schedule.inHour .resetHour schedule.hours bounds.lowHour
        { bounds with hour := none } :=
  findHour_eq _ _

theorem inHour_level (wellFormed : schedule.WellFormed) :
    Level schedule.inHour schedule.hours (fun _ time => schedule.FiresInHour time)
      (fun hour time => dayClock (hour, time)) Bounds.FreshHour where
  increasing := wellFormed.hours.increasing
  apart := by
    intro hour later time time' _ _ earlier fires fires'
    have inside := (minuteClock_bounds wellFormed fires).2
    have inside' := (minuteClock_bounds wellFormed fires').1
    simp only [dayClock]
    omega
  sound := by
    intro hour bounds time _ finds
    rw [inHour, retry_fst] at finds
    exact minutesFrom_sound wellFormed finds
  whole := by
    intro hour bounds _ ⟨freshMinute, freshSecond⟩
    have second : bounds.lowSecond = 0 := freshSecond
    rw [inHour, retry_fst]
    refine (minutesFrom_firstOf wellFormed (by omega)).shift ?_ (hour * 3600) fun time => rfl
    intro time
    rw [freshMinute, second]
    exact and_iff_left_of_imp fun fires => (minuteClock_bounds wellFormed fires).1
  afresh := retry_exhausted fun _ => ⟨rfl, rfl⟩

/-- A time of day of the schedule. -/
def FiresInDay (schedule : Schedule) (time : Nat × Nat × Nat) : Prop :=
  time.1 ∈ schedule.hours ∧ schedule.FiresInHour time.2

theorem hoursFrom_sound (wellFormed : schedule.WellFormed) {time : Nat × Nat × Nat}
    (finds : (schedule.hoursFrom bounds).1 = some time) : schedule.FiresInDay time := by
  rw [hoursFrom_eq] at finds
  obtain ⟨isHour, fires⟩ := ((inHour_level wellFormed).filter _).firstWithin_sound finds
  exact ⟨(List.mem_filter.mp isHour).1, fires⟩

theorem hoursFrom_firstOf (wellFormed : schedule.WellFormed) {bounds : Bounds}
    (minuteBound : bounds.lowMinute ≤ 59) (secondBound : bounds.lowSecond ≤ 59) :
    FirstOf (fun time => schedule.FiresInDay time ∧
        dayClock (bounds.lowHour, bounds.lowMinute, bounds.lowSecond) ≤ dayClock time)
      dayClock (schedule.hoursFrom bounds).1 := by
  rw [hoursFrom_eq]
  refine ((inHour_level wellFormed).searchFrom_firstOf
    (dayClock (bounds.lowHour, bounds.lowMinute, bounds.lowSecond)) ?_ ?_ ?_ ?_).congr
      fun time => and_assoc.symm
  · exact ⟨rfl, rfl⟩
  · intro _
    rw [inHour, retry_fst]
    have first := minutesFrom_firstOf wellFormed
      (show Bounds.lowSecond { bounds with hour := none } ≤ 59 from secondBound)
    refine first.shift ?_ (bounds.lowHour * 3600) fun time => rfl
    intro time
    refine and_congr_right fun _ => ?_
    simp only [dayClock, Bounds.lowMinute, Bounds.lowSecond]
    omega
  · intro hour _ later time fires
    have inside := (minuteClock_bounds wellFormed fires).1
    simp only [dayClock, minuteClock] at inside ⊢
    omega
  · intro hour _ earlier time fires
    have inside := (minuteClock_bounds wellFormed fires).2
    simp only [dayClock, minuteClock] at inside ⊢
    omega

theorem dayClock_bounds (wellFormed : schedule.WellFormed) {time : Nat × Nat × Nat}
    (fires : schedule.FiresInDay time) : 0 ≤ dayClock time ∧ dayClock time < 86400 := by
  have hour := (wellFormed.hours.inside time.1 fires.1).2
  have within := minuteClock_bounds wellFormed fires.2
  simp only [TimeUnit.hour, dayClock] at hour ⊢
  omega

/-- When a time of day has been found, the bounds for it have been read. -/
theorem hoursFrom_fresh (finds : (schedule.hoursFrom bounds).1.isSome) :
    (schedule.hoursFrom bounds).2.FreshDay := by
  rw [hoursFrom_eq] at finds ⊢
  have stays : ∀ (hour : Nat) {bounds : Bounds}, bounds.hour = none →
      (schedule.inHour hour bounds).2.hour = none := by
    intro hour bounds free
    have left : (schedule.minutesFrom bounds).2.hour = none := minutesFrom_hour free
    unfold inHour
    generalize schedule.minutesFrom bounds = answer at left ⊢
    obtain ⟨_ | time, rest⟩ := answer
    · rfl
    · exact left
  refine firstWithin_leaves stays ?_ _ ?_ finds
  · intro hour bounds free found
    rw [inHour, retry_fst] at found
    rw [inHour, retry_of_some found]
    exact ⟨by rw [Bounds.lowHour, minutesFrom_hour free]; rfl, minutesFrom_fresh found⟩
  · split <;> rfl

/-! ## Days -/

/-- The search below a day, which has to be of a scheduled weekday. -/
def inDay (schedule : Schedule) (year month day : Nat) (bounds : Bounds) :
    Option (Nat × Nat × Nat) × Bounds :=
  match schedule.hoursFrom bounds with
  | (some time, bounds) =>
    if schedule.daysOfWeek.contains (weekday year month day) then (some time, bounds)
    else (none, bounds)
  | (none, bounds) => (none, bounds.resetDay)

theorem findDay_eq (year month : Nat) (days : List Nat) (bounds : Bounds) :
    schedule.findDay year month days bounds =
      firstWithin (schedule.inDay year month) days bounds := by
  induction days generalizing bounds with
  | nil => rfl
  | cons day rest inductionHypothesis =>
    simp only [findDay, firstWithin, inDay]
    rcases schedule.hoursFrom bounds with ⟨_ | time, left⟩
    · exact inductionHypothesis left.resetDay
    · by_cases isWeekday : schedule.daysOfWeek.contains (weekday year month day) = true
      · simp only [isWeekday, if_true]
      · simp only [isWeekday]
        exact inductionHypothesis left

/-- A day and a time of day of the schedule in a month. -/
def FiresInMonth (schedule : Schedule) (year : Int) (month : Nat)
    (found : Nat × Nat × Nat × Nat) : Prop :=
  (found.1 ∈ schedule.daysOfMonth ∧ found.1 ≤ daysInMonth year month) ∧
    weekday year month found.1 ∈ schedule.daysOfWeek ∧ schedule.FiresInDay found.2

/-- The seconds from the start of 1970 to a time in a month. -/
def monthClock (year : Int) (month : Nat) (found : Nat × Nat × Nat × Nat) : Int :=
  dayNumber year month found.1 * 86400 + dayClock found.2

theorem inDay_fst (year month day : Nat) (bounds : Bounds) :
    (schedule.inDay year month day bounds).1 =
      if weekday year month day ∈ schedule.daysOfWeek then (schedule.hoursFrom bounds).1
      else none := by
  unfold inDay
  rcases schedule.hoursFrom bounds with ⟨_ | time, left⟩
  · simp
  · by_cases isWeekday : weekday year month day ∈ schedule.daysOfWeek <;> simp [isWeekday]

/-- On a day of the wrong weekday the bounds have been read by a search that found something. -/
theorem inDay_fresh {year month day : Nat}
    (nothing : (schedule.inDay year month day bounds).1 = none) :
    (schedule.inDay year month day bounds).2.FreshDay := by
  have read : (schedule.hoursFrom bounds).1.isSome → (schedule.hoursFrom bounds).2.FreshDay :=
    hoursFrom_fresh
  unfold inDay at nothing ⊢
  generalize schedule.hoursFrom bounds = answer at read nothing ⊢
  obtain ⟨_ | time, left⟩ := answer
  · exact ⟨rfl, rfl, rfl⟩
  · by_cases isWeekday : schedule.daysOfWeek.contains (weekday year month day) = true
    · simp only [isWeekday, if_true] at nothing
      cases nothing
    · simp only [isWeekday]
      exact read rfl

theorem inDay_firstOf (wellFormed : schedule.WellFormed) (year month day : Nat)
    {bounds : Bounds} (minuteBound : bounds.lowMinute ≤ 59)
    (secondBound : bounds.lowSecond ≤ 59) :
    FirstOf (fun time => (weekday year month day ∈ schedule.daysOfWeek ∧
          schedule.FiresInDay time) ∧
        monthClock year month (day, bounds.lowHour, bounds.lowMinute, bounds.lowSecond) ≤
          monthClock year month (day, time))
      (fun time => monthClock year month (day, time)) (schedule.inDay year month day bounds).1 := by
  rw [inDay_fst]
  by_cases isWeekday : weekday year month day ∈ schedule.daysOfWeek
  · rw [if_pos isWeekday]
    refine (hoursFrom_firstOf wellFormed minuteBound secondBound).shift ?_
      (dayNumber year month day * 86400) fun time => rfl
    intro time
    simp only [isWeekday, true_and, monthClock]
    refine and_congr_right fun _ => ?_
    omega
  · rw [if_neg isWeekday]
    rintro time ⟨⟨other, -⟩, -⟩
    exact isWeekday other

theorem inDay_level (wellFormed : schedule.WellFormed) (year month : Nat) :
    Level (schedule.inDay year month)
      (schedule.daysOfMonth.filter (· ≤ daysInMonth year month))
      (fun day time => weekday year month day ∈ schedule.daysOfWeek ∧ schedule.FiresInDay time)
      (fun day time => monthClock year month (day, time)) Bounds.FreshDay where
  increasing := wellFormed.daysOfMonth.increasing.filter _
  apart := by
    intro day later time time' _ _ earlier fires fires'
    have inside := dayClock_bounds wellFormed fires.2
    have inside' := dayClock_bounds wellFormed fires'.2
    have days := dayNumber_lt_of_day_lt year month earlier
    simp only [monthClock]
    omega
  sound := by
    intro day bounds time _ finds
    rw [inDay_fst] at finds
    split at finds
    · rename_i isWeekday
      exact ⟨isWeekday, hoursFrom_sound wellFormed finds⟩
    · cases finds
  whole := by
    intro day bounds _ ⟨freshHour, freshMinute, freshSecond⟩
    have second : bounds.lowSecond = 0 := freshSecond
    refine (inDay_firstOf wellFormed year month day (by omega) (by omega)).congr ?_
    intro time
    refine and_iff_left_of_imp fun fires => ?_
    have inside := (dayClock_bounds wellFormed fires.2).1
    rw [freshHour, freshMinute, second]
    simp only [monthClock, dayClock, minuteClock] at inside ⊢
    omega
  afresh := inDay_fresh

/-- A month may start with a bound that is higher than its last day. -/
theorem daysFrom_eq (year month : Nat) (bounds : Bounds) :
    schedule.daysFrom year month bounds =
      firstWithin (schedule.inDay year month)
        ((schedule.daysOfMonth.filter (· ≤ daysInMonth year month)).filter
          (min bounds.lowDay (daysInMonth year month) ≤ ·))
        (if schedule.daysOfMonth.contains bounds.lowDay then { bounds with day := none }
          else Bounds.resetDay { bounds with day := none }) := by
  rw [List.filter_filter]
  exact findDay_eq year month _ _

theorem daysFrom_sound (wellFormed : schedule.WellFormed) {year month : Nat}
    {found : Nat × Nat × Nat × Nat}
    (finds : (schedule.daysFrom year month bounds).1 = some found) :
    schedule.FiresInMonth year month found := by
  rw [daysFrom_eq] at finds
  obtain ⟨isDay, fires⟩ := ((inDay_level wellFormed year month).filter _).firstWithin_sound finds
  exact ⟨by simpa using (List.mem_filter.mp isDay).1, fires⟩

theorem daysFrom_firstOf (wellFormed : schedule.WellFormed) {year month : Nat} {bounds : Bounds}
    (dayBound : bounds.lowDay ≤ daysInMonth year month) (hourBound : bounds.lowHour ≤ 23)
    (minuteBound : bounds.lowMinute ≤ 59) (secondBound : bounds.lowSecond ≤ 59) :
    FirstOf (fun found => schedule.FiresInMonth year month found ∧
        monthClock year month
          (bounds.lowDay, bounds.lowHour, bounds.lowMinute, bounds.lowSecond) ≤
            monthClock year month found)
      (monthClock year month) (schedule.daysFrom year month bounds).1 := by
  have reads : schedule.daysFrom year month bounds =
      searchFrom (schedule.inDay year month) .resetDay
        (schedule.daysOfMonth.filter (· ≤ daysInMonth year month)) bounds.lowDay
        { bounds with day := none } := by
    have contains : (schedule.daysOfMonth.filter (· ≤ daysInMonth year month)).contains
        bounds.lowDay = schedule.daysOfMonth.contains bounds.lowDay := by
      simp [dayBound]
    rw [daysFrom_eq, searchFrom, Nat.min_eq_left dayBound, contains]
  rw [reads]
  refine ((inDay_level wellFormed year month).searchFrom_firstOf
    (monthClock year month (bounds.lowDay, bounds.lowHour, bounds.lowMinute, bounds.lowSecond))
    ?_ ?_ ?_ ?_).congr ?_
  · exact ⟨rfl, rfl, rfl⟩
  · intro _
    have first := inDay_firstOf wellFormed year month bounds.lowDay
      (show Bounds.lowMinute { bounds with day := none } ≤ 59 from minuteBound) secondBound
    exact first
  · intro day _ later time fires
    have inside := (dayClock_bounds wellFormed fires.2).1
    have days := dayNumber_lt_of_day_lt year month later
    simp only [monthClock, dayClock, minuteClock] at inside ⊢
    omega
  · intro day _ earlier time fires
    have inside := (dayClock_bounds wellFormed fires.2).2
    have days := dayNumber_lt_of_day_lt year month earlier
    simp only [monthClock, dayClock, minuteClock] at inside ⊢
    omega
  · intro found
    rw [List.mem_filter, decide_eq_true_iff]
    exact and_assoc.symm

/-! ## Months -/

/-- The search below a month. -/
def inMonth (schedule : Schedule) (year month : Nat) (bounds : Bounds) :
    Option (Nat × Nat × Nat × Nat) × Bounds :=
  retry .resetMonth (schedule.daysFrom year month bounds)

theorem findMonth_eq (year : Nat) (months : List Nat) (bounds : Bounds) :
    schedule.findMonth year months bounds = firstWithin (schedule.inMonth year) months bounds := by
  induction months generalizing bounds with
  | nil => rfl
  | cons month rest inductionHypothesis =>
    simp only [findMonth, firstWithin, inMonth]
    rcases schedule.daysFrom year month bounds with ⟨_ | found, left⟩
    · exact inductionHypothesis left.resetMonth
    · rfl

theorem monthsFrom_eq (year : Nat) (bounds : Bounds) :
    schedule.monthsFrom year bounds =
      searchFrom (schedule.inMonth year) .resetMonth schedule.months bounds.lowMonth
        { bounds with month := none } :=
  findMonth_eq _ _ _

theorem FiresInMonth.isDate (wellFormed : schedule.WellFormed) {year : Int} {month : Nat}
    (isMonth : month ∈ schedule.months) {found : Nat × Nat × Nat × Nat}
    (fires : schedule.FiresInMonth year month found) : IsDate year month found.1 := by
  obtain ⟨positive, below⟩ := wellFormed.months.inside month isMonth
  exact ⟨positive, below, (wellFormed.daysOfMonth.inside _ fires.1.1).1, fires.1.2⟩

theorem monthClock_lt {year : Int} {month later : Nat} (found found' : Nat × Nat × Nat × Nat)
    (date : IsDate year month found.1) (date' : IsDate year later found'.1)
    (earlier : month < later) (time : dayClock found.2 < 86400) (time' : 0 ≤ dayClock found'.2) :
    monthClock year month found < monthClock year later found' := by
  have days := dayNumber_lt_of_month_lt date date' earlier
  simp only [monthClock]
  omega

theorem inMonth_level (wellFormed : schedule.WellFormed) (year : Nat) :
    Level (schedule.inMonth year) schedule.months (schedule.FiresInMonth year) (monthClock year)
      Bounds.FreshMonth where
  increasing := wellFormed.months.increasing
  apart := by
    intro month later found found' isMonth isLater earlier fires fires'
    exact monthClock_lt found found' (fires.isDate wellFormed isMonth)
      (fires'.isDate wellFormed isLater) earlier (dayClock_bounds wellFormed fires.2.2).2
      (dayClock_bounds wellFormed fires'.2.2).1
  sound := by
    intro month bounds found _ finds
    rw [inMonth, retry_fst] at finds
    exact daysFrom_sound wellFormed finds
  whole := by
    intro month bounds _ ⟨freshDay, freshHour, freshMinute, freshSecond⟩
    have second : bounds.lowSecond = 0 := freshSecond
    have first : 1 ≤ daysInMonth year month := by
      have bounds := daysInMonth_bounds year month
      omega
    rw [inMonth, retry_fst]
    refine (daysFrom_firstOf wellFormed (by omega) (by omega) (by omega) (by omega)).congr ?_
    intro found
    refine and_iff_left_of_imp fun fires => ?_
    have inside := (dayClock_bounds wellFormed fires.2.2).1
    have positive := (wellFormed.daysOfMonth.inside _ fires.1.1).1
    rw [freshDay, freshHour, freshMinute, second]
    simp only [monthClock, TimeUnit.dayOfMonth, dayNumber_eq_add year month found.1] at positive ⊢
    simp only [dayClock, minuteClock] at inside ⊢
    omega
  afresh := retry_exhausted fun _ => ⟨rfl, rfl, rfl, rfl⟩

/-- A month, a day and a time of day of the schedule in a year. -/
def FiresInYear (schedule : Schedule) (year : Int) (found : Nat × Nat × Nat × Nat × Nat) : Prop :=
  found.1 ∈ schedule.months ∧ schedule.FiresInMonth year found.1 found.2

def yearClock (year : Int) (found : Nat × Nat × Nat × Nat × Nat) : Int :=
  monthClock year found.1 found.2

theorem monthsFrom_sound (wellFormed : schedule.WellFormed) {year : Nat}
    {found : Nat × Nat × Nat × Nat × Nat}
    (finds : (schedule.monthsFrom year bounds).1 = some found) :
    schedule.FiresInYear year found := by
  rw [monthsFrom_eq] at finds
  obtain ⟨isMonth, fires⟩ := ((inMonth_level wellFormed year).filter _).firstWithin_sound finds
  exact ⟨(List.mem_filter.mp isMonth).1, fires⟩

theorem monthsFrom_firstOf (wellFormed : schedule.WellFormed) {year : Nat} {bounds : Bounds}
    (date : IsDate year bounds.lowMonth bounds.lowDay) (hourBound : bounds.lowHour ≤ 23)
    (minuteBound : bounds.lowMinute ≤ 59) (secondBound : bounds.lowSecond ≤ 59) :
    FirstOf (fun found => schedule.FiresInYear year found ∧
        yearClock year (bounds.lowMonth, bounds.lowDay, bounds.lowHour, bounds.lowMinute,
          bounds.lowSecond) ≤ yearClock year found)
      (yearClock year) (schedule.monthsFrom year bounds).1 := by
  have lowTime : 0 ≤ dayClock (bounds.lowHour, bounds.lowMinute, bounds.lowSecond) ∧
      dayClock (bounds.lowHour, bounds.lowMinute, bounds.lowSecond) < 86400 := by
    simp only [dayClock, minuteClock]
    omega
  rw [monthsFrom_eq]
  refine ((inMonth_level wellFormed year).searchFrom_firstOf
    (yearClock year (bounds.lowMonth, bounds.lowDay, bounds.lowHour, bounds.lowMinute,
      bounds.lowSecond)) ?_ ?_ ?_ ?_).congr fun found => and_assoc.symm
  · exact ⟨rfl, rfl, rfl, rfl⟩
  · intro _
    rw [inMonth, retry_fst]
    exact daysFrom_firstOf wellFormed
      (show Bounds.lowDay { bounds with month := none } ≤ _ from date.day_le) hourBound
      minuteBound secondBound
  · intro month isMonth later found fires
    have before := monthClock_lt
      (bounds.lowDay, bounds.lowHour, bounds.lowMinute, bounds.lowSecond) found date
      (fires.isDate wellFormed isMonth) later lowTime.2 (dayClock_bounds wellFormed fires.2.2).1
    exact Int.le_of_lt before
  · intro month isMonth earlier found fires
    exact monthClock_lt found
      (bounds.lowDay, bounds.lowHour, bounds.lowMinute, bounds.lowSecond)
      (fires.isDate wellFormed isMonth) date earlier (dayClock_bounds wellFormed fires.2.2).2
      lowTime.1

/-- When nothing is found in a year, all bounds have been read. -/
theorem monthsFrom_fresh {year : Nat} (nothing : (schedule.monthsFrom year bounds).1 = none) :
    (schedule.monthsFrom year bounds).2.FreshYear := by
  rw [monthsFrom_eq] at nothing ⊢
  have resets (bounds : Bounds) : bounds.resetMonth.FreshYear := ⟨rfl, rfl, rfl, rfl, rfl⟩
  exact searchFrom_exhausted resets (fun _ _ => retry_exhausted resets) nothing

/-! ## Years -/

/-- The civil time that has been found in a year. -/
def civilIn (found : Nat × Nat × Nat × Nat × Nat × Nat) : Civil :=
  ⟨found.1, found.2.1, found.2.2.1, found.2.2.2.1, found.2.2.2.2.1, found.2.2.2.2.2⟩

theorem findYear_eq (years : List Nat) (bounds : Bounds) :
    schedule.findYear years bounds =
      (firstWithin schedule.monthsFrom years bounds).1.map civilIn := by
  induction years generalizing bounds with
  | nil => rfl
  | cons year rest inductionHypothesis =>
    simp only [findYear, firstWithin]
    rcases schedule.monthsFrom year bounds with ⟨_ | found, left⟩
    · exact inductionHypothesis left
    · rfl

theorem toSeconds_civilIn (found : Nat × Nat × Nat × Nat × Nat × Nat) :
    (civilIn found).toSeconds = yearClock found.1 found.2 := by
  simp only [civilIn, Civil.toSeconds, yearClock, monthClock, dayClock, minuteClock]
  omega

theorem civilIn_isValid (wellFormed : schedule.WellFormed) {year : Nat}
    {found : Nat × Nat × Nat × Nat × Nat} (fires : schedule.FiresInYear year found) :
    (civilIn (year, found)).IsValid := by
  obtain ⟨isMonth, ⟨isDay, within⟩, isWeekday, isHour, isMinute, isSecond⟩ := fires
  have months := wellFormed.months.inside _ isMonth
  have days := wellFormed.daysOfMonth.inside _ isDay
  have hours := wellFormed.hours.inside _ isHour
  have minutes := wellFormed.minutes.inside _ isMinute
  have seconds := wellFormed.seconds.inside _ isSecond
  exact ⟨months.1, months.2, days.1, within, hours.2, minutes.2, seconds.2⟩

/-- What is found is a fire time of the schedule. -/
theorem matches_civilIn (wellFormed : schedule.WellFormed)
    (found : Nat × Nat × Nat × Nat × Nat × Nat) :
    schedule.Matches (civilIn found) ↔
      found.1 ∈ schedule.years ∧ schedule.FiresInYear found.1 found.2 := by
  constructor
  · rintro ⟨⟨-, -, -, within, -⟩, ⟨isYear, -, isMonth, isDay, isWeekday⟩, isTime⟩
    exact ⟨isYear, isMonth, ⟨isDay, within⟩, isWeekday, isTime⟩
  · rintro ⟨isYear, fires⟩
    have valid := civilIn_isValid wellFormed fires
    obtain ⟨isMonth, ⟨isDay, within⟩, isWeekday, isTime⟩ := fires
    exact ⟨valid, ⟨isYear, Int.natCast_nonneg _, isMonth, isDay, isWeekday⟩, isTime⟩

/-- Every time from the year 0 on is of this form. -/
theorem exists_civilIn {time : Civil} (nonneg : 0 ≤ time.year) :
    ∃ found, civilIn found = time := by
  refine ⟨(time.year.toNat, time.month, time.day, time.hour, time.minute, time.second), ?_⟩
  have year : (time.year.toNat : Int) = time.year := Int.toNat_of_nonneg nonneg
  simp only [civilIn, year]

theorem years_level (wellFormed : schedule.WellFormed) :
    Level schedule.monthsFrom schedule.years (fun year => schedule.FiresInYear year)
      (fun year => yearClock year) Bounds.FreshYear where
  increasing := wellFormed.years.increasing
  apart := by
    intro year later found found' _ _ earlier fires fires'
    rw [← toSeconds_civilIn (year, found), ← toSeconds_civilIn (later, found')]
    exact Civil.toSeconds_lt_of_year_lt (civilIn_isValid wellFormed fires)
      (civilIn_isValid wellFormed fires') (Int.ofNat_lt.mpr earlier)
  sound := by
    intro year bounds found _ finds
    exact monthsFrom_sound wellFormed finds
  whole := by
    intro year bounds _ ⟨freshMonth, freshDay, freshHour, freshMinute, freshSecond⟩
    have second : bounds.lowSecond = 0 := freshSecond
    have date : IsDate year bounds.lowMonth bounds.lowDay := by
      rw [freshMonth, freshDay]
      exact (Civil.newYear_isValid year).isDate
    refine (monthsFrom_firstOf wellFormed date (by omega) (by omega) (by omega)).congr ?_
    intro found
    refine and_iff_left_of_imp fun fires => ?_
    rw [freshMonth, freshDay, freshHour, freshMinute, second,
      ← toSeconds_civilIn (year, 1, 1, 0, 0, 0), ← toSeconds_civilIn (year, found)]
    exact Civil.newYear_le (civilIn_isValid wellFormed fires) (Int.le_refl _)
  afresh := monthsFrom_fresh

end Schedule

end WorkHost.Cron

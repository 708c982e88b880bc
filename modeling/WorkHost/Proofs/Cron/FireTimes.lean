import WorkHost.Cron.Job
import WorkHost.Proofs.Cron.Search

/-!
Contract: the fire times of a schedule, one after the other.

What the search finds always fires (`nextAfter_sound`), and nothing is missed if the search
starts in a year of the schedule (`Covers.isNext`). In a skipped year the bounds of the start
remain for the first year that is searched. After a fire time this does no harm, since the
next second lies in the same year or is the first one of a year, which bounds nothing
(`FiresAt.isNext`). So the fire times that are searched one from the other are all there are
(`firesAfter_lists`).
-/

namespace WorkHost.Cron

open WorkHost.Calendar

namespace Schedule

variable {schedule : Schedule}

/-! ## The search from a second on -/

/-- From a time in one of the years on. -/
theorem yearsFrom_firstOf (wellFormed : schedule.WellFormed)
    {start : Nat × Nat × Nat × Nat × Nat × Nat} (valid : (civilIn start).IsValid)
    (isYear : start.1 ∈ schedule.years) :
    FirstOf (fun found => found.1 ∈ schedule.years ∧ schedule.FiresInYear found.1 found.2 ∧
        yearClock start.1 start.2 ≤ yearClock found.1 found.2)
      (fun found => yearClock found.1 found.2)
      (firstWithin schedule.monthsFrom (schedule.years.filter (start.1 ≤ ·))
        (.ofCivil (civilIn start))).1 := by
  have contains : schedule.years.contains start.1 = true := by simpa using isYear
  have reads : firstWithin schedule.monthsFrom (schedule.years.filter (start.1 ≤ ·))
      (.ofCivil (civilIn start)) =
        searchFrom schedule.monthsFrom .resetMonth schedule.years start.1
          (.ofCivil (civilIn start)) := by
    rw [searchFrom, if_pos contains]
  have clock := valid.2.2.2.2
  have first := @monthsFrom_firstOf schedule wellFormed start.1 (.ofCivil (civilIn start))
    valid.isDate clock.1 clock.2.1 clock.2.2
  rw [reads]
  apply (years_level wellFormed).searchFrom_firstOf
  · exact ⟨rfl, rfl, rfl, rfl, rfl⟩
  · exact fun _ => first
  · intro year _ later found fires
    rw [← toSeconds_civilIn start, ← toSeconds_civilIn (year, found)]
    exact (Civil.toSeconds_lt_of_year_lt valid (civilIn_isValid wellFormed fires)
      (Int.ofNat_lt.mpr later)).le
  · intro year _ earlier found fires
    rw [← toSeconds_civilIn start, ← toSeconds_civilIn (year, found)]
    exact Civil.toSeconds_lt_of_year_lt (civilIn_isValid wellFormed fires) valid
      (Int.ofNat_lt.mpr earlier)

/-- From the first second of any year on. -/
theorem yearsFrom_firstOf_newYear (wellFormed : schedule.WellFormed) (year : Nat) :
    FirstOf (fun found => found.1 ∈ schedule.years ∧ schedule.FiresInYear found.1 found.2 ∧
        yearClock year (1, 1, 0, 0, 0) ≤ yearClock found.1 found.2)
      (fun found => yearClock found.1 found.2)
      (firstWithin schedule.monthsFrom (schedule.years.filter (year ≤ ·))
        (.ofCivil (.newYear year))).1 := by
  have fresh : (Bounds.ofCivil (.newYear year)).FreshYear := ⟨rfl, rfl, rfl, rfl, rfl⟩
  refine (((years_level wellFormed).filter _).firstWithin_firstOf fresh).congr ?_
  rintro ⟨later, found⟩
  rw [List.mem_filter, decide_eq_true_iff, and_assoc, ← toSeconds_civilIn (year, 1, 1, 0, 0, 0),
    ← toSeconds_civilIn (later, found)]
  refine and_congr_right fun isYear => ?_
  constructor
  · rintro ⟨reached, fires⟩
    exact ⟨fires, Civil.newYear_le (civilIn_isValid wellFormed fires) (Int.ofNat_le.mpr reached)⟩
  · rintro ⟨fires, bound⟩
    refine ⟨?_, fires⟩
    by_contra unreached
    have before := Civil.toSeconds_lt_of_year_lt (civilIn_isValid wellFormed fires)
      (Civil.newYear_isValid year) (Int.ofNat_lt.mpr (Nat.lt_of_not_le unreached))
    exact absurd bound (Int.not_le.mpr before)

/-- The search finds what fires first from a time in a scheduled year on, or from the start of
any year. -/
theorem nextFrom_firstOf (wellFormed : schedule.WellFormed) {start : Civil}
    (valid : start.IsValid) (nonneg : 0 ≤ start.year)
    (bound : start.year.toNat ∈ schedule.years ∨ start = .newYear start.year) :
    FirstOf (fun time => schedule.Matches time ∧ start.toSeconds ≤ time.toSeconds)
      Civil.toSeconds (schedule.nextFrom start) := by
  obtain ⟨first, rfl⟩ := exists_civilIn nonneg
  have search : FirstOf (fun found => found.1 ∈ schedule.years ∧
        schedule.FiresInYear found.1 found.2 ∧
        yearClock first.1 first.2 ≤ yearClock found.1 found.2)
      (fun found => yearClock found.1 found.2)
      (firstWithin schedule.monthsFrom (schedule.years.filter (first.1 ≤ ·))
        (.ofCivil (civilIn first))).1 := by
    rcases bound with isYear | isNew
    · exact yearsFrom_firstOf wellFormed valid isYear
    · obtain ⟨year, month, day, hour, minute, second⟩ := first
      simp only [civilIn, Civil.newYear, Civil.mk.injEq] at isNew
      obtain ⟨-, rfl, rfl, rfl, rfl, rfl⟩ := isNew
      exact yearsFrom_firstOf_newYear wellFormed year
  rw [nextFrom, if_neg (Int.not_lt.mpr nonneg), findYear_eq]
  refine search.map civilIn ?_ ?_ toSeconds_civilIn
  · rintro found ⟨isYear, fires, later⟩
    rw [matches_civilIn wellFormed, toSeconds_civilIn, toSeconds_civilIn]
    exact ⟨⟨isYear, fires⟩, later⟩
  · rintro time ⟨fires, later⟩
    obtain ⟨found, rfl⟩ := exists_civilIn fires.2.1.2.1
    rw [matches_civilIn wellFormed] at fires
    rw [toSeconds_civilIn, toSeconds_civilIn] at later
    exact ⟨found, ⟨fires.1, fires.2, later⟩, rfl⟩

/-- Whatever is found fires, and not before the start. -/
theorem nextFrom_sound (wellFormed : schedule.WellFormed) {start found : Civil}
    (valid : start.IsValid) (finds : schedule.nextFrom start = some found) :
    schedule.Matches found ∧ start.toSeconds ≤ found.toSeconds := by
  by_cases nonneg : 0 ≤ start.year
  · by_cases isYear : start.year.toNat ∈ schedule.years
    · have first := nextFrom_firstOf wellFormed valid nonneg (.inl isYear)
      rw [finds] at first
      exact first.1
    · obtain ⟨first, rfl⟩ := exists_civilIn nonneg
      rw [nextFrom, if_neg (Int.not_lt.mpr nonneg), findYear_eq] at finds
      obtain ⟨⟨year, later⟩, search, rfl⟩ := Option.map_eq_some_iff.mp finds
      obtain ⟨isLater, fires⟩ := ((years_level wellFormed).filter _).firstWithin_sound search
      obtain ⟨isScheduled, reached⟩ := List.mem_filter.mp isLater
      have other : first.1 ≠ year := by
        rintro rfl
        exact isYear isScheduled
      have after : first.1 < year := Nat.lt_of_le_of_ne (of_decide_eq_true reached) other
      refine ⟨(matches_civilIn wellFormed _).mpr ⟨isScheduled, fires⟩, ?_⟩
      exact (Civil.toSeconds_lt_of_year_lt valid (civilIn_isValid wellFormed fires)
        (Int.ofNat_lt.mpr after)).le
  · rw [nextFrom, if_pos (Int.not_le.mp nonneg)] at finds
    cases finds

/-! ## The search after an instant -/

/-- The schedule fires at the instant, which is a whole second. -/
def FiresAt (schedule : Schedule) (instant : Instant) : Prop :=
  instant.nanos = 0 ∧ schedule.Matches instant.civil

/-- The second after the instant lies in a year of the schedule. -/
def Covers (schedule : Schedule) (after : Instant) : Prop :=
  (Civil.ofSeconds (after.seconds + 1)).year.toNat ∈ schedule.years

/-- The result is the first instant after another at which the schedule fires, or there is
none. Fire times are whole seconds, which order them. -/
def IsNext (schedule : Schedule) (after : Instant) : Option Instant → Prop :=
  FirstOf (fun fire => schedule.FiresAt fire ∧ after.IsBefore fire) Instant.seconds

theorem FiresAt.ofCivil_civil {fire : Instant} (fires : schedule.FiresAt fire) :
    Instant.ofCivil fire.civil = fire := by
  obtain ⟨seconds, nanos⟩ := fire
  obtain ⟨whole, -⟩ := fires
  simp only [Instant.ofCivil, Instant.civil, Civil.toSeconds_ofSeconds, Instant.mk.injEq, true_and]
  exact whole.symm

theorem firesAt_ofCivil {time : Civil} (fires : schedule.Matches time) :
    schedule.FiresAt (.ofCivil time) := by
  refine ⟨rfl, ?_⟩
  rwa [Instant.civil, Instant.ofCivil, Civil.ofSeconds_toSeconds fires.1]

/-- What the search reaches is what comes after the instant. -/
theorem isBefore_ofCivil (after : Instant) (time : Civil) :
    after.IsBefore (.ofCivil time) ↔
      (Civil.ofSeconds (after.seconds + 1)).toSeconds ≤ time.toSeconds := by
  rw [Instant.isBefore_iff_of_whole rfl, Civil.toSeconds_ofSeconds]
  exact Int.lt_iff_add_one_le

theorem nextAfter_sound (wellFormed : schedule.WellFormed) {after fire : Instant}
    (finds : schedule.nextAfter after = some fire) :
    after.IsBefore fire ∧ schedule.FiresAt fire := by
  obtain ⟨time, search, rfl⟩ := Option.map_eq_some_iff.mp finds
  obtain ⟨fires, later⟩ := nextFrom_sound wellFormed (Civil.ofSeconds_isValid _) search
  exact ⟨(isBefore_ofCivil after time).mpr later, firesAt_ofCivil fires⟩

theorem nextAfter_isNext (wellFormed : schedule.WellFormed) {after : Instant}
    (nonneg : 0 ≤ (Civil.ofSeconds (after.seconds + 1)).year)
    (bound : schedule.Covers after ∨ ∃ year, Civil.ofSeconds (after.seconds + 1) = .newYear year) :
    schedule.IsNext after (schedule.nextAfter after) := by
  refine (nextFrom_firstOf wellFormed (Civil.ofSeconds_isValid _) nonneg ?_).map Instant.ofCivil
    ?_ ?_ fun _ => rfl
  · rcases bound with covered | ⟨year, isNew⟩
    · exact .inl covered
    · rw [isNew]
      exact .inr rfl
  · rintro time ⟨fires, later⟩
    exact ⟨firesAt_ofCivil fires, (isBefore_ofCivil after time).mpr later⟩
  · rintro fire ⟨fires, later⟩
    rw [← fires.ofCivil_civil, isBefore_ofCivil] at later
    exact ⟨fire.civil, ⟨fires.2, later⟩, fires.ofCivil_civil⟩

theorem Covers.isNext (wellFormed : schedule.WellFormed) {after : Instant}
    (covered : schedule.Covers after) : schedule.IsNext after (schedule.nextAfter after) := by
  have inside := (wellFormed.years.inside _ covered).1
  simp only [TimeUnit.year] at inside
  exact nextAfter_isNext wellFormed (by omega) (.inl covered)

/-- In a skipped year the bounds of the start remain: the months before them are missed. -/
example : (parse? "0 0 0 1 * * 2030").bind (·.nextAfter (.ofCivil ⟨2026, 6, 15, 0, 0, 0⟩)) =
    some (.ofCivil ⟨2030, 7, 1, 0, 0, 0⟩) := by
  decide +kernel

/-! ## From one fire time to the next -/

theorem FiresAt.isNext (wellFormed : schedule.WellFormed) {fire : Instant}
    (fires : schedule.FiresAt fire) : schedule.IsNext fire (schedule.nextAfter fire) := by
  obtain ⟨isYear, nonneg, -⟩ := fires.2.2.1
  rcases Civil.ofSeconds_succ fire.seconds with sameYear | isNew
  · have covered : schedule.Covers fire := by
      rw [Covers, sameYear]
      exact isYear
    exact covered.isNext wellFormed
  · refine nextAfter_isNext wellFormed ?_ (.inr ⟨_, isNew⟩)
    rw [isNew]
    exact nonneg.trans (Int.le_add_one (Int.le_refl _))

/-- Up to `count` instants after another at which the schedule fires: the first ones, and all
of them if there are fewer. -/
structure ListsFires (schedule : Schedule) (after : Instant) (count : Nat)
    (fires : List Instant) : Prop where
  increasing : (after :: fires).Pairwise Instant.IsBefore
  sound : ∀ fire ∈ fires, schedule.FiresAt fire
  complete : ∀ other, schedule.FiresAt other → after.IsBefore other →
    other ∈ fires ∨ fires.length = count ∧ ∀ fire ∈ fires, fire.IsBefore other

namespace ListsFires

theorem zero (schedule : Schedule) (after : Instant) : schedule.ListsFires after 0 [] where
  increasing := List.pairwise_singleton _ _
  sound := List.forall_mem_nil _
  complete _ _ _ := .inr ⟨rfl, List.forall_mem_nil _⟩

theorem none {after : Instant} (nothing : schedule.IsNext after none) (count : Nat) :
    schedule.ListsFires after count [] where
  increasing := List.pairwise_singleton _ _
  sound := List.forall_mem_nil _
  complete other fires later := absurd ⟨fires, later⟩ (nothing other)

theorem cons {after next : Instant} (isNext : schedule.IsNext after (some next)) {count : Nat}
    {fires : List Instant} (rest : schedule.ListsFires next count fires) :
    schedule.ListsFires after (count + 1) (next :: fires) := by
  obtain ⟨⟨nextFires, isLater⟩, least⟩ := isNext
  have above := (List.pairwise_cons.mp rest.increasing).1
  refine ⟨List.pairwise_cons.mpr ⟨?_, rest.increasing⟩, ?_, ?_⟩
  · exact List.forall_mem_cons.mpr ⟨isLater, fun fire isFire => isLater.trans (above fire isFire)⟩
  · exact List.forall_mem_cons.mpr ⟨nextFires, rest.sound⟩
  · intro other otherFires later
    rcases (least other ⟨otherFires, later⟩).lt_or_eq with earlier | same
    · have before := (Instant.isBefore_iff_of_whole otherFires.1).mpr earlier
      refine (rest.complete other otherFires before).imp (List.mem_cons_of_mem _) ?_
      rintro ⟨full, all⟩
      exact ⟨congrArg (· + 1) full, List.forall_mem_cons.mpr ⟨before, all⟩⟩
    · have isOther : other = next :=
        Instant.eq_of_whole otherFires.1 nextFires.1 same.symm
      exact .inl (isOther ▸ List.mem_cons_self)

end ListsFires

theorem firesAfter_succ (schedule : Schedule) (after : Instant) (count : Nat) :
    schedule.firesAfter after (count + 1) =
      match schedule.nextAfter after with
      | some fire => fire :: schedule.firesAfter fire count
      | none => [] := by
  rfl

/-- What is searched from one fire time to the next is all that there is. -/
theorem firesAfter_lists (wellFormed : schedule.WellFormed) {fire : Instant}
    (fires : schedule.FiresAt fire) (count : Nat) :
    schedule.ListsFires fire count (schedule.firesAfter fire count) := by
  induction count generalizing fire with
  | zero => exact .zero schedule fire
  | succ count inductionHypothesis =>
    have isNext := fires.isNext wellFormed
    rw [firesAfter_succ]
    generalize schedule.nextAfter fire = result at isNext
    cases result with
    | none => exact .none isNext _
    | some next => exact .cons isNext (inductionHypothesis isNext.1.1)

/-- Every later fire time is reached. -/
theorem exists_mem_firesAfter (wellFormed : schedule.WellFormed) {fire other : Instant}
    (fires : schedule.FiresAt fire) (otherFires : schedule.FiresAt other)
    (later : fire.IsBefore other) : ∃ count, other ∈ schedule.firesAfter fire count := by
  have lists := firesAfter_lists wellFormed fires (other.seconds - fire.seconds).toNat
  refine ⟨_, (lists.complete other otherFires later).resolve_right ?_⟩
  rintro ⟨full, all⟩
  have whole : ∀ next ∈ schedule.firesAfter fire _, next.nanos = 0 :=
    fun next isNext => (lists.sound next isNext).1
  have room := Instant.add_length_lt lists.increasing whole otherFires.1
    (List.forall_mem_cons.mpr ⟨later, all⟩)
  omega

end Schedule

/-- Whatever an accepted expression is searched for after an instant fires, and is the next
fire time if the search starts in one of its years. From there on the search goes through all
fire times. -/
theorem Job.nextAfter_enumerates {name expression : String} {job : Job}
    (accepted : Job.parse name expression = .ok job) (after : Instant) :
    (∀ fire, job.nextAfter after = some fire →
      after.IsBefore fire ∧ job.schedule.FiresAt fire) ∧
    (job.schedule.Covers after → job.schedule.IsNext after (job.nextAfter after)) ∧
    (Schedule.leavesOutYears expression = true →
      1970 ≤ (Civil.ofSeconds (after.seconds + 1)).year →
      (Civil.ofSeconds (after.seconds + 1)).year ≤ 2100 → job.schedule.Covers after) ∧
    ∀ fire, job.nextAfter after = some fire →
      job.schedule.IsNext fire (job.nextAfter fire) ∧
      (∀ count, job.schedule.ListsFires fire count (job.schedule.firesAfter fire count)) ∧
      ∀ other, job.schedule.FiresAt other → fire.IsBefore other →
        ∃ count, other ∈ job.schedule.firesAfter fire count := by
  have parses := Job.schedule_of_parse accepted
  have wellFormed := Schedule.parse?_wellFormed parses
  refine ⟨?_, Schedule.Covers.isNext wellFormed, ?_, ?_⟩
  · intro fire finds
    exact Schedule.nextAfter_sound wellFormed finds
  · intro leavesOut first last
    rw [Schedule.Covers, Schedule.years_of_leavesOutYears parses leavesOut, TimeUnit.mem_values]
    simp only [TimeUnit.year]
    omega
  · intro fire finds
    have fires := (Schedule.nextAfter_sound wellFormed finds).2
    exact ⟨fires.isNext wellFormed, Schedule.firesAfter_lists wellFormed fires,
      fun other => Schedule.exists_mem_firesAfter wellFormed fires⟩

/-- Two leap days that are Mondays lie 28 years apart. -/
theorem Job.nextAfter_enumerates_leapMondays :
    ∃ job, Job.parse "leap" "0 0 0 29 2 Mon" = .ok job ∧
      job.schedule.IsNext (.ofCivil ⟨2024, 1, 1, 0, 0, 0⟩)
        (some (.ofCivil ⟨2044, 2, 29, 0, 0, 0⟩)) ∧
      job.schedule.IsNext (.ofCivil ⟨2044, 2, 29, 0, 0, 0⟩)
        (some (.ofCivil ⟨2072, 2, 29, 0, 0, 0⟩)) := by
  obtain ⟨job, isJob⟩ : ∃ job : Job, job =
      ⟨"leap", ⟨[0], [0], [0], [29], [2], [2], TimeUnit.year.values⟩⟩ := ⟨_, rfl⟩
  have accepted : Job.parse "leap" "0 0 0 29 2 Mon" = .ok job := by
    subst isJob
    decide +kernel
  have first : job.nextAfter (.ofCivil ⟨2024, 1, 1, 0, 0, 0⟩) =
      some (.ofCivil ⟨2044, 2, 29, 0, 0, 0⟩) := by
    subst isJob
    decide +kernel
  have second : job.nextAfter (.ofCivil ⟨2044, 2, 29, 0, 0, 0⟩) =
      some (.ofCivil ⟨2072, 2, 29, 0, 0, 0⟩) := by
    subst isJob
    decide +kernel
  obtain ⟨-, isNext, covers, onwards⟩ := Job.nextAfter_enumerates accepted
    (.ofCivil ⟨2024, 1, 1, 0, 0, 0⟩)
  have next := isNext (covers (by decide +kernel) (by decide +kernel) (by decide +kernel))
  have following := (onwards _ first).1
  rw [first] at next
  rw [second] at following
  exact ⟨job, accepted, next, following⟩

end WorkHost.Cron

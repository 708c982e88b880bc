import Mathlib.Data.List.Basic
import WorkHost.Host.Scheduler
import WorkHost.Proofs.Calendar.Days

/-!
Contract: which job of an agenda is due.

`Agenda.IsDue` says it without a search: the job at the place has a pending time, no job has
an earlier one, and no job before it has the same. The search finds exactly that job
(`due?_eq_some_iff`), and nothing only if no job has a pending time (`due?_eq_none_iff`).
-/

namespace WorkHost

open Calendar

namespace Calendar.Instant

theorem le_iff {first second : Instant} :
    first.le second = true ↔ first.seconds < second.seconds ∨
      first.seconds = second.seconds ∧ first.nanos ≤ second.nanos := by
  simp only [le, Bool.or_eq_true, decide_eq_true_eq, Bool.and_eq_true, beq_iff_eq]

theorem le_refl (instant : Instant) : instant.le instant = true :=
  le_iff.mpr (.inr ⟨rfl, Nat.le_refl _⟩)

theorem le_trans {first second third : Instant} (earlier : first.le second = true)
    (later : second.le third = true) : first.le third = true := by
  rw [le_iff] at earlier later ⊢
  omega

theorem le_antisymm {first second : Instant} (forth : first.le second = true)
    (back : second.le first = true) : first = second := by
  rw [le_iff] at forth back
  obtain ⟨seconds, nanos⟩ := first
  obtain ⟨seconds', nanos'⟩ := second
  simp only [mk.injEq] at forth back ⊢
  omega

theorem IsBefore.le {first second : Instant} (earlier : first.IsBefore second) :
    first.le second = true := by
  rw [isBefore_iff] at earlier
  rw [le_iff]
  omega

theorem not_isBefore_iff {first second : Instant} :
    ¬ first.IsBefore second ↔ second.le first = true := by
  rw [IsBefore, Bool.not_eq_false]

theorem IsBefore.of_le {first second third : Instant} (earlier : first.le second = true)
    (later : second.IsBefore third) : first.IsBefore third := by
  rw [le_iff] at earlier
  rw [isBefore_iff] at later ⊢
  omega

theorem le_max_left (first second : Instant) : first.le (first.max second) = true := by
  unfold max
  split
  · assumption
  · exact le_refl first

/-- What lies after both of two instants lies after the later one. -/
theorem isBefore_of_max {first second third : Instant} (after : first.IsBefore third)
    (after' : second.IsBefore third) : (first.max second).IsBefore third := by
  unfold max
  split <;> assumption

end Calendar.Instant

namespace Agenda

/-- The job at a place waits for a time. -/
def PendingAt (agenda : Agenda) (place : Nat) (time : Instant) : Prop :=
  ∃ pending, agenda[place]? = some pending ∧ pending.next = some time

/-- The job at a place is the next one to fire: of the jobs with the least pending time it was
added first. -/
structure IsDue (agenda : Agenda) (place : Nat) (time : Instant) : Prop where
  pending : agenda.PendingAt place time
  least : ∀ other later, agenda.PendingAt other later → time.le later = true
  first : ∀ other, agenda.PendingAt other time → place ≤ other

/-- The pending times with the places of their jobs. -/
def candidates (agenda : Agenda) : List (Nat × Instant) :=
  agenda.zipIdx.filterMap fun (pending, place) => pending.next.map (place, ·)

theorem due?_eq (agenda : Agenda) : agenda.due? = agenda.candidates.foldl earlier none := rfl

theorem mem_candidates (agenda : Agenda) (place : Nat) (time : Instant) :
    (place, time) ∈ agenda.candidates ↔ agenda.PendingAt place time := by
  simp only [candidates, PendingAt, List.mem_filterMap, Prod.exists, List.mem_zipIdx_iff_getElem?,
    Option.map_eq_some_iff, Prod.mk.injEq]
  constructor
  · rintro ⟨pending, place', found, time', next, rfl, rfl⟩
    exact ⟨pending, found, next⟩
  · rintro ⟨pending, found, next⟩
    exact ⟨pending, place, found, time, next, rfl, rfl⟩

theorem candidates_ascend (agenda : Agenda) :
    agenda.candidates.Pairwise fun first second => first.1 < second.1 := by
  have places : (agenda.zipIdx.map Prod.snd).Pairwise (· < ·) := by
    rw [List.zipIdx_map_snd]
    exact List.pairwise_lt_range'
  refine List.Pairwise.filterMap _ ?_ (List.pairwise_map.mp places)
  rintro ⟨pending, place⟩ ⟨pending', place'⟩ ascends candidate found candidate' found'
  obtain ⟨time, -, rfl⟩ := Option.map_eq_some_iff.mp found
  obtain ⟨time', -, rfl⟩ := Option.map_eq_some_iff.mp found'
  exact ascends

/-- A candidate of a list than which none is earlier, nor any before it as early. -/
structure Chosen (best : Nat × Instant) (candidates : List (Nat × Instant)) : Prop where
  member : best ∈ candidates
  least : ∀ candidate ∈ candidates, best.2.le candidate.2 = true
  first : ∀ candidate ∈ candidates, candidate.2 = best.2 → best.1 ≤ candidate.1

namespace Chosen

variable {chosen best next : Nat × Instant} {rest : List (Nat × Instant)}

theorem singleton (best : Nat × Instant) : Chosen best [best] where
  member := List.mem_singleton_self best
  least candidate member := by
    rw [List.mem_singleton.mp member]
    exact Instant.le_refl _
  first candidate member _ := by
    rw [List.mem_singleton.mp member]

/-- A later candidate that is not earlier in time changes nothing. -/
theorem insert (isChosen : Chosen chosen (best :: rest)) (order : best.2.le next.2 = true)
    (place : best.1 < next.1) : Chosen chosen (best :: next :: rest) where
  member := by
    rcases List.mem_cons.mp isChosen.member with isBest | isRest
    · exact isBest ▸ List.mem_cons_self
    · exact List.mem_cons_of_mem _ (List.mem_cons_of_mem _ isRest)
  least candidate member := by
    have beatsBest := isChosen.least best List.mem_cons_self
    rcases List.mem_cons.mp member with rfl | isLater
    · exact beatsBest
    · rcases List.mem_cons.mp isLater with rfl | isRest
      · exact Instant.le_trans beatsBest order
      · exact isChosen.least candidate (List.mem_cons_of_mem _ isRest)
  first candidate member same := by
    rcases List.mem_cons.mp member with rfl | isLater
    · exact isChosen.first _ List.mem_cons_self same
    · rcases List.mem_cons.mp isLater with rfl | isRest
      · have beatsBest := isChosen.least best List.mem_cons_self
        have tied : best.2 = chosen.2 := Instant.le_antisymm (same ▸ order) beatsBest
        exact (isChosen.first best List.mem_cons_self tied).trans place.le
      · exact isChosen.first candidate (List.mem_cons_of_mem _ isRest) same

/-- A candidate that is later in time than the next one is passed over. -/
theorem cons (isChosen : Chosen chosen (next :: rest)) (order : next.2.IsBefore best.2) :
    Chosen chosen (best :: next :: rest) := by
  have earlier : chosen.2.IsBefore best.2 :=
    Instant.IsBefore.of_le (isChosen.least next List.mem_cons_self) order
  refine ⟨List.mem_cons_of_mem _ isChosen.member, ?_, ?_⟩
  · intro candidate member
    rcases List.mem_cons.mp member with rfl | isLater
    · exact earlier.le
    · exact isChosen.least candidate isLater
  · intro candidate member same
    rcases List.mem_cons.mp member with rfl | isLater
    · rw [same] at earlier
      exact absurd earlier (Instant.not_isBefore_iff.mpr (Instant.le_refl _))
    · exact isChosen.first candidate isLater same

end Chosen

theorem foldl_earlier {best : Nat × Instant} {candidates : List (Nat × Instant)}
    (ascend : (best :: candidates).Pairwise fun first second => first.1 < second.1) :
    ∃ chosen, candidates.foldl earlier (some best) = some chosen ∧
      Chosen chosen (best :: candidates) := by
  induction candidates generalizing best with
  | nil => exact ⟨best, rfl, .singleton best⟩
  | cons next rest inductionHypothesis =>
    obtain ⟨above, ascendRest⟩ := List.pairwise_cons.mp ascend
    rw [List.foldl_cons, earlier]
    cases order : best.2.le next.2 with
    | true =>
      rw [if_pos rfl]
      have ascendBest : (best :: rest).Pairwise fun first second => first.1 < second.1 :=
        ascend.sublist ((List.sublist_cons_self next rest).cons_cons best)
      obtain ⟨chosen, folds, isChosen⟩ := inductionHypothesis ascendBest
      exact ⟨chosen, folds, isChosen.insert order (above next List.mem_cons_self)⟩
    | false =>
      rw [if_neg Bool.false_ne_true]
      obtain ⟨chosen, folds, isChosen⟩ := inductionHypothesis ascendRest
      exact ⟨chosen, folds, isChosen.cons order⟩

theorem due?_eq_none_iff (agenda : Agenda) :
    agenda.due? = none ↔ ∀ place time, ¬ agenda.PendingAt place time := by
  rw [due?_eq]
  constructor
  · intro nothing place time pending
    have member := (mem_candidates agenda place time).mpr pending
    cases listed : agenda.candidates with
    | nil => simp [listed] at member
    | cons best rest =>
      have ascend := agenda.candidates_ascend
      rw [listed] at ascend nothing
      obtain ⟨chosen, folds, -⟩ := foldl_earlier ascend
      rw [List.foldl_cons, earlier, folds] at nothing
      cases nothing
  · intro nothing
    have empty : agenda.candidates = [] := by
      rw [List.eq_nil_iff_forall_not_mem]
      rintro ⟨place, time⟩ member
      exact nothing place time ((mem_candidates agenda place time).mp member)
    rw [empty]
    rfl

theorem isDue_of_due? {agenda : Agenda} {place : Nat} {time : Instant}
    (due : agenda.due? = some (place, time)) : agenda.IsDue place time := by
  rw [due?_eq] at due
  cases listed : agenda.candidates with
  | nil =>
    rw [listed] at due
    cases due
  | cons best rest =>
    have ascend := agenda.candidates_ascend
    rw [listed] at ascend due
    obtain ⟨chosen, folds, member, least, first⟩ := foldl_earlier ascend
    rw [List.foldl_cons, earlier, folds] at due
    obtain rfl := Option.some.inj due
    rw [← listed] at member least first
    refine ⟨(mem_candidates agenda place time).mp member, ?_, ?_⟩
    · intro other later pending
      exact least (other, later) ((mem_candidates agenda other later).mpr pending)
    · intro other pending
      exact first (other, time) ((mem_candidates agenda other time).mpr pending) rfl

/-- Only one job is due at a time. -/
theorem IsDue.unique {agenda : Agenda} {place place' : Nat} {time time' : Instant}
    (isDue : agenda.IsDue place time) (isDue' : agenda.IsDue place' time') :
    place = place' ∧ time = time' := by
  have same : time = time' := Instant.le_antisymm (isDue.least _ _ isDue'.pending)
    (isDue'.least _ _ isDue.pending)
  subst same
  exact ⟨Nat.le_antisymm (isDue.first _ isDue'.pending) (isDue'.first _ isDue.pending), rfl⟩

theorem due?_eq_some_iff (agenda : Agenda) (place : Nat) (time : Instant) :
    agenda.due? = some (place, time) ↔ agenda.IsDue place time := by
  refine ⟨isDue_of_due?, fun isDue => ?_⟩
  cases found : agenda.due? with
  | none => exact absurd isDue.pending ((due?_eq_none_iff agenda).mp found place time)
  | some other =>
    obtain ⟨rfl, rfl⟩ := isDue.unique (isDue_of_due? found)
    rfl

/-! ## Pending times -/

@[simp]
theorem getElem?_start (clock : Instant) (jobs : List Cron.Job) (place : Nat) :
    (start clock jobs)[place]? = jobs[place]?.map fun job => ⟨job, job.nextAfter clock⟩ :=
  List.getElem?_map

/-- Only the job that has fired gets another time. -/
theorem getElem?_reschedule (agenda : Agenda) (place other : Nat) (fired clock : Instant) :
    (agenda.reschedule place fired clock)[other]? =
      agenda[other]?.map fun pending =>
        if place = other then { pending with next := pending.job.nextAfter (fired.max clock) }
        else pending := by
  rw [reschedule, List.getElem?_modify]
  split <;> simp

end Agenda

end WorkHost

import Mathlib.Data.List.Nodup
import WorkHost.Proofs.Scope.Annals

/-!
Contract: what can have happened in a scope, and which instances it leaves live.

A constructor takes the next serial and may have obtained live instances only; what is
disposed is the newest live instance (`Story`). So the live instances are those that were
constructed and not disposed, the newest first (`Story.live_eq`), none is disposed twice
(`Story.endedIn_nodup`) or before one that obtained it (`Story.ended_of_obtained`), and
each hook is the one registered with the constructor (`Story.built_of_hooked`).
-/

namespace WorkHost

/-- The instance obtained the other one from its scope. -/
def Instance.Obtained (held used : Instance) : Prop :=
  (used.type, used.serial) ∈ held.dependencies

/-- Everything that an instance remembers is live. -/
def Instance.Draws (held : Instance) (live : List Instance) : Prop :=
  ∀ dependency ∈ held.dependencies, ∃ used ∈ live, (used.type, used.serial) = dependency

/-- What can have happened in a scope of the services: the serial that comes next, the past
and the live instances, the newest first. -/
inductive Story (services : List Service) : Nat → List Occurrence → List Instance → Prop where
  | opened (next : Nat) : Story services next [] []
  /-- Serials are taken elsewhere. -/
  | elsewhere {next later : Nat} {past : List Occurrence} {live : List Instance} :
    Story services next past live → next ≤ later → Story services later past live
  /-- Something happens that concerns no instance. -/
  | aside {next : Nat} {past : List Occurrence} {live : List Instance}
    {occurrence : Occurrence} :
    Story services next past live → occurrence.built? = none → occurrence.ended? = none →
      Story services next (past ++ [occurrence]) live
  | built {next : Nat} {past : List Occurrence} {live : List Instance} {service : Service}
    {held : Instance} :
    Story services next past live → findService? services held.type = some service →
      held.serial = next → held.Draws live →
        Story services (next + 1) (past ++ [.built service held]) (held :: live)
  | ended {next : Nat} {past : List Occurrence} {live : List Instance} {held : Instance} :
    Story services next past (held :: live) →
      Story services next (past ++ [.ending services held.type held]) live

theorem Occurrence.of_ending_eq_hooked {services : List Service} {type : ServiceType}
    {held other : Instance} {service : Service}
    (hooks : Occurrence.ending services type held = .hooked service other) :
    findService? services type = some service ∧ other = held := by
  unfold Occurrence.ending at hooks
  split at hooks
  · rename_i found
    split at hooks
    · cases hooks
    · cases hooks
      exact ⟨found, rfl⟩
  · cases hooks

/-- What stands anywhere in a list that grows at its end is the last element or was there
before. -/
theorem append_singleton_eq_append_cons_iff {α : Type} {past before after : List α}
    {last element : α} :
    past ++ [last] = before ++ element :: after ↔
      (past = before ∧ last = element ∧ after = []) ∨
        ∃ rest, past = before ++ element :: rest ∧ after = rest ++ [last] := by
  constructor
  · intro same
    rcases List.eq_nil_or_concat after with rfl | ⟨rest, newest, rfl⟩
    · obtain ⟨pasts, lasts⟩ := List.append_inj' same rfl
      exact .inl ⟨pasts, List.singleton_inj.mp lasts, rfl⟩
    · rw [List.concat_eq_append, ← List.cons_append, ← List.append_assoc] at same
      obtain ⟨pasts, lasts⟩ := List.append_inj' same rfl
      refine .inr ⟨rest, pasts, ?_⟩
      rw [List.concat_eq_append, lasts]
  · rintro (⟨rfl, rfl, rfl⟩ | ⟨rest, rfl, rfl⟩) <;> simp

namespace Story

variable {services : List Service} {next : Nat} {past : List Occurrence}
  {live : List Instance}

theorem serial_lt (story : Story services next past live) {held : Instance}
    (isBuilt : held ∈ builtIn past) : held.serial < next := by
  induction story with
  | opened next => cases isBuilt
  | elsewhere story later inductionHypothesis =>
    exact Nat.lt_of_lt_of_le (inductionHypothesis isBuilt) later
  | aside story unbuilt unended inductionHypothesis =>
    exact inductionHypothesis (by simpa [unbuilt] using isBuilt)
  | built story found serial draws inductionHypothesis =>
    simp only [builtIn_append, builtIn_singleton, built?_built, Option.toList_some,
      List.mem_append, List.mem_singleton] at isBuilt
    rcases isBuilt with earlier | rfl
    · have below := inductionHypothesis earlier
      omega
    · omega
  | ended story inductionHypothesis => exact inductionHypothesis (by simpa using isBuilt)

theorem increasing (story : Story services next past live) :
    (builtIn past).Pairwise fun first second => first.serial < second.serial := by
  induction story with
  | opened next => exact .nil
  | elsewhere story later inductionHypothesis => exact inductionHypothesis
  | aside story unbuilt unended inductionHypothesis =>
    simpa [unbuilt] using inductionHypothesis
  | @built next past live service held story found serial draws inductionHypothesis =>
    have grown : builtIn (past ++ [.built service held]) = builtIn past ++ [held] := by simp
    rw [grown, List.pairwise_append]
    refine ⟨inductionHypothesis, List.pairwise_singleton _ _, ?_⟩
    intro earlier isBuilt newest isNewest
    rw [List.mem_singleton.mp isNewest, serial]
    exact story.serial_lt isBuilt
  | ended story inductionHypothesis => simpa using inductionHypothesis

theorem serials_nodup (story : Story services next past live) :
    ((builtIn past).map Instance.serial).Nodup :=
  List.pairwise_map.mpr (story.increasing.imp Nat.ne_of_lt)

/-- Two instances with one serial are one instance. -/
theorem eq_of_serial_eq (story : Story services next past live) {held other : Instance}
    (isBuilt : held ∈ builtIn past) (otherBuilt : other ∈ builtIn past)
    (same : held.serial = other.serial) : held = other :=
  List.inj_on_of_nodup_map story.serials_nodup isBuilt otherBuilt same

theorem registered (story : Story services next past live) {service : Service}
    {held : Instance} (isBuilt : Occurrence.built service held ∈ past) :
    findService? services held.type = some service := by
  induction story with
  | opened next => cases isBuilt
  | elsewhere story later inductionHypothesis => exact inductionHypothesis isBuilt
  | aside story unbuilt unended inductionHypothesis =>
    rcases List.mem_append.mp isBuilt with earlier | last
    · exact inductionHypothesis earlier
    · rw [← List.mem_singleton.mp last] at unbuilt
      cases unbuilt
  | built story found serial draws inductionHypothesis =>
    rcases List.mem_append.mp isBuilt with earlier | last
    · exact inductionHypothesis earlier
    · cases List.mem_singleton.mp last
      exact found
  | ended story inductionHypothesis =>
    rcases List.mem_append.mp isBuilt with earlier | last
    · exact inductionHypothesis earlier
    · have builds := congrArg Occurrence.built? (List.mem_singleton.mp last)
      rw [built?_ending] at builds
      cases builds

/-- Of an instance that was constructed it is known which service's constructor did it. -/
theorem exists_built {held : Instance} (isBuilt : held ∈ builtIn past) :
    ∃ service, Occurrence.built service held ∈ past := by
  obtain ⟨occurrence, happened, builds⟩ := List.mem_filterMap.mp isBuilt
  cases occurrence with
  | built service other =>
    cases builds
    exact ⟨service, happened⟩
  | _ => cases builds

/-! ## Live instances -/

theorem live_subset (story : Story services next past live) {held : Instance}
    (isLive : held ∈ live) : held ∈ builtIn past := by
  induction story with
  | opened next => cases isLive
  | elsewhere story later inductionHypothesis => exact inductionHypothesis isLive
  | aside story unbuilt unended inductionHypothesis =>
    simpa [unbuilt] using inductionHypothesis isLive
  | built story found serial draws inductionHypothesis =>
    simpa using (List.mem_cons.mp isLive).symm.imp_left inductionHypothesis
  | ended story inductionHypothesis =>
    simpa using inductionHypothesis (List.mem_cons_of_mem _ isLive)

theorem ended_subset (story : Story services next past live) {held : Instance}
    (isEnded : held ∈ endedIn past) : held ∈ builtIn past := by
  induction story with
  | opened next => cases isEnded
  | elsewhere story later inductionHypothesis => exact inductionHypothesis isEnded
  | aside story unbuilt unended inductionHypothesis =>
    simpa [unbuilt] using inductionHypothesis (by simpa [unended] using isEnded)
  | built story found serial draws inductionHypothesis =>
    rw [builtIn_append]
    exact List.mem_append_left _ (inductionHypothesis (by simpa using isEnded))
  | @ended next past live disposed story inductionHypothesis =>
    have earlierOrLast : held ∈ endedIn past ∨ held = disposed := by simpa using isEnded
    rw [builtIn_append]
    apply List.mem_append_left
    rcases earlierOrLast with earlier | rfl
    · exact inductionHypothesis earlier
    · exact story.live_subset List.mem_cons_self

/-- Newer instances have higher serials. -/
theorem live_decreasing (story : Story services next past live) :
    live.Pairwise fun newer older => older.serial < newer.serial := by
  induction story with
  | opened next => exact .nil
  | elsewhere story later inductionHypothesis => exact inductionHypothesis
  | aside story unbuilt unended inductionHypothesis => exact inductionHypothesis
  | built story found serial draws inductionHypothesis =>
    refine List.pairwise_cons.mpr ⟨?_, inductionHypothesis⟩
    intro older isLive
    rw [serial]
    exact story.serial_lt (story.live_subset isLive)
  | ended story inductionHypothesis => exact (List.pairwise_cons.mp inductionHypothesis).2

/-- The live instances are those that were constructed and not disposed, the newest first. -/
theorem live_eq (story : Story services next past live) :
    live = ((builtIn past).filter fun held => held ∉ endedIn past).reverse := by
  induction story with
  | opened next => rfl
  | elsewhere story later inductionHypothesis => exact inductionHypothesis
  | aside story unbuilt unended inductionHypothesis =>
    simpa [unbuilt, unended] using inductionHypothesis
  | @built next past live service held story found serial draws inductionHypothesis =>
    have unended : held ∉ endedIn past := by
      intro isEnded
      have below := story.serial_lt (story.ended_subset isEnded)
      omega
    have grown : builtIn (past ++ [.built service held]) = builtIn past ++ [held] := by simp
    have kept : endedIn (past ++ [.built service held]) = endedIn past := by simp
    have newest : [held].filter (fun held => held ∉ endedIn past) = [held] :=
      List.filter_cons_of_pos (decide_eq_true unended)
    rw [grown, kept, List.filter_append, List.reverse_append, ← inductionHypothesis, newest]
    rfl
  | @ended next past live held story inductionHypothesis =>
    have others : held ∉ live := by
      intro isLive
      exact Nat.lt_irrefl _ ((List.pairwise_cons.mp story.live_decreasing).1 held isLive)
    have before : (builtIn past).filter (fun other => other ∉ endedIn past) =
        live.reverse ++ [held] := by
      rw [← List.reverse_cons, inductionHypothesis, List.reverse_reverse]
    have split : ∀ other : Instance, decide (other ∉ endedIn past ++ [held]) =
        (decide (other ≠ held) && decide (other ∉ endedIn past)) := by
      intro other
      simp [Bool.and_comm]
    have kept : live.reverse.filter (fun other => other ≠ held) = live.reverse := by
      rw [List.filter_eq_self]
      intro other isLive
      refine decide_eq_true ?_
      rintro rfl
      exact others (List.mem_reverse.mp isLive)
    simp only [builtIn_append, builtIn_singleton, built?_ending, Option.toList_none,
      List.append_nil, endedIn_append, endedIn_singleton, ended?_ending, Option.toList_some, split]
    rw [← List.filter_filter, before, List.filter_append, kept,
      List.filter_cons_of_neg (by simp), List.filter_nil, List.append_nil, List.reverse_reverse]

theorem mem_live_iff (story : Story services next past live) (held : Instance) :
    held ∈ live ↔ held ∈ builtIn past ∧ held ∉ endedIn past := by
  rw [story.live_eq]
  simp

theorem endedIn_nodup (story : Story services next past live) : (endedIn past).Nodup := by
  induction story with
  | opened next => exact .nil
  | elsewhere story later inductionHypothesis => exact inductionHypothesis
  | aside story unbuilt unended inductionHypothesis =>
    simpa [unended] using inductionHypothesis
  | built story found serial draws inductionHypothesis => simpa using inductionHypothesis
  | @ended next past live held story inductionHypothesis =>
    have unended := ((story.mem_live_iff held).mp List.mem_cons_self).2
    have grown : endedIn (past ++ [.ending services held.type held]) = endedIn past ++ [held] := by
      simp
    rw [grown, ← List.concat_eq_append]
    exact inductionHypothesis.concat unended

/-- A hook is run for an instance that was constructed before, by the constructor with
which the hook was registered. -/
theorem built_of_hooked (story : Story services next past live) {before after : List Occurrence}
    {service : Service} {held : Instance}
    (hooks : past = before ++ .hooked service held :: after) :
    Occurrence.built service held ∈ before := by
  induction story generalizing after with
  | opened next => simp at hooks
  | elsewhere story later inductionHypothesis => exact inductionHypothesis hooks
  | aside story unbuilt unended inductionHypothesis =>
    rcases append_singleton_eq_append_cons_iff.mp hooks with ⟨-, rfl, -⟩ | ⟨rest, earlier, -⟩
    · cases unended
    · exact inductionHypothesis earlier
  | built story found serial draws inductionHypothesis =>
    rcases append_singleton_eq_append_cons_iff.mp hooks with ⟨-, last, -⟩ | ⟨rest, earlier, -⟩
    · cases last
    · exact inductionHypothesis earlier
  | ended story inductionHypothesis =>
    rcases append_singleton_eq_append_cons_iff.mp hooks with
      ⟨rfl, last, -⟩ | ⟨rest, earlier, -⟩
    · obtain ⟨found, rfl⟩ := Occurrence.of_ending_eq_hooked last
      obtain ⟨builder, isBuilt⟩ := exists_built (story.live_subset List.mem_cons_self)
      have same := (story.registered isBuilt).symm.trans found
      exact Option.some.inj same ▸ isBuilt
    · exact inductionHypothesis earlier

end Story

end WorkHost

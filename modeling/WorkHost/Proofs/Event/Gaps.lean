import Mathlib.Algebra.GroupWithZero.Nat
import WorkHost.Proofs.Event.Ring

/-!
Contract: a subscriber can tell which events it has missed.

Each subscriber has a record of what it received (`Attendance`). Every reception goes on from
the one before: an event has the number after the last one received or reported as missed, a
lag skips the events that are no longer kept, and there is nothing to receive only when all
events have been received or reported (`Receives`). So the lags between two events add up to
the gap between their numbers, and who never falls further behind than the bus keeps events
gets them all (`Attendance.Sound`). `gaps_are_told` says this of every run, of the bus and of
the ring beside a counter.
-/

namespace WorkHost

namespace Reception

def event? : Reception → Option Event
  | .event received => some received
  | _ => none

/-- How many events were reported as missed. -/
def missed : Reception → Nat
  | .lagged count => count
  | _ => 0

end Reception

/-- A reception, with the number of the latest event at that time. -/
structure Hearing where
  reception : Reception
  latest : Nat
deriving DecidableEq, Repr

/-- What a subscriber has received. -/
structure Attendance where
  /-- The number of the latest event when it subscribed. -/
  since : Nat
  heard : List Hearing
deriving DecidableEq, Repr

namespace Attendance

def hear (record : Attendance) (hearing : Hearing) : Attendance :=
  { record with heard := record.heard ++ [hearing] }

/-- The events among what was heard. -/
def eventsOf (heard : List Hearing) : List Event :=
  heard.filterMap fun hearing => hearing.reception.event?

/-- The number of the last event received, or of the latest one at subscription. -/
def lastSeen (since : Nat) (heard : List Hearing) : Nat :=
  ((eventsOf heard).map Event.seq).getLastD since

/-- How many events were reported as missed. -/
def missedIn (heard : List Hearing) : Nat :=
  (heard.map fun hearing => hearing.reception.missed).sum

/-- How far a subscriber has got by one reception. -/
def advance (reached : Nat) (hearing : Hearing) : Nat :=
  match hearing.reception with
  | .event event => event.seq
  | .lagged missed => reached + missed
  | .empty | .closed => reached

/-- The number up to which a subscriber has received events or was told of them. -/
def reached (since : Nat) (heard : List Hearing) : Nat := heard.foldl advance since

/-- What can be told from a record. -/
structure Sound (bus : EventBus) (record : Attendance) : Prop where
  /-- Only events emitted after the subscription are received. -/
  emitted : ∀ event ∈ eventsOf record.heard,
    record.since < event.seq ∧ bus.emitted[event.seq - 1]? = some event
  increasing : ((eventsOf record.heard).map Event.seq).Pairwise (· < ·)
  /-- What was missed before the first event. -/
  first : ∀ before hearing after event, record.heard = before ++ hearing :: after →
    eventsOf before = [] → hearing.reception = .event event →
    missedIn before = event.seq - record.since - 1
  /-- What was missed between an event and the next one. -/
  between : ∀ before hearing among following after event next,
    record.heard = before ++ hearing :: (among ++ following :: after) → eventsOf among = [] →
    hearing.reception = .event event → following.reception = .event next →
    missedIn among = next.seq - event.seq - 1
  /-- Who is told that there is nothing has received or been told of everything. -/
  current : ∀ before hearing after, record.heard = before ++ hearing :: after →
    hearing.reception = .empty ∨ hearing.reception = .closed →
    reached record.since before = hearing.latest
  /-- Who is never further behind than events are kept gets all of them. -/
  complete :
    (∀ before hearing after, record.heard = before ++ hearing :: after →
      hearing.latest ≤ lastSeen record.since before + bus.slots) →
    missedIn record.heard = 0 ∧
      eventsOf record.heard =
        (bus.emitted.toList.drop record.since).take (eventsOf record.heard).length

/-! ## One reception after the other -/

/-- What a subscriber whose next event is `next` may hear, and what its next event is then. -/
inductive Receives (bus : EventBus) (next : Nat) : Hearing → Nat → Prop where
  | event {latest : Nat} {event : Event} (kept : latest < next + bus.slots)
    (found : bus.emitted[next - 1]? = some event) :
    Receives bus next ⟨.event event, latest⟩ (next + 1)
  | lagged {latest : Nat} (lost : next + bus.slots ≤ latest) :
    Receives bus next ⟨.lagged (latest + 1 - bus.slots - next), latest⟩ (latest + 1 - bus.slots)
  | nothing {latest : Nat} {reception : Reception}
    (isNothing : reception = .empty ∨ reception = .closed) (current : next = latest + 1) :
    Receives bus next ⟨reception, latest⟩ next

/-- What a subscriber may have heard, and what its next event is then. -/
inductive Hears (bus : EventBus) (since : Nat) : List Hearing → Nat → Prop where
  | start : Hears bus since [] (since + 1)
  | hear {heard : List Hearing} {next after : Nat} {hearing : Hearing}
    (before : Hears bus since heard next) (receives : Receives bus next hearing after) :
    Hears bus since (heard ++ [hearing]) after

/-- Events carry the numbers from 1 on. -/
def NumberedFromOne (bus : EventBus) : Prop :=
  ∀ index event, bus.emitted[index]? = some event → event.seq = index + 1

variable {bus : EventBus} {since next : Nat} {heard : List Hearing}

theorem Receives.next_eq {hearing : Hearing} {after : Nat} (numbered : NumberedFromOne bus)
    (positive : 1 ≤ next) (receives : Receives bus next hearing after) :
    after = advance (next - 1) hearing + 1 := by
  cases receives with
  | event kept found =>
    have number := numbered _ _ found
    show next + 1 = _ + 1
    simp only [advance]
    omega
  | lagged lost =>
    simp only [advance]
    omega
  | nothing isNothing current =>
    rcases isNothing with rfl | rfl
    · simp only [advance]
      omega
    · simp only [advance]
      omega

theorem Hears.next_eq (numbered : NumberedFromOne bus) (hears : Hears bus since heard next) :
    next = reached since heard + 1 := by
  induction hears with
  | start => rfl
  | hear before receives inductionHypothesis =>
    rw [reached, List.foldl_concat]
    have positive := inductionHypothesis ▸ Nat.le_add_left 1 _
    rw [receives.next_eq numbered positive, inductionHypothesis]
    rfl

/-- What was received stays in the history. -/
theorem Hears.grow {later : EventBus} (hears : Hears bus since heard next)
    (slots : later.slots = bus.slots)
    (grown : ∀ (index : Nat) (event : Event), bus.emitted[index]? = some event →
      later.emitted[index]? = some event) : Hears later since heard next := by
  induction hears with
  | start => exact .start
  | hear before receives inductionHypothesis =>
    refine .hear inductionHypothesis ?_
    cases receives with
    | event kept found => exact .event (slots ▸ kept) (grown _ _ found)
    | lagged lost =>
      rw [← slots] at lost ⊢
      exact .lagged lost
    | nothing isNothing current => exact .nothing isNothing current

/-- Each reception goes on from those before. -/
theorem Hears.split {before after : List Hearing} {hearing : Hearing}
    (hears : Hears bus since (before ++ hearing :: after) next) :
    ∃ start stop, Hears bus since before start ∧ Receives bus start hearing stop := by
  generalize whole : before ++ hearing :: after = heard at hears
  induction hears generalizing after with
  | start => simp at whole
  | hear earlier receives inductionHypothesis =>
    rename_i heard next stop last
    rcases List.eq_nil_or_concat after with rfl | ⟨rest, final, rfl⟩
    · obtain ⟨rfl, same⟩ := List.append_inj' whole rfl
      rw [List.cons.inj same |>.1]
      exact ⟨next, stop, earlier, receives⟩
    · rw [List.concat_eq_append, ← List.cons_append, ← List.append_assoc] at whole
      exact inductionHypothesis (List.append_inj' whole rfl).1

theorem Hears.seq_eq (numbered : NumberedFromOne bus) {before after : List Hearing}
    {hearing : Hearing} {event : Event} (hears : Hears bus since (before ++ hearing :: after) next)
    (isEvent : hearing.reception = .event event) :
    event.seq = reached since before + 1 ∧
      bus.emitted[event.seq - 1]? = some event := by
  obtain ⟨start, stop, earlier, receives⟩ := hears.split
  have reached := earlier.next_eq numbered
  cases receives with
  | event kept found =>
    cases isEvent
    have number := numbered _ _ found
    have same : event.seq - 1 = start - 1 := by omega
    exact ⟨by omega, same ▸ found⟩
  | lagged lost => cases isEvent
  | nothing isNothing current =>
    rcases isNothing with rfl | rfl
    · cases isEvent
    · cases isEvent

theorem eventsOf_append (first second : List Hearing) :
    eventsOf (first ++ second) = eventsOf first ++ eventsOf second :=
  List.filterMap_append

theorem missedIn_append (first second : List Hearing) :
    missedIn (first ++ second) = missedIn first + missedIn second := by
  rw [missedIn, List.map_append, List.sum_append]
  rfl

theorem reached_append (start : Nat) (first second : List Hearing) :
    reached start (first ++ second) = reached (reached start first) second :=
  List.foldl_append

theorem eventsOf_of_nothing {reception : Reception}
    (isNothing : reception = .empty ∨ reception = .closed) (latest : Nat) :
    eventsOf [⟨reception, latest⟩] = [] ∧ missedIn [⟨reception, latest⟩] = 0 := by
  rcases isNothing with rfl | rfl
  · exact ⟨rfl, rfl⟩
  · exact ⟨rfl, rfl⟩

/-- Without events only lags bring a subscriber on. -/
theorem reached_of_no_events {among : List Hearing} (noEvents : eventsOf among = [])
    (start : Nat) : reached start among = start + missedIn among := by
  induction among generalizing start with
  | nil => rfl
  | cons hearing rest inductionHypothesis =>
    obtain ⟨reception, latest⟩ := hearing
    have later : eventsOf rest = [] := by
      rw [← List.singleton_append, eventsOf_append] at noEvents
      exact (List.append_eq_nil_iff.mp noEvents).2
    rw [← List.singleton_append, missedIn_append, reached_append, inductionHypothesis later,
      ← Nat.add_assoc]
    cases reception with
    | event event => simp [eventsOf, Reception.event?] at noEvents
    | lagged missed => rfl
    | empty => rfl
    | closed => rfl

/-- Events come in the order of their numbers, and only those after the subscription. -/
theorem Hears.events (numbered : NumberedFromOne bus) (hears : Hears bus since heard next) :
    since < next ∧ ((eventsOf heard).map Event.seq).Pairwise (· < ·) ∧
      ∀ event ∈ eventsOf heard,
        since < event.seq ∧ event.seq < next ∧ bus.emitted[event.seq - 1]? = some event := by
  induction hears with
  | start => exact ⟨Nat.lt_succ_self since, .nil, nofun⟩
  | hear before receives inductionHypothesis =>
    rename_i heard start stop last
    obtain ⟨later, sorted, known⟩ := inductionHypothesis
    rw [eventsOf_append]
    cases receives with
    | event kept found =>
      rename_i latest event
      have number := numbered _ _ found
      have isNext : event.seq = start := by omega
      refine ⟨Nat.lt_succ_of_lt later, ?_, ?_⟩
      · rw [List.map_append]
        refine List.pairwise_append.mpr ⟨sorted, List.pairwise_singleton _ _, ?_⟩
        intro earlier member new isNew
        obtain ⟨old, wasHeard, rfl⟩ := List.mem_map.mp member
        rw [List.mem_singleton.mp isNew, isNext]
        exact (known old wasHeard).2.1
      · intro one member
        rcases List.mem_append.mp member with old | new
        · obtain ⟨after, below, same⟩ := known one old
          exact ⟨after, Nat.lt_succ_of_lt below, same⟩
        · rw [List.mem_singleton.mp new, isNext]
          exact ⟨later, Nat.lt_succ_self start, found⟩
    | lagged lost =>
      rw [show eventsOf [_] = [] from rfl, List.append_nil]
      refine ⟨by omega, sorted, fun one member => ?_⟩
      obtain ⟨after, below, same⟩ := known one member
      exact ⟨after, by omega, same⟩
    | nothing isNothing current =>
      rw [(eventsOf_of_nothing isNothing _).1, List.append_nil]
      exact ⟨later, sorted, known⟩

/-- Who is never further behind than events are kept hears of no lag. -/
theorem Hears.complete (numbered : NumberedFromOne bus) (hears : Hears bus since heard next)
    (punctual : ∀ before hearing after, heard = before ++ hearing :: after →
      hearing.latest ≤ lastSeen since before + bus.slots) :
    missedIn heard = 0 ∧ lastSeen since heard + 1 = next ∧
      next = since + (eventsOf heard).length + 1 ∧
      eventsOf heard = (bus.emitted.toList.drop since).take (eventsOf heard).length := by
  induction hears with
  | start => exact ⟨rfl, rfl, rfl, rfl⟩
  | hear before receives inductionHypothesis =>
    rename_i heard start stop last
    have earlier : ∀ before hearing after, heard = before ++ hearing :: after →
        hearing.latest ≤ lastSeen since before + bus.slots := by
      intro before hearing after same
      refine punctual before hearing (after ++ [last]) ?_
      rw [same, List.append_assoc, List.cons_append]
    obtain ⟨nothing, seen, count, inOrder⟩ := inductionHypothesis earlier
    have now := punctual heard last [] rfl
    rw [missedIn_append, nothing, lastSeen, eventsOf_append]
    cases receives with
    | event kept found =>
      rename_i latest event
      have isNext : event.seq = start := by
        have number := numbered _ _ found
        omega
      have last : (eventsOf heard ++ [event]).length = (eventsOf heard).length + 1 :=
        List.length_append
      have follows : (bus.emitted.toList.drop since)[(eventsOf heard).length]? = some event := by
        rw [List.getElem?_drop, Array.getElem?_toList, ← found]
        congr 1
        omega
      show 0 + 0 = 0 ∧ ((eventsOf heard ++ [event]).map Event.seq).getLastD since + 1 = start + 1 ∧
        start + 1 = since + (eventsOf heard ++ [event]).length + 1 ∧
        eventsOf heard ++ [event] =
          (bus.emitted.toList.drop since).take (eventsOf heard ++ [event]).length
      refine ⟨rfl, ?_, by omega, ?_⟩
      · rw [List.map_append, List.map_singleton, List.getLastD_concat, isNext]
      · rw [last, List.take_add_one, ← inOrder, follows]
        rfl
    | lagged lost =>
      rename_i latest
      have behind : latest ≤ lastSeen since heard + bus.slots := now
      omega
    | nothing isNothing current =>
      rw [(eventsOf_of_nothing isNothing _).1, (eventsOf_of_nothing isNothing _).2, List.append_nil]
      exact ⟨rfl, seen, count, inOrder⟩

theorem Hears.sound (numbered : NumberedFromOne bus) (hears : Hears bus since heard next) :
    Sound bus ⟨since, heard⟩ where
  emitted event member :=
    have known := (hears.events numbered).2.2 event member
    ⟨known.1, known.2.2⟩
  increasing := (hears.events numbered).2.1
  first before hearing after event whole noEvents isEvent := by
    have split : heard = before ++ hearing :: after := whole
    have number := (Hears.seq_eq numbered (split ▸ hears) isEvent).1
    rw [reached_of_no_events noEvents] at number
    show missedIn before = event.seq - since - 1
    omega
  between before hearing among following after event next whole noEvents isEvent isNext := by
    have split : heard = (before ++ hearing :: among) ++ following :: after := by
      rw [List.append_assoc, List.cons_append]
      exact whole
    have number := (Hears.seq_eq numbered (split ▸ hears) isNext).1
    rw [reached_append] at number
    have here : reached (reached since before) (hearing :: among) = event.seq + missedIn among := by
      rw [← reached_of_no_events noEvents event.seq]
      show reached (advance _ hearing) among = _
      rw [advance, isEvent]
    omega
  current before hearing after whole isNothing := by
    have split : heard = before ++ hearing :: after := whole
    obtain ⟨start, stop, earlier, receives⟩ := Hears.split (split ▸ hears)
    have place := earlier.next_eq numbered
    show reached since before = hearing.latest
    cases receives with
    | event kept found => simp at isNothing
    | lagged lost => simp at isNothing
    | nothing known current =>
      rename_i latest reception
      show reached since before = latest
      omega
  complete punctual :=
    have all := hears.complete numbered punctual
    ⟨all.1, all.2.2.2⟩

end Attendance

/-! ## What every run keeps -/

theorem forall₂_set_modify {α β : Type} {relation : α → β → Prop} {left : List α}
    {right : List β} (related : List.Forall₂ relation left right) {index : Nat} {first : α}
    {change : β → β}
    (new : ∀ old second, left[index]? = some old → relation old second →
      relation first (change second)) :
    List.Forall₂ relation (left.set index first) (right.modify index change) := by
  induction related generalizing index with
  | nil => simp
  | cons head tail inductionHypothesis =>
    cases index with
    | zero => exact .cons (new _ _ rfl head) tail
    | succ index => exact .cons head (inductionHypothesis new)

/-- An audience with a record of each of its subscribers; the records influence nothing. -/
structure Minutes where
  audience : Audience
  records : List Attendance
deriving Repr

namespace Minutes

open Attendance

def create (capacity : Nat) : Minutes := ⟨.create capacity, []⟩

/-- What an answer adds to the records. -/
def note (minutes : Minutes) : AudienceOp → AudienceAnswer → List Attendance
  | .subscribe _, .number _ => minutes.records ++ [⟨minutes.audience.bus.seq, []⟩]
  | .receive subscriber, .received reception =>
    minutes.records.modify subscriber (·.hear ⟨reception, minutes.audience.bus.seq⟩)
  | _, _ => minutes.records

def perform (minutes : Minutes) (time : Calendar.Instant) (op : AudienceOp) : Minutes :=
  let (answer, audience) := minutes.audience.perform time op
  ⟨audience, minutes.note op answer⟩

def run (minutes : Minutes) (ops : List (Calendar.Instant × AudienceOp)) : Minutes :=
  ops.foldl (fun minutes timed => minutes.perform timed.1 timed.2) minutes

/-- A record is that of a subscriber, as long as it exists. -/
def Describes (bus : EventBus) (subscriber : Option Subscription) (record : Attendance) : Prop :=
  ∃ next, Hears bus record.since record.heard next ∧ next ≤ bus.seq + 1 ∧
    ∀ subscription, subscriber = some subscription → subscription.next = next

structure Kept (slots : Nat) (minutes : Minutes) : Prop where
  slots : minutes.audience.bus.slots = slots
  numbered : NumberedFromOne minutes.audience.bus
  described : List.Forall₂ (Describes minutes.audience.bus) minutes.audience.subscribers
    minutes.records

theorem create_kept (capacity : Nat) :
    (create capacity).Kept (max capacity 1).nextPowerOfTwo where
  slots := rfl
  numbered := nofun
  described := .nil

theorem receive_receives (bus : EventBus) {subscription : Subscription}
    (positive : 1 ≤ subscription.next) (within : subscription.next ≤ bus.seq + 1) :
    Receives bus subscription.next ⟨(bus.receive subscription).1, bus.seq⟩
      (bus.receive subscription).2.next ∧ (bus.receive subscription).2.next ≤ bus.seq + 1 := by
  unfold EventBus.receive EventBus.oldest
  by_cases late : subscription.next < bus.seq + 1 - bus.slots
  · rw [if_pos late]
    exact ⟨.lagged (by omega), Nat.sub_le _ _⟩
  · rw [if_neg late]
    have size : bus.emitted.size = bus.seq := rfl
    cases found : bus.emitted[subscription.next - 1]? with
    | some event =>
      have inside := (Array.getElem?_eq_some_iff.mp found).1
      refine ⟨.event (by omega) found, ?_⟩
      show subscription.next + 1 ≤ bus.seq + 1
      omega
    | none =>
      have outside := Array.getElem?_eq_none_iff.mp found
      refine ⟨.nothing ?_ (by omega), within⟩
      by_cases gone : bus.handles = 0
      · exact Or.inr (if_pos gone)
      · exact Or.inl (if_neg gone)

namespace Kept

variable {slots : Nat} {minutes : Minutes}

/-- Handles come and go without a trace. -/
theorem setHandles (kept : minutes.Kept slots) (handles : List Bool) (count : Nat) :
    Kept slots ⟨{ minutes.audience with
      handles, bus := { minutes.audience.bus with handles := count } }, minutes.records⟩ where
  slots := kept.slots
  numbered := kept.numbered
  described := kept.described.imp fun _ _ ⟨next, hears, within, goesOn⟩ =>
    ⟨next, hears.grow rfl fun _ _ => id, within, goesOn⟩

theorem emit (kept : minutes.Kept slots) (timestamp : Calendar.Instant) (kind : EventKind) :
    Kept slots ⟨{ minutes.audience with bus := minutes.audience.bus.emit timestamp kind },
      minutes.records⟩ where
  slots := kept.slots
  numbered := by
    intro index event found
    have pushed : (minutes.audience.bus.emitted.push
        ⟨minutes.audience.bus.seq + 1, timestamp, kind⟩)[index]? = some event := found
    rw [Array.getElem?_push] at pushed
    split at pushed
    · rename_i last
      rw [← Option.some.inj pushed, last]
      rfl
    · exact kept.numbered index event pushed
  described := by
    refine kept.described.imp fun subscriber record ⟨next, hears, within, goesOn⟩ => ?_
    refine ⟨next, hears.grow rfl ?_, ?_, goesOn⟩
    · intro index event found
      have inside := (Array.getElem?_eq_some_iff.mp found).1
      show (minutes.audience.bus.emitted.push _)[index]? = some event
      rw [Array.getElem?_push, if_neg (Nat.ne_of_lt inside), found]
    · rw [EventBus.seq_emit]
      exact Nat.le_succ_of_le within

theorem emitTimes (kept : minutes.Kept slots) (timestamp : Calendar.Instant) (kind : EventKind)
    (times : Nat) :
    Kept slots ⟨{ minutes.audience with
      bus := Audience.emitTimes minutes.audience.bus timestamp kind times }, minutes.records⟩ := by
  induction times generalizing minutes with
  | zero => exact kept
  | succ times inductionHypothesis => exact inductionHypothesis (kept.emit timestamp kind)

theorem subscribe (kept : minutes.Kept slots) :
    Kept slots ⟨{ minutes.audience with
      subscribers := minutes.audience.subscribers ++ [some minutes.audience.bus.subscribe] },
      minutes.records ++ [⟨minutes.audience.bus.seq, []⟩]⟩ where
  slots := kept.slots
  numbered := kept.numbered
  described := by
    refine List.rel_append kept.described (.cons ?_ .nil)
    refine ⟨minutes.audience.bus.seq + 1, .start, Nat.le_refl _, fun subscription isNew => ?_⟩
    exact (Option.some.inj isNew).symm ▸ rfl

theorem receive (kept : minutes.Kept slots) {subscriber : Nat} {subscription : Subscription}
    (known : minutes.audience.subscribers[subscriber]? = some (some subscription)) :
    Kept slots ⟨{ minutes.audience with
      subscribers := minutes.audience.subscribers.set subscriber
        (some (minutes.audience.bus.receive subscription).2) },
      minutes.records.modify subscriber
        (·.hear ⟨(minutes.audience.bus.receive subscription).1, minutes.audience.bus.seq⟩)⟩ where
  slots := kept.slots
  numbered := kept.numbered
  described := by
    refine forall₂_set_modify kept.described ?_
    intro old record isOld described
    obtain ⟨next, hears, within, goesOn⟩ := described
    rw [known] at isOld
    have isNext : subscription.next = next := goesOn subscription (Option.some.inj isOld).symm
    have positive : 1 ≤ subscription.next := by
      have later := (hears.events kept.numbered).1
      omega
    obtain ⟨receives, inside⟩ :=
      receive_receives minutes.audience.bus positive (isNext ▸ within)
    refine ⟨_, .hear (isNext ▸ hears) receives, inside, fun _ isNew => ?_⟩
    exact (Option.some.inj isNew).symm ▸ rfl

theorem dropSubscriber (kept : minutes.Kept slots) (subscriber : Nat) :
    Kept slots ⟨{ minutes.audience with
      subscribers := minutes.audience.subscribers.set subscriber none }, minutes.records⟩ where
  slots := kept.slots
  numbered := kept.numbered
  described := by
    have same : minutes.records = minutes.records.modify subscriber id :=
      (List.modify_id _ _).symm
    rw [same]
    refine forall₂_set_modify kept.described ?_
    intro _ record _ ⟨next, hears, within, _⟩
    exact ⟨next, hears, within, nofun⟩

end Kept

theorem perform_kept {slots : Nat} {minutes : Minutes} (kept : minutes.Kept slots)
    (time : Calendar.Instant) (op : AudienceOp) : (minutes.perform time op).Kept slots := by
  unfold perform
  cases op with
  | subscribe handle =>
    simp only [Audience.perform]
    split
    · exact kept.subscribe
    · exact kept
  | emit handle kind times =>
    simp only [Audience.perform]
    split
    · exact kept.emitTimes time kind times
    · exact kept
  | receive subscriber =>
    simp only [Audience.perform]
    split
    · rename_i subscription known
      exact kept.receive known
    · exact kept
  | cloneHandle handle =>
    simp only [Audience.perform]
    split
    · exact kept.setHandles _ _
    · exact kept
  | dropHandle handle =>
    simp only [Audience.perform]
    split
    · exact kept.setHandles _ _
    · exact kept
  | dropSubscriber subscriber => exact kept.dropSubscriber subscriber

theorem run_kept {slots : Nat} {minutes : Minutes} (kept : minutes.Kept slots)
    (ops : List (Calendar.Instant × AudienceOp)) : (minutes.run ops).Kept slots := by
  induction ops generalizing minutes with
  | nil => exact kept
  | cons timed rest inductionHypothesis =>
    exact inductionHypothesis (perform_kept kept timed.1 timed.2)

theorem emitted_seqs {bus : EventBus} (numbered : NumberedFromOne bus) :
    bus.emitted.toList.map Event.seq = List.range' 1 bus.seq := by
  have size : bus.emitted.toList.length = bus.seq := bus.emitted.length_toList
  apply List.ext_getElem
  · rw [List.length_map, List.length_range', size]
  · intro index inside _
    rw [List.length_map] at inside
    have found : bus.emitted[index]? = some bus.emitted.toList[index] := by
      rw [← Array.getElem?_toList, List.getElem?_eq_getElem inside]
    rw [List.getElem_map, List.getElem_range', numbered index _ found]
    omega

/-- Every subscriber can tell from what it receives which events it has missed, whatever is
done to the bus and in which order; and the ring beside a counter answers in the same way. -/
theorem gaps_are_told (capacity : Nat) (ops : List (Calendar.Instant × AudienceOp)) :
    let minutes := (create capacity).run ops
    (Ring.create capacity).follow ops = (Audience.create capacity).follow ops ∧
      minutes.audience.bus.slots = (max capacity 1).nextPowerOfTwo ∧
      minutes.audience.bus.emitted.toList.map Event.seq =
        List.range' 1 minutes.audience.bus.seq ∧
      minutes.records.length = minutes.audience.subscribers.length ∧
      ∀ record ∈ minutes.records, record.Sound minutes.audience.bus := by
  intro minutes
  have kept : minutes.Kept _ := run_kept (create_kept capacity) ops
  refine ⟨Ring.follow_eq capacity ops, kept.slots, emitted_seqs kept.numbered,
    kept.described.length_eq.symm, fun record member => ?_⟩
  obtain ⟨index, found⟩ := List.getElem?_of_mem member
  have related := Ring.forall₂_getElem? kept.described index
  rw [found] at related
  generalize minutes.audience.subscribers[index]? = subscriber at related
  cases related with
  | some described =>
    obtain ⟨next, hears, _⟩ := described
    exact hears.sound kept.numbered

end Minutes

end WorkHost

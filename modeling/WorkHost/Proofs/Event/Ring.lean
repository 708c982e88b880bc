import Mathlib.Data.List.Forall2
import Mathlib.Data.Option.Basic
import WorkHost.Event.Audience

/-!
Contract: the bus as a counter beside a ring of messages.

The counter numbers every event, also while nobody listens. The ring counts only the messages
that were put into it, which happens only while somebody listens, and a receiver knows nothing
but its place in the ring. So the two counts drift apart. Still, for everyone who listens, the
events not yet received are as many as the messages not yet received (`Tracks`), and the ring
answers every operation as the bus does (`Ring.follow_eq`).
-/

namespace WorkHost

/-- A numbering of events, and the ring through which they are handed on. -/
structure Ring where
  slots : Nat
  /-- The latest messages, the newest first. -/
  kept : List Event
  /-- How many messages were put in. -/
  position : Nat
  /-- The number that was given out last. -/
  counter : Nat
  /-- Which of the handles still exist. -/
  handles : List Bool
  /-- Where each receiver goes on, as long as it exists. -/
  receivers : List (Option Nat)
deriving Repr

namespace Ring

def create (capacity : Nat) : Ring := ⟨(max capacity 1).nextPowerOfTwo, [], 0, 0, [true], []⟩

def isAlive (ring : Ring) (handle : Nat) : Bool := ring.handles.getD handle false

def isHeard (ring : Ring) : Bool := ring.receivers.any Option.isSome

/-- Puts a message in, unless nobody listens. -/
def send (ring : Ring) (event : Event) : Ring :=
  if ring.isHeard then
    { ring with kept := (event :: ring.kept).take ring.slots, position := ring.position + 1 }
  else ring

/-- Takes the next number and sends the event; that nobody gets it does not matter. -/
def emit (ring : Ring) (timestamp : Calendar.Instant) (kind : EventKind) : Ring :=
  let number := ring.counter + 1
  { ring with counter := number }.send ⟨number, timestamp, kind⟩

def emitTimes (ring : Ring) (timestamp : Calendar.Instant) (kind : EventKind) : Nat → Ring
  | 0 => ring
  | times + 1 => emitTimes (ring.emit timestamp kind) timestamp kind times

/-- The place of the oldest message kept. -/
def oldest (ring : Ring) : Nat := ring.position - ring.kept.length

def receive (ring : Ring) (next : Nat) : Reception × Nat :=
  if next < ring.oldest then (.lagged (ring.oldest - next), ring.oldest)
  else
    match (ring.kept.take (ring.position - next)).getLast? with
    | some event => (.event event, next + 1)
    | none => (if ring.handles.any id then .empty else .closed, next)

def perform (ring : Ring) (time : Calendar.Instant) : AudienceOp → AudienceAnswer × Ring
  | .subscribe handle =>
    if ring.isAlive handle then
      (.number ring.receivers.length,
        { ring with receivers := ring.receivers ++ [some ring.position] })
    else (.nothing, ring)
  | .emit handle kind times =>
    if ring.isAlive handle then (.nothing, ring.emitTimes time kind times)
    else (.nothing, ring)
  | .receive receiver =>
    match ring.receivers[receiver]? with
    | some (some next) =>
      let (reception, next) := ring.receive next
      (.received reception, { ring with receivers := ring.receivers.set receiver (some next) })
    | _ => (.nothing, ring)
  | .cloneHandle handle =>
    if ring.isAlive handle then
      (.number ring.handles.length, { ring with handles := ring.handles ++ [true] })
    else (.nothing, ring)
  | .dropHandle handle =>
    if ring.isAlive handle then (.nothing, { ring with handles := ring.handles.set handle false })
    else (.nothing, ring)
  | .dropSubscriber receiver =>
    (.nothing, { ring with receivers := ring.receivers.set receiver none })

/-- Performs operations, each at its time. -/
def follow (ring : Ring) : List (Calendar.Instant × AudienceOp) → List AudienceAnswer
  | [] => []
  | (time, op) :: rest =>
    let (answer, ring) := ring.perform time op
    answer :: ring.follow rest

end Ring

/-- Performs operations, each at its time. -/
def Audience.follow (audience : Audience) :
    List (Calendar.Instant × AudienceOp) → List AudienceAnswer
  | [] => []
  | (time, op) :: rest =>
    let (answer, audience) := audience.perform time op
    answer :: audience.follow rest

theorem Audience.run_eq_follow (audience : Audience) (time : Calendar.Instant)
    (ops : List AudienceOp) : audience.run time ops = audience.follow (ops.map (time, ·)) := by
  induction ops generalizing audience with
  | nil => rfl
  | cons op rest inductionHypothesis => exact congrArg _ (inductionHypothesis _)

namespace EventBus

/-- All events, the newest first. -/
def history (bus : EventBus) : List Event := bus.emitted.toList.reverse

@[simp]
theorem length_history (bus : EventBus) : bus.history.length = bus.seq := by
  rw [history, List.length_reverse, Array.length_toList, seq]

theorem history_emit (bus : EventBus) (timestamp : Calendar.Instant) (kind : EventKind) :
    (bus.emit timestamp kind).history = ⟨bus.seq + 1, timestamp, kind⟩ :: bus.history := by
  simp [history, emit]

@[simp]
theorem seq_emit (bus : EventBus) (timestamp : Calendar.Instant) (kind : EventKind) :
    (bus.emit timestamp kind).seq = bus.seq + 1 := by
  simp [seq, emit]

/-- What a subscriber reads next is the oldest of the events that it has not received. -/
theorem getLast?_take_history (bus : EventBus) {next behind : Nat}
    (distance : next + behind = bus.seq + 1) (positive : 1 ≤ next) :
    (bus.history.take behind).getLast? = bus.emitted[next - 1]? := by
  have size : bus.emitted.toList.length = bus.seq := bus.emitted.length_toList
  have within : behind ≤ bus.history.length := by
    rw [length_history]
    omega
  rw [← Array.getElem?_toList, List.getLast?_eq_getElem?, List.length_take_of_le within]
  by_cases nothing : behind = 0
  · rw [nothing, List.take_zero, List.getElem?_nil, eq_comm, List.getElem?_eq_none]
    omega
  · rw [List.getElem?_take_of_lt (by omega), history, List.getElem?_reverse (by omega)]
    congr 1
    omega

end EventBus

namespace Ring

/-- A receiver has as many messages before it as the subscriber has events, and they are the
same ones, as far as they are kept. -/
def Tracks (ring : Ring) (bus : EventBus) (next : Nat) (subscription : Subscription) : Prop :=
  ∃ behind, subscription.next + behind = bus.seq + 1 ∧ 1 ≤ subscription.next ∧
    next + behind = ring.position ∧
    ring.kept.take behind = (bus.history.take behind).take ring.slots

/-- A ring and a bus that have been through the same operations. -/
structure Mirrors (ring : Ring) (audience : Audience) : Prop where
  slots : ring.slots = audience.bus.slots
  room : ring.kept.length ≤ ring.slots
  stored : ring.kept.length ≤ ring.position
  counter : ring.counter = audience.bus.seq
  handles : ring.handles = audience.handles
  alive : audience.bus.handles = audience.handles.count true
  receivers : List.Forall₂ (Option.Rel (Tracks ring audience.bus)) ring.receivers
    audience.subscribers

section Lists

variable {α β : Type} {relation : α → β → Prop} {left : List α} {right : List β}

theorem forall₂_set (related : List.Forall₂ relation left right) {first : α} {second : β}
    (new : relation first second) (index : Nat) :
    List.Forall₂ relation (left.set index first) (right.set index second) := by
  induction related generalizing index with
  | nil => exact .nil
  | cons head tail inductionHypothesis =>
    cases index with
    | zero => exact .cons new tail
    | succ index => exact .cons head (inductionHypothesis index)

theorem forall₂_getElem? (related : List.Forall₂ relation left right) (index : Nat) :
    Option.Rel relation left[index]? right[index]? := by
  induction related generalizing index with
  | nil => exact .none
  | cons head tail inductionHypothesis =>
    cases index with
    | zero => exact .some head
    | succ index => exact inductionHypothesis index

end Lists

/-- Who has fewer messages before it has the same of them. -/
theorem take_fewer {kept history : List Event} {behind fewer slots : Nat}
    (same : kept.take behind = (history.take behind).take slots) (within : fewer ≤ behind) :
    kept.take fewer = (history.take fewer).take slots := by
  have shorter := congrArg (List.take fewer) same
  rw [List.take_take, Nat.min_eq_left within] at shorter
  rw [shorter, List.take_take, List.take_take, List.take_take]
  congr 1
  omega

/-- A message is put before those that are kept, and the oldest gives way. -/
theorem take_push {kept history : List Event} {behind slots : Nat} {event : Event}
    (same : kept.take behind = (history.take behind).take slots) :
    ((event :: kept).take slots).take (behind + 1) =
      ((event :: history).take (behind + 1)).take slots := by
  rw [List.take_take, Nat.min_comm, ← List.take_take, List.take_succ_cons, List.take_succ_cons,
    same]
  cases slots with
  | zero => rfl
  | succ count => rw [List.take_succ_cons, List.take_succ_cons, List.take_take, Nat.min_eq_left
      (Nat.le_succ count)]

namespace Mirrors

variable {ring : Ring} {audience : Audience}

theorem create (capacity : Nat) : Mirrors (.create capacity) (.create capacity) where
  slots := rfl
  room := Nat.zero_le _
  stored := Nat.le_refl _
  counter := rfl
  handles := rfl
  alive := rfl
  receivers := .nil

theorem isAlive (mirrors : Mirrors ring audience) (handle : Nat) :
    ring.isAlive handle = audience.isAlive handle := by
  rw [Ring.isAlive, Audience.isAlive, mirrors.handles]

/-- A new receiver has nothing before it. -/
theorem subscribe (mirrors : Mirrors ring audience) :
    Mirrors { ring with receivers := ring.receivers ++ [some ring.position] }
      { audience with subscribers := audience.subscribers ++ [some audience.bus.subscribe] } where
  slots := mirrors.slots
  room := mirrors.room
  stored := mirrors.stored
  counter := mirrors.counter
  handles := mirrors.handles
  alive := mirrors.alive
  receivers := by
    refine List.rel_append mirrors.receivers (.cons (.some ?_) .nil)
    exact ⟨0, rfl, Nat.le_add_left _ _, rfl, List.take_nil.symm⟩

/-- Everyone who listens falls behind by the same message. -/
theorem emit (mirrors : Mirrors ring audience) (timestamp : Calendar.Instant)
    (kind : EventKind) :
    Mirrors (ring.emit timestamp kind)
      { audience with bus := audience.bus.emit timestamp kind } := by
  unfold Ring.emit Ring.send
  by_cases heard : ring.isHeard = true
  · have heardNow : ({ ring with counter := ring.counter + 1 } : Ring).isHeard = true := heard
    rw [if_pos heardNow]
    constructor
    · exact mirrors.slots
    · exact List.length_take_le _ _
    · show (List.take ring.slots (_ :: ring.kept)).length ≤ ring.position + 1
      have stored := mirrors.stored
      rw [List.length_take, List.length_cons]
      omega
    · show ring.counter + 1 = (audience.bus.emit timestamp kind).seq
      rw [EventBus.seq_emit, mirrors.counter]
    · exact mirrors.handles
    · exact mirrors.alive
    · refine mirrors.receivers.imp fun receiver subscriber related => ?_
      cases related with
      | none => exact .none
      | some tracks =>
        refine .some ?_
        obtain ⟨behind, distance, positive, place, same⟩ := tracks
        refine ⟨behind + 1, ?_, positive, congrArg (· + 1) place, ?_⟩
        · rw [EventBus.seq_emit]
          omega
        · rw [EventBus.history_emit, mirrors.counter]
          exact take_push same
  · have unheard : ¬ ({ ring with counter := ring.counter + 1 } : Ring).isHeard = true := heard
    rw [if_neg unheard]
    refine ⟨mirrors.slots, mirrors.room, mirrors.stored, ?_, mirrors.handles, mirrors.alive, ?_⟩
    · show ring.counter + 1 = (audience.bus.emit timestamp kind).seq
      rw [EventBus.seq_emit, mirrors.counter]
    · -- Nobody listens, so that nobody's distance can come out wrong.
      have nobody : ∀ receiver ∈ ring.receivers, receiver = none := by
        simpa [isHeard] using heard
      refine ((List.forall₂_and_left _ _).mpr ⟨nobody, mirrors.receivers⟩).imp ?_
      rintro receiver subscriber ⟨rfl, related⟩
      cases related
      exact .none

theorem emitTimes (mirrors : Mirrors ring audience) (timestamp : Calendar.Instant)
    (kind : EventKind) (times : Nat) :
    Mirrors (ring.emitTimes timestamp kind times)
      { audience with bus := Audience.emitTimes audience.bus timestamp kind times } := by
  induction times generalizing ring audience with
  | zero => exact mirrors
  | succ times inductionHypothesis => exact inductionHypothesis (mirrors.emit timestamp kind)

theorem ended_iff (mirrors : Mirrors ring audience) :
    ring.handles.any id = true ↔ audience.bus.handles ≠ 0 := by
  rw [mirrors.alive, mirrors.handles, Nat.ne_zero_iff_zero_lt, List.count_pos_iff]
  simp

/-- Who is behind by no more than what is kept gets the oldest message that it has not
received; who is further behind is told by how much. -/
theorem receive (mirrors : Mirrors ring audience) {next : Nat} {subscription : Subscription}
    (tracks : ring.Tracks audience.bus next subscription) :
    (ring.receive next).1 = (audience.bus.receive subscription).1 ∧
      ring.Tracks audience.bus (ring.receive next).2 (audience.bus.receive subscription).2 := by
  obtain ⟨behind, distance, positive, place, same⟩ := tracks
  have room := mirrors.room
  have stored := mirrors.stored
  have slots := mirrors.slots
  have lengths := congrArg List.length same
  rw [List.length_take, List.length_take, List.length_take, EventBus.length_history] at lengths
  unfold Ring.receive EventBus.receive Ring.oldest EventBus.oldest
  by_cases late : ring.slots < behind
  · have ringLate : next < ring.position - ring.kept.length := by omega
    have busLate : subscription.next < audience.bus.seq + 1 - audience.bus.slots := by omega
    rw [if_pos ringLate, if_pos busLate]
    refine ⟨congrArg Reception.lagged (by omega), ring.slots, ?_, ?_, ?_, ?_⟩
    · show audience.bus.seq + 1 - audience.bus.slots + ring.slots = audience.bus.seq + 1
      omega
    · show 1 ≤ audience.bus.seq + 1 - audience.bus.slots
      omega
    · show ring.position - ring.kept.length + ring.slots = ring.position
      omega
    · exact take_fewer same (Nat.le_of_lt late)
  · have ringKept : ¬ next < ring.position - ring.kept.length := by omega
    have busKept : ¬ subscription.next < audience.bus.seq + 1 - audience.bus.slots := by omega
    have ahead : ring.position - next = behind := by omega
    rw [if_neg ringKept, if_neg busKept, ahead, same,
      List.take_of_length_le (by rw [List.length_take]; omega),
      audience.bus.getLast?_take_history distance positive]
    cases found : audience.bus.emitted[subscription.next - 1]? with
    | none =>
      have ended := mirrors.ended_iff
      refine ⟨?_, behind, distance, positive, place, same⟩
      by_cases gone : audience.bus.handles = 0
      · rw [if_neg (by simpa [gone] using ended), if_pos gone]
      · rw [if_pos (ended.mpr gone), if_neg gone]
    | some event =>
      have within := (Array.getElem?_eq_some_iff.mp found).1
      have some : behind ≠ 0 := by
        have size : audience.bus.emitted.size = audience.bus.seq := rfl
        omega
      refine ⟨rfl, behind - 1, ?_, Nat.le_succ_of_le positive, ?_, ?_⟩
      · show subscription.next + 1 + (behind - 1) = audience.bus.seq + 1
        omega
      · show next + 1 + (behind - 1) = ring.position
        omega
      · exact take_fewer same (Nat.sub_le _ _)

theorem set (mirrors : Mirrors ring audience) (index : Nat) {receiver : Option Nat}
    {subscriber : Option Subscription}
    (related : Option.Rel (ring.Tracks audience.bus) receiver subscriber) :
    Mirrors { ring with receivers := ring.receivers.set index receiver }
      { audience with subscribers := audience.subscribers.set index subscriber } where
  slots := mirrors.slots
  room := mirrors.room
  stored := mirrors.stored
  counter := mirrors.counter
  handles := mirrors.handles
  alive := mirrors.alive
  receivers := forall₂_set mirrors.receivers related index

theorem cloneHandle (mirrors : Mirrors ring audience) :
    Mirrors { ring with handles := ring.handles ++ [true] }
      { audience with
        handles := audience.handles ++ [true]
        bus := { audience.bus with handles := audience.bus.handles + 1 } } where
  slots := mirrors.slots
  room := mirrors.room
  stored := mirrors.stored
  counter := mirrors.counter
  handles := congrArg (· ++ [true]) mirrors.handles
  alive := by
    rw [List.count_append, List.count_singleton_self]
    exact congrArg (· + 1) mirrors.alive
  receivers := mirrors.receivers

theorem dropHandle (mirrors : Mirrors ring audience) {handle : Nat}
    (alive : audience.isAlive handle = true) :
    Mirrors { ring with handles := ring.handles.set handle false }
      { audience with
        handles := audience.handles.set handle false
        bus := { audience.bus with handles := audience.bus.handles - 1 } } where
  slots := mirrors.slots
  room := mirrors.room
  stored := mirrors.stored
  counter := mirrors.counter
  handles := congrArg (·.set handle false) mirrors.handles
  alive := by
    obtain ⟨within, isTrue⟩ : ∃ within : handle < audience.handles.length,
        audience.handles[handle] = true := by
      by_cases within : handle < audience.handles.length
      · exact ⟨within, by simpa [Audience.isAlive, within] using alive⟩
      · simp [Audience.isAlive, within] at alive
    rw [List.count_set within, isTrue]
    exact congrArg (· - 1) mirrors.alive
  receivers := mirrors.receivers

end Mirrors

/-- Every operation is answered alike. -/
theorem perform_mirrors {ring : Ring} {audience : Audience} (mirrors : Mirrors ring audience)
    (time : Calendar.Instant) (op : AudienceOp) :
    (ring.perform time op).1 = (audience.perform time op).1 ∧
      Mirrors (ring.perform time op).2 (audience.perform time op).2 := by
  cases op with
  | subscribe handle =>
    simp only [perform, Audience.perform, mirrors.isAlive]
    split
    · exact ⟨congrArg _ mirrors.receivers.length_eq, mirrors.subscribe⟩
    · exact ⟨rfl, mirrors⟩
  | emit handle kind times =>
    simp only [perform, Audience.perform, mirrors.isAlive]
    split
    · exact ⟨rfl, mirrors.emitTimes time kind times⟩
    · exact ⟨rfl, mirrors⟩
  | receive receiver =>
    simp only [perform, Audience.perform]
    have related := forall₂_getElem? mirrors.receivers receiver
    generalize ring.receivers[receiver]? = known, audience.subscribers[receiver]? = sought
      at related
    cases related with
    | none => exact ⟨rfl, mirrors⟩
    | some here =>
      cases here with
      | none => exact ⟨rfl, mirrors⟩
      | some tracks =>
        obtain ⟨same, after⟩ := mirrors.receive tracks
        exact ⟨congrArg AudienceAnswer.received same, mirrors.set receiver (.some after)⟩
  | cloneHandle handle =>
    simp only [perform, Audience.perform, mirrors.isAlive]
    split
    · exact ⟨congrArg (AudienceAnswer.number ·.length) mirrors.handles, mirrors.cloneHandle⟩
    · exact ⟨rfl, mirrors⟩
  | dropHandle handle =>
    simp only [perform, Audience.perform, mirrors.isAlive]
    split
    · rename_i alive
      exact ⟨rfl, mirrors.dropHandle alive⟩
    · exact ⟨rfl, mirrors⟩
  | dropSubscriber receiver => exact ⟨rfl, mirrors.set receiver .none⟩

theorem follow_of_mirrors {ring : Ring} {audience : Audience} (mirrors : Mirrors ring audience)
    (ops : List (Calendar.Instant × AudienceOp)) : ring.follow ops = audience.follow ops := by
  induction ops generalizing ring audience with
  | nil => rfl
  | cons op rest inductionHypothesis =>
    obtain ⟨time, op⟩ := op
    obtain ⟨same, next⟩ := perform_mirrors mirrors time op
    exact List.cons_eq_cons.mpr ⟨same, inductionHypothesis next⟩

/-- The ring and the bus are told apart by nothing that they answer. -/
theorem follow_eq (capacity : Nat) (ops : List (Calendar.Instant × AudienceOp)) :
    (create capacity).follow ops = (Audience.create capacity).follow ops :=
  follow_of_mirrors (Mirrors.create capacity) ops

end Ring

end WorkHost

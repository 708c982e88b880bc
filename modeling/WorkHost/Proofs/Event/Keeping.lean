import WorkHost.Proofs.Event.Gaps
import WorkHost.Proofs.Host.Events

/-!
Contract: a bus that still keeps all its events.

As long as no more events were emitted than are kept, whoever has listened from the start
hears of no lag and receives them one after the other.
-/

namespace WorkHost

open private Nat.nextPowerOfTwo.go from Init.Data.Nat.Power2.Basic in
theorem le_nextPowerOfTwo (number : Nat) : number ≤ number.nextPowerOfTwo := by
  have above : ∀ power positive, number ≤ Nat.nextPowerOfTwo.go number power positive := by
    intro power positive
    fun_induction Nat.nextPowerOfTwo.go number power positive with
    | case1 power positive below inductionHypothesis => exact inductionHypothesis
    | case2 power positive reached => exact Nat.le_of_not_lt reached
  exact above 1 Nat.one_pos

namespace EventBus

theorem le_slots_create (capacity : Nat) : capacity ≤ (create capacity).slots :=
  Nat.le_trans (Nat.le_max_left capacity 1) (le_nextPowerOfTwo _)

/-- What was emitted, without numbers and times. -/
def kinds (bus : EventBus) : List EventKind := bus.emitted.toList.map Event.kind

@[simp]
theorem kinds_emit (bus : EventBus) (timestamp : Calendar.Instant) (kind : EventKind) :
    (bus.emit timestamp kind).kinds = bus.kinds ++ [kind] := by
  simp [kinds, emit]

theorem length_kinds (bus : EventBus) : bus.kinds.length = bus.seq := by
  rw [kinds, List.length_map, Array.length_toList, seq]

variable {bus : EventBus}

/-- Nothing is lost to whoever has received the first `heard` events. -/
theorem receive_of_kept (kept : bus.seq ≤ bus.slots) (heard : Nat) :
    bus.receive ⟨heard + 1⟩ =
      match bus.emitted[heard]? with
      | some event => (.event event, ⟨heard + 2⟩)
      | none => (if bus.handles = 0 then .closed else .empty, ⟨heard + 1⟩) := by
  have current : ¬ heard + 1 < bus.oldest := by
    rw [oldest]
    omega
  rw [receive, if_neg current]
  rfl

theorem drain_of_kept (kept : bus.seq ≤ bus.slots) {fuel heard : Nat}
    (enough : bus.seq < heard + fuel) :
    bus.drain fuel ⟨heard + 1⟩ = (bus.emitted.toList.drop heard).map .event := by
  induction fuel generalizing heard with
  | zero =>
    have nothing : bus.emitted.toList.length ≤ heard := by
      rw [Array.length_toList]
      exact Nat.le_of_lt enough
    rw [List.drop_eq_nil_of_le nothing]
    rfl
  | succ fuel inductionHypothesis =>
    rw [drain, receive_of_kept kept]
    cases found : bus.emitted[heard]? with
    | some event =>
      rw [← Array.getElem?_toList] at found
      obtain ⟨inside, isEvent⟩ := List.getElem?_eq_some_iff.mp found
      have rest : bus.drain fuel ⟨heard + 2⟩ =
          (bus.emitted.toList.drop (heard + 1)).map .event := inductionHypothesis (by omega)
      rw [List.drop_eq_getElem_cons inside, isEvent, List.map_cons, ← rest]
    | none =>
      rw [← Array.getElem?_toList, List.getElem?_eq_none_iff] at found
      rw [List.drop_eq_nil_of_le found]
      by_cases gone : bus.handles = 0
      · simp [gone]
      · simp [gone]

theorem drainAll_of_kept (kept : bus.seq ≤ bus.slots) :
    bus.drainAll ⟨1⟩ = bus.emitted.toList.map .event :=
  drain_of_kept kept (by omega)

end EventBus

end WorkHost

import WorkHost.Proofs.Queue.Traffic

/-!
Contract: the items of one producer are accepted in the order in which it enqueued them.

A producer makes a call only when none of its calls waits (`Traffic.Patient`). Calls are
numbered in the order in which they are made, so the calls of one producer that were
accepted have increasing numbers. `Callers.InTurn` says that and what carries it through
a run: a call that waits is its producer's last one.
-/

namespace WorkHost

namespace Callers

variable {α : Type}

/-- The calls of each producer are accepted one after the other; `owner` says who made
the call with a number. -/
structure InTurn (owner : Ticket → Nat) (callers : Callers α) : Prop where
  accepted : callers.accepted.Pairwise fun earlier later =>
    owner earlier.number = owner later.number → earlier.number < later.number
  waiting : ∀ waiter ∈ callers.waiters, ∀ call ∈ callers.accepted,
    owner call.number = owner waiter.call.number → call.number < waiter.call.number
  single : (callers.waiters.map fun waiter => owner waiter.call.number).Nodup

theorem number_lt_of_accepted {callers : Callers α} (numbered : callers.Numbered) {call : Call α}
    (member : call ∈ callers.accepted) : call.number < callers.issued := by
  obtain ⟨id, returned⟩ := mem_accepted.mp member
  exact numbered.below _ (List.mem_append_left _ (List.mem_map_of_mem returned))

variable {owner : Ticket → Nat} {callers : Callers α}

theorem fresh_inTurn : (fresh : Callers α).InTurn owner :=
  ⟨.nil, fun _ member => (List.not_mem_nil member).elim, List.nodup_nil⟩

/-- Accepting a call that is its producer's last one. -/
theorem InTurn.append_admitted (inTurn : callers.InTurn owner) {call : Call α}
    (progress : Enqueueing)
    (last : ∀ other ∈ callers.accepted,
      owner other.number = owner call.number → other.number < call.number) :
    (callers.accepted ++ progress.admitted call).Pairwise fun earlier later =>
      owner earlier.number = owner later.number → earlier.number < later.number := by
  rw [List.pairwise_append]
  refine ⟨inTurn.accepted, ?_, ?_⟩
  · rcases progress with (_ | id) | _
    · exact .nil
    · exact List.pairwise_singleton _ _
    · exact .nil
  · intro other member later admitted
    rw [mem_admitted admitted]
    exact last other member

theorem enter_inTurn (numbered : callers.Numbered) (inTurn : callers.InTurn owner)
    (waiter : Waiter α) (progress : Enqueueing) (next : waiter.call.number = callers.issued)
    (patient : ∀ other ∈ callers.waiters, owner other.call.number ≠ owner callers.issued) :
    (callers.enter waiter progress).InTurn owner := by
  have last : ∀ other ∈ callers.accepted,
      owner other.number = owner waiter.call.number → other.number < waiter.call.number := by
    intro other member _
    rw [next]
    exact number_lt_of_accepted numbered member
  constructor
  · rw [accepted_enter]
    exact inTurn.append_admitted progress last
  · rw [accepted_enter]
    intro other waits call member same
    rcases List.mem_append.mp member with old | admitted
    · cases progress with
      | done result => exact inTurn.waiting other waits call old same
      | waiting =>
        rcases List.mem_append.mp waits with before | isNew
        · exact inTurn.waiting other before call old same
        · rw [List.mem_singleton.mp isNew] at same ⊢
          exact last call old same
    · rw [mem_admitted admitted, next] at same
      cases progress with
      | done result => exact absurd same.symm (patient other waits)
      | waiting => cases admitted
  · cases progress with
    | done result => exact inTurn.single
    | waiting =>
      show ((callers.waiters ++ [waiter]).map _).Nodup
      rw [List.map_append, List.nodup_append]
      refine ⟨inTurn.single, List.nodup_singleton _, ?_⟩
      intro maker waits other isNew same
      obtain ⟨before, member, rfl⟩ := List.mem_map.mp waits
      have made : other = owner callers.issued :=
        (List.mem_singleton.mp isNew).trans (congrArg owner next)
      exact patient before member (same.trans made)

theorem leave_inTurn (inTurn : callers.InTurn owner) (number : Ticket) :
    (callers.leave number).InTurn owner where
  accepted := inTurn.accepted
  waiting waiter member := inTurn.waiting waiter (List.mem_of_mem_filter member)
  single := (List.filter_sublist.map _).nodup inTurn.single

theorem proceed_inTurn (inTurn : callers.InTurn owner) {waiter : Waiter α}
    (member : waiter ∈ callers.waiters) (progress : Enqueueing) :
    (callers.proceed waiter progress).InTurn owner := by
  cases progress with
  | waiting => exact inTurn
  | done result =>
    have left := leave_inTurn inTurn waiter.call.number
    -- Two calls that wait have different producers.
    have others : ∀ other ∈ (callers.leave waiter.call.number).waiters,
        owner other.call.number ≠ owner waiter.call.number := by
      intro other waits same
      obtain ⟨old, differs⟩ := List.mem_filter.mp waits
      rw [List.inj_on_of_nodup_map inTurn.single old member same] at differs
      simp at differs
    constructor
    · rw [accepted_proceed]
      exact inTurn.append_admitted _ (inTurn.waiting waiter member)
    · rw [accepted_proceed]
      intro other waits call accepted same
      rcases List.mem_append.mp accepted with old | admitted
      · exact left.waiting other waits call old same
      · rw [mem_admitted admitted] at same
        exact absurd same.symm (others other waits)
    · exact left.single

end Callers

namespace Traffic

variable {α : Type} {owner : Ticket → Nat}

/-- Whoever makes a call has no other call that waits. -/
def Patient (owner : Ticket → Nat) (traffic : Traffic α) : Move α → Prop
  | .call _ _ =>
    ∀ waiter ∈ traffic.callers.waiters,
      owner waiter.call.number ≠ owner traffic.callers.issued
  | _ => True

theorem step_inTurn [Queued α] {traffic : Traffic α} (numbered : traffic.callers.Numbered)
    (inTurn : traffic.callers.InTurn owner) (move : Move α)
    (patient : traffic.Patient owner move) : (traffic.step move).callers.InTurn owner := by
  cases move with
  | call route item =>
    simp only [step]
    split
    · exact inTurn
    · exact Callers.enter_inTurn numbered inTurn _ _ rfl patient
  | look number =>
    simp only [step]
    cases found : traffic.callers.find? number with
    | none => exact inTurn
    | some waiter =>
      exact Callers.proceed_inTurn inTurn (Callers.mem_waiters_of_find? found) _
  | abandon number =>
    simp only [step]
    cases traffic.callers.find? number with
    | none => exact inTurn
    | some waiter => exact Callers.leave_inTurn inTurn _
  | fire token => exact ⟨inTurn.accepted, inTurn.waiting, inTurn.single⟩
  | cloneHandle =>
    simp only [step]
    split
    · exact inTurn
    · exact inTurn
  | dropHandle =>
    simp only [step]
    split
    · exact inTurn
    · exact inTurn

end Traffic

end WorkHost

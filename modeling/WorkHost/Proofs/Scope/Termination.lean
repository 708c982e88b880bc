import Mathlib.Data.Finset.Card
import WorkHost.Proofs.Scope.Instances
import WorkHost.Proofs.Scope.Nesting

/-!
Contract: that resolving a type comes to an end, and how deep constructors nest.

The machine has no limit to how often it is asked and how deep constructors nest, and a
constructor may try again what has failed. It ends all the same, as each constructor under
way is that of another registered type (`Machine.Orderly.length_le`).
-/

namespace WorkHost

namespace Machine

variable {services : List Service} {before : List ServiceType} {root : ServiceType}
  {machine : Machine}

/-- The registered types that are not among those on the stack. -/
def free (services : List Service) (stack : List ServiceType) : Finset ServiceType :=
  (services.map Service.type).toFinset \ stack.toFinset

theorem Orderly.nodup (orderly : machine.Orderly services before root) :
    (machine.frames.map Frame.type ++ before).Nodup := by
  rw [← orderly.stacked]
  exact orderly.sound.underConstruction_nodup

/-- Constructors that were started inside others are those of free types. -/
theorem Orderly.length_le (orderly : machine.Orderly services before root)
    {inner outer : List Frame} (nested : machine.frames = inner ++ outer) :
    inner.length ≤ (free services (outer.map Frame.type ++ before)).card := by
  have nodup := orderly.nodup
  rw [nested, List.map_append, List.append_assoc] at nodup
  obtain ⟨innerNodup, -, apart⟩ := List.nodup_append.mp nodup
  calc inner.length = (inner.map Frame.type).toFinset.card := by
        rw [List.toFinset_card_of_nodup innerNodup, List.length_map]
    _ ≤ (free services (outer.map Frame.type ++ before)).card := by
        apply Finset.card_le_card
        intro type isInner
        have isStarted := List.mem_toFinset.mp isInner
        obtain ⟨frame, isFrame, rfl⟩ := List.mem_map.mp isStarted
        obtain ⟨service, registered, -⟩ := orderly.placed frame (by simp [nested, isFrame])
        obtain ⟨isService, same⟩ := mem_of_findService? registered
        have isRegistered := List.mem_map.mpr ⟨service, isService, same⟩
        refine Finset.mem_sdiff.mpr ⟨List.mem_toFinset.mpr isRegistered, fun isBelow => ?_⟩
        exact apart _ isStarted _ (List.mem_toFinset.mp isBelow) rfl

/-- A request for a type under construction is answered at once. -/
theorem Orderly.step_busy (orderly : machine.Orderly services before root) {type : ServiceType}
    (asks : machine.task = .asking type)
    (busy : type ∈ machine.frames.map Frame.type ++ before) :
    machine.step services =
      some { machine with task := .returning (.error (Resolution.cycle type)) } := by
  obtain ⟨frames, resolving, stock, task⟩ := machine
  cases asks
  rw [← orderly.stacked] at busy
  exact step_cyclic (orderly.sound.find?_of_busy busy) busy

end Machine

namespace ContainerScope

/-- Whatever the owner of a scope has asked of it, whatever is registered and however
constructors ask, fail, try again and panic: the next request comes to an end, and so does
each that a constructor makes meanwhile. No constructor is started while that of the same
type is under way, so that no more of them are nested than there are free types. -/
theorem resolution_ends (container : Container) (journal : Journal) (turns : List Turn)
    (type : ServiceType) :
    let services := container.services
    let life := (Life.opened container journal).run turns
    let stuck := life.scope.resolving
    let start := Machine.start life.scope type life.journal
    let resolved := life.scope.resolve type life.journal
    Acc (fun later earlier => earlier.step services = some later) start ∧
    (∃ last, start.Ends services last ∧ last.Yields resolved.1 resolved.2.1 resolved.2.2) ∧
    ∀ machine, start.Runs services machine →
      (machine.frames.map Frame.type ++ stuck).Nodup ∧
      (∀ inner outer, machine.frames = inner ++ outer →
        inner.length ≤ (Machine.free services (outer.map Frame.type ++ stuck)).card) ∧
      ∀ other, machine.task = .asking other →
        (other ∈ machine.frames.map Frame.type ++ stuck →
          machine.step services =
            some { machine with task := .returning (.error (Resolution.cycle other)) }) ∧
        ((∃ answer rest, machine.Runs services
            ⟨machine.frames, machine.resolving, rest, .returning answer⟩) ∨
          ∃ payload inner resolving rest, machine.Runs services
            ⟨inner ++ machine.frames, resolving, rest, .panicking payload⟩) := by
  intro services life stuck start resolved
  have opened : (Life.opened container journal).scope.Sound := ofContainer_sound container
  have sound : life.scope.Sound := Life.run_sound opened turns
  have registered : life.scope.services = services := Life.run_services _ turns
  rw [← registered]
  obtain ⟨last, ends, yields⟩ := resolve_ends sound type life.journal
  refine ⟨ends.acc, ⟨last, ends, yields⟩, ?_⟩
  intro machine runs
  have orderly := Machine.run_orderly (Machine.start_orderly sound type life.journal) runs
  refine ⟨orderly.nodup, fun inner outer => orderly.length_le, ?_⟩
  intro other asks
  refine ⟨orderly.step_busy asks, ?_⟩
  obtain ⟨frames, resolving, stock, task⟩ := machine
  cases asks
  rcases orderly.settles with answered | ⟨payload, inner, rest, panics⟩
  · exact .inl answered
  · exact .inr ⟨payload, inner, _, rest, panics⟩

end ContainerScope

end WorkHost

import Mathlib.Data.List.Nodup
import WorkHost.Scope.Container

/-!
Contract: what holds of a container's scope after any of its operations.

`Holdings.Sound` relates what a scope holds to the types under construction. Running a
constructor, resolving a type and disposing keep it, whether they succeed, fail or
panic, so that a scope has it after every sequence of requests. Of sound holdings no
request for a type gets an instance of another one: the check of the type decides
nothing, neither at the top nor in a constructor at any depth.
-/

namespace WorkHost

namespace Holdings

/-- What a scope holds while some types are under construction. -/
structure Sound (holdings : Holdings) (underConstruction : List ServiceType) : Prop where
  created_nodup : holdings.created.Nodup
  keys : holdings.instances.map Prod.fst = holdings.created
  typed : ∀ entry ∈ holdings.instances, entry.2.type = entry.1
  underConstruction_nodup : underConstruction.Nodup
  disjoint : underConstruction.Disjoint holdings.created

theorem find?_eq_none_iff (holdings : Holdings) (type : ServiceType) :
    holdings.find? type = none ↔ type ∉ holdings.instances.map Prod.fst := by
  simp only [find?, Option.map_eq_none_iff, List.find?_eq_none, List.mem_map, decide_eq_true_eq]
  constructor
  · rintro others ⟨entry, isEntry, key⟩
    exact others entry isEntry key
  · intro missing entry isEntry key
    exact missing ⟨entry, isEntry, key⟩

namespace Sound

variable {holdings : Holdings} {type : ServiceType} {stack : List ServiceType}

theorem empty (nodup : stack.Nodup) : Holdings.empty.Sound stack where
  created_nodup := List.nodup_nil
  keys := rfl
  typed := nofun
  underConstruction_nodup := nodup
  disjoint := List.disjoint_nil_right stack

theorem type_of_find? {held : Instance} (sound : holdings.Sound stack)
    (found : holdings.find? type = some held) : held.type = type := by
  obtain ⟨entry, isEntry, rfl⟩ := Option.map_eq_some_iff.mp found
  have key : entry.1 = type := by simpa using List.find?_some isEntry
  rw [sound.typed entry (List.mem_of_find?_eq_some isEntry), key]

theorem push (sound : holdings.Sound stack) (missing : holdings.find? type = none)
    (idle : type ∉ stack) : holdings.Sound (type :: stack) where
  created_nodup := sound.created_nodup
  keys := sound.keys
  typed := sound.typed
  underConstruction_nodup := List.nodup_cons.mpr ⟨idle, sound.underConstruction_nodup⟩
  disjoint := by
    rw [find?_eq_none_iff, sound.keys] at missing
    exact List.disjoint_cons_left.mpr ⟨missing, sound.disjoint⟩

theorem pop (sound : holdings.Sound (type :: stack)) : holdings.Sound stack where
  created_nodup := sound.created_nodup
  keys := sound.keys
  typed := sound.typed
  underConstruction_nodup := (List.nodup_cons.mp sound.underConstruction_nodup).2
  disjoint := (List.disjoint_cons_left.mp sound.disjoint).2

/-- The type that was under construction is constructed. -/
theorem add {held : Instance} (sound : holdings.Sound (type :: stack))
    (typed : held.type = type) : (holdings.add type held).Sound stack where
  created_nodup := by
    have unmade := (List.disjoint_cons_left.mp sound.disjoint).1
    exact List.nodup_cons.mpr ⟨unmade, sound.created_nodup⟩
  keys := by simp [Holdings.add, sound.keys]
  typed := by
    intro entry isEntry
    rcases List.mem_cons.mp isEntry with rfl | earlier
    · exact typed
    · exact sound.typed entry earlier
  underConstruction_nodup := sound.pop.underConstruction_nodup
  disjoint := by
    have idle := (List.nodup_cons.mp sound.underConstruction_nodup).1
    exact List.disjoint_cons_right.mpr ⟨idle, sound.pop.disjoint⟩

/-- The newest instance of sound holdings, and what is left without it. -/
theorem newest {created : List ServiceType} {instances : List (ServiceType × Instance)}
    (sound : Holdings.Sound ⟨instances, type :: created⟩ stack) :
    ∃ held older, instances = (type, held) :: older ∧
      Holdings.remove ⟨instances, created⟩ type = ⟨older, created⟩ ∧
      Holdings.Sound ⟨older, created⟩ stack := by
  have keys : instances.map Prod.fst = type :: created := sound.keys
  obtain ⟨⟨key, held⟩, older, rfl, rfl, olderKeys⟩ := List.map_eq_cons_iff.mp keys
  obtain ⟨unique, created_nodup⟩ := List.nodup_cons.mp sound.created_nodup
  have others : ∀ entry ∈ older, entry.1 ≠ key := by
    rintro entry isEntry rfl
    apply unique
    rw [← olderKeys]
    exact List.mem_map.mpr ⟨entry, isEntry, rfl⟩
  refine ⟨held, older, rfl, ?_, ?_⟩
  · have kept : older.filter (fun entry => entry.1 ≠ key) = older := by
      rw [List.filter_eq_self]
      intro entry isEntry
      exact decide_eq_true (others entry isEntry)
    rw [remove, List.filter_cons_of_neg (by simp), kept]
  · exact
      { created_nodup
        keys := olderKeys
        typed := fun entry isEntry => sound.typed entry (List.mem_cons_of_mem _ isEntry)
        underConstruction_nodup := sound.underConstruction_nodup
        disjoint := (List.disjoint_cons_right.mp sound.disjoint).2 }

end Sound

end Holdings

namespace Resolution

/-- A good answer to a request for a type, with the stock it leaves. -/
structure Answers (type : ServiceType) (stack : List ServiceType)
    (answer : Resolution × Stock) : Prop where
  typed : ∀ held, answer.1 = .resolved held → held.type = type
  sound : answer.2.holdings.Sound (answer.1.underConstruction stack)

theorem ofType_of_answers {type : ServiceType} {stack : List ServiceType}
    {answer : Resolution × Stock} (answers : Answers type stack answer) :
    answer.1.ofType type = answer.1 := by
  match given : answer.1 with
  | .resolved held => simp [ofType, answers.typed held given]
  | .failed _ | .panicked _ _ => rfl

end Resolution

namespace Construction

def underConstruction (stack : List ServiceType) : Construction → List ServiceType
  | .panicked _ interrupted => interrupted
  | _ => stack

/-- A good end of the constructor of a type, with the stock it leaves. -/
structure Answers (type : ServiceType) (stack : List ServiceType)
    (answer : Construction × Stock) : Prop where
  typed : ∀ held, answer.1 = .constructed held → held.type = type
  sound : answer.2.holdings.Sound (answer.1.underConstruction stack)

end Construction

section Constructors

variable {stack : List ServiceType} {type : ServiceType}

theorem runSteps_answers {get : ServiceType → Stock → Resolution × Stock}
    (getAnswers : ∀ other stock, stock.holdings.Sound stack →
      Resolution.Answers other stack (get other stock))
    (steps : List BuildStep) (dependencies : List (ServiceType × Nat)) (stock : Stock)
    (sound : stock.holdings.Sound stack) :
    Construction.Answers type stack (runSteps get type stack steps dependencies stock) := by
  induction steps generalizing dependencies stock with
  | nil =>
    constructor
    · intro held isHeld
      cases isHeld
      rfl
    · exact sound
  | cons step steps inductionHypothesis =>
    cases step with
    | get other =>
      have answers := getAnswers other stock sound
      simp only [runSteps]
      generalize get other stock = obtained at answers ⊢
      rcases obtained with ⟨_ | _ | _, rest⟩
      case resolved held => exact inductionHypothesis _ rest answers.sound
      case failed failure => exact ⟨nofun, answers.sound⟩
      case panicked payload interrupted => exact ⟨nofun, answers.sound⟩
    | tryGet other =>
      have answers := getAnswers other stock sound
      simp only [runSteps]
      generalize get other stock = obtained at answers ⊢
      rcases obtained with ⟨_ | _ | _, rest⟩
      case resolved held => exact inductionHypothesis _ rest answers.sound
      case failed failure => exact inductionHypothesis _ (rest.write _) answers.sound
      case panicked payload interrupted => exact ⟨nofun, answers.sound⟩
    | fail root contexts => exact ⟨nofun, sound⟩
    | panic message => exact ⟨nofun, sound⟩
    | log text => exact inductionHypothesis _ (stock.write _) sound

theorem resolveBy_answers {construct : Service → Stock → Construction × Stock}
    (services : List Service) (stock : Stock) (sound : stock.holdings.Sound stack)
    (constructAnswers : ∀ service, stock.holdings.Sound (type :: stack) →
      Construction.Answers type (type :: stack) (construct service stock)) :
    Resolution.Answers type stack (resolveBy services construct stack type stock) := by
  cases found : stock.holdings.find? type with
  | some held =>
    simp only [resolveBy, found]
    refine ⟨?_, sound⟩
    intro other isHeld
    cases isHeld
    exact sound.type_of_find? found
  | none =>
    by_cases cyclic : stack.contains type
    · simp only [resolveBy, found, cyclic, if_true]
      exact ⟨nofun, sound⟩
    · cases registered : findService? services type with
      | none =>
        simp only [resolveBy, found, cyclic, registered]
        exact ⟨nofun, sound⟩
      | some service =>
        have answers := constructAnswers service (sound.push found (by simpa using cyclic))
        simp only [resolveBy, found, cyclic, registered, Bool.false_eq_true, if_false]
        generalize construct service stock = built at answers ⊢
        rcases built with ⟨_ | _ | _, rest⟩
        case constructed held =>
          have typed := answers.typed held rfl
          refine ⟨?_, Holdings.Sound.add answers.sound typed⟩
          intro other isHeld
          cases isHeld
          exact typed
        case failed reason => exact ⟨nofun, Holdings.Sound.pop answers.sound⟩
        case panicked payload interrupted => exact ⟨nofun, answers.sound⟩

theorem resolveWithin_answers (services : List Service) (room : Nat) (stack : List ServiceType)
    (type : ServiceType) (stock : Stock) (sound : stock.holdings.Sound stack) :
    Resolution.Answers type stack (resolveWithin services room stack type stock) := by
  induction room generalizing stack type stock with
  | zero =>
    apply resolveBy_answers services stock sound
    intro service pushed
    exact ⟨nofun, pushed⟩
  | succ room inductionHypothesis =>
    apply resolveBy_answers services stock sound
    intro service pushed
    apply runSteps_answers _ service.steps [] stock pushed
    intro other stock sound
    have answers := inductionHypothesis (type :: stack) other stock sound
    simpa only [Resolution.ofType_of_answers answers] using answers

theorem runSteps_congr {get trusting : ServiceType → Stock → Resolution × Stock}
    (getAnswers : ∀ other stock, stock.holdings.Sound stack →
      Resolution.Answers other stack (get other stock))
    (same : ∀ other stock, stock.holdings.Sound stack → get other stock = trusting other stock)
    (steps : List BuildStep) (dependencies : List (ServiceType × Nat)) (stock : Stock)
    (sound : stock.holdings.Sound stack) :
    runSteps get type stack steps dependencies stock =
      runSteps trusting type stack steps dependencies stock := by
  induction steps generalizing dependencies stock with
  | nil => rfl
  | cons step steps inductionHypothesis =>
    cases step with
    | get other =>
      have answers := getAnswers other stock sound
      simp only [runSteps, ← same other stock sound]
      generalize get other stock = obtained at answers ⊢
      rcases obtained with ⟨_ | _ | _, rest⟩
      case resolved held => exact inductionHypothesis _ rest answers.sound
      case failed failure => rfl
      case panicked payload interrupted => rfl
    | tryGet other =>
      have answers := getAnswers other stock sound
      simp only [runSteps, ← same other stock sound]
      generalize get other stock = obtained at answers ⊢
      rcases obtained with ⟨_ | _ | _, rest⟩
      case resolved held => exact inductionHypothesis _ rest answers.sound
      case failed failure => exact inductionHypothesis _ (rest.write _) answers.sound
      case panicked payload interrupted => rfl
    | fail root contexts => rfl
    | panic message => rfl
    | log text => exact inductionHypothesis _ (stock.write _) sound

theorem resolveBy_congr {construct trusting : Service → Stock → Construction × Stock}
    (services : List Service) (stock : Stock) (sound : stock.holdings.Sound stack)
    (same : ∀ service, stock.holdings.Sound (type :: stack) →
      construct service stock = trusting service stock) :
    resolveBy services construct stack type stock =
      resolveBy services trusting stack type stock := by
  cases found : stock.holdings.find? type with
  | some held => simp only [resolveBy, found]
  | none =>
    by_cases cyclic : stack.contains type
    · simp only [resolveBy, found, cyclic, if_true]
    · have pushed := sound.push found (by simpa using cyclic)
      simp only [resolveBy, found, cyclic, same _ pushed]

end Constructors

end WorkHost

import WorkHost.Proofs.Scope.Evaluation
import WorkHost.Proofs.Scope.Lifetimes

/-!
Contract: how a type stands in a scope while types are resolved.

Of every type the scope holds an instance, or its constructor is under way, or a panic has
interrupted it, or it may be started, or the type is unknown (`Standing`). Each visit of
the type finds it in one of these and says which comes next (`Standing.Follows`). However
constructors nest, retry and fail, the visits of a type follow its standing
(`Resolves.follows`), so that it is constructed at most once and never while it is under
construction (`one_instance_per_type`).
-/

namespace WorkHost

/-! ## Standings -/

/-- How a type stands in a scope. -/
inductive Standing where
  /-- It is not registered. -/
  | unknown
  /-- Its constructor can be started. -/
  | idle
  /-- Its constructor is under way. -/
  | busy
  /-- A panic has interrupted its constructor. -/
  | stuck
  | held (held : Instance)
deriving DecidableEq, Repr

namespace Standing

/-- What a visit of the type comes to in its standing, and how it stands afterwards. -/
inductive Meets (type : ServiceType) : Standing → Visit → Standing → Prop where
  /-- It concerns another type. -/
  | aside {standing : Standing} {visit : Visit} : visit.type ≠ type →
    Meets type standing visit standing
  | unknown : Meets type .unknown (.answered type (.failed (.resolve type.name))) .unknown
  | begun : Meets type .idle (.entered type) .busy
  | cyclic : Meets type .busy (.answered type (.failed (Resolution.cycle type))) .busy
  | constructed (held : Instance) : Meets type .busy (.left type (.resolved held)) (.held held)
  | failed (failure : Failure) : Meets type .busy (.left type (.failed failure)) .idle
  | interrupted (payload : Payload) (stack : List ServiceType) :
    Meets type .busy (.left type (.panicked payload stack)) .stuck
  | stuck : Meets type .stuck (.answered type (.failed (Resolution.cycle type))) .stuck
  | obtained (held : Instance) :
    Meets type (.held held) (.answered type (.resolved held)) (.held held)

/-- The standing of the type from visit to visit. -/
inductive Follows (type : ServiceType) : Standing → List Visit → Standing → Prop where
  | nil {standing : Standing} : Follows type standing [] standing
  | cons {standing middle after : Standing} {visit : Visit} {visits : List Visit} :
    Meets type standing visit middle → Follows type middle visits after →
      Follows type standing (visit :: visits) after

namespace Follows

variable {type : ServiceType} {standing middle after : Standing} {visits more : List Visit}

theorem append (follows : Follows type standing visits middle)
    (later : Follows type middle more after) : Follows type standing (visits ++ more) after := by
  induction follows with
  | nil => exact later
  | cons meets follows inductionHypothesis => exact .cons meets (inductionHypothesis later)

theorem split (follows : Follows type standing (visits ++ more) after) :
    ∃ middle, Follows type standing visits middle ∧ Follows type middle more after := by
  induction visits generalizing standing with
  | nil => exact ⟨standing, .nil, follows⟩
  | cons visit visits inductionHypothesis =>
    cases follows with
    | cons meets follows =>
      obtain ⟨middle, earlier, later⟩ := inductionHypothesis follows
      exact ⟨middle, .cons meets earlier, later⟩

theorem single {visit : Visit} (meets : Meets type standing visit after) :
    Follows type standing [visit] after := .cons meets .nil

/-- An instance that is held is what everyone gets. -/
theorem of_held {held : Instance} (follows : Follows type (.held held) visits after) :
    ∀ visit ∈ visits, visit.type = type → visit = .answered type (.resolved held) := by
  induction visits with
  | nil => nofun
  | cons first visits inductionHypothesis =>
    cases follows with
    | cons meets follows =>
      intro visit isVisit concerns
      cases meets with
      | aside other =>
        rcases List.mem_cons.mp isVisit with rfl | later
        · exact absurd concerns other
        · exact inductionHypothesis follows visit later concerns
      | obtained =>
        rcases List.mem_cons.mp isVisit with rfl | later
        · rfl
        · exact inductionHypothesis follows visit later concerns

/-- Visits of other types leave the type as it stands. -/
theorem of_aside (follows : Follows type standing visits after)
    (others : ∀ visit ∈ visits, visit.type ≠ type) : after = standing := by
  induction follows with
  | nil => rfl
  | cons meets follows inductionHypothesis =>
    have rest := inductionHypothesis fun visit isVisit =>
      others visit (List.mem_cons_of_mem _ isVisit)
    have first := others _ List.mem_cons_self
    cases meets with
    | aside => exact rest
    | _ => exact absurd rfl first

end Follows

theorem Meets.held_of_resolved {type : ServiceType} {standing after : Standing} {visit : Visit}
    (meets : Meets type standing visit after) (concerns : visit.type = type) {held : Instance}
    (gives : visit.answer? = some (.resolved held)) : after = .held held := by
  cases meets with
  | aside other => exact absurd concerns other
  | constructed | obtained =>
    cases gives
    rfl
  | _ => cases gives

theorem Meets.idle_of_failed {type : ServiceType} {standing after : Standing} {failure : Failure}
    (meets : Meets type standing (.left type (.failed failure)) after) : after = .idle := by
  cases meets with
  | aside other => exact absurd rfl other
  | failed => rfl

theorem Meets.entered_of_idle {type : ServiceType} {after : Standing} {visit : Visit}
    (meets : Meets type .idle visit after) (concerns : visit.type = type) :
    visit = .entered type := by
  cases meets with
  | aside other => exact absurd concerns other
  | begun => rfl

end Standing

/-! ## Counting -/

namespace Visit

/-- The constructor of the type is started. -/
def enters (type : ServiceType) : Visit → Bool
  | .entered other => other = type
  | _ => false

/-- The constructor of the type has ended. -/
def leaves (type : ServiceType) : Visit → Bool
  | .left other _ => other = type
  | _ => false

/-- The constructor of the type has come to its end. -/
def completes (type : ServiceType) : Visit → Bool
  | .left other (.resolved _) => other = type
  | _ => false

end Visit

namespace Standing

/-- How many constructors of the type are under way. -/
def active : Standing → Nat
  | .busy => 1
  | _ => 0

/-- How many instances of the type are held. -/
def instances : Standing → Nat
  | .held _ => 1
  | _ => 0

variable {type : ServiceType} {standing after : Standing}

theorem Meets.active_eq {visit : Visit} (meets : Meets type standing visit after) :
    (if visit.enters type then 1 else 0) + standing.active =
      (if visit.leaves type then 1 else 0) + after.active := by
  cases meets with
  | aside other => cases visit <;> simp_all [Visit.enters, Visit.leaves, Visit.type]
  | _ => simp [Visit.enters, Visit.leaves, active]

theorem Meets.instances_eq {visit : Visit} (meets : Meets type standing visit after) :
    (if visit.completes type then 1 else 0) + standing.instances = after.instances := by
  cases meets with
  | aside other =>
    rcases visit with _ | _ | ⟨_, _ | _ | _⟩ <;> simp_all [Visit.completes, Visit.type]
  | _ => simp [Visit.completes, instances]

theorem active_le (standing : Standing) : standing.active ≤ 1 := by
  cases standing <;> simp [active]

theorem instances_le (standing : Standing) : standing.instances ≤ 1 := by
  cases standing <;> simp [instances]

theorem active_of_ne_busy (calm : standing ≠ .busy) : standing.active = 0 := by
  cases standing with
  | busy => exact absurd rfl calm
  | _ => rfl

namespace Follows

variable {visits : List Visit}

/-- The constructors that are under way are those that were started and have not ended. -/
theorem active_eq (follows : Follows type standing visits after) :
    visits.countP (Visit.enters type) + standing.active =
      visits.countP (Visit.leaves type) + after.active := by
  induction follows with
  | nil => rfl
  | cons meets follows inductionHypothesis =>
    have first := meets.active_eq
    rw [List.countP_cons, List.countP_cons]
    omega

theorem instances_eq (follows : Follows type standing visits after) :
    visits.countP (Visit.completes type) + standing.instances = after.instances := by
  induction follows with
  | nil => exact Nat.zero_add _
  | cons meets follows inductionHypothesis =>
    have first := meets.instances_eq
    rw [List.countP_cons]
    omega

end Follows

end Standing

/-! ## The standing of a type while another one is resolved -/

theorem Holdings.find?_add_self (holdings : Holdings) (type : ServiceType) (held : Instance) :
    (holdings.add type held).find? type = some held := by
  simp [Holdings.find?, Holdings.add]

theorem Holdings.find?_add_of_ne (holdings : Holdings) {type other : ServiceType}
    (different : other ≠ type) (held : Instance) :
    (holdings.add type held).find? other = holdings.find? other := by
  simp [Holdings.find?, Holdings.add, different.symm]

theorem Holdings.Sound.find?_of_busy {holdings : Holdings} {stack : List ServiceType}
    (sound : holdings.Sound stack) {type : ServiceType} (busy : type ∈ stack) :
    holdings.find? type = none := by
  rw [Holdings.find?_eq_none_iff, sound.keys]
  exact fun created => sound.disjoint busy created

namespace Standing

/-- The type stands so in a scope with these holdings, if the constructors of the types on
the stack have been started and have not ended. -/
def Fits (services : List Service) (stack : List ServiceType) (holdings : Holdings)
    (type : ServiceType) : Standing → Prop
  | .unknown =>
    holdings.find? type = none ∧ type ∉ stack ∧ findService? services type = none
  | .idle => holdings.find? type = none ∧ type ∉ stack ∧ findService? services type ≠ none
  | .busy | .stuck => type ∈ stack
  | .held given => holdings.find? type = some given

variable {services : List Service} {stack : List ServiceType} {holdings : Holdings}
  {type watched : ServiceType} {standing : Standing}

/-- Between two requests of its owner no constructor of the scope is under way. -/
theorem exists_fits (services : List Service) (stack : List ServiceType) (holdings : Holdings)
    (type : ServiceType) :
    ∃ standing, Fits services stack holdings type standing ∧ standing ≠ .busy := by
  cases found : holdings.find? type with
  | some held => exact ⟨.held held, found, nofun⟩
  | none =>
    by_cases busy : type ∈ stack
    · exact ⟨.stuck, busy, nofun⟩
    · by_cases unknown : findService? services type = none
      · exact ⟨.unknown, ⟨found, busy, unknown⟩, nofun⟩
      · exact ⟨.idle, ⟨found, busy, unknown⟩, nofun⟩

theorem Fits.eq_held (fits : Fits services stack holdings type standing)
    (sound : holdings.Sound stack) {held : Instance} (found : holdings.find? type = some held) :
    standing = .held held := by
  cases standing with
  | unknown | idle => cases fits.1.symm.trans found
  | busy | stuck => cases (sound.find?_of_busy fits).symm.trans found
  | held other => cases fits.symm.trans found; rfl

theorem Fits.eq_busy_or_stuck (fits : Fits services stack holdings type standing)
    (sound : holdings.Sound stack) (busy : type ∈ stack) :
    standing = .busy ∨ standing = .stuck := by
  cases standing with
  | unknown | idle => exact absurd busy fits.2.1
  | busy => exact .inl rfl
  | stuck => exact .inr rfl
  | held held => cases (sound.find?_of_busy busy).symm.trans fits

theorem Fits.eq_unknown (fits : Fits services stack holdings type standing)
    (missing : holdings.find? type = none) (idle : type ∉ stack)
    (unknown : findService? services type = none) : standing = .unknown := by
  cases standing with
  | unknown => rfl
  | idle => exact absurd unknown fits.2.2
  | busy | stuck => exact absurd fits idle
  | held held => cases missing.symm.trans fits

theorem Fits.eq_idle (fits : Fits services stack holdings type standing)
    (missing : holdings.find? type = none) (idle : type ∉ stack) {service : Service}
    (registered : findService? services type = some service) : standing = .idle := by
  cases standing with
  | unknown => cases fits.2.2.symm.trans registered
  | idle => rfl
  | busy | stuck => exact absurd fits idle
  | held held => cases missing.symm.trans fits

/-- The constructor of another type makes no difference. -/
theorem fits_cons_iff (different : watched ≠ type) :
    Fits services (type :: stack) holdings watched standing ↔
      Fits services stack holdings watched standing := by
  cases standing <;> simp [Fits, different]

theorem fits_add_iff (different : watched ≠ type) (held : Instance) :
    Fits services stack (holdings.add type held) watched standing ↔
      Fits services stack holdings watched standing := by
  cases standing <;> simp [Fits, Holdings.find?_add_of_ne _ different]

/-- The end of the constructor of another type makes no difference. -/
theorem Fits.keep {construction : Construction} {rest : Stock}
    (fits : Fits services (construction.underConstruction (type :: stack)) rest.holdings watched
      standing) (different : watched ≠ type) :
    Fits services ((construction.answer type).underConstruction stack)
      (construction.keep type rest).holdings watched standing := by
  cases construction with
  | constructed held =>
    exact (fits_add_iff different held).mpr ((fits_cons_iff different).mp fits)
  | failed reason => exact (fits_cons_iff different).mp fits
  | panicked payload interrupted => exact fits

/-- The end of the constructor of the type itself. -/
theorem meets_left {service : Service} {construction : Construction} {rest : Stock}
    (busy : Fits services (construction.underConstruction (type :: stack)) rest.holdings type
      .busy)
    (sound : rest.holdings.Sound (construction.underConstruction (type :: stack)))
    (registered : findService? services type = some service) (idle : type ∉ stack) :
    ∃ after, Meets type .busy (.left type (construction.answer type)) after ∧
      Fits services ((construction.answer type).underConstruction stack)
        (construction.keep type rest).holdings type after ∧ after ≠ .busy := by
  cases construction with
  | constructed held => exact ⟨_, .constructed held, Holdings.find?_add_self _ _ _, nofun⟩
  | failed reason =>
    refine ⟨_, .failed _, ⟨sound.find?_of_busy busy, idle, ?_⟩, nofun⟩
    exact Option.ne_none_iff_exists'.mpr ⟨service, registered⟩
  | panicked payload interrupted => exact ⟨_, .interrupted payload interrupted, busy, nofun⟩

/-- The visits lead from any standing of the type before to one after them; its constructor
is under way afterwards if it was before. -/
def Carries (services : List Service) (type : ServiceType) (stack : List ServiceType)
    (holdings : Holdings) (visits : List Visit) (left : List ServiceType) (rest : Holdings) :
    Prop :=
  ∀ standing, Fits services stack holdings type standing →
    ∃ after, Follows type standing visits after ∧ Fits services left rest type after ∧
      (after = .busy ↔ standing = .busy)

namespace Carries

variable {left : List ServiceType} {rest : Holdings} {visits more : List Visit}

theorem nil : Carries services watched stack holdings [] stack holdings :=
  fun standing fits => ⟨standing, .nil, fits, .rfl⟩

theorem append {middle : List ServiceType} {between : Holdings}
    (carries : Carries services watched stack holdings visits middle between)
    (later : Carries services watched middle between more left rest) :
    Carries services watched stack holdings (visits ++ more) left rest := by
  intro standing fits
  obtain ⟨next, follows, nextFits, calm⟩ := carries standing fits
  obtain ⟨after, followsLater, afterFits, calmLater⟩ := later next nextFits
  exact ⟨after, follows.append followsLater, afterFits, calmLater.trans calm⟩

/-- A request that is answered at once leaves every type as it stands. -/
theorem answered {answer : Resolution}
    (meets : ∀ standing, Fits services stack holdings type standing →
      Meets type standing (.answered type answer) standing) (watched : ServiceType) :
    Carries services watched stack holdings [.answered type answer] stack holdings := by
  intro standing fits
  refine ⟨standing, ?_, fits, .rfl⟩
  by_cases same : watched = type
  · subst same
    exact .single (meets standing fits)
  · exact .single (.aside (Ne.symm same))

/-- A constructor that is started for a type has left it when the type is answered. -/
theorem ran {service : Service} {construction : Construction} {stock : Stock}
    (missing : holdings.find? type = none) (idle : type ∉ stack)
    (registered : findService? services type = some service)
    (sound : stock.holdings.Sound (construction.underConstruction (type :: stack)))
    (carries : Carries services watched (type :: stack) holdings visits
      (construction.underConstruction (type :: stack)) stock.holdings) :
    Carries services watched stack holdings
      (.entered type :: visits ++ [.left type (construction.answer type)])
      ((construction.answer type).underConstruction stack)
      (construction.keep type stock).holdings := by
  intro standing fits
  by_cases same : watched = type
  · subst same
    obtain rfl := fits.eq_idle missing idle registered
    obtain ⟨next, follows, nextFits, calm⟩ := carries .busy List.mem_cons_self
    obtain rfl := calm.mpr rfl
    obtain ⟨after, leaves, afterFits, afterCalm⟩ := meets_left nextFits sound registered idle
    exact ⟨after, .cons .begun (follows.append (.single leaves)), afterFits,
      iff_of_false afterCalm nofun⟩
  · obtain ⟨next, follows, nextFits, calm⟩ := carries standing ((fits_cons_iff same).mpr fits)
    have leaves : Follows watched next [.left type (construction.answer type)] next :=
      .single (.aside (Ne.symm same))
    exact ⟨next, .cons (.aside (Ne.symm same)) (follows.append leaves), nextFits.keep same, calm⟩

end Carries

end Standing

mutual

theorem Resolves.follows (watched : ServiceType) {services : List Service}
    {stack : List ServiceType} {type : ServiceType} {stock rest : Stock} {answer : Resolution}
    {visits : List Visit} :
    Resolves services stack type stock answer rest visits → stock.holdings.Sound stack →
      Standing.Carries services watched stack stock.holdings visits
        (answer.underConstruction stack) rest.holdings
  | .held found, sound => by
    apply Standing.Carries.answered
    intro standing fits
    obtain rfl := fits.eq_held sound found
    exact .obtained _
  | .cyclic missing busy, sound => by
    apply Standing.Carries.answered
    intro standing fits
    obtain rfl | rfl := fits.eq_busy_or_stuck sound busy
    · exact .cyclic
    · exact .stuck
  | .unregistered missing idle unknown, sound => by
    apply Standing.Carries.answered
    intro standing fits
    obtain rfl := fits.eq_unknown missing idle unknown
    exact .unknown
  | .ran construction missing idle registered builds, sound => by
    have pushed := sound.push missing idle
    exact .ran missing idle registered (builds.answers pushed).sound
      (builds.follows watched pushed)

theorem Builds.follows (watched : ServiceType) {services : List Service}
    {stack : List ServiceType} {type : ServiceType} {steps : List BuildStep}
    {dependencies : List (ServiceType × Nat)} {stock rest : Stock} {construction : Construction}
    {visits : List Visit} :
    Builds services type stack steps dependencies stock construction rest visits →
      stock.holdings.Sound stack →
        Standing.Carries services watched stack stock.holdings visits
          (construction.underConstruction stack) rest.holdings
  | .finished made, sound => .nil
  | .obtained asks resolves builds, sound =>
    (resolves.follows watched sound).append (builds.follows watched (resolves.answers sound).sound)
  | .refused resolves, sound => resolves.follows watched sound
  | .swallowed resolves builds, sound =>
    (resolves.follows watched sound).append (builds.follows watched (resolves.answers sound).sound)
  | .interrupted asks resolves, sound => resolves.follows watched sound
  | .failed, sound | .panicked, sound => .nil
  | .noted builds, sound => builds.follows watched sound

end

end WorkHost

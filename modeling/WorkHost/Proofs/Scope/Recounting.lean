import WorkHost.Proofs.Scope.Requests
import WorkHost.Proofs.Scope.Story

/-!
Contract: what resolving and disposing add to the story of a scope.

Resolving a type, whatever comes of it, continues the story of the scope, and what it
writes down accounts for the lines in the journal, for the serials that are gone and for
the instances that are new (`recordWithin_recounts`). Disposal runs hooks from the newest
instance on, up to and including the first one that panics (`recordDisposal_disposes`).
-/

namespace WorkHost

/-- The instances of the scope, the newest first. -/
def Holdings.live (holdings : Holdings) : List Instance := holdings.instances.map Prod.snd

theorem Holdings.mem_live_of_find? {holdings : Holdings} {type : ServiceType}
    {held : Instance} (found : holdings.find? type = some held) : held ∈ holdings.live := by
  obtain ⟨entry, isEntry, rfl⟩ := Option.map_eq_some_iff.mp found
  exact List.mem_map.mpr ⟨entry, List.mem_of_find?_eq_some isEntry, rfl⟩

theorem Resolution.ofType_eq_resolved {resolution : Resolution} {type : ServiceType}
    {held : Instance} (resolves : resolution.ofType type = .resolved held) :
    resolution = .resolved held ∧ held.type = type := by
  cases resolution with
  | resolved other =>
    by_cases same : other.type = type
    · rw [Resolution.ofType, if_pos same] at resolves
      cases resolves
      exact ⟨rfl, same⟩
    · rw [Resolution.ofType, if_neg same] at resolves
      cases resolves
  | failed failure => cases resolves
  | panicked payload stack => cases resolves

/-! ## Resolving -/

/-- What happened leads from one stock to the other. -/
structure Stock.Recounts (services : List Service) (before : Stock)
    (during : List Occurrence) (after : Stock) : Prop where
  story {past : List Occurrence} :
    Story services before.journal.nextSerial past before.holdings.live →
      Story services after.journal.nextSerial (past ++ during) after.holdings.live
  live : after.holdings.live = (builtIn during).reverse ++ before.holdings.live
  serials : after.journal.nextSerial = before.journal.nextSerial + (builtIn during).length
  fresh {held : Instance} : held ∈ builtIn during →
    before.journal.nextSerial ≤ held.serial ∧ held.serial < after.journal.nextSerial
  lines : after.journal.lines = before.journal.lines ++ during.flatMap Occurrence.lines
  reports : after.journal.reports = before.journal.reports

namespace Stock.Recounts

variable {services : List Service} {before middle after : Stock}
  {earlier later : List Occurrence}

theorem refl (services : List Service) (stock : Stock) : Recounts services stock [] stock where
  story told := by simpa using told
  live := rfl
  serials := rfl
  fresh := nofun
  lines := by simp
  reports := rfl

theorem trans (recounts : Recounts services before earlier middle)
    (more : Recounts services middle later after) :
    Recounts services before (earlier ++ later) after where
  story told := by simpa using more.story (recounts.story told)
  live := by simp [more.live, recounts.live]
  serials := by
    rw [more.serials, recounts.serials, builtIn_append, List.length_append, Nat.add_assoc]
  fresh {held} isBuilt := by
    have serials := recounts.serials
    have serials' := more.serials
    rw [builtIn_append, List.mem_append] at isBuilt
    rcases isBuilt with isEarlier | isLater
    · have bounds := recounts.fresh isEarlier
      omega
    · have bounds := more.fresh isLater
      omega
  lines := by simp [more.lines, recounts.lines]
  reports := more.reports.trans recounts.reports

theorem noted (services : List Service) (stock : Stock) (line : String) :
    Recounts services stock [.noted line] (stock.write line) where
  story told := told.aside rfl rfl
  live := rfl
  serials := rfl
  fresh := nofun
  lines := rfl
  reports := rfl

theorem begun (services : List Service) (stock : Stock) (service : Service) :
    Recounts services stock [.begun service] stock where
  story told := told.aside rfl rfl
  live := rfl
  serials := rfl
  fresh := nofun
  lines := by simp [Occurrence.lines]
  reports := rfl

/-- The scope takes over what a constructor has made. -/
theorem built {service : Service} {type : ServiceType} {held : Instance} (ready : Stock)
    (registered : findService? services held.type = some service)
    (serial : held.serial = ready.journal.nextSerial) (draws : held.Draws ready.holdings.live) :
    Recounts services ready [.built service held]
      ⟨ready.holdings.add type held, ready.journal.advance.write ("new " ++ held.text)⟩ where
  story told := told.built registered serial draws
  live := rfl
  serials := rfl
  fresh isBuilt := by
    rw [List.mem_singleton.mp isBuilt, serial]
    exact ⟨Nat.le_refl _, Nat.lt_succ_self _⟩
  lines := rfl
  reports := rfl

theorem kept (recounts : Recounts services before earlier after) {held : Instance}
    (isLive : held ∈ before.holdings.live) : held ∈ after.holdings.live := by
  rw [recounts.live]
  exact List.mem_append_right _ isLive

end Stock.Recounts

/-- What is written down of a resolution leads from the stock before it to the one after,
which holds the instance that it gives. -/
structure Resolution.Recounts (services : List Service) (before : Stock)
    (account : Account Resolution) : Prop where
  recounts : before.Recounts services account.2.2 account.2.1
  live {held : Instance} : account.1 = .resolved held → held ∈ account.2.1.holdings.live

/-- What is written down of a constructor leads from the stock before it to the one after;
the instance that it makes takes the last serial and obtained what is live. -/
inductive Construction.Recounts (services : List Service) (type : ServiceType)
    (before : Stock) : Account Construction → Prop where
  | constructed {ready : Stock} {during : List Occurrence}
    {dependencies : List (ServiceType × Nat)} {held : Instance} :
    before.Recounts services during ready →
      held = ⟨type, ready.journal.nextSerial, dependencies⟩ → held.Draws ready.holdings.live →
        Recounts services type before
          (.constructed held,
            { ready with journal := ready.journal.advance.write ("new " ++ held.text) }, during)
  | failed {reason : String} {after : Stock} {during : List Occurrence} :
    before.Recounts services during after →
      Recounts services type before (.failed reason, after, during)
  | panicked {payload : Payload} {stack : List ServiceType} {after : Stock}
    {during : List Occurrence} :
    before.Recounts services during after →
      Recounts services type before (.panicked payload stack, after, during)

theorem Construction.Recounts.after {services : List Service} {type : ServiceType}
    {before middle : Stock} {earlier : List Occurrence} {account : Account Construction}
    (recounts : before.Recounts services earlier middle)
    (more : Construction.Recounts services type middle account) :
    Construction.Recounts services type before (account.after earlier) := by
  cases more with
  | constructed later same draws => exact .constructed (recounts.trans later) same draws
  | failed later => exact .failed (recounts.trans later)
  | panicked later => exact .panicked (recounts.trans later)

theorem recordSteps_recounts {services : List Service}
    {get : ServiceType → Stock → Account Resolution}
    (getRecounts : ∀ other stock, Resolution.Recounts services stock (get other stock) ∧
      ∀ held, (get other stock).1 = .resolved held → held.type = other)
    (type : ServiceType) (stack : List ServiceType) (steps : List BuildStep)
    (dependencies : List (ServiceType × Nat)) (stock : Stock)
    (draws : ∀ dependency ∈ dependencies,
      ∃ used ∈ stock.holdings.live, (used.type, used.serial) = dependency) :
    Construction.Recounts services type stock
      (recordSteps get type stack steps dependencies stock) := by
  induction steps generalizing dependencies stock with
  | nil => exact .constructed (.refl services stock) rfl draws
  | cons step steps inductionHypothesis =>
    -- What a step obtains stays live, and so does all that was obtained before it.
    have obtains : ∀ {other : ServiceType} {held : Instance} {rest : Stock}
        {meanwhile : List Occurrence}, get other stock = (.resolved held, rest, meanwhile) →
          stock.Recounts services meanwhile rest ∧
            ∀ dependency ∈ dependencies ++ [(other, held.serial)],
              ∃ used ∈ rest.holdings.live, (used.type, used.serial) = dependency := by
      intro other held rest meanwhile got
      obtain ⟨⟨recounts, live⟩, typed⟩ := getRecounts other stock
      rw [got] at recounts live typed
      refine ⟨recounts, ?_⟩
      intro dependency isDependency
      rcases List.mem_append.mp isDependency with earlier | last
      · obtain ⟨used, isLive, same⟩ := draws dependency earlier
        exact ⟨used, recounts.kept isLive, same⟩
      · rw [List.mem_singleton.mp last]
        exact ⟨held, live rfl, by rw [typed held rfl]⟩
    cases step with
    | get other =>
      have recounts := (getRecounts other stock).1.recounts
      simp only [recordSteps]
      rcases got : get other stock with ⟨_ | _ | _, rest, meanwhile⟩ <;> rw [got] at recounts
      case resolved held =>
        have drawn := (obtains got).2
        exact (inductionHypothesis _ rest drawn).after recounts
      case failed failure => exact .failed recounts
      case panicked payload interrupted => exact .panicked recounts
    | tryGet other =>
      have recounts := (getRecounts other stock).1.recounts
      simp only [recordSteps]
      rcases got : get other stock with ⟨_ | _ | _, rest, meanwhile⟩ <;> rw [got] at recounts
      case resolved held =>
        have drawn := (obtains got).2
        exact (inductionHypothesis _ rest drawn).after recounts
      case failed failure =>
        have written := recounts.trans (.noted services rest
          (type.label ++ " swallowed: " ++ failure.message))
        refine (inductionHypothesis dependencies _ ?_).after written
        intro dependency isDependency
        obtain ⟨used, isLive, same⟩ := draws dependency isDependency
        exact ⟨used, written.kept isLive, same⟩
      case panicked payload interrupted => exact .panicked recounts
    | fail root contexts => exact .failed (.refl services stock)
    | panic message => exact .panicked (.refl services stock)
    | log text =>
      exact (inductionHypothesis dependencies (stock.write _) draws).after
        (.noted services stock _)

theorem recordBy_recounts {services : List Service}
    {construct : Service → Stock → Account Construction} (stack : List ServiceType)
    (type : ServiceType) (stock : Stock)
    (constructRecounts : ∀ service,
      Construction.Recounts services type stock (construct service stock)) :
    Resolution.Recounts services stock (recordBy services construct stack type stock) := by
  cases found : stock.holdings.find? type with
  | some held =>
    simp only [recordBy, found]
    refine ⟨.refl services stock, ?_⟩
    intro other same
    cases same
    exact Holdings.mem_live_of_find? found
  | none =>
    by_cases cyclic : stack.contains type
    · simp only [recordBy, found, cyclic, if_true]
      exact ⟨.refl services stock, nofun⟩
    · cases registered : findService? services type with
      | none =>
        simp only [recordBy, found, cyclic, registered]
        exact ⟨.refl services stock, nofun⟩
      | some service =>
        have recounts := constructRecounts service
        have begun := Stock.Recounts.begun services stock service
        simp only [recordBy, found, cyclic, registered, Bool.false_eq_true, if_false]
        cases built : construct service stock
        rw [built] at recounts
        cases recounts with
        | @constructed ready during dependencies held recounts same draws =>
          have registeredFor : findService? services held.type = some service := by
            rw [same]
            exact registered
          have serial : held.serial = ready.journal.nextSerial := by rw [same]
          refine ⟨begun.trans (recounts.trans (.built ready registeredFor serial draws)), ?_⟩
          intro other same
          cases same
          exact List.mem_cons_self
        | failed recounts => exact ⟨begun.trans recounts, nofun⟩
        | panicked recounts => exact ⟨begun.trans recounts, nofun⟩

theorem recordWithin_recounts (services : List Service) (room : Nat) (stack : List ServiceType)
    (type : ServiceType) (stock : Stock) :
    Resolution.Recounts services stock (recordWithin services room stack type stock) := by
  induction room generalizing stack type stock with
  | zero =>
    apply recordBy_recounts
    intro service
    exact .failed (.refl services stock)
  | succ room inductionHypothesis =>
    apply recordBy_recounts
    intro service
    refine recordSteps_recounts ?_ type (type :: stack) service.steps [] stock nofun
    intro other stock
    have recounts := inductionHypothesis (type :: stack) other stock
    refine ⟨⟨recounts.recounts, ?_⟩, ?_⟩
    · intro held resolves
      exact recounts.live (Resolution.ofType_eq_resolved resolves).1
    · intro held resolves
      exact (Resolution.ofType_eq_resolved resolves).2

/-! ## Disposal -/

namespace ContainerScope

/-- The hook that is registered for the instance panics. -/
def HookPanics (services : List Service) (held : Instance) : Prop :=
  ∃ service, findService? services held.type = some service ∧ service.disposal = .panicking

/-- What a hook that panics for the instance says. -/
def hookPanic (held : Instance) : Payload := .text ("dispose " ++ held.text ++ " panicked")

/-- How the instance ends, held for its own type. -/
abbrev ending (services : List Service) (held : Instance) : Occurrence :=
  .ending services held.type held

/-- What disposing the live instances comes to: the panic, what happens, and what is left
live. The newest comes first. -/
inductive Disposes (services : List Service) :
    List Instance → Option Payload → List Occurrence → List Instance → Prop where
  | finished : Disposes services [] none [] []
  | interrupted {held : Instance} {older : List Instance} : HookPanics services held →
    Disposes services (held :: older) (some (hookPanic held)) [ending services held] older
  | continued {held : Instance} {older left : List Instance} {payload : Option Payload}
    {later : List Occurrence} : ¬ HookPanics services held →
      Disposes services older payload later left →
        Disposes services (held :: older) payload (ending services held :: later) left

theorem runHook_journal (services : List Service) (held : Instance) (type : ServiceType)
    (journal : Journal) :
    (runHook services held type journal).2 = { journal with
      lines := journal.lines ++ (Occurrence.ending services type held).lines } := by
  cases found : findService? services type with
  | none => simp [runHook, Occurrence.ending, Occurrence.lines, found]
  | some service =>
    cases disposal : service.disposal <;>
      simp [runHook, Occurrence.ending, Occurrence.lines, found, disposal, Journal.write]

theorem runHook_of_panics {services : List Service} {held : Instance}
    (panics : HookPanics services held) (journal : Journal) :
    (runHook services held held.type journal).1 = some (hookPanic held) := by
  obtain ⟨service, found, disposal⟩ := panics
  simp [runHook, found, disposal, hookPanic]

theorem runHook_of_not_panics {services : List Service} {held : Instance}
    (calm : ¬ HookPanics services held) (journal : Journal) :
    (runHook services held held.type journal).1 = none := by
  cases found : findService? services held.type with
  | none => simp [runHook, found]
  | some service =>
    cases disposal : service.disposal with
    | silent | logged => simp [runHook, found, disposal]
    | panicking => exact absurd ⟨service, found, disposal⟩ calm

/-- What happens in a disposal accounts for all that it does to the journal. -/
theorem recordDisposal_journal (services : List Service) (created : List ServiceType)
    (instances : List (ServiceType × Instance)) (journal : Journal) :
    let account := recordDisposal services created instances journal
    account.2.2.1 = { journal with
      lines := journal.lines ++ account.2.2.2.flatMap Occurrence.lines } := by
  induction created generalizing instances journal with
  | nil => simp [recordDisposal]
  | cons type created inductionHypothesis =>
    cases found : Holdings.find? ⟨instances, created⟩ type with
    | none =>
      simp only [recordDisposal, found]
      exact inductionHypothesis instances journal
    | some held =>
      have writes := runHook_journal services held type journal
      simp only [recordDisposal, found]
      generalize runHook services held type journal = answer at writes ⊢
      obtain ⟨_ | payload, written⟩ := answer
      case none =>
        have later := inductionHypothesis (Holdings.remove ⟨instances, created⟩ type).instances
          written
        obtain rfl := writes
        simpa using later
      case some =>
        obtain rfl := writes
        simp

theorem recordDisposal_disposes (services : List Service) {created stack : List ServiceType}
    {instances : List (ServiceType × Instance)}
    (sound : Holdings.Sound ⟨instances, created⟩ stack) (journal : Journal) :
    let account := recordDisposal services created instances journal
    Disposes services (Holdings.live ⟨instances, created⟩) account.1 account.2.2.2
      account.2.1.live := by
  induction created generalizing instances journal with
  | nil =>
    have nothing : instances = [] := List.map_eq_nil_iff.mp sound.keys
    subst nothing
    exact .finished
  | cons type created inductionHypothesis =>
    obtain ⟨held, older, rfl, removed, rest⟩ := sound.newest
    have typed : held.type = type := sound.typed (type, held) List.mem_cons_self
    subst typed
    have found : Holdings.find? ⟨(held.type, held) :: older, created⟩ held.type = some held := by
      simp [Holdings.find?]
    simp only [recordDisposal, found, removed]
    by_cases panics : HookPanics services held
    · have ran := runHook_of_panics panics journal
      generalize runHook services held held.type journal = answer at ran ⊢
      obtain ⟨_, written⟩ := answer
      obtain rfl := ran
      exact .interrupted panics
    · have ran := runHook_of_not_panics panics journal
      generalize runHook services held held.type journal = answer at ran ⊢
      obtain ⟨_, written⟩ := answer
      obtain rfl := ran
      exact .continued panics (inductionHypothesis rest written)

namespace Disposes

variable {services : List Service} {live left : List Instance} {payload : Option Payload}
  {during : List Occurrence}

theorem story (disposes : Disposes services live payload during left) {next : Nat}
    {past : List Occurrence} (told : Story services next past live) :
    Story services next (past ++ during) left := by
  induction disposes generalizing past with
  | finished => simpa using told
  | interrupted panics => exact told.ended
  | continued calm disposes inductionHypothesis =>
    have later := inductionHypothesis told.ended
    rwa [List.append_assoc] at later

theorem builtIn_eq_nil (disposes : Disposes services live payload during left) :
    builtIn during = [] := by
  induction disposes with
  | finished => rfl
  | interrupted panics => simp
  | @continued held older left payload later calm disposes inductionHypothesis =>
    rw [← List.singleton_append, builtIn_append, inductionHypothesis]
    simp

/-- Without a hook that panics everything is disposed. -/
theorem of_calm (disposes : Disposes services live payload during left)
    (calm : ∀ held ∈ live, ¬ HookPanics services held) :
    payload = none ∧ during = live.map (ending services) ∧ left = [] := by
  induction disposes with
  | finished => exact ⟨rfl, rfl, rfl⟩
  | interrupted panics => exact absurd panics (calm _ List.mem_cons_self)
  | continued quiet disposes inductionHypothesis =>
    obtain ⟨finished, all, none⟩ := inductionHypothesis fun held isLive =>
      calm held (List.mem_cons_of_mem _ isLive)
    exact ⟨finished, congrArg _ all, none⟩

/-- The first hook that panics is the last one that is run. -/
theorem of_panics (disposes : Disposes services live payload during left)
    {newer older : List Instance} {held : Instance} (first : live = newer ++ held :: older)
    (calm : ∀ other ∈ newer, ¬ HookPanics services other) (panics : HookPanics services held) :
    payload = some (hookPanic held) ∧ during = (newer ++ [held]).map (ending services) ∧
      left = older := by
  induction disposes generalizing newer with
  | finished => simp at first
  | @interrupted newest rest breaks =>
    cases newer with
    | nil =>
      cases first
      exact ⟨rfl, rfl, rfl⟩
    | cons other newer =>
      cases first
      exact absurd breaks (calm _ List.mem_cons_self)
  | @continued newest rest left payload later quiet disposes inductionHypothesis =>
    cases newer with
    | nil =>
      cases first
      exact absurd panics quiet
    | cons other newer =>
      cases first
      obtain ⟨breaks, all, kept⟩ := inductionHypothesis rfl fun other isNewer =>
        calm other (List.mem_cons_of_mem _ isNewer)
      exact ⟨breaks, congrArg _ all, kept⟩

end Disposes

end ContainerScope

end WorkHost

import WorkHost.Proofs.Scope.Slots

/-!
Contract: scopes side by side do not notice each other.

Whatever is done in a workspace, what is asked of one scope comes out as if nothing else was
done since the scope was opened, with the registrations that its container had then
(`Beside.accounts`); and each serial belongs to one scope (`performAll_owned`).
-/

namespace WorkHost

/-- The request, if it is one to the scope of this number. -/
def WorkspaceOp.asks? (number : Nat) (op : WorkspaceOp) : Option SlotRequest :=
  op.request?.bind fun (scope, request) => if scope = number then some request else none

theorem WorkspaceOp.asks?_eq_some {op : WorkspaceOp} {number : Nat} {request : SlotRequest} :
    op.asks? number = some request ↔ op = request.on number := by
  rw [asks?, Option.bind_eq_some_iff]
  constructor
  · rintro ⟨⟨scope, other⟩, isRequest, same⟩
    obtain ⟨rfl, rfl⟩ : scope = number ∧ other = request := by simpa using same
    exact request?_eq_some.mp isRequest
  · intro same
    exact ⟨(number, request), request?_eq_some.mpr same, if_pos rfl⟩

theorem WorkspaceOp.asks?_on (request : SlotRequest) (number : Nat) :
    (request.on number).asks? number = some request := asks?_eq_some.mpr rfl

/-- The accounts tell the same. -/
def Renaming.accounts (names : Renaming) (account other : WorkspaceAnswer × List Occurrence) :
    Prop :=
  account.1.Renamed names other.1 ∧ List.Forall₂ (Occurrence.Renamed names) account.2 other.2

namespace Workspace

/-- What happens in the scope of the number when it gets the request. -/
def occurrences (workspace : Workspace) (number : Nat) (request : SlotRequest) :
    List Occurrence :=
  match workspace.slots[number]? with
  | some slot => slot.occurrences request workspace.journal
  | none => []

/-- Of each request to the scope the answer, and what happens. -/
def accountsOf (number : Nat) (workspace : Workspace) :
    List WorkspaceOp → List (WorkspaceAnswer × List Occurrence)
  | [] => []
  | op :: rest =>
    let (answer, _, later) := workspace.perform op
    match op.asks? number with
    | some request => (answer, workspace.occurrences number request) :: accountsOf number later rest
    | none => accountsOf number later rest

/-- The answer and the lines that an account comes to. -/
def shown (account : WorkspaceAnswer × List Occurrence) : WorkspaceAnswer × List String :=
  (account.1, account.2.flatMap Occurrence.lines)

/-- Those of the answers that are to requests to the scope, with the lines. -/
def answersOf (number : Nat) (ops : List WorkspaceOp)
    (answers : List (WorkspaceAnswer × List String)) : List (WorkspaceAnswer × List String) :=
  ((ops.zip answers).filter fun entry => (entry.1.asks? number).isSome).map Prod.snd

variable {workspace alone : Workspace} {number : Nat}

theorem perform_on_lines (workspace : Workspace) (number : Nat) (request : SlotRequest) :
    (workspace.perform (request.on number)).2.1 =
      (workspace.occurrences number request).flatMap Occurrence.lines := by
  unfold occurrences
  cases found : workspace.slots[number]? with
  | none => rw [perform_on_absent found]; rfl
  | some slot =>
    rw [perform_on found]
    exact slot.handle_lines request workspace.journal

theorem shown_accountsOf (number : Nat) (workspace : Workspace) (ops : List WorkspaceOp) :
    (accountsOf number workspace ops).map shown =
      answersOf number ops (workspace.performAll ops).1 := by
  unfold answersOf
  induction ops generalizing workspace with
  | nil => rfl
  | cons op rest inductionHypothesis =>
    cases asks : op.asks? number with
    | none => simpa [accountsOf, performAll, asks] using inductionHypothesis _
    | some request =>
      have lines : (workspace.perform op).2.1 =
          (workspace.occurrences number request).flatMap Occurrence.lines := by
        rw [WorkspaceOp.asks?_eq_some.mp asks]
        exact workspace.perform_on_lines number request
      simpa [accountsOf, performAll, asks, shown, lines] using inductionHypothesis _

theorem performAll_length (workspace : Workspace) (ops : List WorkspaceOp) :
    (workspace.performAll ops).1.length = ops.length := by
  induction ops generalizing workspace with
  | nil => rfl
  | cons op rest inductionHypothesis => exact congrArg (· + 1) (inductionHypothesis _)

theorem performAll_append (workspace : Workspace) (ops more : List WorkspaceOp) :
    (workspace.performAll (ops ++ more)).1 =
      (workspace.performAll ops).1 ++ ((workspace.performAll ops).2.performAll more).1 := by
  induction ops generalizing workspace with
  | nil => rfl
  | cons op rest inductionHypothesis => exact congrArg (_ :: ·) (inductionHypothesis _)

/-- All requests are to one scope. -/
theorem answersOf_requests (number : Nat) (requests : List SlotRequest)
    {answers : List (WorkspaceAnswer × List String)} (same : answers.length = requests.length) :
    answersOf number (requests.map (SlotRequest.on number)) answers = answers := by
  have all : ((requests.map (SlotRequest.on number)).zip answers).filter
      (fun entry => (entry.1.asks? number).isSome) =
        (requests.map (SlotRequest.on number)).zip answers := by
    rw [List.filter_eq_self]
    intro entry isEntry
    obtain ⟨request, -, isOp⟩ := List.mem_map.mp (List.of_mem_zip isEntry).1
    rw [← isOp, WorkspaceOp.asks?_on]
    rfl
  rw [answersOf, all, List.map_snd_zip]
  simp [same]

/-! ## What other operations change -/

/-- At most one slot is added, and in it no serial that was taken before. -/
structure Adds (workspace : Workspace) (added : Option ScopeSlot) (later : Workspace) :
    Prop where
  slots : later.slots = workspace.slots ++ added.toList
  grows : workspace.nextSerial ≤ later.nextSerial
  fresh {slot : ScopeSlot} {serial : Nat} : added = some slot → serial ∈ slot.serials →
    workspace.nextSerial ≤ serial ∧ serial < later.nextSerial

theorem Adds.nothing {later : Workspace} (slots : later.slots = workspace.slots)
    (serials : later.nextSerial = workspace.nextSerial) : workspace.Adds none later where
  slots := slots.trans (List.append_nil _).symm
  grows := Nat.le_of_eq serials.symm
  fresh isAdded := by cases isAdded

/-- The new scope holds nothing. -/
theorem Adds.empty {opened : ScopeSlot} (empty : opened.serials = []) :
    workspace.Adds (some opened) { workspace with slots := workspace.slots ++ [opened] } where
  slots := rfl
  grows := Nat.le_refl _
  fresh isAdded isSerial := by
    cases isAdded
    rw [empty] at isSerial
    cases isSerial

theorem Adds.provided (workspace : Workspace) (mode : ProviderMode) :
    let opened := ScopeSlot.guarded (.ofScope (.provided mode workspace.nextSerial))
    workspace.Adds (some opened)
      { workspace with slots := workspace.slots ++ [opened],
                       nextSerial := workspace.nextSerial + 1 } where
  slots := rfl
  grows := Nat.le_succ _
  fresh isAdded isSerial := by
    cases isAdded
    rw [List.mem_singleton.mp isSerial]
    exact ⟨Nat.le_refl _, Nat.lt_succ_self _⟩

theorem perform_other (workspace : Workspace) {op : WorkspaceOp} (other : op.request? = none) :
    ∃ added, workspace.Adds added (workspace.perform op).2.2 := by
  cases op with
  | resolve | close | drop | disposeBare => cases other
  | openGuarded container =>
    simp only [perform]
    cases workspace.containers[container]? with
    | none => exact ⟨none, .nothing rfl rfl⟩
    | some registry => exact ⟨_, .empty rfl⟩
  | openBare container =>
    simp only [perform]
    cases workspace.containers[container]? with
    | none => exact ⟨none, .nothing rfl rfl⟩
    | some registry => exact ⟨_, .empty rfl⟩
  | openProvided mode =>
    cases mode with
    | unavailable => exact ⟨none, .nothing rfl rfl⟩
    | mistaken | single | exploding | barren => exact ⟨_, .provided workspace _⟩
  | register container service =>
    simp only [perform]
    cases workspace.containers[container]? <;> exact ⟨none, .nothing rfl rfl⟩
  | clone container =>
    simp only [perform]
    cases workspace.containers[container]? <;> exact ⟨none, .nothing rfl rfl⟩
  | isRegistered container type =>
    simp only [perform]
    cases workspace.containers[container]? <;> exact ⟨none, .nothing rfl rfl⟩

/-- A request leaves the other slots as they are. -/
theorem perform_on_slots (workspace : Workspace) {scope number : Nat} (apart : scope ≠ number)
    (request : SlotRequest) :
    (workspace.perform (request.on scope)).2.2.slots[number]? = workspace.slots[number]? := by
  cases found : workspace.slots[scope]? with
  | none => rw [perform_on_absent found]
  | some slot =>
    rw [perform_on found]
    exact List.getElem?_set_ne apart

theorem perform_grows (workspace : Workspace) (op : WorkspaceOp) :
    workspace.nextSerial ≤ (workspace.perform op).2.2.nextSerial := by
  cases asks : op.request? with
  | none =>
    obtain ⟨added, adds⟩ := workspace.perform_other asks
    exact adds.grows
  | some asked =>
    obtain ⟨scope, request⟩ := asked
    obtain rfl := WorkspaceOp.request?_eq_some.mp asks
    cases found : workspace.slots[scope]? with
    | none =>
      have unchanged := congrArg (fun result => result.2.2.nextSerial)
        (perform_on_absent found request)
      exact Nat.le_of_eq unchanged.symm
    | some slot =>
      rw [perform_on found]
      exact (slot.handle_keeps request workspace.journal).grows

/-- Only requests to it change a slot. -/
theorem perform_elsewhere {slot : ScopeSlot} (found : workspace.slots[number]? = some slot)
    {op : WorkspaceOp} (elsewhere : op.asks? number = none) :
    (workspace.perform op).2.2.slots[number]? = some slot := by
  cases asks : op.request? with
  | none =>
    obtain ⟨added, adds⟩ := workspace.perform_other asks
    obtain ⟨inside, rfl⟩ := List.getElem?_eq_some_iff.mp found
    rw [adds.slots, List.getElem?_append_left inside]
    exact found
  | some asked =>
    obtain ⟨scope, request⟩ := asked
    have apart : scope ≠ number := by
      rintro rfl
      simp [WorkspaceOp.asks?, asks] at elsewhere
    obtain rfl := WorkspaceOp.request?_eq_some.mp asks
    rw [workspace.perform_on_slots apart, found]

/-! ## One scope alone -/

/-- The scope of the number is, up to a renaming, the only scope of the other workspace. -/
structure Beside (names : Renaming) (number : Nat) (workspace alone : Workspace) : Prop where
  slots : ∃ slot other, workspace.slots[number]? = some slot ∧ alone.slots[0]? = some other ∧
    slot.Renamed names other
  below : names.Below workspace.nextSerial alone.nextSerial

namespace Beside

variable {names : Renaming}

theorem elsewhere (beside : Beside names number workspace alone) {op : WorkspaceOp}
    (others : op.asks? number = none) :
    Beside names number (workspace.perform op).2.2 alone := by
  obtain ⟨slot, other, found, foundAlone, same⟩ := beside.slots
  exact ⟨⟨slot, other, perform_elsewhere found others, foundAlone, same⟩,
    beside.below.mono (workspace.perform_grows op) (Nat.le_refl _)⟩

theorem asked (beside : Beside names number workspace alone) (request : SlotRequest) :
    ∃ more, names.Grows more ∧
      Beside more number (workspace.perform (request.on number)).2.2
        (alone.perform (request.on 0)).2.2 ∧
      more.accounts
        ((workspace.perform (request.on number)).1, workspace.occurrences number request)
        ((alone.perform (request.on 0)).1, alone.occurrences 0 request) := by
  obtain ⟨slot, other, found, foundAlone, same⟩ := beside.slots
  have serials : names.Below workspace.journal.nextSerial alone.journal.nextSerial :=
    beside.below
  obtain ⟨more, grows, answers, left, below, during⟩ := same.handle request serials
  refine ⟨more, grows, ⟨⟨_, _, ?_, ?_, left⟩, ?_⟩, ?_, ?_⟩
  · rw [perform_on found]
    exact List.getElem?_set_self (List.getElem?_eq_some_iff.mp found).1
  · rw [perform_on foundAlone]
    exact List.getElem?_set_self (List.getElem?_eq_some_iff.mp foundAlone).1
  · rw [perform_on found, perform_on foundAlone]
    exact below
  · rw [perform_on found, perform_on foundAlone]
    exact answers
  · simp only [occurrences, found, foundAlone]
    exact during

theorem accounts (beside : Beside names number workspace alone) (ops : List WorkspaceOp) :
    ∃ more, names.Grows more ∧
      List.Forall₂ more.accounts (accountsOf number workspace ops)
        (accountsOf 0 alone
          ((ops.filterMap (WorkspaceOp.asks? number)).map (SlotRequest.on 0))) := by
  induction ops generalizing names workspace alone with
  | nil => exact ⟨names, .refl names, .nil⟩
  | cons op rest inductionHypothesis =>
    cases asks : op.asks? number with
    | none =>
      simpa [accountsOf, asks] using inductionHypothesis (beside.elsewhere asks)
    | some request =>
      obtain rfl := WorkspaceOp.asks?_eq_some.mp asks
      obtain ⟨more, grows, later, answers, during⟩ := beside.asked request
      obtain ⟨most, again, accounts⟩ := inductionHypothesis later
      refine ⟨most, grows.trans again, ?_⟩
      simp only [accountsOf, asks, List.filterMap_cons, List.map_cons, WorkspaceOp.asks?_on]
      exact .cons ⟨answers.grow again, again.occurrences during⟩ accounts

end Beside

/-! ## Whose serials -/

/-- Each serial in a slot has been taken, and belongs to the scope of the slot. -/
def Owned (owner : Nat → Nat) (workspace : Workspace) : Prop :=
  ∀ {number : Nat} {slot : ScopeSlot}, workspace.slots[number]? = some slot →
    ∀ serial ∈ slot.serials, serial < workspace.nextSerial ∧ owner serial = number

/-- Every serial that is not taken yet comes to belong to the scope. -/
def claim (owner : Nat → Nat) (next scope serial : Nat) : Nat :=
  if serial < next then owner serial else scope

theorem Owned.claim {owner : Nat → Nat} {later : Workspace} {scope : Nat}
    (owned : workspace.Owned owner) (grows : workspace.nextSerial ≤ later.nextSerial)
    (serials : ∀ number slot, later.slots[number]? = some slot → ∀ serial ∈ slot.serials,
      (∃ known, workspace.slots[number]? = some known ∧ serial ∈ known.serials) ∨
        number = scope ∧ workspace.nextSerial ≤ serial ∧ serial < later.nextSerial) :
    later.Owned (claim owner workspace.nextSerial scope) := by
  intro number slot found serial isSerial
  rcases serials number slot found serial isSerial with
    ⟨known, wasFound, wasSerial⟩ | ⟨rfl, taken, below⟩
  · obtain ⟨below, own⟩ := owned wasFound serial wasSerial
    exact ⟨Nat.lt_of_lt_of_le below grows, by rw [Workspace.claim, if_pos below, own]⟩
  · exact ⟨below, by rw [Workspace.claim, if_neg (Nat.not_lt.mpr taken)]⟩

/-- The serials that an operation takes belong to one scope. -/
theorem perform_owned {owner : Nat → Nat} (owned : workspace.Owned owner) (op : WorkspaceOp) :
    ∃ scope, (workspace.perform op).2.2.Owned (claim owner workspace.nextSerial scope) := by
  cases asks : op.request? with
  | none =>
    obtain ⟨added, adds⟩ := workspace.perform_other asks
    refine ⟨workspace.slots.length, owned.claim adds.grows ?_⟩
    intro number slot found serial isSerial
    rw [adds.slots] at found
    by_cases inside : number < workspace.slots.length
    · rw [List.getElem?_append_left inside] at found
      exact .inl ⟨slot, found, isSerial⟩
    · rw [List.getElem?_append_right (Nat.not_lt.mp inside)] at found
      cases added with
      | none => cases found
      | some opened =>
        obtain ⟨first, rfl⟩ : number - workspace.slots.length = 0 ∧ opened = slot := by
          simpa [List.getElem?_singleton] using found
        have isLast : number = workspace.slots.length := by omega
        exact .inr ⟨isLast, adds.fresh rfl isSerial⟩
  | some asked =>
    obtain ⟨scope, request⟩ := asked
    obtain rfl := WorkspaceOp.request?_eq_some.mp asks
    refine ⟨scope, owned.claim (workspace.perform_grows _) ?_⟩
    intro number slot found serial isSerial
    by_cases same : scope = number
    · subst same
      cases known : workspace.slots[scope]? with
      | none =>
        rw [perform_on_absent known, known] at found
        cases found
      | some before =>
        have keeps := before.handle_keeps request workspace.journal
        rw [perform_on known] at found ⊢
        have left : (before.handle request workspace.journal).2.1 = slot := by
          have inside := (List.getElem?_eq_some_iff.mp known).1
          simpa [setSlot, keep, inside] using found
        subst left
        exact (keeps.known isSerial).imp (fun was => ⟨before, rfl, was⟩) fun new => ⟨rfl, new⟩
    · rw [workspace.perform_on_slots same] at found
      exact .inl ⟨slot, found, isSerial⟩

/-- An instance that a scope gives has a serial from its slot. -/
theorem perform_given {request : SlotRequest} {held : Instance}
    (gives : (workspace.perform (request.on number)).1.held? = some held) :
    ∃ slot, (workspace.perform (request.on number)).2.2.slots[number]? = some slot ∧
      held.serial ∈ slot.serials := by
  cases found : workspace.slots[number]? with
  | none =>
    rw [perform_on_absent found] at gives
    cases gives
  | some slot =>
    rw [perform_on found] at gives ⊢
    refine ⟨_, List.getElem?_set_self (List.getElem?_eq_some_iff.mp found).1, ?_⟩
    exact (slot.handle_keeps request workspace.journal).given gives

/-- In a whole run each serial belongs to the one scope that gives instances with it. -/
theorem performAll_owned {owner : Nat → Nat} (owned : workspace.Owned owner)
    (ops : List WorkspaceOp) :
    ∃ final : Nat → Nat, (∀ serial < workspace.nextSerial, final serial = owner serial) ∧
      ∀ entry ∈ ops.zip (workspace.performAll ops).1, ∀ number request held,
        entry.1 = SlotRequest.on number request → entry.2.1.held? = some held →
          final held.serial = number := by
  induction ops generalizing workspace owner with
  | nil => exact ⟨owner, fun _ _ => rfl, nofun⟩
  | cons op rest inductionHypothesis =>
    obtain ⟨scope, claimed⟩ := perform_owned owned op
    obtain ⟨final, agrees, later⟩ := inductionHypothesis claimed
    refine ⟨final, ?_, ?_⟩
    · intro serial below
      rw [agrees serial (Nat.lt_of_lt_of_le below (workspace.perform_grows op)), claim,
        if_pos below]
    · intro entry isEntry number request held asks gives
      rcases List.mem_cons.mp isEntry with rfl | isLater
      · obtain rfl : op = request.on number := asks
        obtain ⟨slot, found, isSerial⟩ := perform_given gives
        obtain ⟨below, own⟩ := claimed found _ isSerial
        exact (agrees _ below).trans own
      · exact later entry isLater number request held asks gives

/-- A scope that has just been opened is like one that is opened alone. -/
theorem beside_opened {container : Nat} {registry : Container}
    (found : workspace.containers[container]? = some registry)
    {opening : Nat → WorkspaceOp}
    (opens : opening ∈ [WorkspaceOp.openGuarded, WorkspaceOp.openBare]) :
    (workspace.perform (opening container)).1 = .number workspace.slots.length ∧
      Beside .empty workspace.slots.length (workspace.perform (opening container)).2.2
        ((⟨[registry], [], 0⟩ : Workspace).perform (opening 0)).2.2 := by
  have same := ContainerScope.ofContainer_renamed .empty registry
  have below := Renaming.below_empty
  have last (slot : ScopeSlot) : (workspace.slots ++ [slot])[workspace.slots.length]? = some slot :=
    List.getElem?_concat_length
  simp only [List.mem_cons, List.not_mem_nil, or_false] at opens
  rcases opens with rfl | rfl
  · simp only [perform, found]
    exact ⟨rfl, ⟨_, _, last _, rfl, .guarded same⟩, below _ _⟩
  · simp only [perform, found]
    exact ⟨rfl, ⟨_, _, last _, rfl, .bare same⟩, below _ _⟩

/-- Whatever is done with containers and scopes, the answers to the requests to one
container's scope and the lines that it writes are, up to a one-to-one renaming of serials,
those of the requests alone in a workspace with nothing but the registrations that the
container had when the scope was opened; and two scopes never give instances with one
serial. -/
theorem scopes_are_separate (services : List Service) (ops : List WorkspaceOp) :
    let answers := ((ofServices services).performAll ops).1
    (∀ opening ∈ [WorkspaceOp.openGuarded, WorkspaceOp.openBare],
      ∀ before container registry after, ops = before ++ opening container :: after →
        let moment := ((ofServices services).performAll before).2
        moment.containers[container]? = some registry →
          let number := moment.slots.length
          let among := (moment.perform (opening container)).2.2
          let alone := ((⟨[registry], [], 0⟩ : Workspace).perform (opening 0)).2.2
          let own := (after.filterMap (WorkspaceOp.asks? number)).map (SlotRequest.on 0)
          (moment.perform (opening container)).1 = .number number ∧
            answersOf number after (answers.drop (before.length + 1)) =
              (accountsOf number among after).map shown ∧
            (alone.performAll own).1 = (accountsOf 0 alone own).map shown ∧
            ∃ names : Renaming, List.Forall₂ names.accounts (accountsOf number among after)
              (accountsOf 0 alone own)) ∧
      ∀ scope type held lines scope' type' held' lines',
        (WorkspaceOp.resolve scope type, WorkspaceAnswer.held held, lines) ∈ ops.zip answers →
          (WorkspaceOp.resolve scope' type', WorkspaceAnswer.held held', lines') ∈
              ops.zip answers →
            held.serial = held'.serial → scope = scope' := by
  intro answers
  constructor
  · intro opening opens before container registry after shape moment found number among alone own
    obtain ⟨numbered, beside⟩ := beside_opened found opens
    obtain ⟨names, -, accounts⟩ := beside.accounts after
    refine ⟨numbered, ?_, ?_, names, accounts⟩
    · have later : answers.drop (before.length + 1) = (among.performAll after).1 := by
        have length := performAll_length (ofServices services) before
        simp only [answers, shape, performAll_append, performAll]
        rw [← length, List.drop_length_add_append, List.drop_one, List.tail_cons]
      rw [later, shown_accountsOf]
    · rw [shown_accountsOf, answersOf_requests]
      rw [performAll_length, List.length_map]
  · intro scope type held lines scope' type' held' lines' gives gives' same
    have unused : (ofServices services).Owned fun _ => 0 := by
      intro number slot found
      cases found
    obtain ⟨owner, -, owned⟩ := performAll_owned unused ops
    have own := owned _ gives scope (.resolve type) held rfl rfl
    have own' := owned _ gives' scope' (.resolve type') held' rfl rfl
    rw [← own, ← own', same]

end Workspace

end WorkHost

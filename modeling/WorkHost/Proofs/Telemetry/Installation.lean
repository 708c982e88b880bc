import Mathlib.Data.String.Basic
import WorkHost.Command.Program
import WorkHost.Proofs.Telemetry.Tearing
import WorkHost.Config.RawEnvironment

/-!
Contract: telemetry is set up at most once in a process.

The first call whose endpoint can be used installs its filter. Every other call fails and
changes nothing, whether it comes before or after (`TelemetryState.Account`). This holds of all
calls up to one that meets a torn directive, where a filter is looked for (`MeetsTorn`): such a
call neither succeeds nor fails but ends the program.
-/

namespace WorkHost

/-- Nothing is to be exported, or it can be exported to the endpoint. -/
def TelemetryConfig.isUsable (config : TelemetryConfig) : Bool :=
  config.endpoint.all fun endpoint => (TelemetryState.endpointFault? endpoint).isNone

namespace LogFilter

/-- Where no comma follows, the rest of the text is read as one part. -/
theorem splitOnAux_of_uncut (before rest : List Char) (uncut : ',' ∉ rest) :
    (String.ofList (before ++ rest)).splitOnAux "," 0 ⟨String.utf8Len before⟩ 0 [] =
      [String.ofList (before ++ rest)] := by
  induction rest generalizing before with
  | nil =>
    have whole := String.extract_of_valid [] before []
    rw [List.nil_append, String.utf8Len_nil, Nat.zero_add, List.append_nil] at whole
    rw [String.splitOnAux, if_pos ((String.atEnd_of_valid before []).mpr rfl), List.append_nil]
    exact congrArg (fun part => [part]) whole
  | cons c rest inductionHypothesis =>
    rw [List.mem_cons, not_or] at uncut
    have goesOn : ¬ String.Pos.Raw.atEnd (String.ofList (before ++ c :: rest))
        ⟨String.utf8Len before⟩ = true := by
      rw [String.atEnd_of_valid]
      exact List.cons_ne_nil c rest
    have other : ¬ (String.Pos.Raw.get (String.ofList (before ++ c :: rest))
        ⟨String.utf8Len before⟩ == String.Pos.Raw.get "," 0) = true := by
      rw [String.get_of_valid, beq_iff_eq]
      exact fun equal => uncut.1 equal.symm
    have later := inductionHypothesis (before ++ [c]) uncut.2
    rw [List.append_assoc, List.singleton_append, String.utf8Len_append, String.utf8Len_cons,
      String.utf8Len_nil, Nat.zero_add] at later
    rw [String.splitOnAux, if_neg goesOn, if_neg other, ← later]
    exact congrArg (fun place => String.splitOnAux _ "," 0 place 0 [])
      (String.next_of_valid before c rest)

/-- A text without a comma is one part. -/
theorem parts_of_uncut {text : String} (nonempty : text ≠ "") (uncut : ',' ∉ text.toList) :
    parts text = [text] := by
  have whole := splitOnAux_of_uncut [] text.toList uncut
  rw [List.nil_append, String.ofList_toList] at whole
  have once : text.splitOn "," = [text] := whole
  rw [parts, once]
  simp [nonempty]

theorem exists_torn_of_mapM {parts : List String}
    (torn : parts.mapM Directive.parse = .error .torn) :
    ∃ part ∈ parts, Directive.parse part = .error .torn := by
  induction parts with
  | nil => cases torn
  | cons part parts inductionHypothesis =>
    rw [List.mapM_cons] at torn
    cases first : Directive.parse part with
    | error fault =>
      rw [first] at torn
      cases torn
      exact ⟨part, List.mem_cons_self, first⟩
    | ok directive =>
      rw [first] at torn
      cases others : parts.mapM Directive.parse with
      | ok directives =>
        simp only [others] at torn
        cases torn
      | error fault =>
        simp only [others] at torn
        cases torn
        obtain ⟨other, member, isTorn⟩ := inductionHypothesis others
        exact ⟨other, List.mem_cons_of_mem part member, isTorn⟩

theorem exists_torn_of_parse {text : String} (torn : parse text = .error .torn) :
    ∃ part ∈ parts text, Directive.parse part = .error .torn := by
  apply exists_torn_of_mapM
  cases read : (parts text).mapM Directive.parse with
  | ok directives =>
    simp only [parse, read] at torn
    cases torn
  | error fault =>
    simp only [parse, read] at torn
    cases torn
    rfl

theorem exists_torn_of_wellFormed {parts : List String} (torn : wellFormed parts = none) :
    ∃ part ∈ parts, Directive.parse part = .error .torn := by
  induction parts with
  | nil => cases torn
  | cons part parts inductionHypothesis =>
    have later (torn : wellFormed parts = none) :
        ∃ other ∈ part :: parts, Directive.parse other = .error .torn := by
      obtain ⟨other, member, isTorn⟩ := inductionHypothesis torn
      exact ⟨other, List.mem_cons_of_mem part member, isTorn⟩
    rw [wellFormed] at torn
    split at torn
    · exact later (Option.map_eq_none_iff.mp torn)
    · exact later torn
    · exact ⟨part, List.mem_cons_self, by assumption⟩

end LogFilter

namespace TelemetryState

/-! ## Torn directives -/

/-- A directive is torn where the call looks for its filter: in the environment, and in its own
settings if the environment has no filter. -/
inductive MeetsTorn (environment : Option String) (config : TelemetryConfig) : Prop where
  | inEnvironment {text : String} (isSet : environment = some text)
      (torn : LogFilter.parse text = .error .torn)
  | inSettings (without : ∀ text, environment = some text → LogFilter.parse text = .error .malformed)
      (torn : LogFilter.parseLenient? config.logLevel = none)

theorem chooseFilter?_of_filter {text : String} {filter : LogFilter}
    (valid : LogFilter.parse text = .ok filter) (config : TelemetryConfig) :
    chooseFilter? (some text) config = some filter := by
  rw [chooseFilter?, Option.map_some, valid]

theorem chooseFilter?_of_malformed {environment : Option String}
    (without : ∀ text, environment = some text → LogFilter.parse text = .error .malformed)
    (config : TelemetryConfig) :
    chooseFilter? environment config = LogFilter.parseLenient? config.logLevel := by
  cases environment with
  | none => rfl
  | some text => rw [chooseFilter?, Option.map_some, without text rfl]

theorem chooseFilter?_eq_none_iff {environment : Option String} {config : TelemetryConfig} :
    chooseFilter? environment config = none ↔ MeetsTorn environment config := by
  constructor
  · intro none
    by_cases without : ∀ text, environment = some text → LogFilter.parse text = .error .malformed
    · rw [chooseFilter?_of_malformed without] at none
      exact .inSettings without none
    · push Not at without
      obtain ⟨text, rfl, notMalformed⟩ := without
      cases read : LogFilter.parse text with
      | ok filter =>
        rw [chooseFilter?_of_filter read] at none
        cases none
      | error fault =>
        cases fault with
        | malformed => exact absurd read notMalformed
        | torn => exact .inEnvironment rfl read
  · intro meets
    cases meets with
    | inEnvironment isSet torn => rw [isSet, chooseFilter?, Option.map_some, torn]
    | inSettings without torn => rw [chooseFilter?_of_malformed without, torn]

/-- What is torn begins with a blank and has a character of more than one byte. -/
theorem MeetsTorn.shape {environment : Option String} {config : TelemetryConfig}
    (meets : MeetsTorn environment config) :
    ∃ text, (environment = some text ∨ text = config.logLevel) ∧
      ∃ part ∈ LogFilter.parts text, (∃ c ∈ part.toList.head?, Text.isBlank c = true) ∧
        ∃ c ∈ part.toList, 1 < c.utf8Size := by
  cases meets with
  | @inEnvironment text isSet torn =>
    obtain ⟨part, member, isTorn⟩ := LogFilter.exists_torn_of_parse torn
    exact ⟨text, .inl isSet, part, member, Directive.shape_of_torn isTorn⟩
  | inSettings _ torn =>
    obtain ⟨part, member, isTorn⟩ :=
      LogFilter.exists_torn_of_wellFormed (Option.map_eq_none_iff.mp torn)
    exact ⟨config.logLevel, .inr rfl, part, member, Directive.shape_of_torn isTorn⟩

/-! ## One call -/

section Install

variable {config : TelemetryConfig}

theorem exists_fault_of_unusable (unusable : config.isUsable = false) :
    ∃ endpoint fault, config.endpoint = some endpoint ∧ endpointFault? endpoint = some fault := by
  cases asked : config.endpoint with
  | none =>
    rw [TelemetryConfig.isUsable, asked] at unusable
    cases unusable
  | some endpoint =>
    rw [TelemetryConfig.isUsable, asked, Option.all_some, Option.isNone_eq_false_iff,
      Option.isSome_iff_exists] at unusable
    obtain ⟨fault, faulty⟩ := unusable
    exact ⟨endpoint, fault, rfl, faulty⟩

/-- An endpoint is looked at before the subscriber is. -/
theorem install_of_fault {endpoint : String} {fault : EndpointFault}
    (asked : config.endpoint = some endpoint) (faulty : endpointFault? endpoint = some fault)
    (state : TelemetryState) (filter : LogFilter) :
    state.install config filter = (.error (exporterFailed endpoint fault), state) := by
  simp only [install, asked, Option.bind_some, faulty, Option.map_some]

theorem no_fault_of_usable (usable : config.isUsable = true) :
    (config.endpoint.bind fun endpoint => (endpointFault? endpoint).map (endpoint, ·)) = none := by
  cases asked : config.endpoint with
  | none => rfl
  | some endpoint =>
    rw [TelemetryConfig.isUsable, asked, Option.all_some, Option.isNone_iff_eq_none] at usable
    rw [Option.bind_some, usable, Option.map_none]

theorem install_of_installed (usable : config.isUsable = true) {state : TelemetryState}
    {other : LogFilter} (installed : state.installed = some other) (filter : LogFilter) :
    state.install config filter = (.error alreadyInstalled, state) := by
  simp only [install, no_fault_of_usable usable, installed]

theorem install_of_free (usable : config.isUsable = true) {state : TelemetryState}
    (free : state.installed = none) (filter : LogFilter) :
    state.install config filter = (.ok ⟨config.endpoint.isSome⟩, ⟨some filter⟩) := by
  simp only [install, no_fault_of_usable usable, free]

end Install

/-- What a call is told after the calls before it. -/
inductive Answers (before : List TelemetryConfig) (config : TelemetryConfig) :
    Except Failure TelemetryGuard → Prop where
  | unusable {endpoint : String} {fault : EndpointFault} (asked : config.endpoint = some endpoint)
      (faulty : endpointFault? endpoint = some fault) :
      Answers before config (.error (exporterFailed endpoint fault))
  | installs (usable : config.isUsable = true)
      (first : ∀ earlier ∈ before, earlier.isUsable = false) :
      Answers before config (.ok ⟨config.endpoint.isSome⟩)
  | tooLate (usable : config.isUsable = true) (late : ∃ earlier ∈ before, earlier.isUsable = true) :
      Answers before config (.error alreadyInstalled)

/-- A call that succeeds is the first usable one. -/
theorem Answers.first {before : List TelemetryConfig} {config : TelemetryConfig}
    {guard : TelemetryGuard} (answers : Answers before config (.ok guard)) :
    config.isUsable = true ∧ ∀ earlier ∈ before, earlier.isUsable = false := by
  cases answers with
  | installs usable first => exact ⟨usable, first⟩

/-- Where some calls lead that meet nothing torn: the first usable one has its filter installed. -/
def reached (environment : Option String) (calls : List TelemetryConfig) : TelemetryState :=
  ⟨(calls.find? (·.isUsable)).bind (chooseFilter? environment)⟩

section Step

variable {environment : Option String} {before : List TelemetryConfig} {config : TelemetryConfig}

theorem reached_of_unusable (unusable : config.isUsable = false) :
    reached environment (before ++ [config]) = reached environment before := by
  rw [reached, List.find?_append, List.find?_singleton, unusable, if_neg Bool.false_ne_true,
    Option.or_none, reached]

theorem reached_of_late (late : ∃ earlier ∈ before, earlier.isUsable = true) :
    reached environment (before ++ [config]) = reached environment before := by
  obtain ⟨first, isFirst⟩ := Option.isSome_iff_exists.mp (List.find?_isSome.mpr late)
  rw [reached, List.find?_append, isFirst, Option.some_or, reached, isFirst]

theorem find?_of_first (first : ∀ earlier ∈ before, earlier.isUsable = false) :
    before.find? (·.isUsable) = none := by
  rw [List.find?_eq_none]
  intro earlier member
  rw [first earlier member]
  exact Bool.false_ne_true

theorem reached_of_first (usable : config.isUsable = true)
    (first : ∀ earlier ∈ before, earlier.isUsable = false) :
    reached environment (before ++ [config]) = ⟨chooseFilter? environment config⟩ := by
  rw [reached, List.find?_append, find?_of_first first, List.find?_singleton, usable, if_pos rfl,
    Option.none_or, Option.bind_some]

/-- A call that meets nothing torn is answered, and the subscriber is left as it was unless this
is the first usable call. -/
theorem init?_answers (untorn : ∀ call ∈ before ++ [config], ¬ MeetsTorn environment call) :
    ∃ result, (reached environment before).init? environment config =
        some (result, reached environment (before ++ [config])) ∧
      Answers before config result := by
  have chooses (call : TelemetryConfig) (member : call ∈ before ++ [config]) :
      ∃ filter, chooseFilter? environment call = some filter :=
    Option.ne_none_iff_exists'.mp fun none =>
      untorn call member (chooseFilter?_eq_none_iff.mp none)
  obtain ⟨filter, chosen⟩ := chooses config (by simp)
  rw [init?, chosen, Option.map_some]
  by_cases usable : config.isUsable = true
  · by_cases late : ∃ earlier ∈ before, earlier.isUsable = true
    · obtain ⟨first, isFirst⟩ := Option.isSome_iff_exists.mp (List.find?_isSome.mpr late)
      obtain ⟨other, chosenFirst⟩ :=
        chooses first (List.mem_append_left _ (List.mem_of_find?_eq_some isFirst))
      have installed : (reached environment before).installed = some other := by
        rw [reached, isFirst, Option.bind_some, chosenFirst]
      refine ⟨_, ?_, .tooLate usable late⟩
      rw [reached_of_late late, install_of_installed usable installed]
    · have first : ∀ earlier ∈ before, earlier.isUsable = false := by
        intro earlier member
        exact Bool.eq_false_iff.mpr fun isUsable => late ⟨earlier, member, isUsable⟩
      have free : (reached environment before).installed = none := by
        rw [reached, find?_of_first first, Option.bind_none]
      refine ⟨_, ?_, .installs usable first⟩
      rw [reached_of_first usable first, chosen, install_of_free usable free]
  · have unusable : config.isUsable = false := Bool.eq_false_iff.mpr usable
    obtain ⟨endpoint, fault, asked, faulty⟩ := exists_fault_of_unusable unusable
    refine ⟨_, ?_, .unusable asked faulty⟩
    rw [reached_of_unusable unusable, install_of_fault asked faulty]

end Step

/-! ## All calls of a process -/

/-- A call that meets a torn directive is the end of the program, whatever came before. -/
theorem initAll?_eq_none_iff (environment : Option String) (state : TelemetryState)
    (calls : List TelemetryConfig) :
    state.initAll? environment calls = none ↔ ∃ call ∈ calls, MeetsTorn environment call := by
  induction calls generalizing state with
  | nil => simp [initAll?]
  | cons call calls inductionHypothesis =>
    rw [initAll?, Option.bind_eq_bind]
    cases chosen : chooseFilter? environment call with
    | none =>
      have torn := chooseFilter?_eq_none_iff.mp chosen
      rw [init?, chosen, Option.map_none, Option.bind_none]
      exact iff_of_true rfl ⟨call, List.mem_cons_self, torn⟩
    | some filter =>
      have untorn : ¬ MeetsTorn environment call := by
        rw [← chooseFilter?_eq_none_iff, chosen]
        exact Option.some_ne_none filter
      rw [init?, chosen, Option.map_some, Option.bind_some]
      simp only [List.mem_cons, exists_eq_or_imp, untorn, false_or, Option.bind_eq_bind,
        Option.pure_def]
      rw [← inductionHypothesis (state.install call filter).2]
      cases (state.install call filter).2.initAll? environment calls with
      | none => exact iff_of_true rfl rfl
      | some told => exact iff_of_false (Option.some_ne_none _) (Option.some_ne_none _)

/-- Each call is answered after the calls before it. -/
structure InTurn (before calls : List TelemetryConfig)
    (results : List (Except Failure TelemetryGuard)) : Prop where
  length_eq : results.length = calls.length
  answers : ∀ index config result, calls[index]? = some config → results[index]? = some result →
    Answers (before ++ calls.take index) config result

theorem initAll?_inTurn {environment : Option String} {before calls : List TelemetryConfig}
    (untorn : ∀ call ∈ before ++ calls, ¬ MeetsTorn environment call) :
    ∃ results, (reached environment before).initAll? environment calls =
        some (results, reached environment (before ++ calls)) ∧ InTurn before calls results := by
  induction calls generalizing before with
  | nil =>
    refine ⟨[], ?_, rfl, nofun⟩
    rw [initAll?, List.append_nil]
  | cons call calls inductionHypothesis =>
    have whole : before ++ call :: calls = (before ++ [call]) ++ calls := by
      rw [List.append_assoc]
      rfl
    rw [whole] at untorn
    obtain ⟨result, one, answers⟩ :=
      init?_answers fun other member => untorn other (List.mem_append_left _ member)
    obtain ⟨results, others, inTurn⟩ := inductionHypothesis untorn
    refine ⟨result :: results, ?_, congrArg (· + 1) inTurn.length_eq,
      fun index config told asked shown => ?_⟩
    · rw [initAll?, one, whole]
      simp only [Option.bind_eq_bind, Option.bind_some, others, Option.pure_def]
    · cases index with
      | zero =>
        cases asked
        cases shown
        rw [List.take_zero, List.append_nil]
        exact answers
      | succ index =>
        have later := inTurn.answers index config told asked shown
        rw [List.append_assoc] at later
        exact later

/-- A usable call would have had to come before a later success. -/
theorem InTurn.not_lt {before calls : List TelemetryConfig}
    {results : List (Except Failure TelemetryGuard)} (inTurn : InTurn before calls results)
    {one other : Nat} {guard another : TelemetryGuard} (succeeds : results[one]? = some (.ok guard))
    (succeedsToo : results[other]? = some (.ok another)) : ¬ one < other := by
  intro earlier
  have called {index : Nat} {result : Except Failure TelemetryGuard}
      (told : results[index]? = some result) : ∃ config, calls[index]? = some config := by
    obtain ⟨inside, -⟩ := List.getElem?_eq_some_iff.mp told
    exact ⟨_, List.getElem?_eq_getElem (inTurn.length_eq ▸ inside)⟩
  obtain ⟨config, isCall⟩ := called succeeds
  obtain ⟨later, isLater⟩ := called succeedsToo
  have usable := (inTurn.answers one config _ isCall succeeds).first.1
  have member : config ∈ calls.take other :=
    List.mem_iff_getElem?.mpr ⟨one, by rw [List.getElem?_take_of_lt earlier, isCall]⟩
  have unusable := (inTurn.answers other later _ isLater succeedsToo).first.2 config
    (List.mem_append_right before member)
  rw [usable] at unusable
  cases unusable

/-- What a process records is what a filter records. -/
structure GovernedBy (state : TelemetryState) (filter : LogFilter) : Prop where
  installed : state.installed = some filter
  lines : ∀ target level, state.enables target level = filter.enables target level
  spans : ∀ site, state.enablesSpan site = filter.enablesSpan site

theorem governedBy_of_installed {state : TelemetryState} {filter : LogFilter}
    (installed : state.installed = some filter) : state.GovernedBy filter where
  installed := installed
  lines _ _ := by rw [enables, installed, Option.any_some]
  spans _ := by rw [enablesSpan, installed, Option.any_some]

/-- What becomes of all calls of a process. -/
structure Account (environment : Option String) (calls : List TelemetryConfig)
    (results : List (Except Failure TelemetryGuard)) (state : TelemetryState) : Prop where
  inTurn : InTurn [] calls results
  once : ∀ (one other : Nat) (guard another : TelemetryGuard),
    results[one]? = some (.ok guard) → results[other]? = some (.ok another) → one = other
  /-- Nothing is recorded without a usable call. -/
  silent : (∀ config ∈ calls, config.isUsable = false) → state = fresh
  fromEnvironment : ∀ text filter, environment = some text → LogFilter.parse text = .ok filter →
    (∃ config ∈ calls, config.isUsable = true) → state.GovernedBy filter
  /-- Without a filter in the environment that of the one call counts, whatever the others name. -/
  fromSettings : (∀ text filter, environment = some text → LogFilter.parse text ≠ .ok filter) →
    ∀ config, calls.find? (·.isUsable) = some config →
      ∃ filter, LogFilter.parseLenient? config.logLevel = some filter ∧ state.GovernedBy filter

section Account

variable {environment : Option String} {calls : List TelemetryConfig}

theorem reached_governedBy {config : TelemetryConfig} {filter : LogFilter}
    (isFirst : calls.find? (·.isUsable) = some config)
    (chosen : chooseFilter? environment config = some filter) :
    (reached environment calls).GovernedBy filter :=
  governedBy_of_installed (by rw [reached, isFirst, Option.bind_some, chosen])

theorem account_of_untorn (untorn : ∀ call ∈ calls, ¬ MeetsTorn environment call) :
    ∃ results, fresh.initAll? environment calls = some (results, reached environment calls) ∧
      Account environment calls results (reached environment calls) := by
  -- Without a call before, what is reached is the fresh state.
  obtain ⟨results, all, inTurn⟩ := @initAll?_inTurn environment [] calls untorn
  refine ⟨results, all, ?_⟩
  constructor
  case inTurn => exact inTurn
  case once =>
    intro one other guard another succeeds succeedsToo
    have notEarlier := inTurn.not_lt succeeds succeedsToo
    have notLater := inTurn.not_lt succeedsToo succeeds
    omega
  case silent =>
    intro unusable
    rw [reached, find?_of_first unusable, Option.bind_none, fresh]
  case fromEnvironment =>
    intro text filter isSet valid usable
    obtain ⟨config, isFirst⟩ := Option.isSome_iff_exists.mp (List.find?_isSome.mpr usable)
    exact reached_governedBy isFirst (by rw [isSet, chooseFilter?_of_filter valid])
  case fromSettings =>
    intro noFilter config isFirst
    have untornCall := untorn config (List.mem_of_find?_eq_some isFirst)
    have without : ∀ text, environment = some text → LogFilter.parse text = .error .malformed := by
      intro text isSet
      cases read : LogFilter.parse text with
      | ok filter => exact absurd read (noFilter text filter isSet)
      | error fault =>
        cases fault with
        | malformed => rfl
        | torn => exact absurd (.inEnvironment isSet read) untornCall
    obtain ⟨filter, chosen⟩ :=
      Option.ne_none_iff_exists'.mp fun none => untornCall (chooseFilter?_eq_none_iff.mp none)
    refine ⟨filter, ?_, reached_governedBy isFirst chosen⟩
    rw [← chooseFilter?_of_malformed without, chosen]

end Account

/-- Telemetry is set up at most once, by the first usable call. Calls are left without an answer
where one of them meets a torn directive, and nowhere else. -/
theorem set_up_at_most_once (system : RawEnvironment) (calls : List TelemetryConfig) :
    (fresh.initAll? (system.texts ProgramContext.filterName) calls = none ↔
      ∃ config ∈ calls, MeetsTorn (system.texts ProgramContext.filterName) config) ∧
    (∀ results state,
      fresh.initAll? (system.texts ProgramContext.filterName) calls = some (results, state) →
        Account (system.texts ProgramContext.filterName) calls results state) ∧
    ∀ config, MeetsTorn (system.texts ProgramContext.filterName) config →
      ∃ text, (system.texts ProgramContext.filterName = some text ∨ text = config.logLevel) ∧
        ∃ part ∈ LogFilter.parts text, (∃ c ∈ part.toList.head?, Text.isBlank c = true) ∧
          ∃ c ∈ part.toList, 1 < c.utf8Size := by
  have torn_iff := initAll?_eq_none_iff (system.texts ProgramContext.filterName) fresh calls
  refine ⟨torn_iff, fun results state all => ?_, fun config meets => meets.shape⟩
  have untorn : ∀ call ∈ calls, ¬ MeetsTorn (system.texts ProgramContext.filterName) call := by
    intro call member meets
    rw [torn_iff.mpr ⟨call, member, meets⟩] at all
    cases all
  obtain ⟨told, whole, account⟩ := account_of_untorn untorn
  rw [whole] at all
  cases all
  exact account

/-- A usable call with a valid level is not answered, for the torn directive in the environment. -/
theorem not_set_up_with_torn_directive :
    TelemetryConfig.isUsable ⟨none, "sampleapp-bg", "off"⟩ = true ∧
    LogFilter.parseLenient? "off" = some (LogFilter.ofLevel none) ∧
    fresh.initAll? (some " é=x") [⟨none, "sampleapp-bg", "off"⟩] = none := by
  have torn : LogFilter.parse " é=x" = .error .torn := by
    rw [LogFilter.parse, LogFilter.parts_of_uncut (by decide) (by decide)]
    rfl
  refine ⟨rfl, ?_, ?_⟩
  · rw [LogFilter.parseLenient?, LogFilter.parts_of_uncut (by decide) (by decide)]
    rfl
  · exact (initAll?_eq_none_iff _ _ _).mpr ⟨_, List.mem_cons_self, .inEnvironment rfl torn⟩

end TelemetryState

end WorkHost

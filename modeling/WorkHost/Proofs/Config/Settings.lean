import Mathlib.Algebra.GroupWithZero.Nat
import WorkHost.Config.Settings
import WorkHost.Proofs.Text.Blanks
import WorkHost.Proofs.Text.Numerals

/-!
Contract: the settings follow a grammar of the variables.

A number is a numeral of 64 bits (`IsWord`), a policy its name in either case with blanks around
it (`IsWrittenAs`). A variable stands for what is written in it, or for a default if it is not
set (`Stands`). Four checks are made in a fixed order, and the failure is that of the first one
that objects (`Check.ObjectsFirst`).
-/

namespace WorkHost.OverflowPolicy

open Text

/-- The name of a policy, in upper or lower case, and blanks around it. -/
def IsWrittenAs (policy : OverflowPolicy) (text : List Char) : Prop :=
  ∃ before name after, text = before ++ name ++ after ∧
    (∀ c ∈ before ++ after, isBlank c = true) ∧ name.map Char.toLower = policy.text.toList

theorem ofText?_eq_some_iff {text : String} {policy : OverflowPolicy} :
    ofText? text = some policy ↔ text = policy.text := by
  constructor
  · intro found
    unfold ofText? at found
    split at found
    · cases found
      rfl
    · cases found
      rfl
    · cases found
  · rintro rfl
    exact ofText?_text policy

/-- Reading takes off exactly what may be written around a name. -/
theorem ofText?_lowered_iff {policy : OverflowPolicy} {text : List Char} :
    ofText? (String.ofList (lowerAscii (trimBlanks text))) = some policy ↔
      policy.IsWrittenAs text := by
  rw [ofText?_eq_some_iff, ← String.toList_inj, String.toList_ofList]
  constructor
  · intro lowered
    obtain ⟨before, after, written, blank⟩ := exists_eq_append_trimBlanks text
    exact ⟨before, trimBlanks text, after, written, blank, lowered⟩
  · rintro ⟨before, name, after, rfl, blank, lowered⟩
    have letters : policy.text.toList.all (fun c => !isBlank c) = true := by
      cases policy <;> rfl
    have nonempty : name ≠ [] := by
      rintro rfl
      cases policy <;> exact absurd lowered (by decide)
    have solid : ∀ c ∈ name, isBlank c = false := by
      intro c member
      cases isBlank : isBlank c with
      | false => rfl
      | true =>
        have letter := List.all_eq_true.mp letters c
          (lowered ▸ toLower_of_isBlank isBlank ▸ List.mem_map_of_mem member)
        rw [isBlank] at letter
        cases letter
    rw [trimBlanks_of_solid blank nonempty solid]
    exact lowered

theorem parse_eq_ok_iff {written : String} {policy : OverflowPolicy} :
    parse written = .ok policy ↔ policy.IsWrittenAs written.toList := by
  rw [← ofText?_lowered_iff, parse]
  split
  · rename_i found known
    rw [known, Except.ok.injEq, Option.some.injEq]
  · rename_i unknown
    rw [unknown]
    exact ⟨nofun, nofun⟩

theorem parse_eq_error_iff {written reason : String} :
    parse written = .error reason ↔
      (∀ policy : OverflowPolicy, ¬ policy.IsWrittenAs written.toList) ∧
        reason = "unknown overflow policy '" ++
          String.ofList (lowerAscii (trimBlanks written.toList)) ++ "' (expected wait|reject)" := by
  have none : (∀ policy : OverflowPolicy, ¬ policy.IsWrittenAs written.toList) ↔
      ofText? (String.ofList (lowerAscii (trimBlanks written.toList))) = none := by
    rw [Option.eq_none_iff_forall_ne_some]
    exact forall_congr' fun policy => not_congr ofText?_lowered_iff.symm
  rw [none, parse]
  split
  · rename_i found known
    rw [known]
    exact ⟨nofun, fun told => nomatch told.1⟩
  · rename_i unknown
    rw [unknown, Except.error.injEq]
    exact ⟨fun told => ⟨rfl, told.symm⟩, fun told => told.2.symm⟩

theorem IsWrittenAs.unique {policy other : OverflowPolicy} {text : List Char}
    (first : policy.IsWrittenAs text) (second : other.IsWrittenAs text) : policy = other :=
  Option.some.inj ((ofText?_lowered_iff.mpr first).symm.trans (ofText?_lowered_iff.mpr second))

end WorkHost.OverflowPolicy

namespace WorkHost.HostConfig

open Text

/-- A numeral of 64 bits. -/
def IsWord (raw : String) (value : Nat) : Prop := IsNumeral raw.toList value ∧ value < 2 ^ 64

/-- What is told of a text that is no numeral of 64 bits. -/
def numeralReason (raw : String) : String :=
  if raw = "" then "cannot parse integer from empty string"
  else if 2 ^ 64 ≤ begunValue raw.toList then "number too large to fit in target type"
  else "invalid digit found in string"

/-- What is told of a text that is no policy. -/
def policyReason (raw : String) : String :=
  "unknown overflow policy '" ++ String.ofList (lowerAscii (trimBlanks raw.toList)) ++
    "' (expected wait|reject)"

theorem wordLimit_eq : wordLimit = 2 ^ 64 := by decide

theorem readNumeral_eq_ok_iff_isWord {raw : String} {value : Nat} :
    readNumeral wordLimit raw.toList = .ok value ↔ IsWord raw value := by
  rw [readNumeral_eq_ok_iff (by decide), IsWord, wordLimit_eq]

theorem message_numeralFault (raw : String) :
    (numeralFault wordLimit raw.toList).message = numeralReason raw := by
  have empty : raw.toList = [] ↔ raw = "" := String.toList_eq_nil_iff
  rw [numeralFault, numeralReason, wordLimit_eq]
  by_cases isEmpty : raw = ""
  · rw [if_pos isEmpty, if_pos (empty.mpr isEmpty)]
    rfl
  · rw [if_neg isEmpty, if_neg (mt empty.mp isEmpty)]
    by_cases beyond : 2 ^ 64 ≤ begunValue raw.toList
    · rw [if_pos beyond, if_pos beyond]
      rfl
    · rw [if_neg beyond, if_neg beyond]
      rfl

theorem readNumeral_eq_error {raw : String} {fault : NumeralFault}
    (refused : readNumeral wordLimit raw.toList = .error fault) :
    (∀ value, ¬ IsWord raw value) ∧ fault.message = numeralReason raw := by
  obtain ⟨-, rfl⟩ := (readNumeral_eq_error_iff (by decide)).mp refused
  refine ⟨fun value word => ?_, message_numeralFault raw⟩
  cases refused.symm.trans (readNumeral_eq_ok_iff_isWord.mpr word)

theorem IsWord.unique {raw : String} {value other : Nat} (first : IsWord raw value)
    (second : IsWord raw other) : value = other :=
  IsNumeral.unique first.1 second.1

/-! ## Variables -/

/-- A variable stands for a value that is written in it, or for the default if it is not set. -/
def Stands {α : Type} (environment : Environment) (name : String) (IsWritten : String → α → Prop)
    (default value : α) : Prop :=
  match environment name with
  | none => value = default
  | some raw => IsWritten raw value

/-- The name of a policy, as a setting. -/
def IsPolicy (raw : String) (policy : OverflowPolicy) : Prop := policy.IsWrittenAs raw.toList

section

variable {α : Type} {environment : Environment} {name raw : String}
  {IsWritten : String → α → Prop} {default value other : α}

theorem stands_of_unset (unset : environment name = none) :
    Stands environment name IsWritten default default := by
  rw [Stands, unset]

theorem stands_of_set (isSet : environment name = some raw) (written : IsWritten raw value) :
    Stands environment name IsWritten default value := by
  rw [Stands, isSet]
  exact written

theorem Stands.written (stands : Stands environment name IsWritten default value)
    (isSet : environment name = some raw) : IsWritten raw value := by
  rw [Stands, isSet] at stands
  exact stands

theorem Stands.unique (first : Stands environment name IsWritten default value)
    (second : Stands environment name IsWritten default other)
    (functional : ∀ raw value other, IsWritten raw value → IsWritten raw other → value = other) :
    value = other := by
  cases isSet : environment name with
  | none =>
    rw [Stands, isSet] at first second
    exact first.trans second.symm
  | some raw => exact functional raw value other (first.written isSet) (second.written isSet)

end

theorem numeral_cases (environment : Environment) (name : String) :
    (∃ found, numeral environment name = .ok found ∧
        ∀ default, Stands environment name IsWord default (found.getD default)) ∨
      ∃ raw, environment name = some raw ∧ (∀ value, ¬ IsWord raw value) ∧
        numeral environment name = .error (invalid name raw (numeralReason raw)) := by
  cases isSet : environment name with
  | none =>
    refine .inl ⟨none, ?_, fun default => stands_of_unset isSet⟩
    rw [numeral, isSet]
  | some raw =>
    cases read : readNumeral wordLimit raw.toList with
    | ok value =>
      have word := readNumeral_eq_ok_iff_isWord.mp read
      refine .inl ⟨some value, ?_, fun default => stands_of_set isSet word⟩
      rw [numeral, isSet]
      simp only [read]
    | error fault =>
      obtain ⟨none, reason⟩ := readNumeral_eq_error read
      refine .inr ⟨raw, rfl, none, ?_⟩
      rw [numeral, isSet, ← reason]
      simp only [read]

theorem policy_cases (environment : Environment) :
    (∃ found, policy environment = .ok found ∧
        Stands environment overflowName IsPolicy .wait (found.getD .wait)) ∨
      ∃ raw, environment overflowName = some raw ∧ (∀ policy, ¬ IsPolicy raw policy) ∧
        policy environment = .error (invalid overflowName raw (policyReason raw)) := by
  cases isSet : environment overflowName with
  | none =>
    refine .inl ⟨none, ?_, stands_of_unset isSet⟩
    rw [policy, isSet]
  | some raw =>
    cases read : OverflowPolicy.parse raw with
    | ok found =>
      refine .inl ⟨some found, ?_, stands_of_set isSet (OverflowPolicy.parse_eq_ok_iff.mp read)⟩
      rw [policy, isSet]
      simp only [read]
    | error reason =>
      have refused := OverflowPolicy.parse_eq_error_iff.mp read
      have told : reason = policyReason raw := refused.2
      refine .inr ⟨raw, rfl, refused.1, ?_⟩
      rw [policy, isSet, ← told]
      simp only [read]

/-! ## Checks -/

/-- The settings that the variables stand for. -/
structure IsGivenBy (config : HostConfig) (environment : Environment) : Prop where
  capacity : Stands environment capacityName IsWord 100 config.queue.capacity
  positive : 1 ≤ config.queue.capacity
  overflow : Stands environment overflowName IsPolicy .wait config.queue.overflow
  timeout : ∃ seconds, Stands environment timeoutName IsWord 30 seconds ∧
    config.queue.shutdownTimeoutMs = seconds * 1000
  otelEndpoint : config.otelEndpoint = environment endpointName
  logLevel : config.logLevel = (environment logLevelName).getD "info"

/-- The variables that are set are written as they should be. -/
structure IsAcceptable (environment : Environment) : Prop where
  capacity : ∀ raw, environment capacityName = some raw →
    ∃ value, IsNumeral raw.toList value ∧ 1 ≤ value ∧ value < 2 ^ 64
  overflow : ∀ raw, environment overflowName = some raw →
    ∃ policy : OverflowPolicy, policy.IsWrittenAs raw.toList
  timeout : ∀ raw, environment timeoutName = some raw →
    ∃ value, IsNumeral raw.toList value ∧ value < 2 ^ 64

inductive Check where
  | capacityWritten
  | capacityPositive
  | overflowWritten
  | timeoutWritten
deriving DecidableEq

namespace Check

/-- Which check comes first. -/
def position : Check → Nat
  | capacityWritten => 0
  | capacityPositive => 1
  | overflowWritten => 2
  | timeoutWritten => 3

def Objects (environment : Environment) : Check → Prop
  | capacityWritten => ∃ raw, environment capacityName = some raw ∧ ∀ value, ¬ IsWord raw value
  | capacityPositive => ∃ raw, environment capacityName = some raw ∧ IsWord raw 0
  | overflowWritten => ∃ raw, environment overflowName = some raw ∧ ∀ policy, ¬ IsPolicy raw policy
  | timeoutWritten => ∃ raw, environment timeoutName = some raw ∧ ∀ value, ¬ IsWord raw value

/-- No check that comes before objects. -/
def ObjectsFirst (environment : Environment) (check : Check) : Prop :=
  check.Objects environment ∧
    ∀ other : Check, other.position < check.position → ¬ other.Objects environment

/-- The failure that tells of a check. -/
def Tells (environment : Environment) (failure : Failure) : Check → Prop
  | capacityWritten => ∃ raw, environment capacityName = some raw ∧
      failure = .config ("invalid TASK_QUEUE_CAPACITY=" ++ raw ++ ": " ++ numeralReason raw)
  | capacityPositive => failure = .config "TASK_QUEUE_CAPACITY must be greater than zero"
  | overflowWritten => ∃ raw, environment overflowName = some raw ∧
      failure = .config ("invalid TASK_QUEUE_OVERFLOW=" ++ raw ++ ": " ++ policyReason raw)
  | timeoutWritten => ∃ raw, environment timeoutName = some raw ∧
      failure =
        .config ("invalid TASK_QUEUE_SHUTDOWN_TIMEOUT_SECS=" ++ raw ++ ": " ++ numeralReason raw)

end Check

/-! ## The outcome -/

section

variable {environment : Environment} {capacity timeout : Option Nat}
  {overflow : Option OverflowPolicy} {failure : Failure}

theorem ofEnvironment_of_capacity (read : numeral environment capacityName = .error failure) :
    ofEnvironment environment = .error failure := by
  rw [ofEnvironment, read]
  rfl

theorem ofEnvironment_of_zero (read : numeral environment capacityName = .ok capacity)
    (zero : capacity.getD defaultCapacity = 0) :
    ofEnvironment environment = .error zeroCapacity := by
  rw [ofEnvironment, read]
  exact if_pos zero

theorem ofEnvironment_of_overflow (read : numeral environment capacityName = .ok capacity)
    (positive : capacity.getD defaultCapacity ≠ 0) (refused : policy environment = .error failure) :
    ofEnvironment environment = .error failure := by
  rw [ofEnvironment, read, refused]
  exact if_neg positive

theorem ofEnvironment_of_timeout (read : numeral environment capacityName = .ok capacity)
    (positive : capacity.getD defaultCapacity ≠ 0)
    (readOverflow : policy environment = .ok overflow)
    (refused : numeral environment timeoutName = .error failure) :
    ofEnvironment environment = .error failure := by
  rw [ofEnvironment, read, readOverflow, refused]
  exact if_neg positive

theorem ofEnvironment_of_all (read : numeral environment capacityName = .ok capacity)
    (positive : capacity.getD defaultCapacity ≠ 0)
    (readOverflow : policy environment = .ok overflow)
    (readTimeout : numeral environment timeoutName = .ok timeout) :
    ofEnvironment environment = .ok {
      queue := ⟨capacity.getD defaultCapacity, overflow.getD .wait,
        (timeout.map (· * 1000)).getD defaultShutdownTimeoutMs⟩
      otelEndpoint := environment endpointName
      logLevel := (environment logLevelName).getD "info" } := by
  rw [ofEnvironment, read, readOverflow, readTimeout]
  exact if_neg positive

end

/-- Either the variables give settings, or the first check that objects is told of. -/
theorem ofEnvironment_cases (environment : Environment) :
    (∃ config, ofEnvironment environment = .ok config ∧ config.IsGivenBy environment) ∨
      ∃ (check : Check) (failure : Failure), ofEnvironment environment = .error failure ∧
        check.ObjectsFirst environment ∧ check.Tells environment failure := by
  rcases numeral_cases environment capacityName with
    ⟨capacity, read, standsCapacity⟩ | ⟨raw, isSet, none, refused⟩
  case inr =>
    refine .inr ⟨.capacityWritten, _, ofEnvironment_of_capacity refused, ⟨⟨raw, isSet, none⟩, ?_⟩,
      raw, isSet, rfl⟩
    exact fun other earlier => absurd earlier (Nat.not_lt_zero _)
  have capacityIsWord : ¬ Check.capacityWritten.Objects environment := by
    rintro ⟨raw, isSet, none⟩
    exact none _ ((standsCapacity 100).written isSet)
  by_cases zero : capacity.getD defaultCapacity = 0
  case pos =>
    have stands := standsCapacity defaultCapacity
    rw [zero] at stands
    have objects : Check.capacityPositive.Objects environment := by
      cases isSet : environment capacityName with
      | none =>
        rw [Stands, isSet] at stands
        cases stands
      | some raw => exact ⟨raw, isSet, stands.written isSet⟩
    refine .inr ⟨.capacityPositive, _, ofEnvironment_of_zero read zero, ⟨objects, ?_⟩, rfl⟩
    rintro (_ | _ | _ | _) earlier
    · exact capacityIsWord
    all_goals exact absurd earlier (by decide)
  have capacityIsPositive : ¬ Check.capacityPositive.Objects environment := by
    rintro ⟨raw, isSet, word⟩
    exact zero (((standsCapacity _).written isSet).unique word)
  rcases policy_cases environment with
    ⟨overflow, readOverflow, standsOverflow⟩ | ⟨raw, isSet, none, refused⟩
  case inr =>
    refine .inr ⟨.overflowWritten, _, ofEnvironment_of_overflow read zero refused,
      ⟨⟨raw, isSet, none⟩, ?_⟩, raw, isSet, rfl⟩
    rintro (_ | _ | _ | _) earlier
    · exact capacityIsWord
    · exact capacityIsPositive
    all_goals exact absurd earlier (by decide)
  have overflowIsPolicy : ¬ Check.overflowWritten.Objects environment := by
    rintro ⟨raw, isSet, none⟩
    exact none _ (standsOverflow.written isSet)
  rcases numeral_cases environment timeoutName with
    ⟨timeout, readTimeout, standsTimeout⟩ | ⟨raw, isSet, none, refused⟩
  case inr =>
    refine .inr ⟨.timeoutWritten, _, ofEnvironment_of_timeout read zero readOverflow refused,
      ⟨⟨raw, isSet, none⟩, ?_⟩, raw, isSet, rfl⟩
    rintro (_ | _ | _ | _) earlier
    · exact capacityIsWord
    · exact capacityIsPositive
    · exact overflowIsPolicy
    · exact absurd earlier (by decide)
  refine .inl ⟨_, ofEnvironment_of_all read zero readOverflow readTimeout, ?_⟩
  refine ⟨standsCapacity _, Nat.pos_of_ne_zero zero, standsOverflow,
    ⟨timeout.getD 30, standsTimeout 30, ?_⟩, rfl, rfl⟩
  cases timeout <;> rfl

section

variable {environment : Environment} {config other : HostConfig} {check next : Check}
  {failure told : Failure}

theorem IsGivenBy.isAcceptable (given : config.IsGivenBy environment) :
    IsAcceptable environment where
  capacity raw isSet := by
    obtain ⟨numeral, below⟩ := given.capacity.written isSet
    exact ⟨_, numeral, given.positive, below⟩
  overflow raw isSet := ⟨_, given.overflow.written isSet⟩
  timeout raw isSet := by
    obtain ⟨seconds, stands, -⟩ := given.timeout
    exact ⟨seconds, stands.written isSet⟩

theorem IsAcceptable.not_objects (acceptable : IsAcceptable environment) (check : Check) :
    ¬ check.Objects environment := by
  rintro objects
  cases check with
  | capacityWritten =>
    obtain ⟨raw, isSet, none⟩ := objects
    obtain ⟨value, numeral, -, below⟩ := acceptable.capacity raw isSet
    exact none value ⟨numeral, below⟩
  | capacityPositive =>
    obtain ⟨raw, isSet, zero⟩ := objects
    obtain ⟨value, numeral, positive, -⟩ := acceptable.capacity raw isSet
    exact absurd (numeral.unique zero.1) (Nat.ne_of_gt positive)
  | overflowWritten =>
    obtain ⟨raw, isSet, none⟩ := objects
    obtain ⟨policy, written⟩ := acceptable.overflow raw isSet
    exact none policy written
  | timeoutWritten =>
    obtain ⟨raw, isSet, none⟩ := objects
    obtain ⟨value, word⟩ := acceptable.timeout raw isSet
    exact none value word

theorem IsGivenBy.unique (first : config.IsGivenBy environment)
    (second : other.IsGivenBy environment) : config = other := by
  have capacity := first.capacity.unique second.capacity fun _ _ _ => IsWord.unique
  have overflow := first.overflow.unique second.overflow
    fun _ _ _ => OverflowPolicy.IsWrittenAs.unique
  have timeout : config.queue.shutdownTimeoutMs = other.queue.shutdownTimeoutMs := by
    obtain ⟨seconds, stands, isTimeout⟩ := first.timeout
    obtain ⟨seconds', stands', isTimeout'⟩ := second.timeout
    rw [isTimeout, isTimeout', stands.unique stands' fun _ _ _ => IsWord.unique]
  have otelEndpoint := first.otelEndpoint.trans second.otelEndpoint.symm
  have logLevel := first.logLevel.trans second.logLevel.symm
  obtain ⟨⟨_, _, _⟩, _, _⟩ := config
  obtain ⟨⟨_, _, _⟩, _, _⟩ := other
  dsimp only at capacity overflow timeout otelEndpoint logLevel
  rw [capacity, overflow, timeout, otelEndpoint, logLevel]

namespace Check

theorem position_injective {check next : Check} (same : check.position = next.position) :
    check = next := by
  revert same
  cases check <;> cases next <;> decide

theorem ObjectsFirst.unique (first : check.ObjectsFirst environment)
    (second : next.ObjectsFirst environment) : check = next := by
  have notLater : ¬ next.position < check.position := fun earlier =>
    first.2 next earlier second.1
  have notEarlier : ¬ check.position < next.position := fun earlier =>
    second.2 check earlier first.1
  exact position_injective (by omega)

theorem Tells.unique (first : check.Tells environment failure)
    (second : check.Tells environment told) : failure = told := by
  cases check with
  | capacityPositive => exact first.trans second.symm
  | capacityWritten | overflowWritten | timeoutWritten =>
    obtain ⟨raw, isSet, rfl⟩ := first
    obtain ⟨raw', isSet', rfl⟩ := second
    obtain rfl := Option.some.inj (isSet.symm.trans isSet')
    rfl

end Check

end

theorem ofEnvironment_accepts_iff {environment : Environment} :
    (∃ config, ofEnvironment environment = .ok config) ↔ IsAcceptable environment := by
  rcases ofEnvironment_cases environment with
    ⟨config, settles, given⟩ | ⟨check, failure, fails, objects, -⟩
  · exact ⟨fun _ => given.isAcceptable, fun _ => ⟨config, settles⟩⟩
  · rw [fails]
    exact ⟨nofun, fun acceptable => absurd objects.1 (acceptable.not_objects check)⟩

theorem ofEnvironment_eq_ok_iff {environment : Environment} {config : HostConfig} :
    ofEnvironment environment = .ok config ↔ config.IsGivenBy environment := by
  rcases ofEnvironment_cases environment with
    ⟨settled, settles, given⟩ | ⟨check, failure, fails, objects, -⟩
  · rw [settles, Except.ok.injEq]
    exact ⟨fun same => same ▸ given, given.unique⟩
  · rw [fails]
    exact ⟨nofun, fun given => absurd objects.1 (given.isAcceptable.not_objects check)⟩

theorem ofEnvironment_eq_error_iff {environment : Environment} {failure : Failure} :
    ofEnvironment environment = .error failure ↔
      ∃ check : Check, check.ObjectsFirst environment ∧ check.Tells environment failure := by
  rcases ofEnvironment_cases environment with
    ⟨config, settles, given⟩ | ⟨check, told, fails, objects, tells⟩
  · rw [settles]
    refine ⟨nofun, ?_⟩
    rintro ⟨check, objects, -⟩
    exact absurd objects.1 (given.isAcceptable.not_objects check)
  · rw [fails, Except.error.injEq]
    constructor
    · rintro rfl
      exact ⟨check, objects, tells⟩
    · rintro ⟨next, nextObjects, nextTells⟩
      obtain rfl := objects.unique nextObjects
      exact tells.unique nextTells

/-- There are settings exactly if what is set is written as it should be, and then they are what
the variables stand for. Otherwise the first check that objects is told of, with the name of its
variable and the text in it. -/
theorem ofEnvironment_follows_grammar (environment : Environment) :
    ((∃ config, ofEnvironment environment = .ok config) ↔ IsAcceptable environment) ∧
      (∀ config, ofEnvironment environment = .ok config ↔ config.IsGivenBy environment) ∧
      ∀ failure, ofEnvironment environment = .error failure ↔
        ∃ check : Check, check.ObjectsFirst environment ∧ check.Tells environment failure :=
  ⟨ofEnvironment_accepts_iff, fun _ => ofEnvironment_eq_ok_iff,
    fun _ => ofEnvironment_eq_error_iff⟩

example :
    ofEnvironment (fun name =>
        if name = capacityName then some "18446744073709551616x"
        else if name = overflowName then some "drop-oldest"
        else none) =
      .error (.config ("invalid TASK_QUEUE_CAPACITY=18446744073709551616x: " ++
        "number too large to fit in target type")) := by
  decide +kernel

end WorkHost.HostConfig

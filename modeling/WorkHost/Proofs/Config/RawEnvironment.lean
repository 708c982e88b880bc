import WorkHost.Config.RawEnvironment
import WorkHost.Proofs.Config.Settings

/-!
Contract: which malformed settings are refused, and which are taken for unset.

A setting of the queue whose variable holds text is refused unless the text is well-formed. A
variable that holds no text leaves the settings as if it were not set
(`HostConfig.ofRaw_unset`), so its setting silently has the default.
-/

namespace WorkHost

open Text

theorem Text.fromUTF8?_eq_some_iff {bytes : ByteArray} {text : String} :
    String.fromUTF8? bytes = some text ↔ bytes = text.toUTF8 := by
  unfold String.fromUTF8?
  constructor
  · intro isText
    split at isText
    · exact Option.some.inj isText ▸ rfl
    · cases isText
  · rintro rfl
    exact dif_pos text.isValidUTF8

namespace RawEnvironment

variable {system : RawEnvironment} {name : String} {bytes : ByteArray} {text : String}

/-- The variables without one of them. -/
def unset (system : RawEnvironment) (name : String) : RawEnvironment := fun other =>
  if other = name then none else system other

theorem texts_eq (system : RawEnvironment) (name : String) :
    system.texts name = (system name).bind String.fromUTF8? := by
  unfold texts read
  cases system name with
  | none => rfl
  | some bytes =>
    dsimp only [Option.bind_some]
    cases String.fromUTF8? bytes <;> rfl

theorem texts_eq_some_iff :
    system.texts name = some text ↔ system name = some text.toUTF8 := by
  rw [texts_eq, Option.bind_eq_some_iff]
  simp only [fromUTF8?_eq_some_iff, exists_eq_right]

theorem texts_of_notText (isSet : system name = some bytes)
    (notText : ∀ text : String, bytes ≠ text.toUTF8) : system.texts name = none := by
  rw [Option.eq_none_iff_forall_ne_some]
  intro text isText
  rw [texts_eq_some_iff, isSet, Option.some.injEq] at isText
  exact notText text isText

theorem texts_unset (unreadable : system.texts name = none) :
    (system.unset name).texts = system.texts := by
  funext other
  by_cases same : other = name
  · rw [same, unreadable, texts, read, unset, if_pos rfl]
  · rw [texts, texts, read, read, unset, if_neg same]

end RawEnvironment

namespace HostConfig

/-- The settings of the queue. -/
inductive QueueSetting where
  | capacity
  | overflow
  | shutdownTimeout
deriving DecidableEq

namespace QueueSetting

def name : QueueSetting → String
  | capacity => capacityName
  | overflow => overflowName
  | shutdownTimeout => timeoutName

/-- A text that is a value of the setting. -/
def Admits (text : String) : QueueSetting → Prop
  | capacity => ∃ value, IsNumeral text.toList value ∧ 1 ≤ value ∧ value < 2 ^ 64
  | overflow => ∃ policy : OverflowPolicy, policy.IsWrittenAs text.toList
  | shutdownTimeout => ∃ value, IsNumeral text.toList value ∧ value < 2 ^ 64

/-- The bytes of a value of the setting. -/
def IsWellFormed (setting : QueueSetting) (bytes : ByteArray) : Prop :=
  ∃ text : String, bytes = text.toUTF8 ∧ setting.Admits text

end QueueSetting

theorem isAcceptable_iff {environment : Environment} :
    IsAcceptable environment ↔
      ∀ (setting : QueueSetting) text, environment setting.name = some text →
        setting.Admits text := by
  constructor
  · rintro ⟨capacity, overflow, timeout⟩ (_ | _ | _)
    · exact capacity
    · exact overflow
    · exact timeout
  · intro admits
    exact ⟨admits .capacity, admits .overflow, admits .shutdownTimeout⟩

/-- What the settings fail with is a malformed variable. -/
theorem config_of_error {environment : Environment} {failure : Failure}
    (fails : ofEnvironment environment = .error failure) : ∃ reason, failure = .config reason := by
  obtain ⟨check, -, tells⟩ := ofEnvironment_eq_error_iff.mp fails
  cases check with
  | capacityPositive => exact ⟨_, tells⟩
  | capacityWritten | overflowWritten | timeoutWritten =>
    obtain ⟨raw, -, told⟩ := tells
    exact ⟨_, told⟩

theorem config_error_iff {environment : Environment} :
    (∃ reason, ofEnvironment environment = .error (.config reason)) ↔
      ¬ IsAcceptable environment := by
  rw [← ofEnvironment_accepts_iff]
  cases outcome : ofEnvironment environment with
  | ok config => simp
  | error failure =>
    obtain ⟨reason, rfl⟩ := config_of_error outcome
    simp

/-- A variable that holds no text leaves the settings as they are without it. -/
theorem ofRaw_unset {system : RawEnvironment} {name : String}
    (unreadable : system.texts name = none) : ofRaw (system.unset name) = ofRaw system := by
  rw [ofRaw, RawEnvironment.texts_unset unreadable, ofRaw]

/-- The settings are refused exactly if one of them is malformed text. Bytes that are not text
are malformed too, but count as no value. -/
theorem refuses_malformed_texts (system : RawEnvironment) :
    ((∃ reason, ofRaw system = .error (.config reason)) ↔
        ∃ (setting : QueueSetting) (text : String),
          system setting.name = some text.toUTF8 ∧ ¬ setting.Admits text) ∧
      ∀ (setting : QueueSetting) bytes, system setting.name = some bytes →
        ¬ setting.IsWellFormed bytes →
          ((∃ text : String, bytes = text.toUTF8) →
            ∃ reason, ofRaw system = .error (.config reason)) ∧
          ((∀ text : String, bytes ≠ text.toUTF8) →
            ofRaw system = ofRaw (system.unset setting.name)) := by
  have refused : (∃ reason, ofRaw system = .error (.config reason)) ↔
      ∃ (setting : QueueSetting) (text : String),
        system setting.name = some text.toUTF8 ∧ ¬ setting.Admits text := by
    rw [ofRaw, config_error_iff, isAcceptable_iff]
    push Not
    simp only [RawEnvironment.texts_eq_some_iff]
  refine ⟨refused, fun setting bytes isSet malformed => ⟨?_, fun notText => ?_⟩⟩
  · rintro ⟨text, rfl⟩
    exact refused.mpr ⟨setting, text, isSet, fun admits => malformed ⟨text, rfl, admits⟩⟩
  · exact (ofRaw_unset (RawEnvironment.texts_of_notText isSet notText)).symm

/-- A byte that stands in no text is no capacity, yet the default is taken in its place. -/
theorem ofRaw_ignores_stray_byte :
    ∃ (system : RawEnvironment) (bytes : ByteArray),
      system QueueSetting.capacity.name = some bytes ∧
        ¬ QueueSetting.capacity.IsWellFormed bytes ∧
        ofRaw system = .ok ⟨.default, none, "info"⟩ := by
  refine ⟨fun name => if name = capacityName then some ⟨#[0xFF]⟩ else none, ⟨#[0xFF]⟩, rfl, ?_,
    by decide +kernel⟩
  rintro ⟨text, isText, -⟩
  cases (fromUTF8?_eq_some_iff.mpr isText).symm.trans
    (show String.fromUTF8? ⟨#[0xFF]⟩ = none by decide +kernel)

end HostConfig

end WorkHost

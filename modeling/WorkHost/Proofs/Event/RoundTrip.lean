import WorkHost.Event.Codec
import WorkHost.Proofs.Calendar.Written
import WorkHost.Proofs.Json.Numbers
import WorkHost.Proofs.Json.Reading
import WorkHost.Proofs.Work.Identifiers

/-!
Contract: the event stream survives its JSON form.

A value is written as the text of its JSON form and read by a decoder of JSON values
(`Codec`). What is written is read back, and every text that is read, however it was spelled,
has one written form that stands for the same value (`Codec.RoundTrips`). The numbers of an
event have 64 bits (`Bounded`), which every decoded value has too; its timestamp is one of the
years of four digits and no leap second (`Timely`).
-/

namespace WorkHost

open Json Text

/-! ## Parts of a value -/

@[simp]
theorem string?_heard (text : String) : (Value.ofString text).heard.string? = some text := by
  rw [Value.ofString, Value.heard, Value.string?, text?_heard]

@[simp]
theorem unitName?_heard (text : String) : (Value.ofString text).heard.unitName? = some text := by
  rw [Value.ofString, Value.heard, Value.unitName?, text?_heard]

@[simp]
theorem isSound_ofString (depth : Nat) (text : String) :
    (Value.ofString text).heard.isSound depth = true := by
  rw [Value.ofString, Value.heard, Value.isSound, text?_heard, Option.isSome_some]

@[simp]
theorem heard_ofNat (value : Nat) : (Value.ofNat value).heard = Value.ofNat value := rfl

theorem wordOfJson?_ofNat {value : Nat} (word : value < wordLimit) :
    wordOfJson? (Value.ofNat value) = some value :=
  if_pos ⟨rfl, Bool.false_ne_true, word⟩

theorem isSound_ofNat (depth : Nat) {value : Nat} (word : value < wordLimit) :
    (Value.ofNat value).isSound depth = true := by
  rw [Value.ofNat, Value.isSound]
  exact Number.isFinite_ofNat word

theorem wordOfJson?_lt {value : Value} {word : Nat} (read : wordOfJson? value = some word) :
    word < wordLimit := by
  unfold wordOfJson? Value.below? at read
  split at read
  · unfold Number.below? at read
    split at read
    · rename_i plain
      exact Option.some.inj read ▸ plain.2.2
    · exact absurd read (Option.some_ne_none _).symm
  · exact absurd read (Option.some_ne_none _).symm

/-- Members with their values as they are read. -/
def heardNamed (members : List (String × Value)) : List (String × Value) :=
  members.map fun member => (member.1, member.2.heard)

theorem heard_ofMembers (members : List (String × Value)) :
    ∃ written, (Value.ofMembers members).heard = .object written ∧
      namedMembers written = some (heardNamed members) ∧
      ∀ depth, (∀ member ∈ members, member.2.heard.isSound depth = true) →
        Value.haveSound depth written = true := by
  refine ⟨_, rfl, ?_⟩
  induction members with
  | nil => exact ⟨rfl, fun _ _ => rfl⟩
  | cons member members inductionHypothesis =>
    obtain ⟨named, sound⟩ := inductionHypothesis
    obtain ⟨name, value⟩ := member
    constructor
    · rw [List.map_cons, heardMembers, namedMembers, text?_heard, named]
      rfl
    · intro depth all
      have later := sound depth fun member isLater => all member (List.mem_cons_of_mem _ isLater)
      rw [List.map_cons, heardMembers, Value.haveSound, text?_heard, all _ List.mem_cons_self,
        later]
      rfl

@[simp]
theorem WorkId.ofJson?_toJson (id : WorkId) : WorkId.ofJson? id.toJson.heard = some id := by
  rw [WorkId.ofJson?, WorkId.toJson, string?_heard, Option.bind_some, WorkId.parse?_text]

@[simp]
theorem dependencyOfJson?_null : dependencyOfJson? Value.null.heard = some none := rfl

@[simp]
theorem dependencyOfJson?_ofString (name : String) :
    dependencyOfJson? (Value.ofString name).heard = some (some name) := by
  have read := string?_heard name
  rw [Value.ofString, Value.heard] at read ⊢
  rw [dependencyOfJson?, read]
  · rfl
  · nofun

/-! ## Event kinds -/

namespace EventKind

/-- The numbers have 64 bits. -/
def Bounded : EventKind → Prop
  | .workCompleted _ durationMs | .workFailed _ _ durationMs => durationMs < wordLimit
  | .workDiscarded count => count < wordLimit
  | _ => True

theorem isSound_members {kind : EventKind} (bounded : kind.Bounded) (depth : Nat) :
    ∀ member ∈ kind.members, member.2.heard.isSound depth = true := by
  cases kind with
  | workStarted id workKind dependency =>
    cases dependency <;> simp [members, WorkId.toJson, isSound_ofString, Value.heard, Value.isSound]
  | _ => simp_all [members, WorkId.toJson, isSound_ofString, heard_ofNat, isSound_ofNat, Bounded]

theorem ofMembers?_members {kind : EventKind} (bounded : kind.Bounded) (written : Value) :
    ofMembers? kind.tag (("type", written) :: heardNamed kind.members) = some kind := by
  cases kind with
  | workStarted id workKind dependency =>
    cases dependency <;>
      simp [ofMembers?, tag, members, heardNamed, requiredMember, optionalMember]
  | workerStarted | drainStarted | workerStopped => rfl
  | workCompleted _ durationMs | workFailed _ _ durationMs | workDiscarded count =>
    simp [ofMembers?, tag, members, heardNamed, requiredMember, optionalMember,
      wordOfJson?_ofNat bounded]
  | workPanicked | forcedStop =>
    simp [ofMembers?, tag, members, heardNamed, requiredMember, optionalMember]

theorem ofJsonWithin?_toJson {kind : EventKind} (bounded : kind.Bounded) {depth : Nat}
    (room : depth ≠ 0) : ofJsonWithin? depth kind.toJson.heard = some kind := by
  obtain ⟨written, isWritten, named, sound⟩ :=
    heard_ofMembers (("type", Value.ofString kind.tag) :: kind.members)
  have allSound := sound (depth - 1) (List.forall_mem_cons.mpr
    ⟨isSound_ofString _ _, isSound_members bounded _⟩)
  have isTag : requiredMember (heardNamed (("type", Value.ofString kind.tag) :: kind.members))
      "type" = some (Value.ofString kind.tag).heard := by
    cases kind <;> simp [heardNamed, members, requiredMember, optionalMember]
  rw [toJson, isWritten, ofJsonWithin?, Value.isSound, allSound, if_pos (by simpa using room)]
  simp only [named, isTag, Option.bind_eq_bind, Option.bind_some, string?_heard]
  exact ofMembers?_members bounded _

/-- A number is read in the branch of its tag, and only if it has 64 bits. -/
theorem bounded_of_ofMembers? {tag : String} {members : List (String × Value)} {kind : EventKind}
    (read : ofMembers? tag members = some kind) : kind.Bounded := by
  unfold ofMembers? at read
  split at read
  case h_10 => exact absurd read (Option.some_ne_none _).symm
  all_goals
    simp only [Option.bind_eq_bind, Option.bind_eq_some_iff, Option.some.injEq,
      Option.pure_def] at read
    grind [Bounded, wordOfJson?_lt]

theorem bounded_of_ofItems? {tag : String} {items : List Value} {kind : EventKind}
    (read : ofItems? tag items = some kind) : kind.Bounded := by
  unfold ofItems? at read
  split at read
  case h_10 => exact absurd read (Option.some_ne_none _).symm
  all_goals
    simp only [Option.bind_eq_bind, Option.bind_eq_some_iff, Option.some.injEq,
      Option.pure_def] at read
    grind [Bounded, wordOfJson?_lt]

theorem bounded_of_ofJsonWithin? {depth : Nat} {value : Value} {kind : EventKind}
    (read : ofJsonWithin? depth value = some kind) : kind.Bounded := by
  unfold ofJsonWithin? at read
  split at read
  · split at read
    · simp only [Option.bind_eq_bind, Option.bind_eq_some_iff] at read
      obtain ⟨_, -, _, -, isKind⟩ := read
      exact bounded_of_ofMembers? isKind
    · simp only [Option.bind_eq_bind, Option.bind_eq_some_iff] at read
      obtain ⟨_, -, isKind⟩ := read
      exact bounded_of_ofItems? isKind
    · exact absurd read (Option.some_ne_none _).symm
  · exact absurd read (Option.some_ne_none _).symm

theorem ofJson?_toJson {kind : EventKind} (bounded : kind.Bounded) :
    ofJson? kind.toJson.heard = some kind := by
  rw [ofJson?]
  exact ofJsonWithin?_toJson bounded (by decide)

theorem bounded_of_ofJson? {value : Value} {kind : EventKind} (read : ofJson? value = some kind) :
    kind.Bounded :=
  bounded_of_ofJsonWithin? read

end EventKind

/-! ## Events -/

namespace Event

open Calendar

/-- The numbers have 64 bits. -/
def Bounded (event : Event) : Prop := event.seq < wordLimit ∧ event.kind.Bounded

/-- The timestamp is an instant of the years 0 to 9999, and not within a leap second. -/
def Timely (event : Event) : Prop :=
  Timestamp.Dated event.timestamp ∧ event.timestamp.isLeapSecond = false

theorem ofParts?_heard {event : Event} (bounded : event.Bounded) (timely : event.Timely) :
    ofParts? (Value.ofNat event.seq).heard
      (Value.ofString (Timestamp.write event.timestamp)).heard event.kind.toJson.heard =
        some event := by
  have room : EventKind.nestingLimit - 1 ≠ 0 := by decide
  have kind := EventKind.ofJsonWithin?_toJson bounded.2 room
  simp [ofParts?, wordOfJson?_ofNat bounded.1, Timestamp.read?_write timely.1 timely.2, kind]

theorem ofJson?_toJson {event : Event} (bounded : event.Bounded) (timely : event.Timely) :
    ofJson? event.toJson.heard = some event := by
  obtain ⟨written, isWritten, named, -⟩ := heard_ofMembers [("seq", .ofNat event.seq),
    ("timestamp", .ofString (Timestamp.write event.timestamp)), ("kind", event.kind.toJson)]
  rw [toJson, isWritten, ofJson?]
  simp only [named, Option.bind_eq_bind, Option.bind_some]
  simpa [heardNamed, requiredMember, optionalMember] using ofParts?_heard bounded timely

theorem bounded_of_ofParts? {seq timestamp kind : Value} {event : Event}
    (read : ofParts? seq timestamp kind = some event) : event.Bounded := by
  simp only [ofParts?, Option.bind_eq_bind, Option.bind_eq_some_iff, Option.pure_def,
    Option.some.injEq] at read
  obtain ⟨seq, isSeq, timestamp, -, kind, isKind, rfl⟩ := read
  exact ⟨wordOfJson?_lt isSeq, EventKind.bounded_of_ofJsonWithin? isKind⟩

theorem bounded_of_ofJson? {value : Value} {event : Event} (read : ofJson? value = some event) :
    event.Bounded := by
  unfold ofJson? at read
  split at read
  · simp only [Option.bind_eq_bind, Option.bind_eq_some_iff] at read
    obtain ⟨_, -, _, -, _, -, _, -, isEvent⟩ := read
    exact bounded_of_ofParts? isEvent
  · exact bounded_of_ofParts? read
  · exact absurd read (Option.some_ne_none _).symm

end Event

/-! ## The written forms -/

/-- How the values of a type are put into JSON and taken out of it. -/
structure Codec (α : Type) where
  toJson : α → Value
  ofJson? : Value → Option α
  /-- The numbers of the value have 64 bits. -/
  Bounded : α → Prop
  /-- The timestamp of the value, if it has one, is an instant of the years 0 to 9999, and not
  within a leap second. -/
  Timely : α → Prop

namespace Codec

variable {α : Type} (codec : Codec α)

def encode (value : α) : String := (codec.toJson value).render

def decode? (text : String) : Option α := (parse? text).bind codec.ofJson?

structure RoundTrips : Prop where
  decode_encode : ∀ value, codec.Bounded value → codec.Timely value →
    codec.decode? (codec.encode value) = some value
  /-- A text in any spelling has a written form: it stands for the same value and is its own
  written form. -/
  renews : ∀ text value, codec.decode? text = some value → codec.Timely value →
    codec.decode? (codec.encode value) = some value ∧
      (codec.decode? (codec.encode value)).map codec.encode = some (codec.encode value)

variable {toJson : α → Value} {ofJson? : Value → Option α} {Bounded Timely : α → Prop}

theorem decode?_encode {value : α} (reads : ofJson? (toJson value).heard = some value) :
    decode? ⟨toJson, ofJson?, Bounded, Timely⟩ (encode ⟨toJson, ofJson?, Bounded, Timely⟩ value) =
      some value := by
  rw [decode?, encode, parse?_render, Option.bind_some]
  exact reads

theorem roundTrips_of_ofJson?
    (reads : ∀ value, Bounded value → Timely value → ofJson? (toJson value).heard = some value)
    (bounds : ∀ json value, ofJson? json = some value → Bounded value) :
    RoundTrips ⟨toJson, ofJson?, Bounded, Timely⟩ where
  decode_encode := fun value bounded timely => decode?_encode (reads value bounded timely)
  renews := by
    intro text value decoded timely
    obtain ⟨json, -, isValue⟩ := Option.bind_eq_some_iff.mp decoded
    have again := @decode?_encode _ _ _ Bounded Timely _
      (reads value (bounds json value isValue) timely)
    exact ⟨again, by rw [again, Option.map_some]⟩

end Codec

def Event.codec : Codec Event := ⟨Event.toJson, Event.ofJson?, Event.Bounded, Event.Timely⟩

def EventKind.codec : Codec EventKind :=
  ⟨EventKind.toJson, EventKind.ofJson?, EventKind.Bounded, fun _ => True⟩

def WorkId.codec : Codec WorkId :=
  ⟨WorkId.toJson, WorkId.ofJson?, fun _ => True, fun _ => True⟩

def WorkerState.codec : Codec WorkerState :=
  ⟨WorkerState.toJson, WorkerState.ofJson?, fun _ => True, fun _ => True⟩

def OverflowPolicy.codec : Codec OverflowPolicy :=
  ⟨OverflowPolicy.toJson, OverflowPolicy.ofJson?, fun _ => True, fun _ => True⟩

theorem WorkerState.ofJson?_toJson (state : WorkerState) :
    WorkerState.ofJson? state.toJson.heard = some state := by
  rw [WorkerState.ofJson?, WorkerState.toJson, unitName?_heard, Option.bind_some,
    WorkerState.ofText?_text]

theorem OverflowPolicy.ofJson?_toJson (policy : OverflowPolicy) :
    OverflowPolicy.ofJson? policy.toJson.heard = some policy := by
  rw [OverflowPolicy.ofJson?, OverflowPolicy.toJson, unitName?_heard, Option.bind_some,
    OverflowPolicy.ofText?_text]

/-- Events and the values they are made of survive their written form, and so does every
other spelling of them. -/
theorem event_stream_round_trips :
    Event.codec.RoundTrips ∧ EventKind.codec.RoundTrips ∧ WorkId.codec.RoundTrips ∧
      WorkerState.codec.RoundTrips ∧ OverflowPolicy.codec.RoundTrips := by
  refine ⟨?_, ?_, ?_, ?_, ?_⟩
  · exact Codec.roundTrips_of_ofJson?
      (fun _ bounded timely => Event.ofJson?_toJson bounded timely)
      (fun _ _ => Event.bounded_of_ofJson?)
  · exact Codec.roundTrips_of_ofJson?
      (fun _ bounded _ => EventKind.ofJson?_toJson bounded)
      (fun _ _ => EventKind.bounded_of_ofJson?)
  · exact Codec.roundTrips_of_ofJson?
      (fun id _ _ => WorkId.ofJson?_toJson id) (fun _ _ _ => trivial)
  · exact Codec.roundTrips_of_ofJson?
      (fun state _ _ => state.ofJson?_toJson) (fun _ _ _ => trivial)
  · exact Codec.roundTrips_of_ofJson?
      (fun policy _ _ => policy.ofJson?_toJson) (fun _ _ _ => trivial)

example :
    ((parse? "[7, \"2024-2-29t23:30:00.5-01:00\", [\"drain_started\"]]").bind Event.ofJson?).map
        (fun event => event.toJson.render) =
      some ("\x7b\"seq\":7,\"timestamp\":\"2024-03-01T00:30:00.500Z\",\"kind\":\x7b" ++
        "\"type\":\"drain_started\"\x7d\x7d") := by
  decide +kernel

end WorkHost

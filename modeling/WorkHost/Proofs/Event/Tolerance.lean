import WorkHost.Proofs.Event.Members
import WorkHost.Proofs.Event.RoundTrip

/-!
Contract: what the spelling of an event may change, and what it must not.

An object may be `Respelled`: its members come in any order, members of unknown names are
added, or a missing dependency is written as `null`. A kind is held whole before its tag is
known, so what is added to it has to be a text, while an event skips whatever stands under an
unknown name. Respelled objects are decoded alike (`EventKind.ofJsonWithin?_respelled`,
`Event.ofJson?_respelled`), and an object with a fault is not decoded at all.
-/

namespace WorkHost

open Json Text

namespace EventKind

/-- The fields that the reader of a tagged kind asks for. -/
def fieldsOf : String → List Field
  | "work_started" => [⟨"id", .text⟩, ⟨"work_kind", .text⟩, ⟨"dependency", .optionalText⟩]
  | "work_completed" => [⟨"id", .text⟩, ⟨"duration_ms", .word⟩]
  | "work_failed" => [⟨"id", .text⟩, ⟨"error", .text⟩, ⟨"duration_ms", .word⟩]
  | "work_panicked" => [⟨"id", .text⟩, ⟨"message", .text⟩]
  | "forced_stop" => [⟨"id", .text⟩]
  | "work_discarded" => [⟨"count", .word⟩]
  | _ => []

def tagField : Field := ⟨"type", .text⟩

def tag? (members : List (String × Value)) : Option String :=
  (requiredMember members "type").bind Value.string?

/-- The name is neither the tag's nor that of a field of the tagged kind. -/
def IsUnknown (members : List (String × Value)) (name : String) : Prop :=
  name ≠ "type" ∧ ∀ tag, tag? members = some tag → ∀ field ∈ fieldsOf tag, name ≠ field.name

/-- Another spelling of the members of a kind. -/
inductive Respelled (members members' : List (List Piece × Value)) : Prop where
  /-- Members of unknown names that hold texts are added, and all are put in any order. -/
  | rearranged (added : List (List Piece × Value)) :
    (∀ member ∈ added, ∃ name text, text? member.1 = some name ∧ member.2.string? = some text ∧
      IsUnknown (readable members) name) →
    members'.Perm (members ++ added) → Respelled members members'
  /-- A missing dependency is written as `null`. -/
  | explicitNull (name : List Piece) : text? name = some "dependency" →
    (∀ value, ("dependency", value) ∉ readable members) →
    members'.Perm ((name, .null) :: members) → Respelled members members'

/-- What is wrong with the members of a kind. -/
def IsFaulty (members : List (List Piece × Value)) : Prop :=
  Faulty [tagField] (readable members) ∨
    ∃ tag, tag? (readable members) = some tag ∧ Faulty (fieldsOf tag) (readable members)

/-! ## Reading a kind by its fields -/

variable {members members' : List (String × Value)}

theorem ofMembers?_congr {tag : String}
    (same : ∀ field ∈ fieldsOf tag, field.value? members' = field.value? members) :
    ofMembers? tag members' = ofMembers? tag members := by
  unfold ofMembers?
  split
  case h_2 =>
    simp only [fieldsOf, List.forall_mem_cons, Field.value?] at same
    obtain ⟨id, workKind, dependency, -⟩ := same
    have reads : ∀ read : Value → Option EventKind,
        ((optionalMember members' "dependency").bind fun found => read (found.getD .null)) =
          (optionalMember members "dependency").bind fun found => read (found.getD .null) := by
      intro read
      have := congrArg (Option.bind · read) dependency
      simpa only [Option.bind_map, Function.comp_def] using this
    simp only [Option.bind_eq_bind, id, workKind]
    exact reads fun found =>
      ((requiredMember members "id").bind WorkId.ofJson?).bind fun id =>
        ((requiredMember members "work_kind").bind Value.string?).bind fun workKind =>
          (dependencyOfJson? found).bind fun dependency =>
            pure (.workStarted id workKind dependency)
  all_goals
    simp only [fieldsOf, List.forall_mem_cons, Field.value?] at same
    simp only [same]

theorem tag?_congr (same : tagField.value? members' = tagField.value? members) :
    tag? members' = tag? members :=
  congrArg (Option.bind · Value.string?) same

theorem admits_text {shape : Shape} (isText : shape = .text ∨ shape = .optionalText)
    {value : Value} {text : String} (read : value.string? = some text) : shape.Admits value := by
  cases value with
  | string pieces => rcases isText with rfl | rfl <;> exact trivial
  | _ => cases read

theorem admits_dependency {value : Value} {dependency : Option String}
    (read : dependencyOfJson? value = some dependency) : Shape.optionalText.Admits value := by
  cases value with
  | null | string => exact trivial
  | _ => cases read

theorem admits_word {value : Value} {word : Nat} (read : wordOfJson? value = some word) :
    Shape.word.Admits value := by
  cases value with
  | number number => exact Number.isWord_of_below? read
  | _ => cases read

/-- A member that is read as an identifier is a text. -/
theorem admits_id {value : Value} {id : WorkId} (read : WorkId.ofJson? value = some id) :
    Shape.text.Admits value := by
  obtain ⟨text, isText, -⟩ := Option.bind_eq_some_iff.mp read
  exact admits_text (.inl rfl) isText

theorem reads_of_ofMembers? {tag : String} {kind : EventKind}
    (read : ofMembers? tag members = some kind) : Reads (fieldsOf tag) members := by
  unfold ofMembers? at read
  split at read
  case h_10 => cases read
  all_goals
    simp only [Option.bind_eq_bind, Option.bind_eq_some_iff, Option.pure_def] at read
    simp only [Reads, fieldsOf, List.forall_mem_cons, Field.value?, List.not_mem_nil,
      false_imp_iff, implies_true, and_true, Option.map_eq_some_iff]
    grind [admits_text, admits_dependency, admits_word, admits_id]

/-- A kind is read from members that are all sound. -/
theorem ofJsonWithin?_object (depth : Nat) (members : List (List Piece × Value)) :
    ofJsonWithin? depth (.object members) =
      if depth != 0 && members.all fun member =>
          (text? member.1).isSome && member.2.isSound (depth - 1) then
        (tag? (readable members)).bind fun tag => ofMembers? tag (readable members)
      else none := by
  rw [ofJsonWithin?, Value.isSound, haveSound_eq]
  split
  · rename_i sound
    rw [Bool.and_eq_true] at sound
    have named : members.all (fun member => (text? member.1).isSome) = true := by
      simp only [List.all_eq_true, Bool.and_eq_true] at sound ⊢
      exact fun member isMember => (sound.2 member isMember).1
    simp only [namedMembers_eq, named, if_true, Option.bind_eq_bind, Option.bind_some, tag?]
  · rfl

/-! ## Spellings of a kind -/

theorem value?_respelled {members members' : List (List Piece × Value)} {field : Field}
    {added : List (List Piece × Value)}
    (foreign : ∀ member ∈ added, ∀ name, text? member.1 = some name → name ≠ field.name)
    (same : members'.Perm (members ++ added)) :
    field.value? (readable members') = field.value? (readable members) := by
  rw [field.value?_perm (readable_perm same), readable_append]
  apply Field.value?_append
  rintro ⟨name, value⟩ isAdded
  obtain ⟨pieces, member, isName⟩ := mem_readable.mp isAdded
  exact foreign _ member name isName

/-- A dependency that is missing and one that is `null` have the same value. -/
theorem value?_explicitNull (absent : ∀ value, ("dependency", value) ∉ members) {field : Field}
    (optional : field.name = "dependency" → field.shape = .optionalText) :
    field.value? (("dependency", .null) :: members) = field.value? members := by
  unfold Field.value?
  by_cases same : field.name = "dependency"
  · simp only [optional same, same, optionalMember_cons absent, optionalMember_absent absent,
      Option.map_some, Option.getD_some, Option.getD_none]
  · have differs : "dependency" ≠ field.name := Ne.symm same
    rw [requiredMember, requiredMember, optionalMember_cons_of_ne differs]

theorem dependency_optional {tag : String} :
    ∀ field ∈ fieldsOf tag, field.name = "dependency" → field.shape = .optionalText := by
  unfold fieldsOf
  split <;> simp

/-- All that is read of a respelled object is what is read of the first one. -/
structure SameReading (members members' : List (List Piece × Value)) : Prop where
  sound : ∀ depth, (members'.all fun member =>
      (text? member.1).isSome && member.2.isSound depth) =
    members.all fun member => (text? member.1).isSome && member.2.isSound depth
  tag : tagField.value? (readable members') = tagField.value? (readable members)
  fields : ∀ tag, tag? (readable members) = some tag → ∀ field ∈ fieldsOf tag,
    field.value? (readable members') = field.value? (readable members)

theorem Respelled.sameReading {members members' : List (List Piece × Value)}
    (respelled : Respelled members members') : SameReading members members' := by
  rcases respelled with ⟨added, unknown, same⟩ | ⟨pieces, isName, absent, same⟩
  · refine ⟨?_, ?_, ?_⟩
    · intro depth
      rw [same.all_eq, List.all_append]
      have soundAdded : added.all (fun member =>
          (text? member.1).isSome && member.2.isSound depth) = true := by
        rw [List.all_eq_true]
        rintro ⟨pieces, value⟩ isAdded
        obtain ⟨name, text, isName, isText, -⟩ := unknown _ isAdded
        cases value with
        | string pieces =>
          rw [Value.string?] at isText
          rw [isName, Value.isSound, isText]
          rfl
        | _ => cases isText
      rw [soundAdded, Bool.and_true]
    · refine value?_respelled (fun member isAdded other isOther => ?_) same
      obtain ⟨name, text, isName, -, isUnknown⟩ := unknown member isAdded
      obtain rfl := Option.some.inj (isName.symm.trans isOther)
      exact isUnknown.1
    · intro tag isTag field isField
      refine value?_respelled (fun member isAdded other isOther => ?_) same
      obtain ⟨name, text, isName, -, isUnknown⟩ := unknown member isAdded
      obtain rfl := Option.some.inj (isName.symm.trans isOther)
      exact isUnknown.2 tag isTag field isField
  · have reads : (readable members').Perm (("dependency", .null) :: readable members) := by
      have filtered := readable_perm same
      rwa [readable, readable, List.filterMap_cons_some (by rw [isName]; rfl)] at filtered
    refine ⟨?_, ?_, ?_⟩
    · intro depth
      rw [same.all_eq, List.all_cons, isName]
      rfl
    · rw [tagField.value?_perm reads]
      exact value?_explicitNull absent fun same => absurd same (by decide)
    · intro tag _ field isField
      rw [field.value?_perm reads]
      exact value?_explicitNull absent (dependency_optional field isField)

theorem ofJsonWithin?_respelled {members members' : List (List Piece × Value)}
    (respelled : Respelled members members') (depth : Nat) :
    ofJsonWithin? depth (.object members') = ofJsonWithin? depth (.object members) := by
  obtain ⟨sound, tag, fields⟩ := respelled.sameReading
  rw [ofJsonWithin?_object, ofJsonWithin?_object, sound, tag?_congr tag]
  cases isTag : tag? (readable members) with
  | none => rfl
  | some tag => rw [Option.bind_some, Option.bind_some, ofMembers?_congr (fields tag isTag)]

/-- A kind is not read if anything is wrong with its members. -/
theorem ofJsonWithin?_faulty {members : List (List Piece × Value)} (faulty : IsFaulty members)
    (depth : Nat) : ofJsonWithin? depth (.object members) = none := by
  by_contra read
  obtain ⟨kind, isKind⟩ := Option.ne_none_iff_exists'.mp read
  rw [ofJsonWithin?_object] at isKind
  split at isKind
  · obtain ⟨tag, isTag, readsMembers⟩ := Option.bind_eq_some_iff.mp isKind
    rcases faulty with untagged | ⟨other, isOther, inFields⟩
    · refine Reads.not_faulty (List.forall_mem_singleton.mpr ?_) untagged
      obtain ⟨value, isValue, isText⟩ := Option.bind_eq_some_iff.mp isTag
      exact ⟨value, isValue, admits_text (.inl rfl) isText⟩
    · obtain rfl := Option.some.inj (isTag.symm.trans isOther)
      exact (reads_of_ofMembers? readsMembers).not_faulty inFields
  · cases isKind

end EventKind

/-! ## Events -/

namespace Event

def fields : List Field := [⟨"seq", .word⟩, ⟨"timestamp", .text⟩, ⟨"kind", .kind⟩]

/-- The members of the kind are respelled, and nothing else may differ. -/
def Alike (name : String) (value value' : Value) : Prop :=
  value' = value ∨ name = "kind" ∧ ∃ members members', value = .object members ∧
    value' = .object members' ∧ EventKind.Respelled members members'

/-- Another spelling of the members of an event: those of its kind are respelled, members of
unknown names are added, and all are put in any order. -/
def Respelled (members members' : List (List Piece × Value)) : Prop :=
  ∃ changed added,
    List.Forall₂ (fun member member' => member'.1 = member.1 ∧
      ∀ name, text? member.1 = some name → Alike name member.2 member'.2) members changed ∧
    (∀ member ∈ added, ∃ name, text? member.1 = some name ∧
      ∀ field ∈ fields, name ≠ field.name) ∧
    members'.Perm (changed ++ added)

/-- What is wrong with the members of an event or of its kind. -/
def IsFaulty (members : List (List Piece × Value)) : Prop :=
  Faulty fields (readable members) ∨
    ∃ inner, ("kind", .object inner) ∈ readable members ∧ EventKind.IsFaulty inner

theorem ofJson?_object (members : List (List Piece × Value)) :
    ofJson? (.object members) =
      if members.all fun member => (text? member.1).isSome then
        (requiredMember (readable members) "seq").bind fun seq =>
          (requiredMember (readable members) "timestamp").bind fun timestamp =>
            (requiredMember (readable members) "kind").bind (ofParts? seq timestamp)
      else none := by
  simp only [ofJson?, namedMembers_eq]
  split <;> rfl

theorem ofParts?_alike {value value' : Value} (alike : Alike "kind" value value')
    (seq timestamp : Value) : ofParts? seq timestamp value' = ofParts? seq timestamp value := by
  rcases alike with rfl | ⟨-, members, members', rfl, rfl, respelled⟩
  · rfl
  · rw [ofParts?, ofParts?, EventKind.ofJsonWithin?_respelled respelled]

theorem requiredMember_respelled {members members' : List (List Piece × Value)}
    (respelled : Respelled members members') {field : Field} (isField : field ∈ fields) :
    Option.Rel (Alike field.name) (requiredMember (readable members) field.name)
      (requiredMember (readable members') field.name) := by
  obtain ⟨changed, added, related, unknown, same⟩ := respelled
  rw [requiredMember_perm (readable_perm same), readable_append, requiredMember_append]
  · exact requiredMember_forall₂ (readable_forall₂ related) field.name
  · rintro ⟨name, value⟩ isAdded
    obtain ⟨pieces, member, isName⟩ := mem_readable.mp isAdded
    obtain ⟨other, isOther, foreign⟩ := unknown _ member
    obtain rfl := Option.some.inj (isName.symm.trans isOther)
    exact foreign field isField

theorem names_respelled {members members' : List (List Piece × Value)}
    (respelled : Respelled members members') :
    (members'.all fun member => (text? member.1).isSome) =
      members.all fun member => (text? member.1).isSome := by
  obtain ⟨changed, added, related, unknown, same⟩ := respelled
  have kept : (changed.all fun member => (text? member.1).isSome) =
      members.all fun member => (text? member.1).isSome := by
    clear same
    induction related with
    | nil => rfl
    | cons alike _ inductionHypothesis =>
      rw [List.all_cons, List.all_cons, alike.1, inductionHypothesis]
  have named : added.all (fun member => (text? member.1).isSome) = true := by
    rw [List.all_eq_true]
    intro member isAdded
    obtain ⟨name, isName, -⟩ := unknown member isAdded
    rw [isName]
    rfl
  rw [same.all_eq, List.all_append, kept, named, Bool.and_true]

/-- What may not differ is read alike. -/
theorem eq_of_alike {name : String} (fixed : name ≠ "kind") {found found' : Option Value}
    (alike : Option.Rel (Alike name) found found') : found' = found := by
  cases alike with
  | none => rfl
  | some alike =>
    rcases alike with rfl | ⟨isKind, -⟩
    · rfl
    · exact absurd isKind fixed

theorem ofJson?_respelled {members members' : List (List Piece × Value)}
    (respelled : Respelled members members') :
    ofJson? (.object members') = ofJson? (.object members) := by
  have seq : requiredMember (readable members') "seq" = requiredMember (readable members) "seq" :=
    eq_of_alike (by decide) (requiredMember_respelled respelled (.head _))
  have timestamp : requiredMember (readable members') "timestamp" =
      requiredMember (readable members) "timestamp" :=
    eq_of_alike (by decide) (requiredMember_respelled respelled (.tail _ (.head _)))
  have kind : Option.Rel (Alike "kind") (requiredMember (readable members) "kind")
      (requiredMember (readable members') "kind") :=
    requiredMember_respelled respelled (.tail _ (.tail _ (.head _)))
  have parts : ∀ seq timestamp,
      (requiredMember (readable members') "kind").bind (ofParts? seq timestamp) =
        (requiredMember (readable members) "kind").bind (ofParts? seq timestamp) := by
    intro seq timestamp
    generalize requiredMember (readable members) "kind" = found at kind
    generalize requiredMember (readable members') "kind" = found' at kind
    cases kind with
    | none => rfl
    | some alike => exact ofParts?_alike alike seq timestamp
  simp only [ofJson?_object, names_respelled respelled, seq, timestamp, parts]

/-- A kind is an object or an array. -/
theorem admits_kind {depth : Nat} {value : Value} {kind : EventKind}
    (read : EventKind.ofJsonWithin? depth value = some kind) : Shape.kind.Admits value := by
  unfold EventKind.ofJsonWithin? at read
  cases value with
  | object | array => exact trivial
  | _ => simp at read

theorem ofJson?_faulty {members : List (List Piece × Value)} (faulty : IsFaulty members) :
    ofJson? (.object members) = none := by
  by_contra read
  obtain ⟨event, isEvent⟩ := Option.ne_none_iff_exists'.mp read
  rw [ofJson?_object] at isEvent
  split at isEvent
  · simp only [Option.bind_eq_some_iff, ofParts?, Option.bind_eq_bind] at isEvent
    obtain ⟨seq, seqFound, timestamp, timestampFound, kind, kindFound, word, isWord, instant,
      ⟨text, isText, -⟩, eventKind, isKind, -⟩ := isEvent
    rcases faulty with inFields | ⟨inner, isInner, inKind⟩
    · refine Reads.not_faulty ?_ inFields
      simp only [Reads, fields, List.forall_mem_cons, Field.value?]
      exact ⟨⟨seq, seqFound, EventKind.admits_word isWord⟩,
        ⟨timestamp, timestampFound, EventKind.admits_text (.inl rfl) isText⟩,
        ⟨kind, kindFound, admits_kind isKind⟩, List.forall_mem_nil _⟩
    · obtain ⟨found, isFound, isValue⟩ := Option.bind_eq_some_iff.mp kindFound
      obtain rfl : found = some kind := isValue
      obtain rfl := Option.some.inj (eq_of_optionalMember isFound isInner)
      rw [EventKind.ofJsonWithin?_faulty inKind] at isKind
      cases isKind
  · cases isEvent

end Event

/-! ## Decoded texts -/

/-- A decoder takes every spelling of an object alike, and takes no faulty object. -/
structure Codec.Tolerates {α : Type} (codec : Codec α)
    (Respelled : List (List Piece × Value) → List (List Piece × Value) → Prop)
    (IsFaulty : List (List Piece × Value) → Prop) : Prop where
  respelled : ∀ text text' members members', parse? text = some (.object members) →
    parse? text' = some (.object members') → Respelled members members' →
      codec.decode? text' = codec.decode? text
  faulty : ∀ text members, parse? text = some (.object members) → IsFaulty members →
    codec.decode? text = none

/-- The order of the members and members of unknown names make no difference to what is decoded,
and nothing is decoded from members that are missing, repeated or of the wrong type. -/
theorem event_decoding_tolerates_spellings :
    EventKind.codec.Tolerates EventKind.Respelled EventKind.IsFaulty ∧
      Event.codec.Tolerates Event.Respelled Event.IsFaulty := by
  refine ⟨⟨?_, ?_⟩, ⟨?_, ?_⟩⟩
  · intro text text' members members' isObject isObject' respelled
    rw [Codec.decode?, Codec.decode?, isObject, isObject']
    exact EventKind.ofJsonWithin?_respelled respelled _
  · intro text members isObject faulty
    rw [Codec.decode?, isObject]
    exact EventKind.ofJsonWithin?_faulty faulty _
  · intro text text' members members' isObject isObject' respelled
    rw [Codec.decode?, Codec.decode?, isObject, isObject']
    exact Event.ofJson?_respelled respelled
  · intro text members isObject faulty
    rw [Codec.decode?, isObject]
    exact Event.ofJson?_faulty faulty

example :
    EventKind.codec.decode? "\x7b\"note\":\"late\",\"count\":3,\"type\":\"work_discarded\"\x7d" =
      some (.workDiscarded 3) := by
  decide +kernel

/-- A string that is no text, since a surrogate stands alone in it, may not even be added under
an unknown name. -/
theorem event_decoding_heeds_lone_surrogates :
    parse? "\x7b\"type\":\"drain_started\"\x7d" =
        some (.object [(ofText "type", .ofString "drain_started")]) ∧
      parse? "\x7b\"type\":\"drain_started\",\"note\":\"\\ud800\"\x7d" =
        some (.object [(ofText "type", .ofString "drain_started"),
          (ofText "note", .string [.unit 0xD800])]) ∧
      EventKind.codec.decode? "\x7b\"type\":\"drain_started\"\x7d" = some .drainStarted ∧
      EventKind.codec.decode? "\x7b\"type\":\"drain_started\",\"note\":\"\\ud800\"\x7d" =
        none := by
  have plain : "\x7b\"type\":\"drain_started\"\x7d" =
      (Value.object [(ofText "type", .ofString "drain_started")]).render := by
    decide +kernel
  have noted : "\x7b\"type\":\"drain_started\",\"note\":\"\\ud800\"\x7d" =
      (Value.object [(ofText "type", .ofString "drain_started"),
        (ofText "note", .string [.unit 0xD800])]).render := by
    decide +kernel
  refine ⟨?_, ?_, by decide +kernel, by decide +kernel⟩
  · rw [plain, parse?_render]
    rfl
  · rw [noted, parse?_render]
    rfl

end WorkHost

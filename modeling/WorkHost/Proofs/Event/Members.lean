import Mathlib.Algebra.Field.Rat
import Mathlib.Data.List.Forall2
import WorkHost.Event.Codec

/-!
Contract: the members of an object that is read by their names.

A reader asks for one name at a time (`optionalMember`, `requiredMember`). Its answer does not
depend on the order of the members (`optionalMember_perm`) nor on members of other names
(`optionalMember_append`). A `Field` is a name with what may stand under it. Whoever has read
all fields has met none of the faults an object can have (`Reads.not_faulty`).
-/

namespace WorkHost

open Json Text

/-! ## Members with texts as names -/

/-- The members whose names are texts, under these. -/
def readable (members : List (List Piece × Value)) : List (String × Value) :=
  members.filterMap fun member => (text? member.1).map (·, member.2)

theorem namedMembers_eq (members : List (List Piece × Value)) :
    namedMembers members =
      if members.all fun member => (text? member.1).isSome then some (readable members)
      else none := by
  induction members with
  | nil => rfl
  | cons member rest inductionHypothesis =>
    obtain ⟨name, value⟩ := member
    rw [namedMembers, inductionHypothesis]
    cases isText : text? name with
    | none => simp [isText]
    | some text =>
      by_cases all : rest.all fun member => (text? member.1).isSome
      · simp [isText, all, readable]
      · simp [isText, all]

theorem haveSound_eq (depth : Nat) (members : List (List Piece × Value)) :
    Value.haveSound depth members =
      members.all fun member => (text? member.1).isSome && member.2.isSound depth := by
  induction members with
  | nil => rfl
  | cons member rest inductionHypothesis =>
    rw [Value.haveSound, inductionHypothesis, List.all_cons]

theorem readable_append (members added : List (List Piece × Value)) :
    readable (members ++ added) = readable members ++ readable added :=
  List.filterMap_append

theorem readable_perm {members members' : List (List Piece × Value)}
    (same : members'.Perm members) : (readable members').Perm (readable members) :=
  same.filterMap _

theorem mem_readable {members : List (List Piece × Value)} {name : String} {value : Value} :
    (name, value) ∈ readable members ↔
      ∃ pieces, (pieces, value) ∈ members ∧ text? pieces = some name := by
  simp only [readable, List.mem_filterMap, Option.map_eq_some_iff, Prod.mk.injEq]
  constructor
  · rintro ⟨⟨pieces, value⟩, member, name, isName, rfl, rfl⟩
    exact ⟨pieces, member, isName⟩
  · rintro ⟨pieces, member, isName⟩
    exact ⟨(pieces, value), member, name, isName, rfl, rfl⟩

/-- Values may be exchanged under names that are kept. -/
theorem readable_forall₂ {Alike : String → Value → Value → Prop}
    {members members' : List (List Piece × Value)}
    (related : List.Forall₂ (fun member member' => member'.1 = member.1 ∧
      ∀ name, text? member.1 = some name → Alike name member.2 member'.2) members members') :
    List.Forall₂ (fun member member' => member'.1 = member.1 ∧
      Alike member.1 member.2 member'.2) (readable members) (readable members') := by
  induction related with
  | nil => exact .nil
  | @cons member member' _ _ alike _ inductionHypothesis =>
    unfold readable at inductionHypothesis ⊢
    rw [List.filterMap_cons, List.filterMap_cons, alike.1]
    cases isName : text? member.1 with
    | none => exact inductionHypothesis
    | some name => exact .cons ⟨rfl, alike.2 name isName⟩ inductionHypothesis

/-! ## The member of a name -/

variable {members members' added : List (String × Value)} {name : String} {value : Value}

theorem optionalMember_perm (same : members'.Perm members) (name : String) :
    optionalMember members' name = optionalMember members name := by
  have filtered := same.filter fun member => member.1 = name
  rw [optionalMember, optionalMember]
  generalize members'.filter (fun member => member.1 = name) = found' at filtered
  generalize members.filter (fun member => member.1 = name) = found at filtered
  match found with
  | [] => rw [filtered.eq_nil]
  | [member] => rw [filtered.eq_singleton]
  | first :: second :: rest =>
    match found', filtered.length_eq with
    | first' :: second' :: rest', _ => rfl

theorem requiredMember_perm (same : members'.Perm members) (name : String) :
    requiredMember members' name = requiredMember members name := by
  rw [requiredMember, requiredMember, optionalMember_perm same]

theorem optionalMember_append (foreign : ∀ member ∈ added, member.1 ≠ name) :
    optionalMember (members ++ added) name = optionalMember members name := by
  have nothing : added.filter (fun member => member.1 = name) = [] := by
    rw [List.filter_eq_nil_iff]
    intro member isAdded
    simpa using foreign member isAdded
  rw [optionalMember, optionalMember, List.filter_append, nothing, List.append_nil]

theorem requiredMember_append (foreign : ∀ member ∈ added, member.1 ≠ name) :
    requiredMember (members ++ added) name = requiredMember members name := by
  rw [requiredMember, requiredMember, optionalMember_append foreign]

theorem optionalMember_absent (absent : ∀ value, (name, value) ∉ members) :
    optionalMember members name = some none := by
  have nothing : members.filter (fun member => member.1 = name) = [] := by
    rw [List.filter_eq_nil_iff]
    rintro ⟨other, value⟩ isMember
    simp only [decide_eq_true_eq]
    rintro rfl
    exact absent value isMember
  rw [optionalMember, nothing]

theorem optionalMember_cons (absent : ∀ value, (name, value) ∉ members) (value : Value) :
    optionalMember ((name, value) :: members) name = some (some value) := by
  have nothing : members.filter (fun member => member.1 = name) = [] := by
    rw [List.filter_eq_nil_iff]
    rintro ⟨other, value⟩ isMember
    simp only [decide_eq_true_eq]
    rintro rfl
    exact absent value isMember
  rw [optionalMember, List.filter_cons_of_pos (by simp), nothing]

theorem optionalMember_cons_of_ne {other : String} (differs : other ≠ name) (value : Value) :
    optionalMember ((other, value) :: members) name = optionalMember members name := by
  rw [optionalMember, optionalMember, List.filter_cons_of_neg (by simpa using differs)]

/-- A name that occurs twice has no value. -/
theorem optionalMember_twice {first second : Value}
    (twice : [(name, first), (name, second)].Sublist members) :
    optionalMember members name = none := by
  have filtered := twice.filter fun member => member.1 = name
  simp only [decide_true, List.filter_cons_of_pos, List.filter_nil] at filtered
  have length := filtered.length_le
  rw [optionalMember]
  generalize members.filter (fun member => member.1 = name) = found at length
  match found, length with
  | _ :: _ :: _, _ => rfl

/-- Whatever stands under a name is its value, if it has one. -/
theorem eq_of_optionalMember {found : Option Value}
    (read : optionalMember members name = some found) (member : (name, value) ∈ members) :
    found = some value := by
  have isFound : (name, value) ∈ members.filter fun member => member.1 = name :=
    List.mem_filter.mpr ⟨member, decide_eq_true rfl⟩
  rw [optionalMember] at read
  split at read
  · rename_i nothing
    rw [nothing] at isFound
    cases isFound
  · rename_i only single
    rw [single, List.mem_singleton] at isFound
    rw [← Option.some.inj read, ← isFound]
  · cases read

/-- Values may be exchanged for others that mean the same under their names. -/
theorem optionalMember_forall₂ {Alike : String → Value → Value → Prop}
    (related : List.Forall₂ (fun member member' => member'.1 = member.1 ∧
      Alike member.1 member.2 member'.2) members members') (name : String) :
    Option.Rel (Option.Rel (Alike name)) (optionalMember members name)
      (optionalMember members' name) := by
  have filtered : List.Forall₂
      (fun member member' => member'.1 = member.1 ∧ Alike member.1 member.2 member'.2)
      (members.filter fun member => member.1 = name)
      (members'.filter fun member => member.1 = name) := by
    refine List.rel_filter ?_ related
    intro member member' alike
    simp only [decide_eq_true_eq, alike.1]
  have named : ∀ member ∈ members.filter fun member => member.1 = name, member.1 = name :=
    fun member isMember => of_decide_eq_true (List.mem_filter.mp isMember).2
  rw [optionalMember, optionalMember]
  revert filtered named
  generalize members.filter (fun member => member.1 = name) = found
  generalize members'.filter (fun member => member.1 = name) = found'
  rintro (_ | ⟨first, _ | ⟨_, _⟩⟩) named
  · exact .some .none
  · exact .some (.some (named _ List.mem_cons_self ▸ first.2))
  · exact .none

theorem requiredMember_forall₂ {Alike : String → Value → Value → Prop}
    (related : List.Forall₂ (fun member member' => member'.1 = member.1 ∧
      Alike member.1 member.2 member'.2) members members') (name : String) :
    Option.Rel (Alike name) (requiredMember members name) (requiredMember members' name) := by
  have optional := optionalMember_forall₂ related name
  generalize isFound : optionalMember members name = found at optional
  generalize isFound' : optionalMember members' name = found' at optional
  rw [requiredMember, requiredMember, isFound, isFound']
  cases optional with
  | none => exact .none
  | some optional =>
    cases optional with
    | none => exact .none
    | some alike => exact .some alike

/-! ## Fields -/

/-- The number that is written. -/
def Json.Number.rational (number : Number) : ℚ :=
  (if number.negative then -1 else 1) * number.mantissa * 10 ^ number.scale

/-- The number is neither negative nor fractional and fits in 64 bits. -/
def Json.Number.IsWord (number : Number) : Prop :=
  ∃ word : Nat, word < wordLimit ∧ number.rational = word

theorem Json.Number.isWord_of_below? {number : Number} {word : Nat}
    (read : number.below? wordLimit = some word) : number.IsWord := by
  unfold below? at read
  split at read
  · rename_i plain
    obtain ⟨digits, positive, small⟩ := plain
    rw [isPlain, Bool.and_eq_true, beq_iff_eq, Option.isNone_iff_eq_none] at digits
    refine ⟨number.mantissa, small, ?_⟩
    rw [rational, scale, digits.1, digits.2, if_neg positive]
    simp
  · cases read

/-- What may stand under a name. -/
inductive Shape where
  | text
  /-- A text, `null` or nothing. -/
  | optionalText
  | word
  | kind
deriving DecidableEq, Repr

/-- The value has the type of the shape and, if it is a number, fits in it. -/
def Shape.Admits : Shape → Value → Prop
  | .text, .string _ | .optionalText, .string _ | .optionalText, .null => True
  | .word, .number number => number.IsWord
  | .kind, .object _ | .kind, .array _ => True
  | _, _ => False

structure Field where
  name : String
  shape : Shape
deriving DecidableEq, Repr

/-- The value of a field: that of an optional text is `null` if it is missing. -/
def Field.value? (field : Field) (members : List (String × Value)) : Option Value :=
  match field.shape with
  | .optionalText => (optionalMember members field.name).map (·.getD .null)
  | _ => requiredMember members field.name

/-- All fields are there, and what stands under them is admitted. -/
def Reads (fields : List Field) (members : List (String × Value)) : Prop :=
  ∀ field ∈ fields, ∃ value, field.value? members = some value ∧ field.shape.Admits value

/-- What is wrong with the members for a reader of some fields. -/
inductive Faulty (fields : List Field) (members : List (String × Value)) : Prop where
  | missing {field : Field} : field ∈ fields → field.shape ≠ .optionalText →
    (∀ value, (field.name, value) ∉ members) → Faulty fields members
  | twice {field : Field} {first second : Value} : field ∈ fields →
    [(field.name, first), (field.name, second)].Sublist members → Faulty fields members
  /-- The wrong type, or a number that is negative, fractional or too large. -/
  | unfit {field : Field} {value : Value} : field ∈ fields → (field.name, value) ∈ members →
    ¬ field.shape.Admits value → Faulty fields members

namespace Field

variable {field : Field}

theorem value?_perm (same : members'.Perm members) (field : Field) :
    field.value? members' = field.value? members := by
  unfold value?
  rw [optionalMember_perm same, requiredMember_perm same]

theorem value?_append (foreign : ∀ member ∈ added, member.1 ≠ field.name) :
    field.value? (members ++ added) = field.value? members := by
  unfold value?
  rw [optionalMember_append foreign, requiredMember_append foreign]

/-- The value of a field that is read comes from its only member. -/
theorem optionalMember_of_value? (read : field.value? members = some value) :
    optionalMember members field.name = some (some value) ∨
      optionalMember members field.name = some none ∧ field.shape = .optionalText := by
  unfold value? at read
  split at read
  · rename_i optional
    obtain ⟨found, isFound, rfl⟩ := Option.map_eq_some_iff.mp read
    cases found with
    | none => exact .inr ⟨isFound, optional⟩
    | some value => exact .inl isFound
  · obtain ⟨found, isFound, isValue⟩ := Option.bind_eq_some_iff.mp read
    exact .inl (isValue ▸ isFound)

end Field

/-- Whoever has read all fields has met no fault. -/
theorem Reads.not_faulty {fields : List Field} (reads : Reads fields members) :
    ¬ Faulty fields members := by
  rintro (@⟨field, isField, required, absent⟩ | @⟨field, first, second, isField, twice⟩ |
    @⟨field, value, isField, member, unfit⟩)
  all_goals
    obtain ⟨found, read, admitted⟩ := reads field isField
    have only := Field.optionalMember_of_value? read
  · rw [optionalMember_absent absent] at only
    rcases only with some | optional
    · cases some
    · exact required optional.2
  · rw [optionalMember_twice twice] at only
    rcases only with some | optional
    · cases some
    · cases optional.1
  · rcases only with isFound | missing
    · obtain rfl := Option.some.inj (eq_of_optionalMember isFound member)
      exact unfit admitted
    · cases eq_of_optionalMember missing.1 member

end WorkHost

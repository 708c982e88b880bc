import WorkHost.Proofs.Cron.Fields

/-!
Contract: the values that the items of a field stand for.

Every item stands for an arithmetic progression (`TimeUnit.progression?`), and it suits a unit
if that progression runs upwards within the unit. A field is accepted exactly if all of its
items suit, and it then lists the union of their progressions (`TimeUnit.fieldValues?_unites`).
-/

namespace WorkHost.Cron

/-- The values from `low` to `high` that lie a number of whole steps above `low`. -/
structure Progression where
  low : Nat
  high : Nat
  step : Nat
deriving DecidableEq, Repr

namespace Progression

def Covers (progression : Progression) (value : Nat) : Prop :=
  progression.low ≤ value ∧ value ≤ progression.high ∧
    progression.step ∣ value - progression.low

/-- The progression runs upwards and does not leave the unit. -/
structure Within (progression : Progression) (unit : TimeUnit) : Prop where
  first_le_low : unit.first ≤ progression.low
  low_le_high : progression.low ≤ progression.high
  high_le_last : progression.high ≤ unit.last
  step_pos : 0 < progression.step

instance (progression : Progression) (unit : TimeUnit) : Decidable (progression.Within unit) :=
  decidable_of_iff
    (unit.first ≤ progression.low ∧ progression.low ≤ progression.high ∧
      progression.high ≤ unit.last ∧ 0 < progression.step)
    ⟨fun ⟨first, ordered, last, positive⟩ => ⟨first, ordered, last, positive⟩,
      fun ⟨first, ordered, last, positive⟩ => ⟨first, ordered, last, positive⟩⟩

theorem Within.covers_low {progression : Progression} {unit : TimeUnit}
    (within : progression.Within unit) : progression.Covers progression.low :=
  ⟨Nat.le_refl _, within.low_le_high, by simp⟩

theorem Within.inside {progression : Progression} {unit : TimeUnit} {value : Nat}
    (within : progression.Within unit) (covers : progression.Covers value) :
    unit.first ≤ value ∧ value ≤ unit.last :=
  ⟨Nat.le_trans within.first_le_low covers.1, Nat.le_trans covers.2.1 within.high_le_last⟩

end Progression

namespace TimeUnit

/-- The first and the last value of a spec. -/
def ends? (unit : TimeUnit) : Spec → Option (Nat × Nat)
  | .all => some (unit.first, unit.last)
  | .point value => some (value, value)
  | .range first last => some (first, last)
  | .namedRange first last => do return (← unit.value? first, ← unit.value? last)

/-- What an item stands for. Steps from a single value on go to the end of the unit. -/
def progression? (unit : TimeUnit) : Item → Option Progression
  | .spec spec => (unit.ends? spec).map fun (low, high) => ⟨low, high, 1⟩
  | .stepped (.point low) step => some ⟨low, unit.last, step⟩
  | .stepped spec step => (unit.ends? spec).map fun (low, high) => ⟨low, high, step⟩
  | .named name => (unit.value? name).map fun value => ⟨value, value, 1⟩

/-- An item that has a place in a field of the unit. -/
def Suits (unit : TimeUnit) (item : Item) : Prop :=
  ∃ progression, unit.progression? item = some progression ∧ progression.Within unit

instance (unit : TimeUnit) (item : Item) : Decidable (unit.Suits item) :=
  inferInstanceAs (Decidable (∃ progression, progression ∈ unit.progression? item ∧
    progression.Within unit))

def Denotes (unit : TimeUnit) (item : Item) (value : Nat) : Prop :=
  ∃ progression, unit.progression? item = some progression ∧ progression.Covers value

/-- There are values in the unit, and every name stands for one of them. -/
structure Sound (unit : TimeUnit) : Prop where
  inhabited : unit.first ≤ unit.last
  named : ∀ name value, unit.value? name = some value → unit.first ≤ value ∧ value ≤ unit.last

variable {unit : TimeUnit}

/-! ## Steps -/

/-- The elements that are left of an interval lie whole steps apart. -/
theorem mem_everyNth {step : Nat} (positive : 0 < step) (start count skip value : Nat) :
    value ∈ everyNth step skip (List.range' start count) ↔
      start + skip ≤ value ∧ value < start + count ∧ step ∣ value - (start + skip) := by
  induction count generalizing start skip with
  | zero =>
    simp only [List.range'_zero, everyNth, List.not_mem_nil, false_iff]
    omega
  | succ count inductionHypothesis =>
    rw [List.range'_succ]
    cases skip with
    | succ skip =>
      rw [everyNth, inductionHypothesis, Nat.add_assoc start 1 skip, Nat.add_comm 1 skip,
        Nat.add_assoc start 1 count, Nat.add_comm 1 count]
    | zero =>
      have next : start + 1 + (step - 1) = start + step := by omega
      rw [everyNth, List.mem_cons, inductionHypothesis, next]
      simp only [Nat.add_zero]
      constructor
      · rintro (rfl | ⟨later, below, multiple⟩)
        · refine ⟨Nat.le_refl _, by omega, ?_⟩
          rw [Nat.sub_self]
          exact Nat.dvd_zero step
        · refine ⟨by omega, by omega, ?_⟩
          have further : value - start = value - (start + step) + step := by omega
          rw [further]
          exact Nat.dvd_add multiple (Nat.dvd_refl step)
      · rintro ⟨later, below, multiple⟩
        by_cases same : value = start
        · exact .inl same
        · have far : step ≤ value - start := Nat.le_of_dvd (by omega) multiple
          refine .inr ⟨by omega, by omega, ?_⟩
          rw [← Nat.sub_sub]
          exact Nat.dvd_sub multiple (Nat.dvd_refl step)

theorem mem_everyNth_interval {step : Nat} (positive : 0 < step) (low high value : Nat) :
    value ∈ everyNth step 0 (interval low high) ↔ (Progression.mk low high step).Covers value := by
  have below : value < low + (high + 1 - low) ∧ low ≤ value ↔ value ≤ high ∧ low ≤ value := by
    omega
  rw [interval, mem_everyNth positive, Nat.add_zero]
  constructor
  · rintro ⟨above, before, multiple⟩
    exact ⟨above, (below.mp ⟨before, above⟩).1, multiple⟩
  · rintro ⟨above, before, multiple⟩
    exact ⟨above, (below.mpr ⟨before, above⟩).1, multiple⟩

/-- Every single element is every element. -/
theorem everyNth_one (values : List Nat) : everyNth 1 0 values = values := by
  induction values with
  | nil => rfl
  | cons value values inductionHypothesis => rw [everyNth, inductionHypothesis]

/-! ## Items -/

theorem contains_iff {value : Nat} :
    unit.contains value = true ↔ unit.first ≤ value ∧ value ≤ unit.last := by
  rw [contains, Bool.and_eq_true, decide_eq_true_iff, decide_eq_true_iff]

theorem interval_self (value : Nat) : interval value value = [value] := by
  rw [interval, Nat.add_sub_cancel_left]
  rfl

theorem range?_self (value : Nat) :
    unit.range? value value = if unit.contains value then some [value] else none := by
  simp only [range?, Nat.le_refl, and_true, and_self, interval_self]

theorem specValues?_eq (sound : unit.Sound) (spec : Spec) :
    unit.specValues? spec = (unit.ends? spec).bind fun (low, high) => unit.range? low high := by
  cases spec with
  | all =>
    have first : unit.contains unit.first = true :=
      contains_iff.mpr ⟨Nat.le_refl _, sound.inhabited⟩
    have last : unit.contains unit.last = true :=
      contains_iff.mpr ⟨sound.inhabited, Nat.le_refl _⟩
    exact (if_pos ⟨first, last, sound.inhabited⟩).symm
  | point value => exact (range?_self value).symm
  | range first last => rfl
  | namedRange first last =>
    simp only [specValues?, ends?, Option.bind_eq_bind, Option.bind_assoc, Option.pure_def,
      Option.bind_some]

/-- An item denotes the values of its progression, if they are in the unit. -/
theorem itemValues?_eq (sound : unit.Sound) (item : Item) :
    unit.itemValues? item = (unit.progression? item).bind fun progression =>
      if progression.step = 0 then none
      else (unit.range? progression.low progression.high).map (everyNth progression.step 0) := by
  have single (spec : Spec) : unit.itemValues? (.spec spec) = unit.specValues? spec := rfl
  have whole (values : Option (List Nat)) : values.map (everyNth 1 0) = values := by
    cases values with
    | none => rfl
    | some values => rw [Option.map_some, everyNth_one]
  cases item with
  | spec spec =>
    rw [single, specValues?_eq sound, progression?, Option.bind_map]
    simp only [Function.comp_def, whole, Nat.one_ne_zero, if_false]
  | named name =>
    rw [itemValues?, progression?, Option.bind_map]
    cases found : unit.value? name with
    | none => rfl
    | some value =>
      have inside : unit.contains value = true :=
        contains_iff.mpr (sound.named name value found)
      simp only [Function.comp_def, whole, Option.map_some, Option.bind_some, Nat.one_ne_zero,
        if_false, range?_self, inside, if_true]
  | stepped spec step =>
    rw [itemValues?]
    by_cases none : step = 0
    · rw [if_pos none]
      cases spec with
      | point low => simp only [progression?, Option.bind_some, none, if_true]
      | all | range | namedRange =>
        simp only [progression?, Option.bind_map, Function.comp_def, none, if_true,
          Option.bind_fun_none]
    · rw [if_neg none]
      cases spec with
      | point low => simp only [progression?, steppedBase?, Option.bind_some, none, if_false]
      | all | range | namedRange =>
        rw [steppedBase?, specValues?_eq sound, progression?, Option.bind_map, Option.map_bind]
        · simp only [Function.comp_def, none, if_false]
        all_goals nofun

/-- Exactly the items that suit are accepted, and they denote what they stand for. -/
theorem itemValues?_eq_some_iff (sound : unit.Sound) {item : Item} {values : List Nat} :
    unit.itemValues? item = some values ↔
      ∃ progression, unit.progression? item = some progression ∧ progression.Within unit ∧
        values = everyNth progression.step 0 (interval progression.low progression.high) := by
  rw [itemValues?_eq sound, Option.bind_eq_some_iff]
  refine exists_congr fun progression => and_congr_right fun _ => ?_
  rw [range?]
  split
  · rename_i still
    constructor
    · nofun
    · rintro ⟨within, -⟩
      exact absurd still (Nat.ne_of_gt within.step_pos)
  · rename_i moves
    simp only [contains_iff]
    split
    · rename_i inside
      rw [Option.map_some, Option.some.injEq]
      constructor
      · rintro rfl
        exact ⟨⟨inside.1.1, inside.2.2, inside.2.1.2, Nat.pos_of_ne_zero moves⟩, rfl⟩
      · rintro ⟨-, rfl⟩
        rfl
    · rename_i outside
      constructor
      · nofun
      · rintro ⟨within, -⟩
        have ordered := within.low_le_high
        have above := within.first_le_low
        have below := within.high_le_last
        omega

theorem mem_of_itemValues? (sound : unit.Sound) {item : Item} {values : List Nat}
    (denotes : unit.itemValues? item = some values) (value : Nat) :
    value ∈ values ↔ unit.Denotes item value := by
  obtain ⟨progression, stands, within, rfl⟩ := (itemValues?_eq_some_iff sound).mp denotes
  rw [mem_everyNth_interval within.step_pos, Denotes, stands]
  simp only [Option.some.injEq, exists_eq_left']

theorem suits_iff (sound : unit.Sound) {item : Item} :
    unit.Suits item ↔ ∃ values, unit.itemValues? item = some values := by
  simp only [itemValues?_eq_some_iff sound, Suits]
  constructor
  · rintro ⟨progression, stands, within⟩
    exact ⟨_, progression, stands, within, rfl⟩
  · rintro ⟨_, progression, stands, within, -⟩
    exact ⟨progression, stands, within⟩

/-! ## Fields -/

/-- The values are those that one of the items stands for. -/
def Unites (unit : TimeUnit) (items : List Item) (values : List Nat) : Prop :=
  ∀ value, value ∈ values ↔ ∃ item ∈ items, unit.Denotes item value

theorem mapM_itemValues?_of_suits (sound : unit.Sound) {items : List Item}
    (suit : ∀ item ∈ items, unit.Suits item) :
    ∃ sets, items.mapM unit.itemValues? = some sets := by
  induction items with
  | nil => exact ⟨[], rfl⟩
  | cons item items inductionHypothesis =>
    obtain ⟨first, ofItem⟩ := (suits_iff sound).mp (suit item List.mem_cons_self)
    obtain ⟨others, ofItems⟩ := inductionHypothesis fun other member =>
      suit other (List.mem_cons_of_mem item member)
    rw [List.mapM_cons, ofItem, ofItems]
    exact ⟨first :: others, rfl⟩

theorem of_mapM_itemValues? (sound : unit.Sound) {items : List Item} {sets : List (List Nat)}
    (denote : items.mapM unit.itemValues? = some sets) :
    (∀ item ∈ items, unit.Suits item) ∧
      ∀ value, (∃ set ∈ sets, value ∈ set) ↔ ∃ item ∈ items, unit.Denotes item value := by
  induction items generalizing sets with
  | nil =>
    cases denote
    simp
  | cons item items inductionHypothesis =>
    rw [List.mapM_cons, Option.bind_eq_bind, Option.bind_eq_some_iff] at denote
    obtain ⟨first, ofItem, denote⟩ := denote
    obtain ⟨others, ofItems, same⟩ := Option.bind_eq_some_iff.mp denote
    cases same
    obtain ⟨suit, union⟩ := inductionHypothesis ofItems
    refine ⟨List.forall_mem_cons.mpr ⟨(suits_iff sound).mpr ⟨first, ofItem⟩, suit⟩, ?_⟩
    intro value
    simp only [List.mem_cons, exists_eq_or_imp]
    rw [union, mem_of_itemValues? sound ofItem]

/-- A field of items that suit is accepted. -/
theorem fieldValues?_of_suits (sound : unit.Sound) {items : List Item}
    (suit : ∀ item ∈ items, unit.Suits item) :
    ∃ values, unit.fieldValues? items = some values := by
  obtain ⟨sets, denote⟩ := mapM_itemValues?_of_suits sound suit
  exact ⟨_, by rw [fieldValues?, denote, Option.map_some]⟩

/-- An accepted field has items that suit, and lists what they stand for. -/
theorem fieldValues?_unites (sound : unit.Sound) {items : List Item} {values : List Nat}
    (accepted : unit.fieldValues? items = some values) :
    (∀ item ∈ items, unit.Suits item) ∧ unit.Unites items values := by
  obtain ⟨sets, denote, rfl⟩ := Option.map_eq_some_iff.mp accepted
  obtain ⟨suit, union⟩ := of_mapM_itemValues? sound denote
  refine ⟨suit, fun value => ?_⟩
  rw [List.mem_filter, List.any_eq_true, mem_values]
  simp only [List.contains_iff_mem]
  rw [union]
  constructor
  · rintro ⟨-, listed⟩
    exact listed
  · rintro ⟨item, member, denotes⟩
    refine ⟨?_, item, member, denotes⟩
    obtain ⟨progression, stands, within⟩ := suit item member
    obtain ⟨other, standsToo, covers⟩ := denotes
    cases stands.symm.trans standsToo
    exact within.inside covers

/-- Something is left of every field that is accepted. -/
theorem fieldValues?_ne_nil (sound : unit.Sound) {item : Item} {items : List Item}
    {values : List Nat} (accepted : unit.fieldValues? (item :: items) = some values) :
    values ≠ [] := by
  obtain ⟨suit, unites⟩ := fieldValues?_unites sound accepted
  obtain ⟨progression, stands, within⟩ := suit item List.mem_cons_self
  apply List.ne_nil_of_mem
  rw [unites progression.low]
  exact ⟨item, List.mem_cons_self, progression, stands, within.covers_low⟩

/-! ## The units -/

theorem sound_of_unnamed {first last : Nat} (ordered : first ≤ last) :
    (TimeUnit.mk first last unnamed).Sound where
  inhabited := ordered
  named := nofun

/-- A name stands for the value that is listed with it. -/
theorem sound_of_names {first last : Nat} {names : List (String × Nat)} (ordered : first ≤ last)
    (listed : ∀ entry ∈ names, first ≤ entry.2 ∧ entry.2 ≤ last) :
    (TimeUnit.mk first last (lookUp names)).Sound where
  inhabited := ordered
  named name value found := by
    obtain ⟨entry, isEntry, rfl⟩ := Option.map_eq_some_iff.mp found
    exact listed entry (List.mem_of_find?_eq_some isEntry)

end TimeUnit

end WorkHost.Cron

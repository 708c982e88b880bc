import Mathlib.Data.List.DropRight
import WorkHost.Proofs.Cron.Denotation
import WorkHost.Proofs.Cron.Spelling

/-!
Contract: what an expression means.

An expression of six or seven fields with a blank between any two of them is accepted if its
items suit the units of their fields, and then the schedule unites in every field what the items
stand for. Whatever else is accepted, no field of it is empty (`Job.parse_reads_fields`).
-/

namespace WorkHost.Cron

inductive FieldName where
  | seconds
  | minutes
  | hours
  | daysOfMonth
  | months
  | daysOfWeek
  | years
deriving DecidableEq, Repr

namespace FieldName

def unit : FieldName → TimeUnit
  | seconds => .second
  | minutes => .minute
  | hours => .hour
  | daysOfMonth => .dayOfMonth
  | months => .month
  | daysOfWeek => .dayOfWeek
  | years => .year

/-- The fields that no expression leaves out, in the order in which they are written. -/
def required : List FieldName := [seconds, minutes, hours, daysOfMonth, months, daysOfWeek]

theorem sound (field : FieldName) : field.unit.Sound := by
  cases field with
  | seconds | minutes | hours | daysOfMonth | years => exact TimeUnit.sound_of_unnamed (by decide)
  | months | daysOfWeek => exact TimeUnit.sound_of_names (by decide) (by decide)

end FieldName

/-- The items of a field. -/
def Fields.items (fields : Fields) : FieldName → List Item
  | .seconds => fields.seconds
  | .minutes => fields.minutes
  | .hours => fields.hours
  | .daysOfMonth => fields.daysOfMonth
  | .months => fields.months
  | .daysOfWeek => fields.daysOfWeek
  | .years => fields.years

/-- The values at which the schedule fires in the unit of a field. -/
def Schedule.values (schedule : Schedule) : FieldName → List Nat
  | .seconds => schedule.seconds
  | .minutes => schedule.minutes
  | .hours => schedule.hours
  | .daysOfMonth => schedule.daysOfMonth
  | .months => schedule.months
  | .daysOfWeek => schedule.daysOfWeek
  | .years => schedule.years

/-- Some fields one after another, with a blank between any two of them. -/
inductive LaidOut (fields : Fields) : List FieldName → List Char → Prop where
  | nothing : LaidOut fields [] []
  | last {field : FieldName} {text : List Char} (areWritten : AreWritten (fields.items field) text) :
      LaidOut fields [field] text
  | more {field next : FieldName} {others : List FieldName} {text rest : List Char} {blank : Char}
      (areWritten : AreWritten (fields.items field) text) (isBlank : isSpace blank = true)
      (laidOut : LaidOut fields (next :: others) rest) :
      LaidOut fields (field :: next :: others) (text ++ blank :: rest)

/-- The expression consists of the named fields, which are all or all but the years, and each
item has a place in its field. -/
structure Expresses (expression : String) (fields : Fields) (named : List FieldName) : Prop where
  shape : named = FieldName.required ∨ named = FieldName.required ++ [.years]
  laidOut : LaidOut fields named expression.toList
  suit : ∀ field ∈ named, ∀ item ∈ fields.items field, field.unit.Suits item

/-- The values are those of the items in each of the named fields, and all years if there is no
field for them. -/
structure Schedule.MadeOf (schedule : Schedule) (fields : Fields) (named : List FieldName) :
    Prop where
  unites : ∀ field ∈ named, field.unit.Unites (fields.items field) (schedule.values field)
  everyYear : .years ∉ named → ∀ year, year ∈ schedule.years ↔ 1970 ≤ year ∧ year ≤ 2100

/-! ## Reading fields -/

theorem LaidOut.begins {fields : Fields} {field : FieldName} {others : List FieldName}
    {text : List Char} (laidOut : LaidOut fields (field :: others) text) : BeginsItem text := by
  cases laidOut with
  | @last _ text areWritten =>
    rw [← List.append_nil text]
    exact areWritten.begins []
  | more areWritten => exact areWritten.begins _

/-- The first characters of an item do not go on with the item before. -/
theorem BeginsItem.closes {blank : Char} {rest : List Char} (begins : BeginsItem rest)
    (isBlank : isSpace blank = true) : Closes ['-', '/', ','] (blank :: rest) where
  apart c isFirst := by
    cases isFirst
    rcases isSpace_iff.mp isBlank with rfl | rfl | rfl | rfl <;> decide
  unmarked c isFirst := by
    rw [skipSpace_blank isBlank, begins.skipSpace] at isFirst
    rcases begins with ⟨more, rfl⟩ | ⟨first, more, rfl, plain⟩
    · cases isFirst
      decide
    · cases isFirst
      intro member
      simp only [List.mem_cons, List.not_mem_nil, or_false] at member
      rcases member with rfl | rfl | rfl <;> cases plain

namespace Schedule

theorem readUnit_laidOut {fields : Fields} {field : FieldName} {others : List FieldName}
    {text : List Char} (laidOut : LaidOut fields (field :: others) text)
    (suit : ∀ item ∈ fields.items field, field.unit.Suits item) (anyMark : Bool) :
    ∃ values rest, readUnit field.unit anyMark text = some (values, rest) ∧
      field.unit.Unites (fields.items field) values ∧ LaidOut fields others rest := by
  obtain ⟨values, accepted⟩ := TimeUnit.fieldValues?_of_suits field.sound suit
  have unites := (TimeUnit.fieldValues?_unites field.sound accepted).2
  have reads {written rest : List Char} (areWritten : AreWritten (fields.items field) written)
      (closes : Closes ['-', '/', ','] rest) :
      readUnit field.unit anyMark (written ++ rest) = some (values, skipSpace rest) := by
    simp only [readUnit, readField_written areWritten closes, accepted, Option.bind_eq_bind,
      Option.bind_some, Option.pure_def]
  cases laidOut with
  | @last _ text areWritten =>
    refine ⟨values, [], ?_, unites, .nothing⟩
    rw [← List.append_nil text]
    exact reads areWritten (.nil _)
  | @more _ next others written rest blank areWritten isBlank laidOut =>
    refine ⟨values, rest, ?_, unites, laidOut⟩
    rw [reads areWritten (laidOut.begins.closes isBlank), skipSpace_blank isBlank,
      laidOut.begins.skipSpace]

theorem readSix_laidOut {fields : Fields} {others : List FieldName} {text : List Char}
    (laidOut : LaidOut fields (FieldName.required ++ others) text)
    (suit : ∀ field ∈ FieldName.required, ∀ item ∈ fields.items field, field.unit.Suits item) :
    ∃ schedule rest, readSix text = some (schedule, rest) ∧ LaidOut fields others rest ∧
      ∀ years, (schedule years).years = years ∧ ∀ field ∈ FieldName.required,
        field.unit.Unites (fields.items field) ((schedule years).values field) := by
  simp only [FieldName.required, List.forall_mem_cons, List.not_mem_nil, false_imp_iff,
    implies_true, and_true] at suit ⊢
  obtain ⟨ofSecond, ofMinute, ofHour, ofDay, ofMonth, ofWeekday⟩ := suit
  obtain ⟨seconds, _, readSeconds, areSeconds, laidOut⟩ := readUnit_laidOut laidOut ofSecond false
  obtain ⟨minutes, _, readMinutes, areMinutes, laidOut⟩ := readUnit_laidOut laidOut ofMinute false
  obtain ⟨hours, _, readHours, areHours, laidOut⟩ := readUnit_laidOut laidOut ofHour false
  obtain ⟨days, _, readDays, areDays, laidOut⟩ := readUnit_laidOut laidOut ofDay true
  obtain ⟨months, _, readMonths, areMonths, laidOut⟩ := readUnit_laidOut laidOut ofMonth false
  obtain ⟨weekdays, rest, readWeekdays, areWeekdays, laidOut⟩ :=
    readUnit_laidOut laidOut ofWeekday true
  refine ⟨fun years => ⟨seconds, minutes, hours, days, months, weekdays, years⟩, rest, ?_, laidOut,
    fun years => ⟨rfl, areSeconds, areMinutes, areHours, areDays, areMonths, areWeekdays⟩⟩
  simp only [FieldName.unit] at readSeconds readMinutes readHours readDays readMonths readWeekdays
  simp only [readSix, readSeconds, readMinutes, readHours, readDays, readMonths, readWeekdays,
    Option.bind_eq_bind, Option.bind_some, Option.pure_def]

theorem readFields_laidOut {fields : Fields} {named : List FieldName} {text : List Char}
    (shape : named = FieldName.required ∨ named = FieldName.required ++ [.years])
    (laidOut : LaidOut fields named text)
    (suit : ∀ field ∈ named, ∀ item ∈ fields.items field, field.unit.Suits item) :
    ∃ schedule, readFields text = some (schedule, []) ∧ schedule.MadeOf fields named := by
  simp only [readFields_eq]
  rcases shape with rfl | rfl
  · rw [← List.append_nil FieldName.required] at laidOut
    obtain ⟨schedule, rest, readsSix, left, made⟩ := readSix_laidOut laidOut suit
    cases left
    refine ⟨schedule TimeUnit.year.values, ?_, (made _).2, fun _ year => ?_⟩
    · rw [readsSix, Option.map_some, readUnit_nil, Option.getD_none]
    · rw [(made _).1]
      exact TimeUnit.mem_values .year year
  · obtain ⟨schedule, rest, readsSix, left, made⟩ := readSix_laidOut laidOut
      fun field member => suit field (List.mem_append_left _ member)
    obtain ⟨years, _, readYears, areYears, left⟩ :=
      readUnit_laidOut left (suit .years (by decide)) false
    cases left
    refine ⟨schedule years, ?_, ?_, fun leftOut => absurd (by decide) leftOut⟩
    · simp only [FieldName.unit] at readYears
      rw [readsSix, Option.map_some, readYears, Option.getD_some]
    · intro field member
      rcases List.mem_append.mp member with isRequired | isYears
      · exact (made years).2 field isRequired
      · cases List.mem_singleton.mp isYears
        rw [values, (made years).1]
        exact areYears

/-! ## Keywords -/

theorem head_of_ofKeyword? {word : List Char} {schedule : Schedule}
    (isKeyword : ofKeyword? (String.ofList word) = some schedule) : word.head? = some '@' := by
  have chars : word = (String.ofList word).toList := String.toList_ofList.symm
  rw [chars]
  unfold ofKeyword? at isKeyword
  split at isKeyword
  all_goals first | cases isKeyword; done | simp_all

/-- An expression of fields is not taken for a keyword. -/
theorem parseKeyword?_of_begins {text : List Char} (begins : BeginsItem text) :
    parseKeyword? text = none := by
  rw [Option.eq_none_iff_forall_ne_some]
  intro schedule isKeyword
  have first := head_of_ofKeyword? isKeyword
  rw [begins.skipSpace] at first
  obtain ⟨rest, isPrefix⟩ : (skipSpace text.reverse).reverse <+: text :=
    List.rdropWhile_prefix isSpace text
  obtain ⟨more, shown⟩ := List.head?_eq_some_iff.mp first
  rw [shown] at isPrefix
  rcases begins with ⟨_, rfl⟩ | ⟨c, _, rfl, plain⟩
  · cases isPrefix
  · cases isPrefix
    cases plain

/-! ## Accepted expressions -/

theorem WellFormed.lists {schedule : Schedule} (wellFormed : schedule.WellFormed)
    (field : FieldName) : field.unit.Lists (schedule.values field) := by
  cases field with
  | seconds => exact wellFormed.seconds
  | minutes => exact wellFormed.minutes
  | hours => exact wellFormed.hours
  | daysOfMonth => exact wellFormed.daysOfMonth
  | months => exact wellFormed.months
  | daysOfWeek => exact wellFormed.daysOfWeek
  | years => exact wellFormed.years

theorem readUnit_ne_nil {unit : TimeUnit} (sound : unit.Sound) {anyMark : Bool}
    {text rest : List Char} {values : List Nat}
    (reads : readUnit unit anyMark text = some (values, rest)) : values ≠ [] := by
  obtain ⟨⟨items, left⟩, readItems, denotes⟩ := Option.bind_eq_some_iff.mp reads
  obtain ⟨found, isField, same⟩ := Option.bind_eq_some_iff.mp denotes
  cases same
  obtain ⟨⟨item, _⟩, -, isList⟩ := Option.bind_eq_some_iff.mp readItems
  cases isList
  exact TimeUnit.fieldValues?_ne_nil sound isField

theorem readSix_ne_nil {text rest : List Char} {schedule : List Nat → Schedule}
    (reads : readSix text = some (schedule, rest)) {years : List Nat} (some : years ≠ [])
    (field : FieldName) : (schedule years).values field ≠ [] := by
  simp only [readSix, Option.bind_eq_bind, Option.bind_eq_some_iff] at reads
  obtain ⟨⟨seconds, _⟩, readSeconds, ⟨minutes, _⟩, readMinutes, ⟨hours, _⟩, readHours,
    ⟨daysOfMonth, _⟩, readDaysOfMonth, ⟨months, _⟩, readMonths, ⟨daysOfWeek, _⟩,
    readDaysOfWeek, same⟩ := reads
  cases same
  cases field with
  | seconds => exact readUnit_ne_nil (FieldName.sound .seconds) readSeconds
  | minutes => exact readUnit_ne_nil (FieldName.sound .minutes) readMinutes
  | hours => exact readUnit_ne_nil (FieldName.sound .hours) readHours
  | daysOfMonth => exact readUnit_ne_nil (FieldName.sound .daysOfMonth) readDaysOfMonth
  | months => exact readUnit_ne_nil (FieldName.sound .months) readMonths
  | daysOfWeek => exact readUnit_ne_nil (FieldName.sound .daysOfWeek) readDaysOfWeek
  | years => exact some

theorem year_values_ne_nil : TimeUnit.year.values ≠ [] :=
  List.ne_nil_of_mem ((TimeUnit.mem_values .year 1970).mpr (by decide))

theorem readFields_ne_nil {text rest : List Char} {schedule : Schedule}
    (reads : readFields text = some (schedule, rest)) (field : FieldName) :
    schedule.values field ≠ [] := by
  rw [readFields_eq] at reads
  obtain ⟨⟨six, left⟩, readsSix, same⟩ := Option.map_eq_some_iff.mp reads
  cases readsYears : readUnit .year false left with
  | none =>
    simp only [readsYears, Option.getD_none] at same
    cases same
    exact readSix_ne_nil readsSix year_values_ne_nil field
  | some found =>
    simp only [readsYears, Option.getD_some] at same
    cases same
    exact readSix_ne_nil readsSix (readUnit_ne_nil (FieldName.sound .years) readsYears) field

theorem ofKeyword?_ne_nil {word : String} {schedule : Schedule}
    (isKeyword : ofKeyword? word = some schedule) (field : FieldName) :
    schedule.values field ≠ [] := by
  unfold ofKeyword? at isKeyword
  split at isKeyword <;> cases isKeyword <;> cases field <;> decide

theorem parse?_ne_nil {expression : String} {schedule : Schedule}
    (parses : parse? expression = some schedule) (field : FieldName) :
    schedule.values field ≠ [] := by
  rcases parse?_eq_some parses with keyword | ⟨-, reads⟩
  · exact ofKeyword?_ne_nil keyword field
  · exact readFields_ne_nil reads field

theorem parse?_of_expresses {expression : String} {fields : Fields} {named : List FieldName}
    (expresses : Expresses expression fields named) :
    ∃ schedule, parse? expression = some schedule ∧ schedule.MadeOf fields named := by
  obtain ⟨schedule, reads, made⟩ :=
    readFields_laidOut expresses.shape expresses.laidOut expresses.suit
  refine ⟨schedule, ?_, made⟩
  have begins : BeginsItem expression.toList := by
    have laidOut := expresses.laidOut
    rcases expresses.shape with rfl | rfl <;> exact laidOut.begins
  rw [parse?, parseKeyword?_of_begins begins, parseFields?, reads]
  rfl

end Schedule

namespace Job

/-- A well-written expression is accepted, and its schedule unites what its items stand for. Every
accepted expression leaves something in each field and nothing beyond its unit; every other one
is refused in the name of the job. -/
theorem parse_reads_fields (name : String) :
    (∀ expression fields named, Expresses expression fields named →
      ∃ schedule, parse name expression = .ok ⟨name, schedule⟩ ∧ schedule.MadeOf fields named) ∧
    (∀ expression job, parse name expression = .ok job → job.name = name ∧
      ∀ field, job.schedule.values field ≠ [] ∧ field.unit.Lists (job.schedule.values field)) ∧
    ∀ expression failure, parse name expression = .error failure →
      failure = .schedule name badExpression := by
  refine ⟨fun expression fields named expresses => ?_, fun expression job accepted => ?_,
    fun expression failure refused => ?_⟩
  · obtain ⟨schedule, parses, made⟩ := Schedule.parse?_of_expresses expresses
    refine ⟨schedule, ?_, made⟩
    rw [parse, parses]
  · have parses := schedule_of_parse accepted
    refine ⟨?_, fun field => ⟨Schedule.parse?_ne_nil parses field,
      (Schedule.parse?_wellFormed parses).lists field⟩⟩
    rw [parse, parses] at accepted
    exact congrArg Job.name (Except.ok.inj accepted).symm
  · unfold parse at refused
    split at refused
    · cases refused
    · cases refused
      rfl

/-- Every twenty minutes of each second hour from eight to six, on working days of two months. -/
theorem parse_reads_fields_of_working_hours :
    ∃ schedule, parse "tick" "0 */20 8-18/2 * Jan,12 mon-Fri" = .ok ⟨"tick", schedule⟩ ∧
      schedule.MadeOf ⟨[.spec (.point 0)], [.stepped .all 20], [.stepped (.range 8 18) 2],
        [.spec .all], [.named "Jan", .spec (.point 12)], [.spec (.namedRange "mon" "Fri")], []⟩
        FieldName.required := by
  refine (parse_reads_fields "tick").1 _ _ _ ⟨.inl rfl, ?_, ?_⟩
  · have chars : "0 */20 8-18/2 * Jan,12 mon-Fri".toList =
        ['0'] ++ ' ' :: ((['*'] ++ '/' :: ['2', '0']) ++ ' ' ::
          ((['8'] ++ '-' :: ['1', '8'] ++ '/' :: ['2']) ++ ' ' :: (['*'] ++ ' ' ::
            ((['J', 'a', 'n'] ++ ',' :: ['1', '2']) ++ ' ' ::
              (['m', 'o', 'n'] ++ '-' :: ['F', 'r', 'i']))))) := by decide
    rw [chars]
    refine .more (.last (.spec (.point ?_))) rfl (.more (.last (.stepped .all ?_)) rfl
      (.more (.last (.stepped (.range ?_ ?_) ?_)) rfl (.more (.last (.spec .all)) rfl
        (.more (.more (.named ?_) (.last (.spec (.point ?_)))) rfl
          (.last (.last (.spec (.namedRange ?_ ?_))))))))
    all_goals decide
  · decide

end Job

end WorkHost.Cron

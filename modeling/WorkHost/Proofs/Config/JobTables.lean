import Mathlib.Data.List.Forall2
import WorkHost.Config.Jobs
import WorkHost.Proofs.Toml.Trees

/-!
Contract: which documents list jobs, which jobs they list, and what is told of the others.

A table is read entry by entry. What is known after each is what the entries so far say
(`Partial.Reads`), as long as no key is named twice, which holds of every document that is read.
A table then either gives a job or is complained of (`ofEntries_cases`), and a list of tables gives
its jobs in order, or the complaint of the first table that gives none (`ofValues_cases`).
-/

namespace WorkHost

open Toml

/-- The first element of a list that fails is one element, however the list is split there. -/
theorem eq_of_first {α : Type} {Holds : α → Prop} {before after before' after' : List α}
    {first first' : α} (same : before ++ first :: after = before' ++ first' :: after')
    (holds : ∀ earlier ∈ before, Holds earlier) (fails : ¬ Holds first)
    (holds' : ∀ earlier ∈ before', Holds earlier) (fails' : ¬ Holds first') : first = first' := by
  induction before generalizing before' with
  | nil =>
    cases before' with
    | nil => exact (List.cons.inj same).1
    | cons head rest =>
      cases same
      exact absurd (holds' first List.mem_cons_self) fails
  | cons head rest inductionHypothesis =>
    cases before' with
    | nil =>
      cases same
      exact absurd (holds first' List.mem_cons_self) fails'
    | cons head' rest' =>
      exact inductionHypothesis (List.cons.inj same).2 (List.forall_mem_cons.mp holds).2
        (List.forall_mem_cons.mp holds').2

namespace JobSettings

/-! ## Tables of jobs -/

variable {table : List (String × Value)} {job : JobSettings} {fault : ShapeFault}

/-- A table that gives a job. -/
structure IsJob (table : List (String × Value)) : Prop where
  name : ∃ text, table.lookup "name" = some (.string text)
  schedule : ∃ text, table.lookup "schedule" = some (.string text)
  enabled : ∀ value, table.lookup "enabled" = some value → ∃ flag, value = .boolean flag

/-- The job that a table gives; it is switched on if nothing else is said. -/
structure Describes (table : List (String × Value)) (job : JobSettings) : Prop where
  name : table.lookup "name" = some (.string job.name)
  schedule : table.lookup "schedule" = some (.string job.schedule)
  enabled : (table.lookup "enabled").getD (.boolean true) = .boolean job.enabled

/-- An entry has an unknown key or a value of the right type. -/
structure IsTyped (entry : String × Value) : Prop where
  name : entry.1 = "name" → ∃ text, entry.2 = .string text
  schedule : entry.1 = "schedule" → ∃ text, entry.2 = .string text
  enabled : entry.1 = "enabled" → ∃ flag, entry.2 = .boolean flag

/-- What is wanted under a known key, in the words of a message. -/
def wanted (key : String) : String := if key = "enabled" then "a boolean" else "a string"

/-- What is told of a table that gives no job: its first mistyped entry, or else what it lacks,
the name before the schedule. -/
inductive Complaint (table : List (String × Value)) : ShapeFault → Prop where
  | wrongType {before after : List (String × Value)} {entry : String × Value}
    (split : table = before ++ entry :: after) (first : ∀ earlier ∈ before, IsTyped earlier)
    (mistyped : ¬ IsTyped entry) :
    Complaint table (.wrongType entry.2.description (wanted entry.1))
  | noName (typed : ∀ entry ∈ table, IsTyped entry) (absent : table.lookup "name" = none) :
    Complaint table (.missing "name")
  | noSchedule (typed : ∀ entry ∈ table, IsTyped entry) (named : table.lookup "name" ≠ none)
    (absent : table.lookup "schedule" = none) : Complaint table (.missing "schedule")

theorem isJob_iff : IsJob table ↔ ∃ job, Describes table job := by
  constructor
  · rintro ⟨⟨name, isName⟩, ⟨schedule, isSchedule⟩, enabled⟩
    cases isEnabled : table.lookup "enabled" with
    | none => exact ⟨⟨name, schedule, true⟩, isName, isSchedule, by rw [isEnabled]; rfl⟩
    | some value =>
      obtain ⟨flag, rfl⟩ := enabled value isEnabled
      exact ⟨⟨name, schedule, flag⟩, isName, isSchedule, by rw [isEnabled]; rfl⟩
  · rintro ⟨job, isName, isSchedule, isEnabled⟩
    refine ⟨⟨_, isName⟩, ⟨_, isSchedule⟩, fun value isValue => ⟨job.enabled, ?_⟩⟩
    rwa [isValue] at isEnabled

theorem Describes.unique {other : JobSettings} (describes : Describes table job)
    (describesOther : Describes table other) : job = other := by
  have name := Option.some.inj (describes.name.symm.trans describesOther.name)
  have schedule := Option.some.inj (describes.schedule.symm.trans describesOther.schedule)
  have enabled := describes.enabled.symm.trans describesOther.enabled
  cases job
  cases other
  cases name
  cases schedule
  cases enabled
  rfl

theorem lookup_new {before after : List (String × Value)} {entry : String × Value}
    (new : entry.1 ∉ before.map Prod.fst) :
    (before ++ entry :: after).lookup entry.1 = some entry.2 :=
  List.lookup_eq_some_iff.mpr ⟨before, after, rfl, fun _ isEarlier =>
    bne_iff_ne.mpr fun same => new (same ▸ List.mem_map_of_mem isEarlier)⟩

theorem lookup_of_mem {entry : String × Value} (distinct : HasDistinctKeys table)
    (member : entry ∈ table) : table.lookup entry.1 = some entry.2 := by
  obtain ⟨before, after, rfl⟩ := List.append_of_mem member
  rw [HasDistinctKeys, List.map_append, List.nodup_append'] at distinct
  exact lookup_new fun isEarlier => distinct.2.2 isEarlier List.mem_cons_self

theorem IsJob.isTyped {entry : String × Value} (isJob : IsJob table)
    (distinct : HasDistinctKeys table) (member : entry ∈ table) : IsTyped entry := by
  have found := lookup_of_mem distinct member
  constructor
  · intro isName
    obtain ⟨text, isText⟩ := isJob.name
    exact ⟨text, Option.some.inj (found.symm.trans (isName ▸ isText))⟩
  · intro isSchedule
    obtain ⟨text, isText⟩ := isJob.schedule
    exact ⟨text, Option.some.inj (found.symm.trans (isSchedule ▸ isText))⟩
  · intro isEnabled
    exact isJob.enabled _ (isEnabled ▸ found)

theorem Complaint.not_isJob (complaint : Complaint table fault)
    (distinct : HasDistinctKeys table) : ¬ IsJob table := by
  intro isJob
  cases complaint with
  | wrongType split _ mistyped =>
    exact mistyped (isJob.isTyped distinct (split ▸ List.mem_append_right _ List.mem_cons_self))
  | noName _ absent =>
    obtain ⟨text, isText⟩ := isJob.name
    rw [absent] at isText
    cases isText
  | noSchedule _ _ absent =>
    obtain ⟨text, isText⟩ := isJob.schedule
    rw [absent] at isText
    cases isText

/-! ## Reading one entry -/

def knownKeys : List String := ["name", "schedule", "enabled"]

theorem mem_knownKeys {key : String} :
    key ∈ knownKeys ↔ key = "name" ∨ key = "schedule" ∨ key = "enabled" := by
  simp [knownKeys]

/-- What one entry adds to what is known. -/
inductive Adds (known : Partial) : String × Value → Partial → Prop where
  | name (text : String) : Adds known ("name", .string text) { known with name := some text }
  | schedule (text : String) :
    Adds known ("schedule", .string text) { known with schedule := some text }
  | enabled (flag : Bool) :
    Adds known ("enabled", .boolean flag) { known with enabled := some flag }
  | unknown {entry : String × Value} (isUnknown : entry.1 ∉ knownKeys) : Adds known entry known

theorem text_cases (value : Value) : (∃ read, value = .string read) ∨
    (∀ read, value ≠ .string read) ∧
      text value = .error (.wrongType value.description "a string") := by
  cases value with
  | string read => exact .inl ⟨read, rfl⟩
  | _ => exact .inr ⟨nofun, rfl⟩

theorem flag_cases (value : Value) : (∃ read, value = .boolean read) ∨
    (∀ read, value ≠ .boolean read) ∧
      flag value = .error (.wrongType value.description "a boolean") := by
  cases value with
  | boolean read => exact .inl ⟨read, rfl⟩
  | _ => exact .inr ⟨nofun, rfl⟩

namespace Partial

variable {entry : String × Value}

theorem add_of_unknown (known : Partial) (isUnknown : entry.1 ∉ knownKeys) :
    known.add entry.1 entry.2 = .ok known := by
  simp only [mem_knownKeys, not_or] at isUnknown
  unfold Partial.add
  split
  · exact absurd ‹_› isUnknown.1
  · exact absurd ‹_› isUnknown.2.1
  · exact absurd ‹_› isUnknown.2.2
  · rfl

/-- An entry adds to what is known or is mistyped. -/
theorem add_cases (known : Partial) (entry : String × Value) :
    (∃ next, Adds known entry next ∧ known.add entry.1 entry.2 = .ok next) ∨
      ¬ IsTyped entry ∧
        known.add entry.1 entry.2 = .error (.wrongType entry.2.description (wanted entry.1)) := by
  by_cases isKnown : entry.1 ∈ knownKeys
  · obtain ⟨key, value⟩ := entry
    rcases mem_knownKeys.mp isKnown with rfl | rfl | rfl
    · rcases text_cases value with ⟨read, rfl⟩ | ⟨other, refused⟩
      · exact .inl ⟨_, .name read, rfl⟩
      · refine .inr ⟨fun typed => ?_, by simp only [Partial.add, refused, Except.map]; rfl⟩
        obtain ⟨read, isRead⟩ := typed.name rfl
        exact other read isRead
    · rcases text_cases value with ⟨read, rfl⟩ | ⟨other, refused⟩
      · exact .inl ⟨_, .schedule read, rfl⟩
      · refine .inr ⟨fun typed => ?_, by simp only [Partial.add, refused, Except.map]; rfl⟩
        obtain ⟨read, isRead⟩ := typed.schedule rfl
        exact other read isRead
    · rcases flag_cases value with ⟨read, rfl⟩ | ⟨other, refused⟩
      · exact .inl ⟨_, .enabled read, rfl⟩
      · refine .inr ⟨fun typed => ?_, by simp only [Partial.add, refused, Except.map]; rfl⟩
        obtain ⟨read, isRead⟩ := typed.enabled rfl
        exact other read isRead
  · exact .inl ⟨known, .unknown isKnown, add_of_unknown known isKnown⟩

end Partial

theorem Adds.isTyped {known next : Partial} {entry : String × Value}
    (adds : Adds known entry next) : IsTyped entry := by
  cases adds with
  | name text => exact ⟨fun _ => ⟨text, rfl⟩, by simp, by simp⟩
  | schedule text => exact ⟨by simp, fun _ => ⟨text, rfl⟩, by simp⟩
  | enabled flag => exact ⟨by simp, by simp, fun _ => ⟨flag, rfl⟩⟩
  | unknown isUnknown =>
    simp only [mem_knownKeys, not_or] at isUnknown
    exact ⟨fun isName => absurd isName isUnknown.1,
      fun isSchedule => absurd isSchedule isUnknown.2.1,
      fun isEnabled => absurd isEnabled isUnknown.2.2⟩

/-! ## Reading a table -/

namespace Partial

variable {known next : Partial} {entry : String × Value}
  {entries before : List (String × Value)}

/-- What is known is what the entries say. -/
structure Reads (known : Partial) (entries : List (String × Value)) : Prop where
  name : entries.lookup "name" = known.name.map .string
  schedule : entries.lookup "schedule" = known.schedule.map .string
  enabled : entries.lookup "enabled" = known.enabled.map .boolean

theorem reads_nil : Reads {} [] := ⟨rfl, rfl, rfl⟩

theorem lookup_kept {key : String} (other : key ≠ entry.1) :
    (before ++ [entry]).lookup key = before.lookup key := by
  have absent : [entry].lookup key = none :=
    List.lookup_eq_none_iff.mpr (List.forall_mem_singleton.mpr (bne_iff_ne.mpr other))
  rw [List.lookup_append, absent, Option.or_none]

theorem Reads.add (reads : known.Reads before) (new : entry.1 ∉ before.map Prod.fst)
    (adds : Adds known entry next) : next.Reads (before ++ [entry]) := by
  cases adds with
  | name text =>
    exact ⟨lookup_new new, (lookup_kept (by simp)).trans reads.schedule,
      (lookup_kept (by simp)).trans reads.enabled⟩
  | schedule text =>
    exact ⟨(lookup_kept (by simp)).trans reads.name, lookup_new new,
      (lookup_kept (by simp)).trans reads.enabled⟩
  | enabled flag =>
    exact ⟨(lookup_kept (by simp)).trans reads.name, (lookup_kept (by simp)).trans reads.schedule,
      lookup_new new⟩
  | unknown isUnknown =>
    simp only [mem_knownKeys, not_or] at isUnknown
    exact ⟨(lookup_kept (Ne.symm isUnknown.1)).trans reads.name,
      (lookup_kept (Ne.symm isUnknown.2.1)).trans reads.schedule,
      (lookup_kept (Ne.symm isUnknown.2.2)).trans reads.enabled⟩

/-- All entries are taken in, or the first mistyped one is told. -/
theorem addAll_cases (reads : known.Reads before) (distinct : HasDistinctKeys (before ++ entries)) :
    (∃ final, final.Reads (before ++ entries) ∧ (∀ entry ∈ entries, IsTyped entry) ∧
        known.addAll entries = .ok final) ∨
      ∃ typed entry after, entries = typed ++ entry :: after ∧
        (∀ earlier ∈ typed, IsTyped earlier) ∧ ¬ IsTyped entry ∧
        known.addAll entries = .error (.wrongType entry.2.description (wanted entry.1)) := by
  induction entries generalizing known before with
  | nil => exact .inl ⟨known, by rwa [List.append_nil], List.forall_mem_nil _, rfl⟩
  | cons entry rest inductionHypothesis =>
    have assoc : before ++ entry :: rest = before ++ [entry] ++ rest := by simp
    rw [addAll]
    rcases known.add_cases entry with ⟨next, adds, added⟩ | ⟨mistyped, refused⟩
    · rw [assoc] at distinct ⊢
      have new : entry.1 ∉ before.map Prod.fst := by
        intro member
        simp only [HasDistinctKeys, List.map_append, List.nodup_append'] at distinct
        exact distinct.1.2.2 member List.mem_cons_self
      simp only [added]
      rcases inductionHypothesis (reads.add new adds) distinct with
        ⟨final, readsAll, typed, read⟩ | ⟨typed, found, after, rfl, first, mistyped, told⟩
      · exact .inl ⟨final, readsAll, List.forall_mem_cons.mpr ⟨adds.isTyped, typed⟩, read⟩
      · exact .inr ⟨entry :: typed, found, after, rfl,
          List.forall_mem_cons.mpr ⟨adds.isTyped, first⟩, mistyped, told⟩
    · simp only [refused]
      exact .inr ⟨[], entry, rest, rfl, List.forall_mem_nil _, mistyped, rfl⟩

end Partial

theorem Partial.Reads.describes {known : Partial} (reads : known.Reads table)
    (completed : known.complete = .ok job) : Describes table job := by
  obtain ⟨name, schedule, enabled⟩ := known
  obtain ⟨isName, isSchedule, isEnabled⟩ := reads
  unfold Partial.complete at completed
  split at completed
  · cases completed
  · cases completed
  · rename_i hasName hasSchedule
    cases hasName
    cases hasSchedule
    cases completed
    refine ⟨isName, isSchedule, ?_⟩
    rw [isEnabled]
    cases enabled <;> rfl

theorem Partial.Reads.complaint {known : Partial} (reads : known.Reads table)
    (typed : ∀ entry ∈ table, IsTyped entry) (refused : known.complete = .error fault) :
    Complaint table fault := by
  obtain ⟨name, schedule, enabled⟩ := known
  obtain ⟨isName, isSchedule, -⟩ := reads
  unfold Partial.complete at refused
  split at refused
  · rename_i noName
    cases noName
    cases refused
    exact .noName typed isName
  · rename_i hasName noSchedule
    cases hasName
    cases noSchedule
    cases refused
    exact .noSchedule typed (by simp [isName]) isSchedule
  · cases refused

/-- A table gives a job or is complained of. -/
theorem ofEntries_cases (distinct : HasDistinctKeys table) :
    (∃ job, Describes table job ∧ ofEntries table = .ok job) ∨
      ∃ fault, Complaint table fault ∧ ofEntries table = .error fault := by
  unfold ofEntries
  rcases Partial.addAll_cases Partial.reads_nil distinct with
    ⟨known, reads, typed, read⟩ | ⟨typed, entry, after, split, first, mistyped, told⟩
  · simp only [read]
    cases completed : known.complete with
    | ok job => exact .inl ⟨job, reads.describes completed, rfl⟩
    | error fault => exact .inr ⟨fault, reads.complaint typed completed, rfl⟩
  · simp only [told]
    exact .inr ⟨_, .wrongType split first mistyped, rfl⟩

theorem Complaint.unique {other : ShapeFault} (complaint : Complaint table fault)
    (complaintOther : Complaint table other) : fault = other := by
  have untyped : ∀ {before after : List (String × Value)} {entry : String × Value},
      table = before ++ entry :: after → ¬ IsTyped entry → ¬ ∀ entry ∈ table, IsTyped entry :=
    fun split mistyped typed =>
      mistyped (typed _ (split ▸ List.mem_append_right _ List.mem_cons_self))
  cases complaint with
  | wrongType split first mistyped =>
    cases complaintOther with
    | wrongType splitOther firstOther mistypedOther =>
      rw [eq_of_first (split.symm.trans splitOther) first mistyped firstOther mistypedOther]
    | noName typed _ => exact absurd typed (untyped split mistyped)
    | noSchedule typed _ _ => exact absurd typed (untyped split mistyped)
  | noName typed absent =>
    cases complaintOther with
    | wrongType split _ mistyped => exact absurd typed (untyped split mistyped)
    | noName => rfl
    | noSchedule _ named _ => exact absurd absent named
  | noSchedule typed named _ =>
    cases complaintOther with
    | wrongType split _ mistyped => exact absurd typed (untyped split mistyped)
    | noName _ absent => exact absurd absent named
    | noSchedule => rfl

/-! ## Reading tables in order -/

variable {tables : List (List (String × Value))} {jobs : List JobSettings}

/-- The tables give jobs in order, or the first that gives none is complained of. -/
theorem ofValues_cases (distinct : ∀ table ∈ tables, HasDistinctKeys table) :
    (∃ jobs, List.Forall₂ Describes tables jobs ∧ ofValues (tables.map .table) = .ok jobs) ∨
      ∃ before table after fault, tables = before ++ table :: after ∧
        (∀ earlier ∈ before, IsJob earlier) ∧ Complaint table fault ∧
        ofValues (tables.map .table) = .error fault := by
  induction tables with
  | nil => exact .inl ⟨[], .nil, rfl⟩
  | cons table rest inductionHypothesis =>
    obtain ⟨distinctTable, distinctRest⟩ := List.forall_mem_cons.mp distinct
    rw [List.map_cons, ofValues, ofValue]
    rcases ofEntries_cases distinctTable with ⟨job, describes, given⟩ | ⟨fault, complaint, told⟩
    · simp only [given]
      rcases inductionHypothesis distinctRest with
        ⟨jobs, describeRest, given⟩ | ⟨before, found, after, fault, rfl, first, complaint, told⟩
      · exact .inl ⟨job :: jobs, .cons describes describeRest, by rw [given]; rfl⟩
      · exact .inr ⟨table :: before, found, after, fault, rfl,
          List.forall_mem_cons.mpr ⟨isJob_iff.mpr ⟨job, describes⟩, first⟩, complaint,
          by rw [told]; rfl⟩
    · simp only [told]
      exact .inr ⟨[], table, rest, fault, rfl, List.forall_mem_nil _, complaint, rfl⟩

/-! ## Keys that are not known -/

/-- The entries of a table that are looked at. -/
def knownEntries (table : List (String × Value)) : List (String × Value) :=
  table.filter fun entry => entry.1 ∈ knownKeys

theorem Partial.addAll_knownEntries (known : Partial) (table : List (String × Value)) :
    known.addAll (knownEntries table) = known.addAll table := by
  induction table generalizing known with
  | nil => rfl
  | cons entry rest inductionHypothesis =>
    unfold knownEntries at inductionHypothesis ⊢
    by_cases isKnown : entry.1 ∈ knownKeys
    · rw [List.filter_cons_of_pos (by simpa using isKnown), Partial.addAll, Partial.addAll]
      cases known.add entry.1 entry.2 with
      | ok next => exact inductionHypothesis next
      | error fault => rfl
    · rw [List.filter_cons_of_neg (by simpa using isKnown), Partial.addAll,
        add_of_unknown known isKnown]
      exact inductionHypothesis known

theorem ofValues_knownEntries (tables : List (List (String × Value))) :
    ofValues ((tables.map knownEntries).map .table) = ofValues (tables.map .table) := by
  induction tables with
  | nil => rfl
  | cons table rest inductionHypothesis =>
    simp only [List.map_cons, ofValues, ofValue, ofEntries, Partial.addAll_knownEntries,
      inductionHypothesis]

/-! ## Jobs that are switched on -/

def isSwitchedOff (table : List (String × Value)) : Bool :=
  match table.lookup "enabled" with
  | some (.boolean flag) => !flag
  | _ => false

theorem Describes.enabled_eq (describes : Describes table job) :
    job.enabled = !isSwitchedOff table := by
  have said := describes.enabled
  unfold isSwitchedOff
  cases isEnabled : table.lookup "enabled" with
  | none =>
    rw [isEnabled] at said
    exact (Value.boolean.inj said).symm
  | some value =>
    rw [isEnabled] at said
    cases said
    exact (Bool.not_not _).symm

theorem forall_isJob (describe : List.Forall₂ Describes tables jobs) :
    ∀ table ∈ tables, IsJob table := by
  induction describe with
  | nil => exact List.forall_mem_nil _
  | cons describes _ inductionHypothesis =>
    exact List.forall_mem_cons.mpr ⟨isJob_iff.mpr ⟨_, describes⟩, inductionHypothesis⟩

theorem describes_rightUnique : Relator.RightUnique Describes :=
  fun _ _ _ describes describesOther => describes.unique describesOther

theorem describe_enabled (describe : List.Forall₂ Describes tables jobs) :
    List.Forall₂ Describes (tables.filter fun table => !isSwitchedOff table)
      (jobs.filter (·.enabled)) :=
  List.rel_filter (fun _ _ describes => iff_of_eq (congrArg (· = true) describes.enabled_eq.symm))
    describe

end JobSettings

namespace JobsFile

open JobSettings

/-! ## Documents -/

variable {entries : List (String × Value)} {tables : List (List (String × Value))}

/-- A document has these tables under its key `job`, or neither. -/
def ListsJobs (entries : List (String × Value)) (tables : List (List (String × Value))) : Prop :=
  entries.lookup "job" = some (.array (tables.map .table)) ∨
    entries.lookup "job" = none ∧ tables = []

/-- What is made of a document with these tables of jobs. -/
structure Decodes (tables : List (List (String × Value)))
    (outcome : Except ShapeFault JobsFile) : Prop where
  accepts : (∃ file, outcome = .ok file) ↔ ∀ table ∈ tables, IsJob table
  gives : ∀ file, outcome = .ok file ↔ List.Forall₂ Describes tables file.jobs
  enables : ∀ file, outcome = .ok file → file.enabled.Sublist file.jobs ∧
    List.Forall₂ Describes (tables.filter fun table => !isSwitchedOff table) file.enabled
  /-- The first table that gives no job is complained of. -/
  tells : ∀ fault, outcome = .error fault ↔ ∃ before table after,
    tables = before ++ table :: after ∧ (∀ earlier ∈ before, IsJob earlier) ∧
    Complaint table fault

theorem ofDocument_eq (lists : ListsJobs entries tables) :
    ofDocument entries = (ofValues (tables.map .table)).map .mk := by
  unfold ofDocument
  rcases lists with found | ⟨absent, rfl⟩
  · obtain ⟨before, after, rfl, isFirst⟩ := List.lookup_eq_some_iff.mp found
    have isFound : (before ++ ("job", Value.array (tables.map .table)) :: after).find?
        (fun entry => entry.1 = "job") = some ("job", .array (tables.map .table)) :=
      List.find?_eq_some_iff_append.mpr ⟨rfl, before, after, rfl, fun entry isEntry => by
        simpa using (bne_iff_ne.mp (isFirst entry isEntry)).symm⟩
    rw [isFound]
  · have notFound : entries.find? (fun entry => entry.1 = "job") = none :=
      List.find?_eq_none.mpr fun entry isEntry => by
        simpa using (bne_iff_ne.mp (List.lookup_eq_none_iff.mp absent entry isEntry)).symm
    rw [notFound]
    rfl

theorem distinct_of_lists (tree : (Value.table entries).IsTree)
    (lists : ListsJobs entries tables) : ∀ table ∈ tables, HasDistinctKeys table := by
  intro table member
  rcases lists with found | ⟨-, rfl⟩
  · obtain ⟨before, after, rfl, -⟩ := List.lookup_eq_some_iff.mp found
    cases tree with
    | table _ within =>
      cases within _ (List.mem_append_right _ List.mem_cons_self) with
      | array within =>
        cases within _ (List.mem_map_of_mem member) with
        | table distinct _ => exact distinct
  · cases member

theorem decodes_ofDocument (tree : (Value.table entries).IsTree)
    (lists : ListsJobs entries tables) : Decodes tables (ofDocument entries) := by
  have distinct := distinct_of_lists tree lists
  have notJob : ∀ {before after : List (List (String × Value))}
      {table : List (String × Value)} {fault : ShapeFault},
      tables = before ++ table :: after → Complaint table fault → ¬ IsJob table := by
    rintro before after table fault rfl complaint
    exact complaint.not_isJob (distinct table (List.mem_append_right _ List.mem_cons_self))
  rw [ofDocument_eq lists]
  rcases ofValues_cases distinct with
    ⟨jobs, describe, given⟩ | ⟨before, table, after, told, split, first, complaint, isTold⟩
  · rw [given]
    constructor
    · exact ⟨fun _ => forall_isJob describe, fun _ => ⟨⟨jobs⟩, rfl⟩⟩
    · intro file
      constructor
      · intro isFile
        cases isFile
        exact describe
      · intro describeFile
        have same : jobs = file.jobs := describes_rightUnique.forall₂ describe describeFile
        rw [same]
        rfl
    · intro file isFile
      cases isFile
      exact ⟨List.filter_sublist, describe_enabled describe⟩
    · intro fault
      refine ⟨nofun, fun ⟨before, table, after, split, _, complaint⟩ => ?_⟩
      have isJob := forall_isJob describe table (split ▸ List.mem_append_right _ List.mem_cons_self)
      exact absurd isJob (notJob split complaint)
  · have isRefused : ¬ ∀ table ∈ tables, IsJob table := fun all =>
      notJob split complaint (all table (split ▸ List.mem_append_right _ List.mem_cons_self))
    rw [isTold]
    constructor
    · exact ⟨nofun, fun all => absurd all isRefused⟩
    · exact fun file => ⟨nofun, fun describe => absurd (forall_isJob describe) isRefused⟩
    · exact nofun
    · intro fault
      constructor
      · intro isFault
        cases isFault
        exact ⟨before, table, after, split, first, complaint⟩
      · rintro ⟨before', table', after', split', first', complaint'⟩
        have same : table = table' := eq_of_first (split.symm.trans split') first
          (notJob split complaint) first' (notJob split' complaint')
        rw [complaint.unique (same ▸ complaint')]
        rfl

/-- Reading a document's tables gives the jobs they describe, or tells of the first that gives
none. Keys that are not known never matter. -/
theorem ofDocument_decodes_tables (tree : (Value.table entries).IsTree)
    (lists : ListsJobs entries tables) :
    Decodes tables (ofDocument entries) ∧
      ∀ entries' tables', ListsJobs entries' tables' →
        tables'.map knownEntries = tables.map knownEntries →
        ofDocument entries' = ofDocument entries := by
  refine ⟨decodes_ofDocument tree lists, fun entries' tables' lists' same => ?_⟩
  rw [ofDocument_eq lists, ofDocument_eq lists', ← ofValues_knownEntries tables, ← same,
    ofValues_knownEntries tables']

/-- A number stands where the name should. -/
theorem ofDocument_decodes_tables_misnamed :
    ofDocument [("title", .string "jobs"),
      ("job", .array [.table [("enabled", .boolean false), ("name", .integer 3)]])] =
      .error (.wrongType (Value.integer 3).description "a string") := by
  have misnamed : (Value.table [("enabled", .boolean false), ("name", .integer 3)]).IsTree :=
    .table (by simp [HasDistinctKeys]) (by simp [Value.IsTree.boolean, Value.IsTree.integer])
  have tree : (Value.table [("title", .string "jobs"),
      ("job", .array [.table [("enabled", .boolean false), ("name", .integer 3)]])]).IsTree :=
    .table (by simp [HasDistinctKeys]) (by simp [Value.IsTree.string, Value.IsTree.array, misnamed])
  have lists : ListsJobs [("title", .string "jobs"),
      ("job", .array [.table [("enabled", .boolean false), ("name", .integer 3)]])]
      [[("enabled", .boolean false), ("name", .integer 3)]] := .inl rfl
  have split : [("enabled", .boolean false), ("name", .integer 3)] =
    [("enabled", Value.boolean false)] ++ ("name", Value.integer 3) :: [] := rfl
  refine ((ofDocument_decodes_tables tree lists).1.tells _).mpr
    ⟨[], _, [], rfl, List.forall_mem_nil _, .wrongType split ?_ ?_⟩
  · exact List.forall_mem_singleton.mpr ⟨by simp, by simp, fun _ => ⟨false, rfl⟩⟩
  · intro typed
    obtain ⟨text, isText⟩ := typed.name rfl
    cases isText

/-- The same holds of every text that is a document. -/
theorem parse_decodes {text : String} (parsed : Toml.parse? text = some entries)
    (lists : ListsJobs entries tables) :
    ∃ outcome, parse text = outcome.mapError .shape ∧ Decodes tables outcome := by
  refine ⟨ofDocument entries, ?_, decodes_ofDocument (parse?_isTree parsed) lists⟩
  rw [parse, parsed]

end JobsFile

end WorkHost

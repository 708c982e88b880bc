import Mathlib.Data.List.Nodup
import WorkHost.Toml.Document

/-!
Contract: no table of a document names a key twice.

A value is a tree if that holds of every table in it (`Value.IsTree`). A document keeps it while
it is read (`Entries.AreSound`), so every document that is read is a tree (`parse?_isTree`).
-/

namespace WorkHost.Toml

def HasDistinctKeys {α : Type} (entries : List (String × α)) : Prop :=
  (entries.map Prod.fst).Nodup

theorem hasDistinctKeys_nil {α : Type} : HasDistinctKeys ([] : List (String × α)) :=
  List.nodup_nil

/-- No table in a value names a key twice. -/
inductive Value.IsTree : Value → Prop where
  | string (text : String) : IsTree (.string text)
  | integer (value : Int) : IsTree (.integer value)
  | real (value : Real) : IsTree (.real value)
  | boolean (value : Bool) : IsTree (.boolean value)
  | moment : IsTree .moment
  | array {items : List Value} (within : ∀ item ∈ items, IsTree item) : IsTree (.array items)
  | table {entries : List (String × Value)} (distinct : HasDistinctKeys entries)
    (within : ∀ entry ∈ entries, IsTree entry.2) : IsTree (.table entries)

/-- No table in a part of an unfinished document names a key twice. -/
inductive Node.IsSound : Node → Prop where
  | value {leaf : Value} (tree : leaf.IsTree) : IsSound (.value leaf)
  | table {origin : Origin} {entries : Entries} (distinct : HasDistinctKeys entries)
    (within : ∀ entry ∈ entries, IsSound entry.2) : IsSound (.table origin entries)
  | tables {newest : Entries} {earlier : List Entries} (distinct : HasDistinctKeys newest)
    (within : ∀ entry ∈ newest, IsSound entry.2)
    (distinctEarlier : ∀ entries ∈ earlier, HasDistinctKeys entries)
    (withinEarlier : ∀ entries ∈ earlier, ∀ entry ∈ entries, IsSound entry.2) :
    IsSound (.tables newest earlier)

/-! ## Finished documents -/

namespace Node

theorem finishEntries_eq (entries : Entries) :
    finishEntries entries = entries.map fun entry => (entry.1, entry.2.finish) := by
  induction entries with
  | nil => rfl
  | cons entry rest inductionHypothesis =>
    rw [finishEntries, inductionHypothesis, List.map_cons]

theorem finishTables_eq (tables : List Entries) :
    finishTables tables = tables.map fun entries => .table (finishEntries entries) := by
  induction tables with
  | nil => rfl
  | cons entries rest inductionHypothesis =>
    rw [finishTables, inductionHypothesis, List.map_cons]

/-- Finishing keeps the keys. -/
theorem isTree_table_finishEntries {entries : Entries} (distinct : HasDistinctKeys entries)
    (within : ∀ entry ∈ entries, entry.2.finish.IsTree) :
    (Value.table (finishEntries entries)).IsTree := by
  have keys : (finishEntries entries).map Prod.fst = entries.map Prod.fst := by
    rw [finishEntries_eq, List.map_map]
    rfl
  refine .table ?_ ?_
  · rw [HasDistinctKeys, keys]
    exact distinct
  · intro entry member
    rw [finishEntries_eq] at member
    obtain ⟨unfinished, isEntry, rfl⟩ := List.mem_map.mp member
    exact within unfinished isEntry

theorem IsSound.finish_isTree {node : Node} (sound : node.IsSound) : node.finish.IsTree := by
  induction sound with
  | value tree =>
    rw [finish]
    exact tree
  | table distinct _ within =>
    rw [finish]
    exact isTree_table_finishEntries distinct within
  | tables distinct _ distinctEarlier _ within withinEarlier =>
    rw [finish]
    refine .array fun item member => ?_
    rw [finishTables_eq, List.mem_append, List.mem_reverse, List.mem_singleton] at member
    rcases member with isEarlier | rfl
    · obtain ⟨entries, isEntries, rfl⟩ := List.mem_map.mp isEarlier
      exact isTree_table_finishEntries (distinctEarlier entries isEntries)
        (withinEarlier entries isEntries)
    · exact isTree_table_finishEntries distinct within

end Node

/-! ## Unfinished documents -/

namespace Entries

structure AreSound (entries : Entries) : Prop where
  distinct : HasDistinctKeys entries
  within : ∀ entry ∈ entries, entry.2.IsSound

theorem areSound_nil : AreSound [] := ⟨hasDistinctKeys_nil, nofun⟩

variable {entries result : Entries} {key : String} {node : Node}

theorem AreSound.isTree (sound : entries.AreSound) :
    (Value.table (Node.finishEntries entries)).IsTree :=
  Node.isTree_table_finishEntries sound.distinct fun entry member =>
    (sound.within entry member).finish_isTree

theorem AreSound.isSound_node (sound : entries.AreSound) (found : entries.node? key = some node) :
    node.IsSound := by
  obtain ⟨entry, isEntry, rfl⟩ := Option.map_eq_some_iff.mp found
  exact sound.within entry (List.mem_of_find?_eq_some isEntry)

theorem AreSound.put (sound : entries.AreSound) (isSound : node.IsSound) (key : String) :
    (entries.put key node).AreSound := by
  unfold Entries.put
  split
  · refine ⟨?_, fun entry member => ?_⟩
    · have keys : (entries.map fun entry => if entry.1 = key then (key, node) else entry).map
          Prod.fst = entries.map Prod.fst := by
        rw [List.map_map]
        refine List.map_congr_left fun entry _ => ?_
        by_cases same : entry.1 = key
        · simp [same]
        · simp [same]
      rw [HasDistinctKeys, keys]
      exact sound.distinct
    · obtain ⟨before, isBefore, rfl⟩ := List.mem_map.mp member
      split
      · exact isSound
      · exact sound.within before isBefore
  · rename_i absent
    refine ⟨?_, fun entry member => ?_⟩
    · rw [HasDistinctKeys, List.map_append, List.nodup_append']
      refine ⟨sound.distinct, List.nodup_singleton key, ?_⟩
      rw [List.map_singleton, List.disjoint_singleton]
      intro member
      obtain ⟨entry, isEntry, isKey⟩ := List.mem_map.mp member
      exact absent (List.any_eq_true.mpr ⟨entry, isEntry, by simpa using isKey⟩)
    · rcases List.mem_append.mp member with before | added
      · exact sound.within entry before
      · exact List.mem_singleton.mp added ▸ isSound

theorem AreSound.remove (sound : entries.AreSound) (key : String) :
    (entries.remove key).AreSound :=
  ⟨sound.distinct.sublist (List.filter_sublist.map _), fun entry member =>
    sound.within entry (List.mem_of_mem_filter member)⟩

theorem AreSound.isSound_table (sound : entries.AreSound) (origin : Origin) :
    (Node.table origin entries).IsSound := .table sound.distinct sound.within

theorem AreSound.isSound_tables {earlier : List Entries} (sound : entries.AreSound)
    (before : ∀ entries ∈ earlier, entries.AreSound) : (Node.tables entries earlier).IsSound :=
  .tables sound.distinct sound.within (fun entries member => (before entries member).distinct)
    fun entries member => (before entries member).within

theorem areSound_of_table {origin : Origin} (sound : (Node.table origin entries).IsSound) :
    entries.AreSound := by
  cases sound with
  | table distinct within => exact ⟨distinct, within⟩

theorem areSound_of_tables {earlier : List Entries}
    (sound : (Node.tables entries earlier).IsSound) :
    entries.AreSound ∧ ∀ entries ∈ earlier, entries.AreSound := by
  cases sound with
  | tables distinct within distinctEarlier withinEarlier =>
    exact ⟨⟨distinct, within⟩, fun entries member =>
      ⟨distinctEarlier entries member, withinEarlier entries member⟩⟩

/-- A change at the end of a path that leaves sound entries leaves all entries sound. -/
theorem AreSound.modify {made origin : Origin} {path : List String}
    {change : Origin → Entries → Option Entries}
    (keeps : ∀ origin entries result, AreSound entries → change origin entries = some result →
      AreSound result)
    (sound : entries.AreSound) (modified : entries.modify made path origin change = some result) :
    result.AreSound := by
  induction path generalizing origin entries result with
  | nil => exact keeps origin entries result sound modified
  | cons key rest inductionHypothesis =>
    rw [Entries.modify] at modified
    split at modified
    · obtain ⟨inner, changed, rfl⟩ := Option.map_eq_some_iff.mp modified
      exact sound.put ((inductionHypothesis areSound_nil changed).isSound_table made) key
    · cases modified
    · rename_i newest earlier found
      obtain ⟨inner, changed, rfl⟩ := Option.map_eq_some_iff.mp modified
      obtain ⟨soundNewest, soundEarlier⟩ := areSound_of_tables (sound.isSound_node found)
      exact sound.put
        ((inductionHypothesis soundNewest changed).isSound_tables soundEarlier) key
    · rename_i inner within found
      split at modified
      · cases modified
      · obtain ⟨changedEntries, changed, rfl⟩ := Option.map_eq_some_iff.mp modified
        have soundWithin := areSound_of_table (sound.isSound_node found)
        exact sound.put ((inductionHypothesis soundWithin changed).isSound_table inner) key

theorem AreSound.assign {origin : Origin} {path : List String} {value : Value}
    (sound : entries.AreSound) (tree : value.IsTree)
    (assigned : entries.assign origin path key value = some result) : result.AreSound := by
  refine AreSound.modify (fun inner entries result sound changed => ?_) sound assigned
  split at changed
  · cases changed
  · split at changed
    · cases changed
    · cases changed
      exact sound.put (.value tree) key

end Entries

/-! ## Drafts -/

namespace Draft

structure IsSound (draft : Draft) : Prop where
  root : draft.root.AreSound
  openTable : draft.openTable.AreSound

theorem isSound_empty : IsSound empty := ⟨Entries.areSound_nil, Entries.areSound_nil⟩

variable {draft result : Draft} {path : List String} {key : String}

theorem IsSound.assign {value : Value} (sound : draft.IsSound) (tree : value.IsTree)
    (assigned : draft.assign path key value = some result) : result.IsSound := by
  obtain ⟨openTable, changed, rfl⟩ := Option.map_eq_some_iff.mp assigned
  exact ⟨sound.root, sound.openTable.assign tree changed⟩

theorem IsSound.close {root : Entries} (sound : draft.IsSound) (closed : draft.close = some root) :
    root.AreSound := by
  unfold Draft.close at closed
  split at closed
  · refine Entries.AreSound.modify (fun origin entries result within changed => ?_) sound.root
      closed
    split at changed
    · split at changed
      · cases changed
        exact within.put (sound.openTable.isSound_tables (List.forall_mem_nil _)) _
      · rename_i newest earlier found
        cases changed
        obtain ⟨soundNewest, soundEarlier⟩ :=
          Entries.areSound_of_tables (within.isSound_node found)
        exact within.put
          (sound.openTable.isSound_tables (List.forall_mem_cons.mpr ⟨soundNewest, soundEarlier⟩)) _
      · cases changed
    · split at changed
      · cases changed
        exact within.put (sound.openTable.isSound_table .explicit) _
      · cases changed
  · cases closed
    exact sound.openTable

theorem areSound_lookUp {entries : Entries} (sound : entries.AreSound) (path : List String) :
    (lookUp path entries).AreSound := by
  induction path generalizing entries with
  | nil => exact sound
  | cons key rest inductionHypothesis =>
    rw [lookUp]
    split
    · rename_i found
      exact inductionHypothesis (Entries.areSound_of_table (sound.isSound_node found))
    · rename_i found
      exact inductionHypothesis (Entries.areSound_of_tables (sound.isSound_node found)).1
    · exact Entries.areSound_nil

theorem IsSound.openHeader (sound : draft.IsSound)
    (opened : draft.openHeader path key = some result) : result.IsSound := by
  -- The table is taken out of its place and goes on with what it has.
  have continues : ∀ {root openTable : Entries}, root.AreSound → openTable.AreSound →
      ((root.modify .passed path .explicit fun _ entries => some (entries.remove key)).bind
        fun root => some ⟨root, path, key, false, true, openTable⟩) = some result →
      result.IsSound := by
    intro root openTable soundRoot soundTable continued
    obtain ⟨rest, removed, isResult⟩ := Option.bind_eq_some_iff.mp continued
    cases isResult
    refine ⟨Entries.AreSound.modify (fun origin entries result within removed => ?_) soundRoot
      removed, soundTable⟩
    cases removed
    exact within.remove key
  obtain ⟨root, closed, continued⟩ := Option.bind_eq_some_iff.mp opened
  have soundRoot := sound.close closed
  dsimp only at continued
  split at continued
  · exact continues soundRoot Entries.areSound_nil continued
  · rename_i found
    have soundTable := (areSound_lookUp soundRoot path).isSound_node found
    exact continues soundRoot (Entries.areSound_of_table soundTable) continued
  · cases continued

theorem IsSound.openElement (sound : draft.IsSound)
    (opened : draft.openElement path key = some result) : result.IsSound := by
  simp only [Draft.openElement, Option.bind_eq_bind, Option.bind_eq_some_iff] at opened
  obtain ⟨root, closed, changed, kept, isResult⟩ := opened
  cases isResult
  refine ⟨Entries.AreSound.modify (fun origin entries result within same => ?_)
    (sound.close closed) kept, Entries.areSound_nil⟩
  split at same
  · cases same
    exact within
  · cases same
    exact within
  · cases same

end Draft

/-! ## Reading -/

/-- If a value is read, it is a tree. -/
def YieldsTree (read : Option (Value × List Char)) : Prop := ∀ result ∈ read, result.1.IsTree

theorem yieldsTree_none : YieldsTree none := nofun

theorem yieldsTree_some {value : Value} (tree : value.IsTree) (rest : List Char) :
    YieldsTree (some (value, rest)) := by
  intro result isResult
  cases isResult
  exact tree

theorem yieldsTree_bind {β : Type} {first : Option β} {next : β → Option (Value × List Char)}
    (yields : ∀ found, YieldsTree (next found)) : YieldsTree (first.bind next) := by
  intro result isResult
  obtain ⟨found, -, isNext⟩ := Option.bind_eq_some_iff.mp isResult
  exact yields found result isNext

theorem yieldsTree_ite {condition : Prop} [Decidable condition]
    {first second : Option (Value × List Char)} (yieldsFirst : YieldsTree first)
    (yieldsSecond : YieldsTree second) : YieldsTree (if condition then first else second) := by
  split
  · exact yieldsFirst
  · exact yieldsSecond

theorem yieldsTree_integer (value : Int) (rest : List Char) :
    YieldsTree ((integer? value).bind fun whole => some (whole, rest)) := by
  unfold integer?
  split
  · exact yieldsTree_some (.integer value) rest
  · exact yieldsTree_none

theorem yieldsTree_readInteger (text : List Char) : YieldsTree (readInteger text) := by
  unfold readInteger
  dsimp only
  split
  · exact yieldsTree_bind fun _ => yieldsTree_integer _ _
  · exact yieldsTree_bind fun _ => yieldsTree_integer _ _
  · exact yieldsTree_bind fun _ => yieldsTree_integer _ _
  · exact yieldsTree_bind fun _ => yieldsTree_integer _ _

theorem yieldsTree_readReal (text : List Char) : YieldsTree (readReal text) := by
  unfold readReal
  dsimp only
  split
  · exact yieldsTree_some (.real _) _
  · exact yieldsTree_some (.real _) _
  · refine yieldsTree_bind fun _ => ?_
    -- With a fraction or without, with an exponent or without, the number is made alike.
    split
    all_goals
      refine yieldsTree_bind fun _ => ?_
      split
    all_goals
      refine yieldsTree_bind fun _ => yieldsTree_ite yieldsTree_none ?_
      split
      · exact yieldsTree_some (.real _) _
      · exact yieldsTree_ite (yieldsTree_some (.real _) _) yieldsTree_none

theorem yieldsTree_readMoment (text : List Char) : YieldsTree (readMoment text) := by
  unfold readMoment
  split
  · refine yieldsTree_bind fun rest => ?_
    have timed : ∀ time, YieldsTree (if startsTime time then
        (readTime time).bind fun rest => (readOffset rest).bind fun rest => some (.moment, rest)
      else some (.moment, rest)) := fun time =>
      yieldsTree_ite (yieldsTree_bind fun _ => yieldsTree_bind fun _ => yieldsTree_some .moment _)
        (yieldsTree_some .moment _)
    split
    · exact timed _
    · exact timed _
    · exact timed _
    · exact yieldsTree_some .moment _
  · intro result read
    obtain ⟨rest, -, rfl⟩ := Option.map_eq_some_iff.mp read
    exact .moment

theorem yieldsTree_readNumeric (text : List Char) : YieldsTree (readNumeric text) := by
  unfold readNumeric
  split
  · exact yieldsTree_readMoment text
  · intro result read
    have either : (readReal text).or (readInteger text) = some result := by
      cases isReal : readReal text with
      | none => simpa [isReal] using read
      | some real => simpa [isReal] using read
    rcases Option.or_eq_some_iff.mp either with isReal | ⟨-, isInteger⟩
    · exact yieldsTree_readReal text result isReal
    · exact yieldsTree_readInteger text result isInteger

/-- With this much fuel, values are read as trees, alone and as the parts of containers. -/
structure ReadsTrees (fuel : Nat) : Prop where
  value : ∀ depth text, YieldsTree (readValue fuel depth text)
  items : ∀ depth text, ∀ result ∈ readItems fuel depth text, ∀ item ∈ result.1, item.IsTree
  inline : ∀ depth (entries : Entries) text, entries.AreSound →
    ∀ result ∈ readInline fuel depth entries text, result.1.AreSound

theorem ReadsTrees.value_succ {fuel : Nat} (reads : ReadsTrees fuel) (depth : Nat)
    (text : List Char) : YieldsTree (readValue (fuel + 1) depth text) := by
  unfold readValue
  dsimp only
  split
  · intro result read
    obtain ⟨_, -, rfl⟩ := Option.map_eq_some_iff.mp read
    exact .string _
  · intro result read
    obtain ⟨_, -, rfl⟩ := Option.map_eq_some_iff.mp read
    exact .string _
  · exact yieldsTree_some (.boolean true) _
  · exact yieldsTree_some (.boolean false) _
  · split
    · split
      · exact yieldsTree_some (.array (List.forall_mem_nil _)) _
      · intro result read
        obtain ⟨items, isItems, rfl⟩ := Option.map_eq_some_iff.mp read
        exact .array (reads.items _ _ items isItems)
    · exact yieldsTree_none
  · split
    · split
      · exact yieldsTree_some (.table hasDistinctKeys_nil (List.forall_mem_nil _)) _
      · intro result read
        obtain ⟨entries, isEntries, rfl⟩ := Option.map_eq_some_iff.mp read
        exact (reads.inline _ _ _ Entries.areSound_nil entries isEntries).isTree
    · exact yieldsTree_none
  · exact yieldsTree_readNumeric _

theorem ReadsTrees.items_succ {fuel : Nat} (reads : ReadsTrees fuel) (depth : Nat)
    (text : List Char) :
    ∀ result ∈ readItems (fuel + 1) depth text, ∀ item ∈ result.1, item.IsTree := by
  intro result read
  rw [readItems] at read
  obtain ⟨⟨first, rest⟩, isFirst, continued⟩ := Option.bind_eq_some_iff.mp read
  have isTree : first.IsTree := reads.value _ _ _ isFirst
  dsimp only at continued
  split at continued
  · split at continued
    · cases continued
      exact List.forall_mem_singleton.mpr isTree
    · obtain ⟨⟨items, rest⟩, isItems, isResult⟩ := Option.bind_eq_some_iff.mp continued
      cases isResult
      exact List.forall_mem_cons.mpr ⟨isTree, reads.items _ _ _ isItems⟩
  · cases continued
    exact List.forall_mem_singleton.mpr isTree
  · cases continued

theorem ReadsTrees.inline_succ {fuel : Nat} (reads : ReadsTrees fuel) (depth : Nat)
    (entries : Entries) (text : List Char) (sound : entries.AreSound) :
    ∀ result ∈ readInline (fuel + 1) depth entries text, result.1.AreSound := by
  intro result read
  rw [readInline] at read
  obtain ⟨⟨path, key, rest⟩, -, continued⟩ := Option.bind_eq_some_iff.mp read
  dsimp only at continued
  split at continued
  · obtain ⟨⟨value, rest⟩, isValue, assigned⟩ := Option.bind_eq_some_iff.mp continued
    obtain ⟨longer, isLonger, ended⟩ := Option.bind_eq_some_iff.mp assigned
    have soundLonger := sound.assign (reads.value _ _ _ isValue) isLonger
    split at ended
    · exact reads.inline _ _ _ soundLonger result ended
    · cases ended
      exact soundLonger
    · cases ended
  · cases continued

theorem readsTrees (fuel : Nat) : ReadsTrees fuel := by
  induction fuel with
  | zero =>
    refine ⟨fun depth text => ?_, fun depth text => ?_, fun depth entries text _ => ?_⟩
    · rw [readValue]
      exact yieldsTree_none
    · rw [readItems]
      exact nofun
    · rw [readInline]
      exact nofun
  | succ fuel reads => exact ⟨reads.value_succ, reads.items_succ, reads.inline_succ⟩

variable {draft result : Draft} {text rest : List Char}

theorem Draft.IsSound.readAssignment (sound : draft.IsSound)
    (read : readAssignment draft text = some (result, rest)) : result.IsSound := by
  obtain ⟨⟨path, key, afterKey⟩, -, continued⟩ := Option.bind_eq_some_iff.mp read
  dsimp only at continued
  split at continued
  · obtain ⟨⟨value, afterValue⟩, isValue, ended⟩ := Option.bind_eq_some_iff.mp continued
    obtain ⟨_, -, assigning⟩ := Option.bind_eq_some_iff.mp ended
    obtain ⟨longer, assigned, isResult⟩ := Option.bind_eq_some_iff.mp assigning
    cases isResult
    exact sound.assign ((readsTrees _).value _ _ _ isValue) assigned
  · cases continued

theorem Draft.IsSound.readHeader (sound : draft.IsSound)
    (read : readHeader draft text = some (result, rest)) : result.IsSound := by
  unfold Toml.readHeader at read
  split at read
  · obtain ⟨⟨path, key, afterKey⟩, -, continued⟩ := Option.bind_eq_some_iff.mp read
    dsimp only at continued
    split at continued
    · obtain ⟨opened, isOpened, ended⟩ := Option.bind_eq_some_iff.mp continued
      obtain ⟨_, -, isResult⟩ := Option.bind_eq_some_iff.mp ended
      cases isResult
      exact sound.openElement isOpened
    · cases continued
  · obtain ⟨⟨path, key, afterKey⟩, -, continued⟩ := Option.bind_eq_some_iff.mp read
    dsimp only at continued
    split at continued
    · obtain ⟨opened, isOpened, ended⟩ := Option.bind_eq_some_iff.mp continued
      obtain ⟨_, -, isResult⟩ := Option.bind_eq_some_iff.mp ended
      cases isResult
      exact sound.openHeader isOpened
    · cases continued
  · cases read

theorem Draft.IsSound.readLines {fuel : Nat} (sound : draft.IsSound)
    (read : readLines fuel draft text = some result) : result.IsSound := by
  induction fuel generalizing draft text with
  | zero => cases read
  | succ fuel inductionHypothesis =>
    rw [Toml.readLines] at read
    split at read
    · cases read
      exact sound
    · obtain ⟨_, -, continued⟩ := Option.bind_eq_some_iff.mp read
      exact inductionHypothesis sound continued
    · obtain ⟨⟨opened, _⟩, isHeader, continued⟩ := Option.bind_eq_some_iff.mp read
      exact inductionHypothesis (sound.readHeader isHeader) continued
    · split at read
      · exact inductionHypothesis sound read
      · obtain ⟨⟨longer, _⟩, isAssignment, continued⟩ := Option.bind_eq_some_iff.mp read
        exact inductionHypothesis (sound.readAssignment isAssignment) continued

/-- What is read from a text is a tree. -/
theorem parse?_isTree {text : String} {entries : List (String × Value)}
    (parsed : parse? text = some entries) : (Value.table entries).IsTree := by
  obtain ⟨draft, isDraft, closing⟩ := Option.bind_eq_some_iff.mp parsed
  obtain ⟨root, closed, isRoot⟩ := Option.bind_eq_some_iff.mp closing
  cases isRoot
  exact ((Draft.isSound_empty.readLines isDraft).close closed).isTree

end WorkHost.Toml

import WorkHost.Decimal.Binary

/-!
Contract: TOML values, and the growth of a document.

While a document is read a table remembers how it came to be (`Origin`), because a
table may be extended later only in the way it was made: a header may define a table
that other headers merely passed through, and dotted keys may extend only tables
that dotted keys have made. A finished table is a list of entries in the order in
which their keys first appeared.
-/

namespace WorkHost.Toml

/-- A floating-point number. -/
inductive Real where
  | finite (negative : Bool) (magnitude : Decimal.Finite)
  | infinite (negative : Bool)
  | nan
deriving DecidableEq, Repr

def Real.text : Real → String
  | .finite negative magnitude => (if negative then "-" else "") ++ magnitude.text
  | .infinite negative => if negative then "-inf" else "inf"
  | .nan => "NaN"

inductive Value where
  | string (text : String)
  | integer (value : Int)
  | real (value : Real)
  | boolean (value : Bool)
  /-- A date, a time, or both. -/
  | moment
  | array (items : List Value)
  | table (entries : List (String × Value))
deriving Repr, Inhabited

/-- How a table came to be. -/
inductive Origin where
  /-- By a header of its own, or as the document. -/
  | explicit
  /-- As a step on the path of a header. -/
  | passed
  /-- By a dotted key. -/
  | dotted
deriving DecidableEq, Repr

/-- What stands under a key of an unfinished document. -/
inductive Node where
  | value (value : Value)
  | table (origin : Origin) (entries : List (String × Node))
  /-- An array of tables, the newest first. -/
  | tables (newest : List (String × Node)) (earlier : List (List (String × Node)))
deriving Inhabited

abbrev Entries := List (String × Node)

namespace Node

mutual

def finish : Node → Value
  | .value leaf => leaf
  | .table _ entries => .table (finishEntries entries)
  | .tables newest earlier =>
    .array ((finishTables earlier).reverse ++ [.table (finishEntries newest)])

def finishEntries : List (String × Node) → List (String × Value)
  | [] => []
  | (key, node) :: rest => (key, finish node) :: finishEntries rest

def finishTables : List (List (String × Node)) → List Value
  | [] => []
  | entries :: rest => .table (finishEntries entries) :: finishTables rest

end

end Node

namespace Entries

def node? (entries : Entries) (key : String) : Option Node :=
  (List.find? (fun entry => entry.1 = key) entries).map Prod.snd

/-- Replaces the entry of a key where it stands, or adds one at the end. -/
def put (entries : Entries) (key : String) (node : Node) : Entries :=
  if entries.any (fun entry => entry.1 = key) then
    entries.map fun entry => if entry.1 = key then (key, node) else entry
  else entries ++ [(key, node)]

def remove (entries : Entries) (key : String) : Entries :=
  entries.filter fun entry => entry.1 ≠ key

/-- Changes the table at the end of a path. Missing tables on the way are made with
the origin `made`; a path of dotted keys must not enter an explicit table. -/
def modify (made : Origin) (path : List String) (origin : Origin) (entries : Entries)
    (change : Origin → Entries → Option Entries) : Option Entries :=
  match path with
  | [] => change origin entries
  | key :: rest =>
    match entries.node? key with
    | none =>
      (modify made rest made [] change).map fun inner =>
        entries.put key (.table made inner)
    | some (.value _) => none
    | some (.tables newest earlier) =>
      (modify made rest .explicit newest change).map fun inner =>
        entries.put key (.tables inner earlier)
    | some (.table inner within) =>
      if made = .dotted ∧ inner = .explicit then none
      else
        (modify made rest inner within change).map fun within =>
          entries.put key (.table inner within)

/-- Adds a value under a dotted key. The last table must have been made by dotted keys
exactly when there is a path to it. -/
def assign (origin : Origin) (entries : Entries) (path : List String) (key : String)
    (value : Value) : Option Entries :=
  entries.modify .dotted path origin fun origin entries =>
    if (origin == .dotted) == path.isEmpty then none
    else if (entries.node? key).isSome then none
    else some (entries.put key (.value value))

end Entries

/-- A document while it is read: the finished part, and the table that the last header
has opened. -/
structure Draft where
  root : Entries
  /-- The path of the open table; empty before the first header. -/
  path : List String
  key : String
  /-- The open table is a new element of an array of tables. -/
  isElement : Bool
  /-- A header has been read. -/
  hasHeader : Bool
  openTable : Entries

namespace Draft

def empty : Draft := ⟨[], [], "", false, false, []⟩

def assign (draft : Draft) (path : List String) (key : String) (value : Value) :
    Option Draft :=
  (draft.openTable.assign .explicit path key value).map fun openTable =>
    { draft with openTable }

/-- The document with the open table put in its place. -/
def close (draft : Draft) : Option Entries :=
  if draft.hasHeader then
    draft.root.modify .passed draft.path .explicit fun _ entries =>
      if draft.isElement then
        match entries.node? draft.key with
        | none => some (entries.put draft.key (.tables draft.openTable []))
        | some (.tables newest earlier) =>
          some (entries.put draft.key (.tables draft.openTable (newest :: earlier)))
        | some _ => none
      else
        match entries.node? draft.key with
        | none => some (entries.put draft.key (.table .explicit draft.openTable))
        | some _ => none
  else some draft.openTable

/-- The entries of the table at the end of a path, without making any. -/
def lookUp (path : List String) (entries : Entries) : Entries :=
  match path with
  | [] => entries
  | key :: rest =>
    match entries.node? key with
    | some (.table _ inner) => lookUp rest inner
    | some (.tables newest _) => lookUp rest newest
    | _ => []

/-- Opens a table by its header. A table that headers have passed through is taken out
of its place and continued. -/
def openHeader (draft : Draft) (path : List String) (key : String) : Option Draft := do
  let root ← draft.close
  let existing := (lookUp path root).node? key
  let openTable ←
    match existing with
    | none => some []
    | some (.table .passed entries) => some entries
    | some _ => none
  let root ← root.modify .passed path .explicit fun _ entries => some (entries.remove key)
  return ⟨root, path, key, false, true, openTable⟩

/-- Opens a new element of an array of tables. -/
def openElement (draft : Draft) (path : List String) (key : String) : Option Draft := do
  let root ← draft.close
  let root ← root.modify .passed path .explicit fun _ entries =>
    match entries.node? key with
    | none => some entries
    | some (.tables _ _) => some entries
    | some _ => none
  return ⟨root, path, key, true, true, []⟩

end Draft

end WorkHost.Toml

import WorkHost.Calendar.Timestamp
import WorkHost.Event.Kind
import WorkHost.Json.Reader
import WorkHost.Json.Writer
import WorkHost.Queue.Policy
import WorkHost.Work.State

/-!
Contract: the JSON form of events and of the values they are made of.

An event kind is an object tagged by its member `type`. Members may come in any
order, members of other names are ignored, and a member of a known name must occur
at most once. An array of the values in the order of the written form is read too.
A kind is held whole before its tag is known, so everything within it has to be
sound (`Value.isSound`), also what is ignored in the end.
-/

namespace WorkHost

open Json Text

def WorkId.toJson (id : WorkId) : Value := .ofString id.text

def WorkId.ofJson? (value : Value) : Option WorkId :=
  value.string?.bind WorkId.parse?

/-- One of a fixed set of names, as a string or as the name of a single null member. -/
def Json.Value.unitName? : Value → Option String
  | .string pieces => text? pieces
  | .object [(name, .null)] => text? name
  | _ => none

def WorkerState.toJson (state : WorkerState) : Value := .ofString state.text

def WorkerState.ofJson? (value : Value) : Option WorkerState :=
  value.unitName?.bind WorkerState.ofText?

def OverflowPolicy.toJson (policy : OverflowPolicy) : Value := .ofString policy.text

def OverflowPolicy.ofJson? (value : Value) : Option OverflowPolicy :=
  value.unitName?.bind OverflowPolicy.ofText?

/-- The members of an object with their names as texts. -/
def namedMembers : List (List Piece × Value) → Option (List (String × Value))
  | [] => some []
  | (name, value) :: rest => do
    let name ← text? name
    let rest ← namedMembers rest
    return (name, value) :: rest

/-- The only value under a name: nothing if the name occurs twice. -/
def optionalMember (members : List (String × Value)) (name : String) : Option (Option Value) :=
  match members.filter (fun member => member.1 = name) with
  | [] => some none
  | [member] => some (some member.2)
  | _ => none

def requiredMember (members : List (String × Value)) (name : String) : Option Value :=
  (optionalMember members name).bind id

/-- A string, or nothing for `null`. -/
def dependencyOfJson? : Value → Option (Option String)
  | .null => some none
  | value => value.string?.map some

def wordOfJson? (value : Value) : Option Nat := value.below? wordLimit

namespace EventKind

/-- The value of the member `type`. -/
def tag : EventKind → String
  | .workerStarted => "worker_started"
  | .workStarted .. => "work_started"
  | .workCompleted .. => "work_completed"
  | .workFailed .. => "work_failed"
  | .workPanicked .. => "work_panicked"
  | .drainStarted => "drain_started"
  | .forcedStop _ => "forced_stop"
  | .workDiscarded _ => "work_discarded"
  | .workerStopped => "worker_stopped"

/-- The members after the tag. -/
def members : EventKind → List (String × Value)
  | .workerStarted | .drainStarted | .workerStopped => []
  | .workStarted id workKind dependency =>
    [("id", id.toJson), ("work_kind", .ofString workKind),
      ("dependency", (dependency.map Value.ofString).getD .null)]
  | .workCompleted id durationMs => [("id", id.toJson), ("duration_ms", .ofNat durationMs)]
  | .workFailed id error durationMs =>
    [("id", id.toJson), ("error", .ofString error), ("duration_ms", .ofNat durationMs)]
  | .workPanicked id message => [("id", id.toJson), ("message", .ofString message)]
  | .forcedStop id => [("id", id.toJson)]
  | .workDiscarded count => [("count", .ofNat count)]

def toJson (kind : EventKind) : Value :=
  .ofMembers (("type", .ofString kind.tag) :: kind.members)

/-- Reads the members of the kind with a given tag. -/
def ofMembers? (tag : String) (members : List (String × Value)) : Option EventKind :=
  let id := (requiredMember members "id").bind WorkId.ofJson?
  let durationMs := (requiredMember members "duration_ms").bind wordOfJson?
  let text (name : String) := (requiredMember members name).bind Value.string?
  match tag with
  | "worker_started" => some .workerStarted
  | "work_started" => do
    let dependency ← optionalMember members "dependency"
    return .workStarted (← id) (← text "work_kind")
      (← dependencyOfJson? (dependency.getD .null))
  | "work_completed" => return .workCompleted (← id) (← durationMs)
  | "work_failed" => return .workFailed (← id) (← text "error") (← durationMs)
  | "work_panicked" => return .workPanicked (← id) (← text "message")
  | "drain_started" => some .drainStarted
  | "forced_stop" => return .forcedStop (← id)
  | "work_discarded" =>
    return .workDiscarded (← (requiredMember members "count").bind wordOfJson?)
  | "worker_stopped" => some .workerStopped
  | _ => none

/-- Reads the values of the kind with a given tag in the order of `members`. -/
def ofItems? (tag : String) (items : List Value) : Option EventKind :=
  match tag, items with
  | "worker_started", [] => some .workerStarted
  | "work_started", [id, workKind, dependency] =>
    return .workStarted (← WorkId.ofJson? id) (← workKind.string?)
      (← dependencyOfJson? dependency)
  | "work_completed", [id, durationMs] =>
    return .workCompleted (← WorkId.ofJson? id) (← wordOfJson? durationMs)
  | "work_failed", [id, error, durationMs] =>
    return .workFailed (← WorkId.ofJson? id) (← error.string?) (← wordOfJson? durationMs)
  | "work_panicked", [id, message] =>
    return .workPanicked (← WorkId.ofJson? id) (← message.string?)
  | "drain_started", [] => some .drainStarted
  | "forced_stop", [id] => return .forcedStop (← WorkId.ofJson? id)
  | "work_discarded", [count] => return .workDiscarded (← wordOfJson? count)
  | "worker_stopped", [] => some .workerStopped
  | _, _ => none

/-- How many containers may lie within one another in a whole text. -/
def nestingLimit : Nat := 127

/-- Reads a kind that lies within `127 - depth` containers. -/
def ofJsonWithin? (depth : Nat) (value : Value) : Option EventKind :=
  if value.isSound depth then
    match value with
    | .object members => do
      let members ← namedMembers members
      let tag ← (requiredMember members "type").bind Value.string?
      ofMembers? tag members
    | .array (tag :: items) => do
      let tag ← tag.string?
      ofItems? tag items
    | _ => none
  else none

def ofJson? (value : Value) : Option EventKind := ofJsonWithin? nestingLimit value

end EventKind

namespace Event

def toJson (event : Event) : Value :=
  .ofMembers [("seq", .ofNat event.seq),
    ("timestamp", .ofString (Calendar.Timestamp.write event.timestamp)),
    ("kind", event.kind.toJson)]

def ofParts? (seq timestamp kind : Value) : Option Event := do
  return ⟨← wordOfJson? seq, ← timestamp.string?.bind Calendar.Timestamp.read?,
    ← EventKind.ofJsonWithin? (EventKind.nestingLimit - 1) kind⟩

def ofJson? (value : Value) : Option Event :=
  match value with
  | .object members => do
    let members ← namedMembers members
    ofParts? (← requiredMember members "seq") (← requiredMember members "timestamp")
      (← requiredMember members "kind")
  | .array [seq, timestamp, kind] => ofParts? seq timestamp kind
  | _ => none

end Event

end WorkHost

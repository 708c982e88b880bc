import WorkHost.Failure
import WorkHost.Text.Quoted
import WorkHost.Toml.Document

/-!
Contract: the settings of scheduled jobs, read from a TOML document.

The document lists tables under the key `job`, each with a name, a schedule and a
switch. Other keys are ignored. Within a table the first known key with a value of
the wrong type is reported; a key that is missing is reported after all of those,
the name first.
-/

namespace WorkHost

open Toml

structure JobSettings where
  name : String
  /-- A cron expression that starts with seconds. -/
  schedule : String
  enabled : Bool
deriving DecidableEq, Repr

/-- How a value differs from what is wanted in its place. -/
inductive ShapeFault where
  | wrongType (found expected : String)
  | missing (key : String)
  | wrongLength (length : Nat)
deriving DecidableEq, Repr

namespace ShapeFault

def message : ShapeFault → String
  | .wrongType found expected => "invalid type: " ++ found ++ ", expected " ++ expected
  | .missing key => "missing field " ++ "`" ++ key ++ "`"
  | .wrongLength length =>
    s!"invalid length {length}, expected struct JobSettings with 3 elements"

end ShapeFault

/-- A value as it is named in a message. -/
def Toml.Value.description : Toml.Value → String
  | .string text => "string " ++ Text.quoted text
  | .integer value => "integer " ++ "`" ++ toString value ++ "`"
  | .real value => "floating point " ++ "`" ++ value.text ++ "`"
  | .boolean value => "boolean " ++ "`" ++ (if value then "true" else "false") ++ "`"
  | .array _ => "sequence"
  | .moment | .table _ => "map"

namespace JobSettings

def text (value : Toml.Value) : Except ShapeFault String :=
  match value with
  | .string text => .ok text
  | value => .error (.wrongType value.description "a string")

def flag (value : Toml.Value) : Except ShapeFault Bool :=
  match value with
  | .boolean flag => .ok flag
  | value => .error (.wrongType value.description "a boolean")

/-- The known keys read so far. -/
structure Partial where
  name : Option String := none
  schedule : Option String := none
  enabled : Option Bool := none
deriving DecidableEq, Repr

/-- Takes in one entry of a job's table. -/
def Partial.add (known : Partial) (key : String) (value : Toml.Value) :
    Except ShapeFault Partial :=
  match key with
  | "name" => (text value).map fun name => { known with name := some name }
  | "schedule" => (text value).map fun schedule => { known with schedule := some schedule }
  | "enabled" => (flag value).map fun enabled => { known with enabled := some enabled }
  | _ => .ok known

def Partial.addAll (known : Partial) : List (String × Toml.Value) → Except ShapeFault Partial
  | [] => .ok known
  | (key, value) :: rest =>
    match known.add key value with
    | .ok known => known.addAll rest
    | .error fault => .error fault

def Partial.complete (known : Partial) : Except ShapeFault JobSettings :=
  match known.name, known.schedule with
  | none, _ => .error (.missing "name")
  | some _, none => .error (.missing "schedule")
  | some name, some schedule => .ok ⟨name, schedule, known.enabled.getD true⟩

def ofEntries (entries : List (String × Toml.Value)) : Except ShapeFault JobSettings :=
  match Partial.addAll {} entries with
  | .ok known => known.complete
  | .error fault => .error fault

/-- A job may also be written as an array of its values in order. -/
def ofItems (items : List Toml.Value) : Except ShapeFault JobSettings :=
  match items with
  | [] => .error (.wrongLength 0)
  | name :: rest => do
    let name ← text name
    match rest with
    | [] => .error (.wrongLength 1)
    | schedule :: rest =>
      let schedule ← text schedule
      match rest with
      | [] => .ok ⟨name, schedule, true⟩
      | enabled :: _ => return ⟨name, schedule, ← flag enabled⟩

def ofValue (value : Toml.Value) : Except ShapeFault JobSettings :=
  match value with
  | .table entries => ofEntries entries
  | .moment => ofEntries []
  | .array items => ofItems items
  | value => .error (.wrongType value.description "struct JobSettings")

def ofValues : List Toml.Value → Except ShapeFault (List JobSettings)
  | [] => .ok []
  | value :: rest =>
    match ofValue value with
    | .error fault => .error fault
    | .ok job => (ofValues rest).map (job :: ·)

end JobSettings

/-- The jobs of a document, in its order. -/
structure JobsFile where
  jobs : List JobSettings
deriving DecidableEq, Repr

/-- Why a text is not a jobs file. -/
inductive JobsFault where
  | malformed
  | shape (fault : ShapeFault)
deriving DecidableEq, Repr

namespace JobsFile

def empty : JobsFile := ⟨[]⟩

/-- The jobs under the key `job` of a document's root table. -/
def ofDocument (entries : List (String × Toml.Value)) : Except ShapeFault JobsFile :=
  match entries.find? (fun entry => entry.1 = "job") with
  | none => .ok empty
  | some (_, .array values) => (JobSettings.ofValues values).map .mk
  | some (_, value) => .error (.wrongType value.description "a sequence")

def parse (text : String) : Except JobsFault JobsFile :=
  match Toml.parse? text with
  | none => .error .malformed
  | some entries => (ofDocument entries).mapError .shape

/-- The jobs that are switched on. -/
def enabled (file : JobsFile) : List JobSettings := file.jobs.filter (·.enabled)

/-- What reading a file from the file system gave. -/
inductive Reading where
  | content (bytes : ByteArray)
  | failed (reason : String)

/-- Why a file could not be read that does not exist, or is a directory. -/
def notFound : String := "No such file or directory (os error 2)"

def isDirectory : String := "Is a directory (os error 21)"

def notText : String := "stream did not contain valid UTF-8"

/-- The jobs of the file at a path, given what reading it gave; `wording` puts a
malformed document into words. -/
def load (path : String) (reading : Reading) (wording : String) : Except Failure JobsFile :=
  let unreadable (reason : String) : Failure :=
    .config ("cannot read jobs file " ++ path ++ ": " ++ reason)
  let bad (reason : String) : Failure := .config ("bad jobs file " ++ path ++ ": " ++ reason)
  match reading with
  | .failed reason => .error (unreadable reason)
  | .content bytes =>
    match String.fromUTF8? bytes with
    | none => .error (unreadable notText)
    | some text =>
      match parse text with
      | .ok file => .ok file
      | .error .malformed => .error (bad wording)
      | .error (.shape fault) => .error (bad fault.message)

end JobsFile

end WorkHost

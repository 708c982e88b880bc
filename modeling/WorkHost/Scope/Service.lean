import WorkHost.Telemetry.Report

/-!
Contract: services, the values that scopes hold.

A service is registered with the steps of its constructor and with what happens when
its scope is disposed. An instance remembers the instances its constructor obtained.
-/

namespace WorkHost

/-- A type of service: its full name for messages, and a short label for log lines. -/
structure ServiceType where
  name : String
  label : String
deriving DecidableEq, Repr, Inhabited

/-- The value that a panic carries. -/
inductive Payload where
  | text (message : String)
  /-- A value whose text is not known. -/
  | other
deriving DecidableEq, Repr, Inhabited

def Payload.message : Payload → String
  | .text message => message
  | .other => "non-string panic payload"

structure Instance where
  type : ServiceType
  serial : Nat
  /-- The instances that its constructor obtained, by type and serial. -/
  dependencies : List (ServiceType × Nat)
deriving DecidableEq, Repr, Inhabited

def Instance.text (held : Instance) : String :=
  held.type.label ++ "#" ++ toString held.serial

/-- One step of a constructor. -/
inductive BuildStep where
  /-- Resolves another service; its failure is the constructor's. -/
  | get (type : ServiceType)
  /-- Resolves another service; its failure is only noted. -/
  | tryGet (type : ServiceType)
  | fail (root : String) (contexts : List String)
  | panic (message : String)
  | log (text : String)
deriving DecidableEq, Repr

/-- What happens to an instance when its scope is disposed. -/
inductive Disposal where
  | silent
  | logged
  | panicking
deriving DecidableEq, Repr

structure Service where
  type : ServiceType
  steps : List BuildStep
  disposal : Disposal
deriving DecidableEq, Repr

/-- State to which log lines can be written. -/
class Logbook (τ : Type) where
  write : τ → String → τ

/-- What is logged and reported, and the serial that the next instance gets. -/
structure Journal where
  nextSerial : Nat
  /-- In the order in which they were written. -/
  lines : List String
  reports : List Report
deriving DecidableEq, Repr, Inhabited

namespace Journal

/-- A journal without entries. -/
def ofSerial (nextSerial : Nat) : Journal := ⟨nextSerial, [], []⟩

def write (journal : Journal) (line : String) : Journal :=
  { journal with lines := journal.lines ++ [line] }

def report (journal : Journal) (report : Report) : Journal :=
  { journal with reports := journal.reports ++ [report] }

/-- Takes the next serial. -/
def advance (journal : Journal) : Journal :=
  { journal with nextSerial := journal.nextSerial + 1 }

instance : Logbook Journal := ⟨write⟩

end Journal

/-- The registered services, at most one for each type. -/
structure Container where
  services : List Service
deriving DecidableEq, Repr, Inhabited

def findService? (services : List Service) (type : ServiceType) : Option Service :=
  services.find? fun service => service.type = type

namespace Container

def empty : Container := ⟨[]⟩

/-- A later registration replaces an earlier one of the same type. -/
def register (container : Container) (service : Service) : Container :=
  ⟨container.services.filter (fun other => other.type ≠ service.type) ++ [service]⟩

def ofServices (services : List Service) : Container :=
  services.foldl register empty

def isRegistered (container : Container) (type : ServiceType) : Bool :=
  (findService? container.services type).isSome

end Container

end WorkHost

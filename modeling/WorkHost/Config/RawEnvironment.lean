import WorkHost.Config.Settings

/-!
Contract: the variables of a process as the system keeps them.

A value is a sequence of bytes, which need not be text. Reading a variable as text can fail in
two ways, and the settings take both for a variable that is not set.
-/

namespace WorkHost

/-- The variables that are set, with the bytes of their values. -/
abbrev RawEnvironment := String → Option ByteArray

/-- Why a variable cannot be read as text. -/
inductive VariableFault where
  | notSet
  | notText (bytes : ByteArray)

namespace RawEnvironment

def read (system : RawEnvironment) (name : String) : Except VariableFault String :=
  match system name with
  | none => .error .notSet
  | some bytes =>
    match String.fromUTF8? bytes with
    | some text => .ok text
    | none => .error (.notText bytes)

/-- The variables that can be read as text. -/
def texts (system : RawEnvironment) : Environment := fun name =>
  match system.read name with
  | .ok text => some text
  | .error _ => none

end RawEnvironment

/-- The settings of a process. -/
def HostConfig.ofRaw (system : RawEnvironment) : Except Failure HostConfig :=
  ofEnvironment system.texts

end WorkHost

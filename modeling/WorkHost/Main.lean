import WorkHost.Command.Program
import WorkHost.Config.RawEnvironment

/-!
Contract: the command line. It reads the surroundings, runs the program and prints what
the program shows; a service then waits until it is interrupted.
-/

namespace WorkHost

/-- The bytes up to each zero byte. -/
def splitAtZeros : List UInt8 → List (List UInt8)
  | [] => [[]]
  | byte :: rest =>
    match splitAtZeros rest with
    | [] => [[byte]]
    | part :: parts => if byte = 0 then [] :: part :: parts else (byte :: part) :: parts

/-- A variable that is written with an equal sign after its name, if its name is text. -/
def readVariable (entry : List UInt8) : Option (String × ByteArray) := do
  let isPartOfName (byte : UInt8) : Bool := byte.toNat ≠ '='.toNat
  let name ← String.fromUTF8? ⟨(entry.takeWhile isPartOfName).toArray⟩
  match entry.dropWhile isPartOfName with
  | [] => none
  | _ :: value => return (name, ⟨value.toArray⟩)

/-- The variables of this process. -/
def readEnvironment : IO (List (String × ByteArray)) := do
  let block ← IO.FS.readBinFile "/proc/self/environ"
  return (splitAtZeros block.data.toList).filterMap readVariable

def readTextFile (path : String) : IO (Option String) := do
  try return some (← IO.FS.readFile path) catch _ => return none

def readJobsFile (path : String) : IO JobsFile.Reading := do
  try return .content (← IO.FS.readBinFile path)
  catch
  | .noFileOrDirectory .. => return .failed JobsFile.notFound
  | .inappropriateType .. => return .failed JobsFile.isDirectory
  | problem => return .failed (toString problem)

/-- Identifiers that are spread out from a random start. -/
def randomIdentities : IO DemoIdentities := do
  let bytes ← IO.getRandomBytes 32
  let start := bytes.foldl (fun value byte => value * 256 + byte.toNat) 0
  return ⟨fun number => .ofEntropy (2 * number * start),
    fun number => .ofEntropy ((2 * number + 1) * start)⟩

/-- The time of a file that was just made. -/
def currentTime : IO Calendar.Instant := do
  let (_, path) ← IO.FS.createTempFile
  let metadata ← path.metadata
  IO.FS.removeFile path
  let ⟨seconds, nanos⟩ := metadata.modified
  return ⟨seconds, nanos.toNat⟩

/-- Waits until the process is interrupted. -/
partial def waitForever : IO Unit := do
  IO.sleep 1000
  waitForever

end WorkHost

open WorkHost

def main (arguments : List String) : IO UInt32 := do
  let settings ← readEnvironment
  let invocation := Invocation.ofArguments arguments
  let reading ←
    match invocation with
    | .serve ⟨some path, _⟩ => readJobsFile path
    | _ => pure (.failed JobsFile.notFound)
  let context : ProgramContext :=
    { environment := RawEnvironment.texts fun name => settings.lookup name
      envFile := ← readTextFile ".env"
      read := fun _ => reading
      malformed := "the text is not a TOML document"
      identities := ← randomIdentities
      clock := ← currentTime }
  let result := context.run arguments
  result.output.forM fun line => IO.println line.render
  result.complaint.forM fun line => IO.eprintln line
  (← IO.getStdout).flush
  match invocation, result.code with
  | .serve _, 0 => waitForever
  | _, _ => pure ()
  return result.code.toUInt32

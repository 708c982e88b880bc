import WorkHost.Telemetry.Pattern
import WorkHost.Telemetry.Report
import WorkHost.Text.Cut

/-!
Contract: filters that choose which log lines and spans are recorded.

A filter is a list of directives separated by commas. A directive is a level, a target,
or a target with a level; it may also name a span and a field of it in brackets. A
target covers every target that it begins.

Log lines, and spans that no bracket covers, are decided by the most specific directive
without a span's name and without a field's value. A span that a bracket covers is
recorded whatever the level of that directive, unless its own level is beyond every
level of the filter.
-/

namespace WorkHost

/-- The most verbose level recorded; nothing is recorded without one. -/
abbrev LevelFilter := Option Level

namespace LevelFilter

def names : List (String × LevelFilter) :=
  [("error", some .error), ("warn", some .warn), ("info", some .info),
    ("debug", some .debug), ("trace", some .trace), ("off", none)]

/-- A level by its number, from 0 for none to 5, or by its name in any case. -/
def parse? (text : String) : Option LevelFilter :=
  match Text.readNumeral 6 text.toList with
  | .ok number => some (if number = 0 then none else Level.all[number - 1]?)
  | .error _ =>
    let lowered := String.ofList (Text.lowerAscii text.toList)
    (names.find? (fun entry => entry.1 = lowered)).map Prod.snd

def records (filter : LevelFilter) (level : Level) : Bool :=
  match filter with
  | some most => level.verbosity ≤ most.verbosity
  | none => false

end LevelFilter

/-- A field that a span has to declare, and a value that it may have to take on. -/
structure FieldMatch where
  name : String
  value : Option String
deriving DecidableEq, Repr

structure Directive where
  /-- Covers every target if absent. -/
  target : Option String
  /-- The name of the spans meant, if it matters. -/
  span : Option String
  fields : List FieldMatch
  level : LevelFilter
deriving DecidableEq, Repr

structure LogFilter where
  directives : List Directive
deriving DecidableEq, Repr

/-- A place where spans are opened. -/
structure SpanSite where
  target : String
  name : String
  /-- The names of the fields that its spans declare. -/
  fields : List String
  level : Level
deriving DecidableEq, Repr

/-! ## Reading directives -/

inductive DirectiveFault where
  | malformed
  /-- A part of the directive would begin or end within a character. -/
  | torn
deriving DecidableEq, Repr

namespace Directive

/-- What is being read of a directive, and where it began. -/
inductive Part where
  | start
  /-- A level or a target. -/
  | word (first : Nat)
  | span (first : Nat)
  | field (first : Nat)
  /-- Behind the brace after a field. -/
  | closedField
  /-- Behind a bracket. -/
  | closedSpan
  | level (first : Nat)
deriving DecidableEq, Repr

/-- The text between two places. -/
def slice (text : List Char) (first last : Nat) : Except DirectiveFault (List Char) :=
  match (Text.dropBytes? first text).bind (Text.takeBytes? (last - first)) with
  | some chars => .ok chars
  | none => .error .torn

/-- The text from a place on. -/
def sliceFrom (text : List Char) (first : Nat) : Except DirectiveFault (List Char) :=
  match Text.dropBytes? first text with
  | some chars => .ok chars
  | none => .error .torn

def readField (text : List Char) : Except DirectiveFault FieldMatch :=
  let name := text.takeWhile (· != '=')
  match text, text.drop name.length with
  | [], _ => .error .malformed
  | _, [] => .ok ⟨String.ofList name, none⟩
  | _, _ :: rest =>
    let value := rest.takeWhile (· != '=')
    if Pattern.isValue value then .ok ⟨String.ofList name, some (String.ofList value)⟩
    else .error .malformed

/-- A level after an equal sign; everything is meant without one. -/
def readLevel (text : List Char) : Except DirectiveFault LevelFilter :=
  if text.isEmpty then .ok (some .trace)
  else
    match LevelFilter.parse? (String.ofList text) with
    | some level => .ok level
    | none => .error .malformed

def mayStart (c : Char) : Bool :=
  c == '-' || c == ':' || c == '_' || Text.isAlphanumeric c

/-- Goes on with the character `c` at the place `here`. -/
def next (text : List Char) (here : Nat) (c : Char) (part : Part) (directive : Directive) :
    Except DirectiveFault (Part × Directive) :=
  match part with
  | .start =>
    if c = '[' then .ok (.span (here + 1), directive)
    else if mayStart c then .ok (.word here, directive)
    else .error .malformed
  | .word first =>
    if c = '=' ∨ c = '[' then do
      let target := some (String.ofList (← slice text first here))
      return (if c = '=' then .level (here + 1) else .span (here + 1), { directive with target })
    else .ok (part, directive)
  | .span first =>
    if c = ']' then do
      let span := some (String.ofList (← slice text first here))
      return (.closedSpan, { directive with span })
    else if c = '\x7b' then do
      let name ← slice text first here
      let span := if name.isEmpty then none else some (String.ofList name)
      return (.field (here + 1), { directive with span })
    else .ok (part, directive)
  | .field first =>
    if c = '\x7d' then do
      let field ← readField (← slice text first here)
      return (.closedField, { directive with fields := directive.fields ++ [field] })
    else .ok (part, directive)
  | .closedField =>
    if c = ']' then .ok (.closedSpan, directive) else .error .malformed
  | .closedSpan =>
    if c = '=' then .ok (.level (here + 1), directive) else .error .malformed
  | .level _ => .ok (part, directive)

/-- Goes on to the end of the text. -/
def readParts (text : List Char) :
    Nat → List Char → Part → Directive → Except DirectiveFault (Part × Directive)
  | _, [], part, directive => .ok (part, directive)
  | here, c :: rest, part, directive => do
    let (part, directive) ← next text here c part directive
    readParts text (here + c.utf8Size) rest part directive

/-- Ends a directive with what is being read of it. -/
def finish (text : List Char) (part : Part) (directive : Directive) :
    Except DirectiveFault Directive :=
  match part with
  | .word first => do
    let word := String.ofList (← sliceFrom text first)
    match LevelFilter.parse? word with
    | some level => return { directive with level }
    | none => return { directive with target := some word }
  | .level first => do
    let level ← readLevel (← sliceFrom text first)
    return { directive with level }
  | .closedSpan => .ok directive
  | _ => .error .malformed

/-- Reads a directive. Its parts are found without the blanks around it and are then
taken from the text with them, so that blanks before it shift them. -/
def parse (written : String) : Except DirectiveFault Directive := do
  let text := written.toList
  let (part, directive) ←
    readParts text 0 (Text.trimBlanks text) .start ⟨none, none, [], some .trace⟩
  finish text part directive

/-! ## What a directive covers -/

def covers (directive : Directive) (target : String) : Bool :=
  match directive.target with
  | none => true
  | some covering => covering.toList.isPrefixOf target.toList

/-- Whether it has something in brackets. -/
def isBracketed (directive : Directive) : Bool :=
  directive.span.isSome || !directive.fields.isEmpty

def hasValue (directive : Directive) : Bool :=
  directive.fields.any fun field => field.value.isSome

/-- Whether a bracket covers the spans of a site. -/
def coversSpan (directive : Directive) (site : SpanSite) : Bool :=
  directive.isBracketed && directive.covers site.target
    && directive.span.all (· == site.name)
    && directive.fields.all fun field => site.fields.contains field.name

/-- Whether it decides about more than the spans of one name or with one value. -/
def isGeneral (directive : Directive) : Bool := directive.span.isNone && !directive.hasValue

def fieldNames (directive : Directive) : List String := directive.fields.map FieldMatch.name

/-- The longer its target and the more fields it has, the more specific a directive is;
then the names of the fields count. -/
def lessSpecific (left right : Directive) : Bool :=
  let length (directive : Directive) : Nat :=
    match directive.target with
    | none => 0
    | some target => target.length + 1
  if length left ≠ length right then length left < length right
  else if left.fields.length ≠ right.fields.length then
    left.fields.length < right.fields.length
  else decide (left.fieldNames < right.fieldNames)

end Directive

namespace LogFilter

/-! ## Reading filters -/

/-- The filter that gives every target the same level. -/
def ofLevel (level : LevelFilter) : LogFilter := ⟨[⟨none, none, [], level⟩]⟩

def parts (text : String) : List String :=
  (text.splitOn ",").filter fun part => !part.isEmpty

/-- Reads a filter in which every directive is well formed. Without any, nothing is
recorded. -/
def parse (text : String) : Except DirectiveFault LogFilter := do
  let directives ← (parts text).mapM Directive.parse
  return if directives.isEmpty then ofLevel none else ⟨directives⟩

/-- The well-formed ones of several directives, unless one is torn. -/
def wellFormed : List String → Option (List Directive)
  | [] => some []
  | part :: rest =>
    match Directive.parse part with
    | .ok directive => (wellFormed rest).map (directive :: ·)
    | .error .malformed => wellFormed rest
    | .error .torn => none

/-- Reads a filter and leaves out the malformed directives. Without any other, errors
alone are recorded. -/
def parseLenient? (text : String) : Option LogFilter :=
  (wellFormed (parts text)).map fun directives =>
    if directives.isEmpty then ofLevel (some .error) else ⟨directives⟩

/-! ## What a filter records -/

/-- Whether any directive could let a level pass. Spans of all levels have to be looked
at where the value of a field matters. -/
def considers (filter : LogFilter) (level : Level) : Bool :=
  filter.directives.any fun directive => directive.hasValue || directive.level.records level

/-- The more specific of two directives, the later one if they are equally specific. -/
def prefer (best : Option Directive) (directive : Directive) : Option Directive :=
  match best with
  | none => some directive
  | some other => some (if directive.lessSpecific other then other else directive)

/-- Whether the most specific one of some directives lets a level pass. -/
def decides (directives : List Directive) (level : Level) : Bool :=
  match directives.foldl prefer none with
  | some directive => directive.level.records level
  | none => false

def general (filter : LogFilter) (target : String) : List Directive :=
  filter.directives.filter fun directive => directive.isGeneral && directive.covers target

/-- Whether a log line is recorded that has no fields. -/
def enables (filter : LogFilter) (target : String) (level : Level) : Bool :=
  filter.considers level
    && decides ((filter.general target).filter fun directive => directive.fields.isEmpty) level

/-- Whether the spans of a site are recorded. -/
def enablesSpan (filter : LogFilter) (site : SpanSite) : Bool :=
  filter.considers site.level
    && (filter.directives.any (·.coversSpan site)
      || decides (filter.general site.target) site.level)

end LogFilter

end WorkHost

import WorkHost.Text.Numeral

/-!
Contract: the arguments of the command line.

There are two subcommands, each with options of its own. An option is given at most
once, its value after a blank or an equal sign. Arguments are read from the left, and
the first thing that settles the matter does so: a request for help or a misuse.
-/

namespace WorkHost

/-- What the demonstration is to do. -/
structure DemoOptions where
  items : Nat
  /-- Every how many items one fails; 0 for never. -/
  failEvery : Nat
  /-- How long every item takes. -/
  workMs : Nat
  /-- Print events instead of a summary. -/
  json : Bool
deriving DecidableEq, Repr

def DemoOptions.default : DemoOptions := ⟨10, 4, 50, false⟩

structure ServeOptions where
  /-- The path of the jobs file. -/
  jobs : Option String
  json : Bool
deriving DecidableEq, Repr

def ServeOptions.default : ServeOptions := ⟨none, false⟩

inductive HelpTopic where
  | overview
  | serve
  | demo
  | help
deriving DecidableEq, Repr

inductive Invocation where
  | serve (options : ServeOptions)
  | demo (options : DemoOptions)
  | help (topic : HelpTopic)
  | misuse
deriving DecidableEq, Repr

/-- What an option takes, and how it changes the settings; a value can be refused. -/
inductive OptionEffect (σ : Type) where
  | flag (apply : σ → σ)
  | valued (apply : String → σ → Option σ)

structure OptionRule (σ : Type) where
  /-- The name after two hyphens. -/
  name : String
  effect : OptionEffect σ

/-- What reading options comes to. -/
inductive OptionReading (σ : Type) where
  | settings (value : σ)
  | help
  | misuse

namespace OptionReading

/-- The name and the value on either side of the first equal sign. -/
def splitAtEqual : List Char → List Char × Option (List Char)
  | [] => ([], none)
  | c :: rest =>
    if c = '=' then ([], some rest)
    else
      let (name, value) := splitAtEqual rest
      (c :: name, value)

/-- Whether an argument cannot be the value of the option before it. -/
def looksLikeOption (argument : String) : Bool :=
  match argument.toList with
  | '-' :: _ :: _ => true
  | _ => false

/-- Reads options; `seen` holds the names of those read so far. -/
def read {σ : Type} (rules : List (OptionRule σ)) (seen : List String) (settings : σ) :
    List String → OptionReading σ
  | [] => .settings settings
  | argument :: rest =>
    match argument.toList with
    | ['-', '-'] => if rest.isEmpty then .settings settings else .misuse
    | '-' :: '-' :: text =>
      let (name, value) := splitAtEqual text
      let name := String.ofList name
      if name = "help" then (if value.isNone then .help else .misuse)
      else
        match rules.find? (fun rule => rule.name = name) with
        | none => .misuse
        | some rule =>
          if seen.contains name then .misuse
          else
            match rule.effect, value, rest with
            | .flag apply, none, rest => read rules (name :: seen) (apply settings) rest
            | .flag _, some _, _ => .misuse
            | .valued apply, some value, rest =>
              match apply (String.ofList value) settings with
              | some settings => read rules (name :: seen) settings rest
              | none => .misuse
            | .valued _, none, [] => .misuse
            | .valued apply, none, value :: rest =>
              if looksLikeOption value then .misuse
              else
                match apply value settings with
                | some settings => read rules (name :: seen) settings rest
                | none => .misuse
    | '-' :: 'h' :: _ => .help
    | _ => .misuse

end OptionReading

/-- The value of an option that takes a number of 64 bits. -/
def optionNumber (text : String) : Option Nat :=
  (Text.readNumeral Text.wordLimit text.toList).toOption

namespace DemoOptions

def rules : List (OptionRule DemoOptions) :=
  [⟨"items", .valued fun text options =>
      (optionNumber text).map fun items => { options with items }⟩,
    ⟨"fail-every", .valued fun text options =>
      (optionNumber text).map fun failEvery => { options with failEvery }⟩,
    ⟨"work-ms", .valued fun text options =>
      (optionNumber text).map fun workMs => { options with workMs }⟩,
    ⟨"json", .flag fun options => { options with json := true }⟩]

end DemoOptions

namespace ServeOptions

/-- A path is not empty. -/
def rules : List (OptionRule ServeOptions) :=
  [⟨"jobs", .valued fun path options =>
      if path.isEmpty then none else some { options with jobs := some path }⟩,
    ⟨"json", .flag fun options => { options with json := true }⟩]

end ServeOptions

namespace Invocation

/-- The topic of a request for help. -/
def ofTopics : List String → Invocation
  | [] => .help .overview
  | ["serve"] => .help .serve
  | ["demo"] => .help .demo
  | ["help"] => .help .help
  | _ => .misuse

def ofArguments : List String → Invocation
  | [] => .misuse
  | "serve" :: rest =>
    match OptionReading.read ServeOptions.rules [] .default rest with
    | .settings options => .serve options
    | .help => .help .serve
    | .misuse => .misuse
  | "demo" :: rest =>
    match OptionReading.read DemoOptions.rules [] .default rest with
    | .settings options => .demo options
    | .help => .help .demo
    | .misuse => .misuse
  | "help" :: topics => ofTopics topics
  | argument :: _ =>
    match argument.toList with
    | '-' :: 'h' :: _ => .help .overview
    | _ => if argument = "--help" then .help .overview else .misuse

end Invocation

end WorkHost

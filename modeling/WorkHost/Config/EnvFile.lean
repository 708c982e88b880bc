import WorkHost.Config.Settings
import WorkHost.Text.Alphanumeric
import WorkHost.Text.Blank

/-!
Contract: environment variables from a file of assignments.

Each line assigns a value to a name, possibly after the word `export`. Values may be
quoted in two ways, may have escapes, may run over several lines within quotes and may
name other variables after a dollar sign. A variable that is set already keeps its
value. The first malformed line ends the reading; the assignments before it hold. A
variable that cannot have its value ends the whole program.
-/

namespace WorkHost.EnvFile

open Text

/-! ## Lines -/

/-- What has been read of a line that may go on after a line break. -/
inductive LineState where
  | complete
  | blank
  | escape
  | weak
  | weakEscape
  | strong
  | strongEscape
deriving DecidableEq, Repr

def LineState.outside : Char → LineState
  | '\\' => .escape
  | '"' => .weak
  | '\'' => .strong
  | _ => .complete

/-- The state after one more character; a comment is seen to by `scan`. -/
def LineState.next (state : LineState) (c : Char) : LineState :=
  match state with
  | .blank => .outside c
  | .complete =>
    if isBlank c && c != '\n' && c != '\r' then .blank else .outside c
  | .escape => .complete
  | .weak => if c = '\\' then .weakEscape else if c = '"' then .complete else .weak
  | .weakEscape => .weak
  | .strong => if c = '\\' then .strongEscape else if c = '\'' then .complete else .strong
  | .strongEscape => .strong

/-- Reads on to the end, or to a comment after a blank; gives what precedes it. -/
def scan : LineState → List Char → Option LineState × List Char
  | state, [] => (some state, [])
  | state, c :: rest =>
    if state = .blank ∧ c = '#' then (none, [])
    else
      let (final, kept) := scan (state.next c) rest
      (final, c :: kept)

/-- Lines with their line breaks. -/
def splitLines : List Char → List (List Char)
  | [] => []
  | c :: rest =>
    if c = '\n' then [c] :: splitLines rest
    else
      match splitLines rest with
      | [] => [[c]]
      | line :: lines => (c :: line) :: lines

/-- Removes one line break at the end. -/
def chomp (line : List Char) : List Char :=
  match line.reverse with
  | '\n' :: '\r' :: rest | '\n' :: rest => rest.reverse
  | _ => line

/-- Joins lines whose quotes are still open; nothing stands for an open end. -/
def joinLines : List Char → LineState → List (List Char) → List (Option (List Char))
  | _, state, [] => if state = .complete then [] else [none]
  | begun, state, line :: rest =>
    let whole := begun ++ line
    if (skipBlanks whole).head? = some '#' then some [] :: joinLines [] .complete rest
    else
      match scan state line with
      | (none, kept) => some (begun ++ kept) :: joinLines [] .complete rest
      | (some .complete, _) => some (chomp whole) :: joinLines [] .complete rest
      | (some state, _) => joinLines whole state rest

/-! ## Values -/

inductive Substitution where
  | none
  | plain (name : List Char)
  | braced (name : List Char)
deriving DecidableEq, Repr

/-- What has been read of a value. -/
structure ValueState where
  strong : Bool := false
  weak : Bool := false
  escaped : Bool := false
  /-- A blank outside quotes was read, so that only a comment may follow. -/
  ended : Bool := false
  /-- A comment was read. -/
  comment : Bool := false
  substitution : Substitution := .none
  output : List Char := []
deriving DecidableEq, Repr

namespace ValueState

def push (state : ValueState) (c : Char) : ValueState :=
  { state with output := state.output ++ [c] }

/-- Replaces the name read so far by its value. -/
def substitute (state : ValueState) (lookup : String → String) (name : List Char) :
    ValueState :=
  { state with
    substitution := .none
    output := state.output ++ (lookup (String.ofList name)).toList }

/-- A character outside escapes, strong quotes and names. -/
def plainChar (state : ValueState) (c : Char) : ValueState :=
  if c = '$' then { state with substitution := .plain [] }
  else if state.weak then
    if c = '"' then { state with weak := false }
    else if c = '\\' then { state with escaped := true }
    else state.push c
  else if c = '\'' then { state with strong := true }
  else if c = '"' then { state with weak := true }
  else if c = '\\' then { state with escaped := true }
  else if c = ' ' ∨ c = '\t' then { state with ended := true }
  else state.push c

/-- Takes in one character of a value, unless it is malformed there. -/
def next? (state : ValueState) (lookup : String → String) (c : Char) : Option ValueState :=
  if state.comment then some state
  else if state.ended then
    if c = ' ' ∨ c = '\t' then some state
    else if c = '#' then some { state with comment := true }
    else none
  else if state.escaped then
    let state := { state with escaped := false }
    if ['\\', '\'', '"', '$', ' '].contains c then some (state.push c)
    else if c = 'n' then some (state.push '\n')
    else none
  else if state.strong then
    some (if c = '\'' then { state with strong := false } else state.push c)
  else
    match state.substitution with
    | .none => some (state.plainChar c)
    | .plain name =>
      if isAlphanumeric c then some { state with substitution := .plain (name ++ [c]) }
      else if c = '\x7b' ∧ name = [] then some { state with substitution := .braced [] }
      else
        let state := state.substitute lookup name
        some (if c = '$' then { state with substitution := .plain [] } else state.push c)
    | .braced name =>
      if c = '\x7d' then some (state.substitute lookup name)
      else some { state with substitution := .braced (name ++ [c]) }

/-- The value, unless quotes or braces are still open. -/
def finish? (state : ValueState) (lookup : String → String) : Option String :=
  if state.strong ∨ state.weak then none
  else
    match state.substitution with
    | .none => some (String.ofList state.output)
    | .plain name => some (String.ofList (state.substitute lookup name).output)
    | .braced _ => none

end ValueState

def readValue (lookup : String → String) (state : ValueState) : List Char → Option String
  | [] => state.finish? lookup
  | c :: rest => (state.next? lookup c).bind fun state => readValue lookup state rest

/-! ## Assignments -/

def isKeyChar (c : Char) : Bool := c.isAlphanum || c == '_' || c == '.'

/-- A name at the start of a text, and what follows it. -/
def readKey (text : List Char) : Option (String × List Char) :=
  match text with
  | c :: _ =>
    if c.isAlpha || c == '_' then
      some (String.ofList (text.takeWhile isKeyChar), text.dropWhile isKeyChar)
    else none
  | [] => none

def readEqual : List Char → Option (List Char)
  | '=' :: rest => some rest
  | _ => none

inductive Line where
  | nothing
  | assignment (key value : String)
  | malformed
deriving DecidableEq, Repr

/-- The name that a line assigns to, and the text of the value. -/
def readTarget (text : List Char) : Option (String × List Char) := do
  let (key, rest) ← readKey text
  let rest := skipBlanks rest
  match readEqual rest with
  | some rest => return (key, skipBlanks rest)
  | none =>
    if key = "export" then
      let (key, rest) ← readKey rest
      return (key, skipBlanks (← readEqual (skipBlanks rest)))
    else none

def readLine (lookup : String → String) (line : List Char) : Line :=
  let text := trimBlanks line
  if text.isEmpty ∨ text.head? = some '#' then .nothing
  else
    match readTarget text with
    | none => .malformed
    | some (key, value) =>
      if value.isEmpty ∨ value.head? = some '#' then .assignment key ""
      else
        match readValue lookup {} value with
        | some value => .assignment key value
        | none => .malformed

/-! ## Files -/

def setVariable (environment : Environment) (key value : String) : Environment :=
  fun name => if name = key then some value else environment name

/-- What follows a text at the start of another one. -/
def afterStart? (start text : List Char) : Option (List Char) :=
  if start.isPrefixOf text then some (text.drop start.length) else none

/-- The value of a variable in the environment. The environment is a list of entries
`name=value`, so a name may itself hold an equal sign and the start of a value. -/
def find? (environment : Environment) (name : String) : Option String :=
  let shortName := name.toList.takeWhile (· != '=')
  match name.toList.drop shortName.length with
  | [] => environment name
  | _ :: start => do
    let value ← environment (String.ofList shortName)
    let rest ← afterStart? (start ++ ['=']) value.toList
    return String.ofList rest

/-- The value that a name stands for within a value: that of the environment, else the
latest one in the file. -/
def lookup (environment assigned : Environment) (name : String) : String :=
  ((find? environment name).or (assigned name)).getD ""

/-- Whether a variable can have the value: no value holds a zero character. -/
def isSettable (value : String) : Bool := !value.toList.contains '\x00'

/-- Takes in lines; `assigned` holds the latest value of every name in the file. Gives
nothing if a variable would get a value that it cannot have. -/
def loadLines (environment assigned : Environment) :
    List (Option (List Char)) → Option Environment
  | [] => some environment
  | none :: _ => some environment
  | some line :: rest =>
    match readLine (lookup environment assigned) line with
    | .malformed => some environment
    | .nothing => loadLines environment assigned rest
    | .assignment key value =>
      let assigned := setVariable assigned key value
      if (environment key).isSome then loadLines environment assigned rest
      else if isSettable value then
        loadLines (setVariable environment key value) assigned rest
      else none

/-- The environment with the assignments of a file added. -/
def load? (environment : Environment) (text : String) : Option Environment :=
  let chars :=
    match text.toList with
    | '\ufeff' :: rest => rest
    | chars => chars
  loadLines environment (fun _ => none) (joinLines [] .complete (splitLines chars))

end WorkHost.EnvFile

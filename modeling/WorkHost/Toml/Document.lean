import WorkHost.Toml.Lexeme

/-!
Contract: reading TOML documents.

`parse?` accepts the documents of TOML 1.0, with a byte order mark before them or
not. Every call that goes deeper consumes a character first or starts a part of a
list, so twice the length of the text bounds the depth of calls; how deep values may
nest is a limit of its own.
-/

namespace WorkHost.Toml

mutual

/-- A value within `depth` containers. -/
def readValue : Nat → Nat → List Char → Option (Value × List Char)
  | 0, _, _ => none
  | fuel + 1, depth, text =>
    match text with
    | '"' :: _ | '\'' :: _ =>
      (readString text).map fun (chars, rest) => (.string chars, rest)
    | 't' :: 'r' :: 'u' :: 'e' :: rest => some (.boolean true, rest)
    | 'f' :: 'a' :: 'l' :: 's' :: 'e' :: rest => some (.boolean false, rest)
    | '[' :: rest =>
      if depth + 1 < nestingLimit then
        match skipLines (rest.length + 1) rest with
        | ']' :: rest => some (.array [], rest)
        | rest =>
          (readItems fuel (depth + 1) rest).map fun (items, rest) => (.array items, rest)
      else none
    | '\x7b' :: rest =>
      if depth + 1 < nestingLimit then
        match skipSpace rest with
        | '\x7d' :: rest => some (.table [], rest)
        | rest =>
          (readInline fuel (depth + 1) [] rest).map fun (entries, rest) =>
            (.table (Node.finishEntries entries), rest)
      else none
    | text => readNumeric text

/-- One or more values and the closing bracket; a comma may stand before it. -/
def readItems : Nat → Nat → List Char → Option (List Value × List Char)
  | 0, _, _ => none
  | fuel + 1, depth, text => do
    let (value, rest) ← readValue fuel depth text
    match skipLines (rest.length + 1) rest with
    | ',' :: rest =>
      match skipLines (rest.length + 1) rest with
      | ']' :: rest => return ([value], rest)
      | rest =>
        let (items, rest) ← readItems fuel depth rest
        return (value :: items, rest)
    | ']' :: rest => return ([value], rest)
    | _ => none

/-- One or more assignments of an inline table and the closing brace. -/
def readInline : Nat → Nat → Entries → List Char → Option (Entries × List Char)
  | 0, _, _, _ => none
  | fuel + 1, depth, entries, text => do
    let (path, key, rest) ← readKey text
    match rest with
    | '=' :: rest =>
      let (value, rest) ← readValue fuel depth (skipSpace rest)
      let entries ← entries.assign .explicit path key value
      match skipSpace rest with
      | ',' :: rest => readInline fuel depth entries rest
      | '\x7d' :: rest => return (entries, rest)
      | _ => none
    | _ => none

end

/-- An assignment on a line of its own. -/
def readAssignment (draft : Draft) (text : List Char) : Option (Draft × List Char) := do
  let (path, key, rest) ← readKey text
  match rest with
  | '=' :: rest =>
    let (value, rest) ← readValue (2 * rest.length + 2) 0 (skipSpace rest)
    let rest ← endLine rest
    let draft ← draft.assign path key value
    return (draft, rest)
  | _ => none

/-- A header in single or double brackets, on a line of its own. -/
def readHeader (draft : Draft) (text : List Char) : Option (Draft × List Char) :=
  match text with
  | '[' :: '[' :: rest => do
    let (path, key, rest) ← readKey rest
    match rest with
    | ']' :: ']' :: rest => return (← draft.openElement path key, ← endLine rest)
    | _ => none
  | '[' :: rest => do
    let (path, key, rest) ← readKey rest
    match rest with
    | ']' :: rest => return (← draft.openHeader path key, ← endLine rest)
    | _ => none
  | _ => none

/-- The lines of a document; each round consumes at least one character. -/
def readLines : Nat → Draft → List Char → Option Draft
  | 0, _, _ => none
  | fuel + 1, draft, text =>
    match skipSpace text with
    | [] => some draft
    | '#' :: rest => do
      let rest ← endLine ('#' :: rest)
      readLines fuel draft rest
    | '[' :: rest => do
      let (draft, rest) ← readHeader draft ('[' :: rest)
      readLines fuel draft rest
    | text =>
      match readNewline text with
      | some rest => readLines fuel draft rest
      | none => do
        let (draft, rest) ← readAssignment draft text
        readLines fuel draft rest

def byteOrderMark : Char := '\ufeff'

def parseChars? (text : List Char) : Option (List (String × Value)) := do
  let text := if text.head? = some byteOrderMark then text.drop 1 else text
  let draft ← readLines (text.length + 1) .empty text
  let root ← draft.close
  return Node.finishEntries root

/-- The entries of the document's root table, in the order of their first appearance. -/
def parse? (text : String) : Option (List (String × Value)) := parseChars? text.toList

end WorkHost.Toml

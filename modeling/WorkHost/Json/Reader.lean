import WorkHost.Json.Value
import WorkHost.Text.Numeral

/-!
Contract: reading JSON text.

`parse?` accepts exactly the texts that are one JSON value, with blanks around it.
Every call that goes deeper has first consumed a character or starts the value of a
list, so twice the length of the text bounds the depth of calls.
-/

namespace WorkHost.Json

open WorkHost.Text

def isSpace (c : Char) : Bool := c == ' ' || c == '\n' || c == '\t' || c == '\r'

def skipSpace (text : List Char) : List Char := text.dropWhile isSpace

def hexValue? (c : Char) : Option Nat :=
  if '0' ≤ c ∧ c ≤ '9' then some (c.toNat - '0'.toNat)
  else if 'a' ≤ c ∧ c ≤ 'f' then some (c.toNat - 'a'.toNat + 10)
  else if 'A' ≤ c ∧ c ≤ 'F' then some (c.toNat - 'A'.toNat + 10)
  else none

/-- The character that a one-letter escape stands for. -/
def escape? : Char → Option Char
  | '"' => some '"'
  | '\\' => some '\\'
  | '/' => some '/'
  | 'b' => some '\x08'
  | 'f' => some '\x0c'
  | 'n' => some '\n'
  | 'r' => some '\r'
  | 't' => some '\t'
  | _ => none

/-- Reads a string whose opening quote has been consumed. -/
def readString : List Char → Option (List Piece × List Char)
  | [] => none
  | '"' :: rest => some ([], rest)
  | '\\' :: 'u' :: a :: b :: c :: d :: rest => do
    let a ← hexValue? a
    let b ← hexValue? b
    let c ← hexValue? c
    let d ← hexValue? d
    let (pieces, rest) ← readString rest
    return (.unit (((a * 16 + b) * 16 + c) * 16 + d) :: pieces, rest)
  | '\\' :: c :: rest => do
    let escaped ← escape? c
    let (pieces, rest) ← readString rest
    return (.char escaped :: pieces, rest)
  | c :: rest =>
    if c.toNat < 0x20 ∨ c = '\\' then none
    else (readString rest).map fun (pieces, rest) => (.char c :: pieces, rest)

/-- The digits before the point: a zero, or digits that do not start with one. -/
def readWhole (text : List Char) : Option (Nat × List Char) :=
  match text with
  | '0' :: c :: rest => if (digit? c).isSome then none else some (0, c :: rest)
  | ['0'] => some (0, [])
  | c :: _ => if (digit? c).isSome then some (spanDigits text 0) else none
  | [] => none

/-- At least one digit, continuing `value`; also their number. -/
def readMore (value : Nat) (text : List Char) : Option (Nat × Nat × List Char) :=
  let (value, rest) := spanDigits text value
  if rest.length < text.length then some (value, text.length - rest.length, rest) else none

def readFraction (whole : Nat) (text : List Char) : Option (Nat × Nat × List Char) :=
  match text with
  | '.' :: rest => readMore whole rest
  | _ => some (whole, 0, text)

def readExponent (text : List Char) : Option (Option Int × List Char) :=
  let signed (rest : List Char) : Option (Option Int × List Char) :=
    match rest with
    | '-' :: rest => (readMore 0 rest).map fun (value, _, rest) => (some (-(value : Int)), rest)
    | '+' :: rest => (readMore 0 rest).map fun (value, _, rest) => (some (value : Int), rest)
    | _ => (readMore 0 rest).map fun (value, _, rest) => (some (value : Int), rest)
  match text with
  | 'e' :: rest => signed rest
  | 'E' :: rest => signed rest
  | _ => some (none, text)

def readNumber (text : List Char) : Option (Number × List Char) := do
  let (negative, unsigned) :=
    match text with
    | '-' :: rest => (true, rest)
    | _ => (false, text)
  let (whole, rest) ← readWhole unsigned
  let (mantissa, places, rest) ← readFraction whole rest
  let (exponent, rest) ← readExponent rest
  return (⟨negative, mantissa, places, exponent⟩, rest)

mutual

def readValue : Nat → List Char → Option (Value × List Char)
  | 0, _ => none
  | fuel + 1, text =>
    match skipSpace text with
    | 'n' :: 'u' :: 'l' :: 'l' :: rest => some (.null, rest)
    | 't' :: 'r' :: 'u' :: 'e' :: rest => some (.bool true, rest)
    | 'f' :: 'a' :: 'l' :: 's' :: 'e' :: rest => some (.bool false, rest)
    | '"' :: rest => (readString rest).map fun (pieces, rest) => (.string pieces, rest)
    | '[' :: rest =>
      match skipSpace rest with
      | ']' :: rest => some (.array [], rest)
      | rest => (readItems fuel rest).map fun (items, rest) => (.array items, rest)
    | '\x7b' :: rest =>
      match skipSpace rest with
      | '\x7d' :: rest => some (.object [], rest)
      | rest => (readMembers fuel rest).map fun (members, rest) => (.object members, rest)
    | text => (readNumber text).map fun (number, rest) => (.number number, rest)

/-- One or more values and the closing bracket. -/
def readItems : Nat → List Char → Option (List Value × List Char)
  | 0, _ => none
  | fuel + 1, text => do
    let (value, rest) ← readValue fuel text
    match skipSpace rest with
    | ',' :: rest =>
      let (items, rest) ← readItems fuel rest
      return (value :: items, rest)
    | ']' :: rest => return ([value], rest)
    | _ => none

/-- One or more members and the closing brace. -/
def readMembers : Nat → List Char → Option (List (List Piece × Value) × List Char)
  | 0, _ => none
  | fuel + 1, text =>
    match skipSpace text with
    | '"' :: rest => do
      let (name, rest) ← readString rest
      match skipSpace rest with
      | ':' :: rest =>
        let (value, rest) ← readValue fuel rest
        match skipSpace rest with
        | ',' :: rest =>
          let (members, rest) ← readMembers fuel rest
          return ((name, value) :: members, rest)
        | '\x7d' :: rest => return ([(name, value)], rest)
        | _ => none
      | _ => none
    | _ => none

end

def parseChars? (text : List Char) : Option Value :=
  match readValue (2 * text.length + 2) text with
  | some (value, rest) => if (skipSpace rest).isEmpty then some value else none
  | none => none

def parse? (text : String) : Option Value := parseChars? text.toList

end WorkHost.Json

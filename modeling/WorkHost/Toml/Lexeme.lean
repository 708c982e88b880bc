import WorkHost.Calendar.Civil
import WorkHost.Text.Numeral
import WorkHost.Toml.Value

/-!
Contract: the parts of TOML text that contain no other values: blanks, comments,
strings, numbers, dates and keys.

Every reader takes the rest of the text and returns what it has read with what
follows. A malformed text gives nothing.
-/

namespace WorkHost.Toml

open WorkHost.Text

def isSpace (c : Char) : Bool := c == ' ' || c == '\t'

def skipSpace (text : List Char) : List Char := text.dropWhile isSpace

/-- A line feed, alone or after a carriage return. -/
def readNewline : List Char → Option (List Char)
  | '\n' :: rest => some rest
  | '\r' :: '\n' :: rest => some rest
  | _ => none

def isNonAscii (c : Char) : Bool := 0x80 ≤ c.toNat

/-- Tab, printable ASCII, or anything beyond ASCII. -/
def isPrintable (c : Char) : Bool :=
  c == '\t' || (0x20 ≤ c.toNat && c.toNat ≤ 0x7E) || isNonAscii c

/-- Skips a comment, if there is one. -/
def skipComment : List Char → List Char
  | '#' :: rest => rest.dropWhile isPrintable
  | text => text

/-- Skips blanks, comments and line ends between the parts of an array. Each round
consumes a line end, so the length of the text bounds their number. -/
def skipLines : Nat → List Char → List Char
  | 0, text => text
  | fuel + 1, text =>
    let text := skipComment (skipSpace text)
    match readNewline text with
    | some rest => skipLines fuel rest
    | none => text

/-- Blanks, a comment, and the end of the line or of the text. -/
def endLine (text : List Char) : Option (List Char) :=
  match skipComment (skipSpace text) with
  | [] => some []
  | text => readNewline text

def hexValue? (c : Char) : Option Nat :=
  if '0' ≤ c ∧ c ≤ '9' then some (c.toNat - '0'.toNat)
  else if 'a' ≤ c ∧ c ≤ 'f' then some (c.toNat - 'a'.toNat + 10)
  else if 'A' ≤ c ∧ c ≤ 'F' then some (c.toNat - 'A'.toNat + 10)
  else none

/-- A Unicode scalar value given by exactly `count` hexadecimal digits. -/
def readScalar (count : Nat) (text : List Char) : Option (Char × List Char) := do
  let digits := text.take count
  let values ← digits.mapM hexValue?
  let code := values.foldl (fun code digit => code * 16 + digit) 0
  if digits.length = count ∧ code.isValidChar then
    return (Char.ofNat code, text.drop count)
  else none

/-- The part of an escape after its backslash. -/
def readEscape : List Char → Option (Char × List Char)
  | '"' :: rest => some ('"', rest)
  | '\\' :: rest => some ('\\', rest)
  | 'b' :: rest => some ('\x08', rest)
  | 't' :: rest => some ('\t', rest)
  | 'n' :: rest => some ('\n', rest)
  | 'f' :: rest => some ('\x0c', rest)
  | 'r' :: rest => some ('\r', rest)
  | 'u' :: rest => readScalar 4 rest
  | 'U' :: rest => readScalar 8 rest
  | _ => none

/-- The rest of a basic string on one line. Each round consumes a character. -/
def readBasic : Nat → List Char → Option (List Char × List Char)
  | 0, _ => none
  | fuel + 1, text =>
    match text with
    | '"' :: rest => some ([], rest)
    | '\\' :: rest => do
      let (c, rest) ← readEscape rest
      let (chars, rest) ← readBasic fuel rest
      return (c :: chars, rest)
    | c :: rest =>
      if isPrintable c then
        (readBasic fuel rest).map fun (chars, rest) => (c :: chars, rest)
      else none
    | [] => none

/-- The rest of a literal string on one line. -/
def readLiteral (text : List Char) : Option (List Char × List Char) :=
  let chars := text.takeWhile fun c => isPrintable c && c != '\''
  match text.drop chars.length with
  | '\'' :: rest => some (chars, rest)
  | _ => none

/-- A run of quotes within a string of several lines: up to two belong to the string,
and three more end it. Gives the quotes that belong to the string and, if the string
ends, what follows it. -/
def readQuotes (quote : Char) (text : List Char) : Option (List Char × Option (List Char)) :=
  let count := (text.takeWhile (· == quote)).length
  if count < 3 then some (List.replicate count quote, none)
  else if count ≤ 5 then some (List.replicate (count - 3) quote, some (text.drop count))
  else none

/-- Skips blanks and line ends after an escaped line end. -/
def skipFolded : List Char → List Char
  | '\r' :: '\n' :: rest => skipFolded rest
  | c :: rest => if isSpace c || c == '\n' then skipFolded rest else c :: rest
  | [] => []

/-- The rest of a string of several lines; a backslash escapes where `escapes` is set.
Each round consumes a character. -/
def readLong (quote : Char) (escapes : Bool) : Nat → List Char → Option (List Char × List Char)
  | 0, _ => none
  | fuel + 1, text =>
    let continued (chars : List Char) (rest : List Char) :=
      (readLong quote escapes fuel rest).map fun (more, rest) => (chars ++ more, rest)
    match readNewline text with
    | some rest => continued ['\n'] rest
    | none =>
      match text with
      | [] => none
      | c :: rest =>
        if c = quote then
          match readQuotes quote text with
          | none => none
          | some (chars, some rest) => some (chars, rest)
          | some (chars, none) => continued chars (text.drop chars.length)
        else if c = '\\' ∧ escapes then
          match readNewline (skipSpace rest) with
          | some rest => continued [] (skipFolded rest)
          | none =>
            match readEscape rest with
            | some (c, rest) => continued [c] rest
            | none => none
        else if isPrintable c then continued [c] rest
        else none

/-- A line end right after the opening quotes does not belong to the string. -/
def skipFirstNewline (text : List Char) : List Char :=
  (readNewline text).getD text

/-- A string of any of the four kinds. -/
def readString (text : List Char) : Option (String × List Char) :=
  let result :=
    match text with
    | '"' :: '"' :: '"' :: rest => readLong '"' true (rest.length + 1) (skipFirstNewline rest)
    | '\'' :: '\'' :: '\'' :: rest =>
      readLong '\'' false (rest.length + 1) (skipFirstNewline rest)
    | '"' :: rest => readBasic (rest.length + 1) rest
    | '\'' :: rest => readLiteral rest
    | _ => none
  result.map fun (chars, rest) => (String.ofList chars, rest)

/-- Digits that single underscores may separate. -/
def readGrouped (isDigit : Char → Bool) : Nat → List Char → Option (List Char × List Char)
  | 0, _ => none
  | fuel + 1, text =>
    match text with
    | c :: rest =>
      if isDigit c then
        match rest with
        | '_' :: more =>
          (readGrouped isDigit fuel more).map fun (digits, rest) => (c :: digits, rest)
        | next :: _ =>
          if isDigit next then
            (readGrouped isDigit fuel rest).map fun (digits, rest) => (c :: digits, rest)
          else some ([c], rest)
        | [] => some ([c], [])
      else none
    | [] => none

def isDecimal (c : Char) : Bool := (digit? c).isSome

def grouped (isDigit : Char → Bool) (text : List Char) : Option (List Char × List Char) :=
  readGrouped isDigit (text.length + 1) text

def digitsValue (base : Nat) (digits : List Char) : Nat :=
  digits.foldl (fun value c => value * base + (hexValue? c).getD 0) 0

/-- A sign, if there is one; true for a minus. -/
def readSign : List Char → Bool × List Char
  | '-' :: rest => (true, rest)
  | '+' :: rest => (false, rest)
  | text => (false, text)

/-- Decimal digits without a leading zero, except for zero itself. -/
def readWhole (text : List Char) : Option (List Char × List Char) :=
  match text with
  | '0' :: rest => some (['0'], rest)
  | _ => grouped isDecimal text

/-- A number that is not whole. Far below zero it is infinite, far above it is a fault. -/
def readReal (text : List Char) : Option (Value × List Char) := do
  let (negative, unsigned) := readSign text
  match unsigned with
  | 'i' :: 'n' :: 'f' :: rest => return (.real (.infinite negative), rest)
  | 'n' :: 'a' :: 'n' :: rest => return (.real .nan, rest)
  | _ =>
    let (whole, rest) ← readWhole unsigned
    let (fraction, rest) ←
      match rest with
      | '.' :: rest => grouped isDecimal rest
      | _ => some ([], rest)
    let (exponent, rest) ←
      match rest with
      | 'e' :: rest | 'E' :: rest =>
        let (negative, rest) := readSign rest
        (grouped isDecimal rest).map fun (digits, rest) =>
          (some (if negative then -(digitsValue 10 digits : Int) else digitsValue 10 digits), rest)
      | _ => some (none, rest)
    if fraction.isEmpty ∧ exponent.isNone then none
    else
      match Decimal.Finite.nearest? (digitsValue 10 (whole ++ fraction))
          (exponent.getD 0 - (fraction.length : Int)) with
      | some number => return (.real (.finite negative number), rest)
      | none => if negative then return (.real (.infinite true), rest) else none

/-- An integer must fit in 64 bits with a sign. -/
def integer? (value : Int) : Option Value :=
  if -Int.pow 2 63 ≤ value ∧ value < Int.pow 2 63 then some (.integer value) else none

def readInteger (text : List Char) : Option (Value × List Char) := do
  let based (base : Nat) (rest : List Char) : Option (Value × List Char) := do
    let isDigit (c : Char) := ((hexValue? c).map (fun digit => decide (digit < base))).getD false
    let (digits, rest) ← grouped isDigit rest
    return (← integer? (digitsValue base digits), rest)
  match text with
  | '0' :: 'x' :: rest => based 16 rest
  | '0' :: 'o' :: rest => based 8 rest
  | '0' :: 'b' :: rest => based 2 rest
  | _ =>
    let (negative, unsigned) := readSign text
    let (digits, rest) ← readWhole unsigned
    let value : Int := digitsValue 10 digits
    return (← integer? (if negative then -value else value), rest)

/-- A number of exactly `count` digits. -/
def readFixed (count : Nat) (text : List Char) : Option (Nat × List Char) :=
  let digits := text.take count
  if digits.length = count ∧ digits.all isDecimal then
    some (digitsValue 10 digits, text.drop count)
  else none

def readChar (wanted : Char) : List Char → Option (List Char)
  | c :: rest => if c = wanted then some rest else none
  | [] => none

def readDate (text : List Char) : Option (List Char) := do
  let (year, rest) ← readFixed 4 text
  let rest ← readChar '-' rest
  let (month, rest) ← readFixed 2 rest
  let rest ← readChar '-' rest
  let (day, rest) ← readFixed 2 rest
  if 1 ≤ month ∧ month ≤ 12 ∧ 1 ≤ day ∧ day ≤ Calendar.daysInMonth year month then
    return rest
  else none

def readTime (text : List Char) : Option (List Char) := do
  let (hour, rest) ← readFixed 2 text
  let rest ← readChar ':' rest
  let (minute, rest) ← readFixed 2 rest
  let rest ← readChar ':' rest
  let (second, rest) ← readFixed 2 rest
  if 23 < hour ∨ 59 < minute ∨ 60 < second then none
  else
    match rest with
    | '.' :: fraction =>
      let digits := fraction.takeWhile isDecimal
      if digits.isEmpty then none else some (fraction.drop digits.length)
    | _ => some rest

/-- An offset from UTC, if there is one. -/
def readOffset (text : List Char) : Option (List Char) :=
  let signed (rest : List Char) : Option (List Char) := do
    let (hour, rest) ← readFixed 2 rest
    let rest ← readChar ':' rest
    let (minute, rest) ← readFixed 2 rest
    if hour ≤ 23 ∧ minute ≤ 59 then return rest else none
  match text with
  | 'Z' :: rest | 'z' :: rest => some rest
  | '+' :: rest | '-' :: rest => signed rest
  | _ => some text

/-- Whether the text starts like a date, or like a time of day. -/
def startsDate (text : List Char) : Bool :=
  ((readFixed 4 text).bind fun (_, rest) => readChar '-' rest).isSome

def startsTime (text : List Char) : Bool :=
  ((readFixed 2 text).bind fun (_, rest) => readChar ':' rest).isSome

/-- A date, a time of day, or a date and time with or without an offset. -/
def readMoment (text : List Char) : Option (Value × List Char) :=
  if startsDate text then do
    let rest ← readDate text
    match rest with
    | 'T' :: time | 't' :: time | ' ' :: time =>
      if startsTime time then
        let rest ← readOffset (← readTime time)
        return (.moment, rest)
      else return (.moment, rest)
    | _ => return (.moment, rest)
  else (readTime text).map fun rest => (.moment, rest)

/-- A number or a date, whichever the text starts with. -/
def readNumeric (text : List Char) : Option (Value × List Char) :=
  if startsDate text || startsTime text then readMoment text
  else readReal text <|> readInteger text

def isBareKey (c : Char) : Bool :=
  ('a' ≤ c && c ≤ 'z') || ('A' ≤ c && c ≤ 'Z') || isDecimal c || c == '_' || c == '-'

def readSimpleKey (text : List Char) : Option (String × List Char) :=
  match text with
  | '"' :: rest =>
    (readBasic (rest.length + 1) rest).map fun (chars, rest) => (String.ofList chars, rest)
  | '\'' :: rest => (readLiteral rest).map fun (chars, rest) => (String.ofList chars, rest)
  | _ =>
    let chars := text.takeWhile isBareKey
    if chars.isEmpty then none else some (String.ofList chars, text.drop chars.length)

/-- Keys joined by points, with blanks around them; each round consumes a point. -/
def readKeys : Nat → List Char → Option (List String × List Char)
  | 0, _ => none
  | fuel + 1, text => do
    let (key, rest) ← readSimpleKey (skipSpace text)
    match skipSpace rest with
    | '.' :: rest =>
      let (keys, rest) ← readKeys fuel rest
      return (key :: keys, rest)
    | rest => return ([key], rest)

/-- How many containers may lie within one another, and one more than the longest key. -/
def nestingLimit : Nat := 80

/-- A dotted key as its path and its last part. -/
def readKey (text : List Char) : Option (List String × String × List Char) := do
  let (keys, rest) ← readKeys (text.length + 1) text
  if keys.length < nestingLimit then
    let last ← keys.getLast?
    return (keys.dropLast, last, rest)
  else none

end WorkHost.Toml

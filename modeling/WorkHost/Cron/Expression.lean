import WorkHost.Text.Blank
import WorkHost.Text.Numeral

/-!
Contract: the grammar of cron expressions.

An expression is one of five keywords, or six fields with an optional seventh:
seconds, minutes, hours, days of month, months, days of week, years. A field is a
list of items separated by commas, and takes as many items as it can. Numbers and
names swallow the blanks around them; no blank is required between fields.
-/

namespace WorkHost.Cron

open WorkHost.Text

/-- The set that an item starts from. -/
inductive Spec where
  | all
  | point (value : Nat)
  | range (first last : Nat)
  | namedRange (first last : String)
deriving DecidableEq, Repr

inductive Item where
  | spec (spec : Spec)
  /-- Every `step`-th value, from the first one on. -/
  | stepped (spec : Spec) (step : Nat)
  | named (name : String)
deriving DecidableEq, Repr

/-- The items of the seven fields. -/
structure Fields where
  seconds : List Item
  minutes : List Item
  hours : List Item
  daysOfMonth : List Item
  months : List Item
  daysOfWeek : List Item
  years : List Item
deriving DecidableEq, Repr

def isSpace (c : Char) : Bool := c == ' ' || c == '\t' || c == '\r' || c == '\n'

def skipSpace (text : List Char) : List Char := text.dropWhile isSpace

def isLetter (c : Char) : Bool :=
  ('a' ≤ c && c ≤ 'z') || ('A' ≤ c && c ≤ 'Z')

/-- The first number that is too large for an item. -/
def numberLimit : Nat := Nat.pow 2 32

def readNumber (text : List Char) : Option (Nat × List Char) :=
  let text := skipSpace text
  let digits := text.takeWhile (fun c => (digit? c).isSome)
  match readNumeral numberLimit digits with
  | .ok value => some (value, skipSpace (text.drop digits.length))
  | .error _ => none

def readName (text : List Char) : Option (String × List Char) :=
  let text := skipSpace text
  let letters := text.takeWhile isLetter
  if letters.isEmpty then none
  else some (String.ofList letters, skipSpace (text.drop letters.length))

/-- A character that must come next. -/
def readChar (wanted : Char) : List Char → Option (List Char)
  | c :: rest => if c = wanted then some rest else none
  | [] => none

def readRange (text : List Char) : Option (Spec × List Char) := do
  let (first, rest) ← readNumber text
  let rest ← readChar '-' rest
  let (last, rest) ← readNumber rest
  return (.range first last, rest)

def readPoint (text : List Char) : Option (Spec × List Char) :=
  (readNumber text).map fun (value, rest) => (.point value, rest)

def readNamedRange (text : List Char) : Option (Spec × List Char) := do
  let (first, rest) ← readName text
  let rest ← readChar '-' rest
  let (last, rest) ← readName rest
  return (.namedRange first last, rest)

/-- The question mark means any value where `anyMark` allows it. -/
def readSpec (anyMark : Bool) (text : List Char) : Option (Spec × List Char) :=
  match text with
  | '*' :: rest => some (.all, rest)
  | _ =>
    match anyMark, text with
    | true, '?' :: rest => some (.all, rest)
    | _, _ => readRange text <|> readPoint text <|> readNamedRange text

def readStepped (anyMark : Bool) (text : List Char) : Option (Item × List Char) := do
  let (spec, rest) ← readSpec anyMark text
  let rest ← readChar '/' rest
  let (step, rest) ← readNumber rest
  return (.stepped spec step, rest)

def readItem (anyMark : Bool) (text : List Char) : Option (Item × List Char) :=
  readStepped anyMark text
    <|> (readSpec anyMark text).map (fun (spec, rest) => (.spec spec, rest))
    <|> (readName text).map (fun (name, rest) => (.named name, rest))

/-- Further items, each after a comma. A comma without an item is left unread.
Each round consumes the comma, so the length of the text bounds their number. -/
def readItems (anyMark : Bool) : Nat → List Char → List Item × List Char
  | 0, text => ([], text)
  | fuel + 1, text =>
    match text with
    | ',' :: rest =>
      match readItem anyMark rest with
      | some (item, rest) =>
        let (items, rest) := readItems anyMark fuel rest
        (item :: items, rest)
      | none => ([], text)
    | _ => ([], text)

def readField (anyMark : Bool) (text : List Char) : Option (List Item × List Char) := do
  let (item, rest) ← readItem anyMark (skipSpace text)
  let (items, rest) := readItems anyMark rest.length rest
  return (item :: items, skipSpace rest)

end WorkHost.Cron

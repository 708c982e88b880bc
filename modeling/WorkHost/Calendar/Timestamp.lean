import WorkHost.Calendar.Instant
import WorkHost.Text.Blank
import WorkHost.Text.Numeral

/-!
Contract: the written form of instants.

`write` produces RFC 3339 in UTC with the fewest of 0, 3, 6 or 9 fraction digits
that lose nothing. `read?` takes any offset, also spelled `UTC`, and is lenient in
three ways: blanks may stand before a number and around a hyphen or colon, leading
zeros may be missing, and a space may stand for the `T`.
-/

namespace WorkHost.Calendar.Timestamp

open WorkHost.Text

/-- Decimal digits, padded on the left with zeros to a width. -/
def padded (width value : Nat) : List Char :=
  let digits := Nat.toDigits 10 value
  List.replicate (width - digits.length) '0' ++ digits

def writeYear (year : Int) : List Char :=
  if 0 ≤ year ∧ year ≤ 9999 then padded 4 year.toNat
  else (if year < 0 then '-' else '+') :: padded 4 year.natAbs

/-- The fraction of a second, with its point. -/
def writeFraction (nanos : Nat) : List Char :=
  if nanos = 0 then []
  else if nanos % 1000000 = 0 then '.' :: padded 3 (nanos / 1000000)
  else if nanos % 1000 = 0 then '.' :: padded 6 (nanos / 1000)
  else '.' :: padded 9 nanos

/-- Date, `T` and time of day. -/
def writeLocal (instant : Instant) : List Char :=
  let time := instant.civil
  let leap := instant.isLeapSecond
  writeYear time.year ++ '-' :: padded 2 time.month ++ '-' :: padded 2 time.day
    ++ 'T' :: padded 2 time.hour ++ ':' :: padded 2 time.minute
    ++ ':' :: padded 2 (if leap then time.second + 1 else time.second)
    ++ writeFraction (if leap then instant.nanos - Instant.nanosPerSecond else instant.nanos)

def write (instant : Instant) : String :=
  String.ofList (writeLocal instant ++ ['Z'])

/-- The same with the numeric offset `+00:00`. -/
def writeOffset (instant : Instant) : String :=
  String.ofList (writeLocal instant ++ "+00:00".toList)

/-- One to `width` digits: their value, how many they are, and the rest. -/
def readUpTo : Nat → List Char → Option (Nat × Nat × List Char)
  | width, text =>
    let digits := (text.take width).takeWhile (fun c => (digit? c).isSome)
    if digits.isEmpty then none
    else some ((spanDigits digits 0).1, digits.length, text.drop digits.length)

/-- A number of at most `width` digits, after any blanks. -/
def readField (width : Nat) (text : List Char) : Option (Nat × List Char) :=
  (readUpTo width (skipBlanks text)).map fun (value, _, rest) => (value, rest)

/-- A year of at most four digits, or of any length after a sign. -/
def readYear (text : List Char) : Option (Int × List Char) :=
  match skipBlanks text with
  | '-' :: rest => (readUpTo rest.length rest).map fun (value, _, rest) => (-(value : Int), rest)
  | '+' :: rest => (readUpTo rest.length rest).map fun (value, _, rest) => ((value : Int), rest)
  | rest => (readUpTo 4 rest).map fun (value, _, rest) => ((value : Int), rest)

/-- Skips blanks and then exactly one given character. -/
def expect (wanted : Char) (text : List Char) : Option (List Char) :=
  match skipBlanks text with
  | c :: rest => if c = wanted then some rest else none
  | [] => none

/-- An optional fraction; digits after the ninth are ignored. -/
def readFraction (text : List Char) : Option (Nat × List Char) :=
  match text with
  | '.' :: rest =>
    (readUpTo 9 rest).map fun (value, count, rest) =>
      (value * Nat.pow 10 (9 - count), rest.dropWhile (fun c => (digit? c).isSome))
  | _ => some (0, text)

def readTwoDigits : List Char → Option (Nat × List Char)
  | tens :: ones :: rest => do
    let tens ← digit? tens
    let ones ← digit? ones
    return (tens * 10 + ones, rest)
  | _ => none

/-- An offset from UTC in seconds. -/
def readOffset (text : List Char) : Option (Int × List Char) :=
  match text with
  | 'Z' :: rest => some (0, rest)
  | 'z' :: rest => some (0, rest)
  | sign :: rest =>
    if (text.take 3).map Char.toUpper = ['U', 'T', 'C'] then some (0, text.drop 3)
    else do
      let factor : Int ←
        if sign = '+' then some 1
        else if sign = '-' ∨ sign = '\u2212' then some (-1)
        else none
      let (hours, rest) ← readTwoDigits rest
      let (minutes, rest) ← readTwoDigits (rest.dropWhile (fun c => c = ':' || isBlank c))
      if minutes ≤ 59 ∧ hours ≤ 23 then
        return (factor * (hours * 3600 + minutes * 60 : Nat), rest)
      else none
  | [] => none

def readChars (text : List Char) : Option Instant := do
  let (year, text) ← readYear text
  let text ← expect '-' text
  let (month, text) ← readField 2 text
  let text ← expect '-' text
  let (day, text) ← readField 2 text
  let text ← match text with
    | c :: rest => if c = 'T' ∨ c = 't' ∨ c = ' ' then some rest else none
    | [] => none
  let (hour, text) ← readField 2 text
  let text ← expect ':' text
  let (minute, text) ← readField 2 text
  let text ← expect ':' text
  let (second, text) ← readField 2 text
  let (fraction, text) ← readFraction text
  let (offset, text) ← readOffset (skipBlanks text)
  let leap := second = 60
  let time : Civil := ⟨year, month, day, hour, minute, if leap then 59 else second⟩
  let instant : Instant :=
    ⟨time.toSeconds - offset, if leap then fraction + Instant.nanosPerSecond else fraction⟩
  if (skipBlanks text).isEmpty ∧ time.IsValid ∧ Instant.firstYear ≤ year
      ∧ year ≤ Instant.lastYear ∧ instant.isRepresentable then
    return instant
  else none

def read? (text : String) : Option Instant := readChars text.toList

end WorkHost.Calendar.Timestamp

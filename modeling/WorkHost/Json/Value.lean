import WorkHost.Decimal.Binary
import WorkHost.Text.Numeral

/-!
Contract: JSON values, close enough to their text to tell apart what readers may
treat differently.

A string keeps its escaped UTF-16 units, because a lone surrogate is harmless
where the string is skipped and a fault where it is used (`text?`). A number keeps
its digits, its point and its exponent, and members keep their order and repetitions.
-/

namespace WorkHost.Json

/-- One element of a string as it was written. -/
inductive Piece where
  | char (c : Char)
  /-- A UTF-16 unit given by its number. -/
  | unit (code : Nat)
deriving DecidableEq, Repr

/-- The number `mantissa * 10 ^ (exponent - places)`, possibly negated. -/
structure Number where
  negative : Bool
  /-- All digits before the exponent. -/
  mantissa : Nat
  /-- How many of these digits follow the point. -/
  places : Nat
  exponent : Option Int
deriving DecidableEq, Repr

inductive Value where
  | null
  | bool (value : Bool)
  | number (value : Number)
  | string (pieces : List Piece)
  | array (items : List Value)
  | object (members : List (List Piece × Value))
deriving Repr, Inhabited

namespace Number

def ofNat (value : Nat) : Number := ⟨false, value, 0, none⟩

/-- The power of ten that the digits are multiplied by. -/
def scale (number : Number) : Int := number.exponent.getD 0 - number.places

/-- Written with digits only, without fraction and exponent. -/
def isPlain (number : Number) : Bool := number.places == 0 && number.exponent.isNone

/-- The number as a natural number below `limit`, if it was written as one. -/
def below? (limit : Nat) (number : Number) : Option Nat :=
  if number.isPlain ∧ ¬ number.negative ∧ number.mantissa < limit then some number.mantissa
  else none

/-- As many leading digits as stay below `limit`, and how many are left out. -/
def leadingDigits (limit value : Nat) : Nat × Nat :=
  if value < limit ∨ value = 0 then (value, 0)
  else
    let (kept, dropped) := leadingDigits limit (value / 10)
    (kept, dropped + 1)
termination_by value
decreasing_by omega

/-- Appends digits as long as the result stays below `limit`; also how many were taken. -/
def appendDigits (limit value : Nat) : List Nat → Nat × Nat
  | [] => (value, 0)
  | digit :: rest =>
    if value * 10 + digit < limit then
      let (appended, taken) := appendDigits limit (value * 10 + digit) rest
      (appended, taken + 1)
    else (value, 0)

def fractionDigits (number : Number) : List Nat :=
  (List.range number.places).map fun place =>
    number.mantissa / Nat.pow 10 (number.places - 1 - place) % 10

/-- The digits that fit in 64 bits, and the power of ten that they are multiplied by. -/
def approximation (number : Number) : Nat × Int :=
  let (whole, dropped) :=
    leadingDigits Text.wordLimit (number.mantissa / Nat.pow 10 number.places)
  let (digits, taken) := appendDigits Text.wordLimit whole number.fractionDigits
  (digits, number.exponent.getD 0 + dropped - taken)

/-- Whether the number can be held: its leading digits and its power of ten are rounded
to binary numbers of 64 bits, and so is their product, which has to be finite. -/
def isFinite (number : Number) : Bool :=
  let (digits, scale) := number.approximation
  if digits = 0 ∨ scale < 0 then true
  else
    match Decimal.Finite.nearest? digits 0, Decimal.Finite.nearest? 1 scale with
    | some rounded, some power => rounded.productIsFinite power
    | _, _ => false

end Number

def isHighSurrogate (code : Nat) : Bool := 0xD800 ≤ code && code ≤ 0xDBFF

def isLowSurrogate (code : Nat) : Bool := 0xDC00 ≤ code && code ≤ 0xDFFF

/-- The characters of a string, or nothing if a surrogate stands alone. -/
def chars? : List Piece → Option (List Char)
  | [] => some []
  | .char c :: rest => (chars? rest).map (c :: ·)
  | .unit high :: .unit low :: rest =>
    if isHighSurrogate high then
      if isLowSurrogate low then
        (chars? rest).map
          (Char.ofNat (0x10000 + (high - 0xD800) * 0x400 + (low - 0xDC00)) :: ·)
      else none
    else if isLowSurrogate high then none
    else (chars? (.unit low :: rest)).map (Char.ofNat high :: ·)
  | .unit code :: rest =>
    if isHighSurrogate code || isLowSurrogate code then none
    else (chars? rest).map (Char.ofNat code :: ·)

def text? (pieces : List Piece) : Option String :=
  (chars? pieces).map String.ofList

def ofChars (chars : List Char) : List Piece := chars.map .char

def ofText (text : String) : List Piece := ofChars text.toList

namespace Value

def ofNat (value : Nat) : Value := .number (.ofNat value)

def ofString (text : String) : Value := .string (ofText text)

/-- An object whose member names need no escapes. -/
def ofMembers (members : List (String × Value)) : Value :=
  .object (members.map fun (name, value) => (ofText name, value))

def string? : Value → Option String
  | .string pieces => text? pieces
  | _ => none

def below? (limit : Nat) : Value → Option Nat
  | .number numeral => numeral.below? limit
  | _ => none

mutual

/-- Every string is well formed, every number is finite, and at most `depth`
containers lie within one another. -/
def isSound : Nat → Value → Bool
  | _, .null => true
  | _, .bool _ => true
  | _, .number numeral => numeral.isFinite
  | _, .string pieces => (text? pieces).isSome
  | depth, .array items => depth != 0 && areSound (depth - 1) items
  | depth, .object members => depth != 0 && haveSound (depth - 1) members

def areSound : Nat → List Value → Bool
  | _, [] => true
  | depth, value :: rest => isSound depth value && areSound depth rest

def haveSound : Nat → List (List Piece × Value) → Bool
  | _, [] => true
  | depth, (name, value) :: rest =>
    (text? name).isSome && isSound depth value && haveSound depth rest

end

end Value

end WorkHost.Json

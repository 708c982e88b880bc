/-!
Contract: decimal numerals with an upper limit.

A numeral is an optional plus sign and at least one ASCII digit. Reading goes
from left to right and stops at the first fault, so a text that is both too
large and malformed is reported by whichever of the two comes first.
-/

namespace WorkHost.Text

/-- Why a text is not a numeral below the limit. -/
inductive NumeralFault where
  | empty
  | badDigit
  | tooLarge
deriving DecidableEq, Repr

def NumeralFault.message : NumeralFault → String
  | .empty => "cannot parse integer from empty string"
  | .badDigit => "invalid digit found in string"
  | .tooLarge => "number too large to fit in target type"

def digit? (c : Char) : Option Nat :=
  if '0' ≤ c ∧ c ≤ '9' then some (c.toNat - '0'.toNat) else none

/-- The first number that no longer fits in 64 bits. -/
def wordLimit : Nat := Nat.pow 2 64

/-- Continues a numeral whose digits so far are worth `value`. -/
def readDigits (limit value : Nat) : List Char → Except NumeralFault Nat
  | [] => .ok value
  | c :: rest =>
    match digit? c with
    | none => .error .badDigit
    | some digit =>
      if value * 10 + digit < limit then readDigits limit (value * 10 + digit) rest
      else .error .tooLarge

def readNumeral (limit : Nat) : List Char → Except NumeralFault Nat
  | [] => .error .empty
  | ['+'] => .error .badDigit
  | '+' :: digits => readDigits limit 0 digits
  | digits => readDigits limit 0 digits

/-- The value of the decimal digits at the start of a text, and what follows them. -/
def spanDigits : List Char → Nat → Nat × List Char
  | [], value => (value, [])
  | c :: rest, value =>
    match digit? c with
    | some digit => spanDigits rest (value * 10 + digit)
    | none => (value, c :: rest)

end WorkHost.Text

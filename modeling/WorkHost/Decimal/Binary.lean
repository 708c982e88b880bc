/-!
Contract: decimal numbers and the binary numbers of 64 bits nearest to them.

`Finite.nearest?` rounds `mantissa * 10 ^ scale` to the nearest binary number, ties
to the even one, and gives nothing when that is beyond the finite range.
`Finite.shortest` gives the fewest decimal digits that round back to the same binary
number; of several such texts the nearest one. All of it is exact arithmetic on
natural numbers.
-/

namespace WorkHost.Decimal

/-- The number `significand * 2 ^ exponent`, with a significand of at most 53 bits. -/
structure Finite where
  significand : Nat
  exponent : Int
deriving DecidableEq, Repr

/-- The least exponent. -/
def leastExponent : Int := -1074

def greatestExponent : Int := 971

/-- Half a unit beyond the greatest finite number. -/
def overflowLimit : Nat := Nat.pow 2 1024 - Nat.pow 2 970

/-- The quotient rounded to the nearest whole number, ties to the even one. -/
def roundQuotient (numerator denominator : Nat) : Nat :=
  let quotient := numerator / denominator
  let doubled := 2 * (numerator % denominator)
  if doubled < denominator then quotient
  else if denominator < doubled then quotient + 1
  else if quotient % 2 = 0 then quotient
  else quotient + 1

/-- `base ^ exponent` as a fraction. -/
def power (base : Nat) (exponent : Int) : Nat × Nat :=
  if 0 ≤ exponent then (Nat.pow base exponent.toNat, 1) else (1, Nat.pow base (-exponent).toNat)

namespace Finite

/-- Rounds a positive fraction to a multiple of `2 ^ exponent`, with the least
exponent for which the result has at most 53 bits. -/
def roundFraction (numerator denominator : Nat) : Finite :=
  let estimate : Int := (Nat.log2 numerator : Int) - Nat.log2 denominator - 53
  let exponent := max leastExponent estimate
  let atExponent (exponent : Int) : Finite :=
    let (up, down) := power 2 exponent
    ⟨roundQuotient (numerator * down) (denominator * up), exponent⟩
  let candidate := atExponent exponent
  if candidate.significand < Nat.pow 2 53 then candidate
  else
    let candidate := atExponent (exponent + 1)
    if candidate.significand < Nat.pow 2 53 then candidate else atExponent (exponent + 2)

/-- The nearest binary number, if it is finite. -/
def nearest? (mantissa : Nat) (scale : Int) : Option Finite :=
  let magnitude := ((Nat.toDigits 10 mantissa).length : Int) + scale
  if mantissa = 0 ∨ magnitude < -400 then some ⟨0, leastExponent⟩
  else if 400 < magnitude then none
  else
    let (up, down) := power 10 scale
    let number := roundFraction (mantissa * up) down
    if number.exponent ≤ greatestExponent then some number else none

/-- Whether the binary number nearest to the product of two numbers is finite. -/
def productIsFinite (number other : Finite) : Bool :=
  let (up, down) := power 2 (number.exponent + other.exponent)
  number.significand * other.significand * up < overflowLimit * down

/-- Whether `digits * 10 ^ scale` rounds to the number. -/
def absorbs (number : Finite) (digits : Nat) (scale : Int) : Bool :=
  match nearest? digits scale with
  | some other =>
    let (up, down) := power 2 number.exponent
    let (up', down') := power 2 other.exponent
    number.significand * up * down' == other.significand * up' * down
  | none => false

/-- The digits, of at most `count` many, that are nearest to the number and round
back to it, with their power of ten. -/
def withDigits? (number : Finite) (magnitude : Int) (count : Nat) : Option (Nat × Int) :=
  let scale := magnitude - count
  let (up, down) := power 2 number.exponent
  let (upTen, downTen) := power 10 scale
  let numerator := number.significand * up * downTen
  let denominator := down * upTen
  let below := numerator / denominator
  let above := below + 1
  let nearer :=
    if 2 * (numerator % denominator) ≤ denominator then [below, above] else [above, below]
  (nearer.find? (number.absorbs · scale)).map (·, scale)

/-- The power of ten just above the number. -/
def magnitude (number : Finite) : Int :=
  let (up, down) := power 2 number.exponent
  let numerator := number.significand * up
  let estimate : Int :=
    ((Nat.toDigits 10 numerator).length : Int) - (Nat.toDigits 10 down).length
  let (upTen, downTen) := power 10 estimate
  if numerator * downTen < down * upTen then estimate else estimate + 1

/-- The fewest digits that round back to the number, and their power of ten. -/
def shortest (number : Finite) : Nat × Int :=
  if number.significand = 0 then (0, 0)
  else
    let counts := List.range' 1 17
    (counts.findSome? (number.withDigits? number.magnitude)).getD (0, 0)

/-- Positional text, with at least one digit on either side of the point. -/
def text (number : Finite) : String :=
  let (digits, scale) := number.shortest
  let written := Nat.toDigits 10 digits
  if 0 ≤ scale then String.ofList (written ++ List.replicate scale.toNat '0' ++ ".0".toList)
  else
    let places := (-scale).toNat
    let padded := List.replicate (places + 1 - written.length) '0' ++ written
    let whole := padded.take (padded.length - places)
    let fraction := padded.drop (padded.length - places)
    let kept := (fraction.reverse.dropWhile (· == '0')).reverse
    String.ofList (whole ++ '.' :: (if kept.isEmpty then ['0'] else kept))

end Finite

end WorkHost.Decimal

import WorkHost.Json.Value

/-!
Contract: writing JSON values without blanks.

Quotes, backslashes and control characters are escaped, with the short escape
where there is one; everything else stands for itself.
-/

namespace WorkHost.Json

def hexDigitChar (value : Nat) : Char :=
  if value < 10 then Char.ofNat ('0'.toNat + value) else Char.ofNat ('a'.toNat + (value - 10))

/-- Four hexadecimal digits after `\u`. -/
def writeUnit (code : Nat) : List Char :=
  ['\\', 'u', hexDigitChar (code / 4096 % 16), hexDigitChar (code / 256 % 16),
    hexDigitChar (code / 16 % 16), hexDigitChar (code % 16)]

def writeChar (c : Char) : List Char :=
  if c = '"' then ['\\', '"']
  else if c = '\\' then ['\\', '\\']
  else if c = '\x08' then ['\\', 'b']
  else if c = '\x0c' then ['\\', 'f']
  else if c = '\n' then ['\\', 'n']
  else if c = '\r' then ['\\', 'r']
  else if c = '\t' then ['\\', 't']
  else if c.toNat < 0x20 then writeUnit c.toNat
  else [c]

def Piece.write : Piece → List Char
  | .char c => writeChar c
  | .unit code => writeUnit code

def writeString (pieces : List Piece) : List Char :=
  '"' :: (pieces.flatMap Piece.write ++ ['"'])

def Number.write (number : Number) : List Char :=
  let digits := Nat.toDigits 10 number.mantissa
  let unsigned :=
    if number.isPlain then digits
    else digits ++ 'e' ::
      (if number.scale < 0 then '-' :: Nat.toDigits 10 number.scale.natAbs
       else Nat.toDigits 10 number.scale.toNat)
  if number.negative then '-' :: unsigned else unsigned

mutual

def Value.write : Value → List Char
  | .null => "null".toList
  | .bool true => "true".toList
  | .bool false => "false".toList
  | .number numeral => numeral.write
  | .string pieces => writeString pieces
  | .array items => '[' :: (writeItems items ++ [']'])
  | .object members => '\x7b' :: (writeMembers members ++ ['\x7d'])

def writeItems : List Value → List Char
  | [] => []
  | [value] => value.write
  | value :: rest => value.write ++ ',' :: writeItems rest

def writeMembers : List (List Piece × Value) → List Char
  | [] => []
  | [(name, value)] => writeString name ++ ':' :: value.write
  | (name, value) :: rest => writeString name ++ ':' :: (value.write ++ ',' :: writeMembers rest)

end

def Value.render (value : Value) : String := String.ofList value.write

end WorkHost.Json

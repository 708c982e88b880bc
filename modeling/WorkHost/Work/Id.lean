/-!
Contract: identifiers of work items.

An identifier is 128 bits wide and is kept as its 32 hexadecimal digits. It is
written in five groups joined by hyphens. It is read in that form, in that form
within braces or after `urn:uuid:`, and as 32 digits without hyphens; the case of
letters does not matter.
-/

namespace WorkHost

structure WorkId where
  digits : List (Fin 16)
  digits_length : digits.length = 32
deriving DecidableEq, Repr

namespace WorkId

def hexChar (digit : Fin 16) : Char :=
  if digit.val < 10 then Char.ofNat ('0'.toNat + digit.val)
  else Char.ofNat ('a'.toNat + (digit.val - 10))

def hexDigit? (c : Char) : Option (Fin 16) :=
  if '0' ≤ c ∧ c ≤ '9' then some (Fin.ofNat 16 (c.toNat - '0'.toNat))
  else if 'a' ≤ c ∧ c ≤ 'f' then some (Fin.ofNat 16 (c.toNat - 'a'.toNat + 10))
  else if 'A' ≤ c ∧ c ≤ 'F' then some (Fin.ofNat 16 (c.toNat - 'A'.toNat + 10))
  else none

theorem hexDigit?_hexChar (digit : Fin 16) : hexDigit? (hexChar digit) = some digit := by
  revert digit
  decide

/-- The lengths of the groups that hyphens separate. -/
def groupSizes : List Nat := [8, 4, 4, 4, 12]

/-- Writes digits in groups of the given sizes, with a hyphen between two groups. -/
def writeGroups : List Nat → List (Fin 16) → List Char
  | [], _ => []
  | [size], digits => (digits.take size).map hexChar
  | size :: sizes, digits =>
    (digits.take size).map hexChar ++ '-' :: writeGroups sizes (digits.drop size)

def readHex (text : List Char) : Option (List (Fin 16)) :=
  text.mapM hexDigit?

/-- Reads what `writeGroups` writes, in either case of the digits. -/
def readGroups : List Nat → List Char → Option (List (Fin 16))
  | [], text => if text.isEmpty then some [] else none
  | [size], text => if text.length = size then readHex text else none
  | size :: sizes, text =>
    match text.drop size with
    | '-' :: rest => do
      let digits ← readHex (text.take size)
      let more ← readGroups sizes rest
      return digits ++ more
    | _ => none

def ofDigits? (digits : List (Fin 16)) : Option WorkId :=
  if sized : digits.length = 32 then some ⟨digits, sized⟩ else none

/-- The full written form. -/
def text (id : WorkId) : String :=
  String.ofList (writeGroups groupSizes id.digits)

/-- The first eight digits, which log lines show. -/
def short (id : WorkId) : String :=
  String.ofList ((id.digits.take 8).map hexChar)

/-- The name space of identifiers among uniform resource names. -/
def nameSpace : List Char := "urn:uuid:".toList

/-- The hyphenated form, possibly within braces or after the name space. -/
def readHyphenated (chars : List Char) : Option (List (Fin 16)) :=
  match chars with
  | '\x7b' :: rest =>
    if rest.getLast? = some '\x7d' then readGroups groupSizes rest.dropLast else none
  | _ =>
    if (chars.take nameSpace.length).map Char.toLower = nameSpace then
      readGroups groupSizes (chars.drop nameSpace.length)
    else readGroups groupSizes chars

def parse? (written : String) : Option WorkId :=
  let chars := written.toList
  let digits? := if chars.length = 32 then readHex chars else readHyphenated chars
  digits?.bind ofDigits?

/-- The last `count` hexadecimal digits of a number. -/
def hexDigits : Nat → Nat → List (Fin 16)
  | 0, _ => []
  | count + 1, value => hexDigits count (value / 16) ++ [Fin.ofNat 16 value]

theorem hexDigits_length (count value : Nat) : (hexDigits count value).length = count := by
  induction count generalizing value with
  | zero => rfl
  | succ count inductionHypothesis => simp [hexDigits, inductionHypothesis]

/-- An identifier of version 4: the version and variant digits are fixed, the
other thirty are those of `entropy`. -/
def ofEntropy (entropy : Nat) : WorkId :=
  ⟨hexDigits 12 (entropy / Nat.pow 16 18) ++ 4 :: hexDigits 3 (entropy / Nat.pow 16 15) ++
      8 :: hexDigits 15 entropy,
    by simp [hexDigits_length]⟩

/-- The version digit. -/
def version (id : WorkId) : Nat :=
  (id.digits[12]?.map Fin.val).getD 0

end WorkId

end WorkHost

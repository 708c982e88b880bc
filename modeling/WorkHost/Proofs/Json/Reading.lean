import WorkHost.Json.Reader
import WorkHost.Json.Writer
import WorkHost.Proofs.Text.Numerals

/-!
Contract: what was written is read back.

Every value that is written is read again, as itself but for two details: a control character
without a short escape comes back as the UTF-16 unit that was written for it, and a number
that is not plain comes back with the power of ten that was written (`Value.heard`).
`parse?_render` holds of all values; strings made of texts mean the same as before
(`text?_heard`).
-/

namespace WorkHost.Json

open WorkHost.Text

/-! ## Strings -/

/-- Characters that are written as a UTF-16 unit. -/
def needsUnit (c : Char) : Bool :=
  c.toNat < 0x20 && !(['\x08', '\x0c', '\n', '\r', '\t'].contains c)

/-- What an element of a string is read as. -/
def Piece.heard : Piece → Piece
  | .char c => if needsUnit c then .unit c.toNat else .char c
  | .unit code => .unit (code % 0x10000)

theorem hexValue?_hexDigitChar : ∀ digit < 16, hexValue? (hexDigitChar digit) = some digit := by
  decide

theorem readString_writeUnit (code : Nat) (rest : List Char) :
    readString (writeUnit code ++ rest) =
      (readString rest).map fun result => (.unit (code % 0x10000) :: result.1, result.2) := by
  have digits : ((code / 4096 % 16 * 16 + code / 256 % 16) * 16 + code / 16 % 16) * 16 +
      code % 16 = code % 0x10000 := by omega
  simp only [writeUnit, List.cons_append, List.nil_append, readString]
  rw [hexValue?_hexDigitChar _ (by omega), hexValue?_hexDigitChar _ (by omega),
    hexValue?_hexDigitChar _ (by omega), hexValue?_hexDigitChar _ (by omega)]
  cases readString rest with
  | none => rfl
  | some result =>
    rw [← digits]
    rfl

/-- A character without an escape stands for itself. -/
theorem readString_plain {c : Char} (quote : c ≠ '"') (backslash : c ≠ '\\')
    (printable : ¬ c.toNat < 0x20) (rest : List Char) :
    readString (c :: rest) =
      (readString rest).map fun result => (.char c :: result.1, result.2) := by
  rw [readString.eq_def]
  split
  · rename_i nothing
    cases nothing
  · rename_i same
    exact absurd (List.cons.inj same).1 quote
  · rename_i same
    exact absurd (List.cons.inj same).1 backslash
  · rename_i same
    exact absurd (List.cons.inj same).1 backslash
  · rename_i same
    obtain ⟨rfl, rfl⟩ := List.cons.inj same
    rw [if_neg (not_or.mpr ⟨printable, backslash⟩)]

theorem readString_escape {letter c : Char} (stands : escape? letter = some c)
    (rest : List Char) :
    readString ('\\' :: letter :: rest) =
      (readString rest).map fun result => (.char c :: result.1, result.2) := by
  have noUnit : letter ≠ 'u' := by
    rintro rfl
    cases stands
  rw [readString.eq_def]
  split
  · rename_i nothing
    cases nothing
  · rename_i same
    cases (List.cons.inj same).1
  · rename_i same
    exact absurd (List.cons.inj (List.cons.inj same).2).1 noUnit
  · rename_i same
    obtain ⟨rfl, rfl⟩ := List.cons.inj (List.cons.inj same).2
    rw [stands]
    cases readString _ with
    | none => rfl
    | some result => rfl
  · rename_i notEscape same
    exact (notEscape letter rest (List.cons.inj same).1.symm (List.cons.inj same).2.symm).elim

theorem readString_writeChar (c : Char) (rest : List Char) :
    readString (writeChar c ++ rest) =
      (readString rest).map fun result => ((Piece.char c).heard :: result.1, result.2) := by
  unfold writeChar
  -- Seven characters have a short escape.
  iterate 7
    split
    · subst c
      exact readString_escape rfl rest
  rename_i quote backslash backspace formFeed newline carriageReturn tab
  split
  · rename_i control
    have unit : needsUnit c = true := by
      simp [needsUnit, control, backspace, formFeed, newline, carriageReturn, tab]
    rw [readString_writeUnit, Nat.mod_eq_of_lt (by omega), Piece.heard, if_pos unit]
  · rename_i printable
    have noUnit : needsUnit c = false := by simp [needsUnit, printable]
    rw [List.singleton_append, readString_plain quote backslash printable, Piece.heard, noUnit]
    rfl

theorem readString_write (piece : Piece) (rest : List Char) :
    readString (piece.write ++ rest) =
      (readString rest).map fun result => (piece.heard :: result.1, result.2) := by
  cases piece with
  | char c => exact readString_writeChar c rest
  | unit code => exact readString_writeUnit code rest

/-- A whole string, without its opening quote. -/
theorem readString_pieces (pieces : List Piece) (rest : List Char) :
    readString (pieces.flatMap Piece.write ++ '"' :: rest) =
      some (pieces.map Piece.heard, rest) := by
  induction pieces with
  | nil => rfl
  | cons piece pieces inductionHypothesis =>
    rw [List.flatMap_cons, List.append_assoc, readString_write, inductionHypothesis]
    rfl

/-- A unit below the surrogates is a character of its own. -/
theorem chars?_unit {code : Nat} (low : code < 0x20) (rest : List Piece) :
    chars? (.unit code :: rest) = (chars? rest).map (Char.ofNat code :: ·) := by
  have notHigh : isHighSurrogate code = false := by
    simp [isHighSurrogate]
    omega
  have notLow : isLowSurrogate code = false := by
    simp [isLowSurrogate]
    omega
  cases rest with
  | nil => simp [chars?, notHigh, notLow]
  | cons piece rest =>
    cases piece with
    | char c => simp [chars?, notHigh, notLow]
    | unit next => simp [chars?, notHigh, notLow]

/-- A string means the same after it was written and read. -/
theorem chars?_heard (chars : List Char) :
    chars? ((ofChars chars).map Piece.heard) = some chars := by
  induction chars with
  | nil => rfl
  | cons c rest inductionHypothesis =>
    have heard : (ofChars (c :: rest)).map Piece.heard =
        (Piece.char c).heard :: (ofChars rest).map Piece.heard := rfl
    rw [heard, Piece.heard]
    by_cases unit : needsUnit c = true
    · have low : c.toNat < 0x20 := by
        simp only [needsUnit, Bool.and_eq_true, decide_eq_true_eq] at unit
        exact unit.1
      rw [if_pos unit, chars?_unit low, inductionHypothesis, Option.map_some, Char.ofNat_toNat]
    · rw [if_neg unit, chars?, inductionHypothesis, Option.map_some]

theorem text?_heard (text : String) : text? ((ofText text).map Piece.heard) = some text := by
  rw [text?, ofText, chars?_heard, Option.map_some, String.ofList_toList]

/-! ## Numbers -/

/-- What a number is read as. -/
def Number.heard (number : Number) : Number :=
  ⟨number.negative, number.mantissa, 0, if number.isPlain then none else some number.scale⟩

/-- What may follow a number or any other value within a text. -/
def Ends (text : List Char) : Prop := ∀ c ∈ text.head?, c = ',' ∨ c = ']' ∨ c = '\x7d'

theorem Ends.stops {text : List Char} (ends : Ends text) : Stops text := by
  intro c isFirst
  rcases ends c isFirst with rfl | rfl | rfl <;> rfl

theorem readWhole_zero {rest : List Char} (stops : Stops rest) :
    readWhole ('0' :: rest) = some (0, rest) := by
  cases rest with
  | nil => rfl
  | cons c rest =>
    have noDigit : (digit? c).isSome = false := (isSome_digit? c).trans (stops c rfl)
    simp [readWhole, noDigit]

theorem readWhole_cons {c : Char} (isDigit : c.isDigit = true) (noZero : c ≠ '0')
    (rest : List Char) : readWhole (c :: rest) = some (spanDigits (c :: rest) 0) := by
  rw [readWhole.eq_def]
  split
  · rename_i same
    exact absurd (List.cons.inj same).1 noZero
  · rename_i same
    exact absurd (List.cons.inj same).1 noZero
  · rename_i same
    obtain ⟨rfl, rfl⟩ := List.cons.inj same
    rw [isSome_digit?, isDigit, if_pos rfl]
  · rename_i same
    cases same

theorem readWhole_toDigits (value : Nat) {rest : List Char} (stops : Stops rest) :
    readWhole (Nat.toDigits 10 value ++ rest) = some (value, rest) := by
  have whole := spanDigits_toDigits value stops
  have digits : ∀ c ∈ Nat.toDigits 10 value, c.isDigit = true := fun _ => isDigit_of_mem_toDigits
  cases written : Nat.toDigits 10 value with
  | nil => exact absurd written Nat.toDigits_ne_nil
  | cons c more =>
    rw [written] at whole digits
    by_cases zero : c = '0'
    · have nothing : value = 0 := eq_zero_of_toDigits (zero ▸ written)
      rw [nothing, Nat.toDigits_zero] at written
      obtain ⟨rfl, rfl⟩ := List.cons.inj written
      rw [nothing]
      exact readWhole_zero stops
    · rw [List.cons_append, readWhole_cons (digits c List.mem_cons_self) zero]
      exact congrArg some whole

theorem readMore_toDigits (value : Nat) {rest : List Char} (stops : Stops rest) :
    readMore 0 (Nat.toDigits 10 value ++ rest) =
      some (value, (Nat.toDigits 10 value).length, rest) := by
  have some := Nat.length_toDigits_pos (b := 10) (n := value)
  have longer : rest.length < (Nat.toDigits 10 value ++ rest).length := by
    rw [List.length_append]
    omega
  have count : (Nat.toDigits 10 value ++ rest).length - rest.length =
      (Nat.toDigits 10 value).length := by
    rw [List.length_append, Nat.add_sub_cancel]
  simp only [readMore, spanDigits_toDigits value stops]
  rw [if_pos longer, count]

theorem readFraction_of_ne {text : List Char} (whole : Nat)
    (noPoint : ∀ c ∈ text.head?, c ≠ '.') : readFraction whole text = some (whole, 0, text) := by
  unfold readFraction
  split
  · exact absurd rfl (noPoint '.' rfl)
  · rfl

theorem readExponent_of_ne {text : List Char}
    (noExponent : ∀ c ∈ text.head?, c ≠ 'e' ∧ c ≠ 'E') : readExponent text = some (none, text) := by
  unfold readExponent
  split
  · exact absurd rfl (noExponent 'e' rfl).1
  · exact absurd rfl (noExponent 'E' rfl).2
  · rfl

theorem readExponent_unsigned {text : List Char} (unsigned : ∀ c ∈ text.head?, c ≠ '-' ∧ c ≠ '+') :
    readExponent ('e' :: text) =
      (readMore 0 text).map fun result => (some (result.1 : Int), result.2.2) := by
  simp only [readExponent]
  split
  · exact absurd rfl (unsigned '-' rfl).1
  · exact absurd rfl (unsigned '+' rfl).2
  · rfl

/-- A digit is written first. -/
theorem head?_toDigits {value : Nat} {rest : List Char} {c : Char}
    (isFirst : c ∈ (Nat.toDigits 10 value ++ rest).head?) : c.isDigit = true := by
  cases written : Nat.toDigits 10 value with
  | nil => exact absurd written Nat.toDigits_ne_nil
  | cons first more =>
    rw [written] at isFirst
    have member : c ∈ Nat.toDigits 10 value := by
      rw [written, ← Option.some.inj isFirst]
      exact List.mem_cons_self
    exact isDigit_of_mem_toDigits member

/-- The exponent as it is written. -/
def writeScale (scale : Int) : List Char :=
  if scale < 0 then '-' :: Nat.toDigits 10 scale.natAbs else Nat.toDigits 10 scale.toNat

theorem readExponent_writeScale (scale : Int) {rest : List Char} (stops : Stops rest) :
    readExponent ('e' :: (writeScale scale ++ rest)) = some (some scale, rest) := by
  unfold writeScale
  split
  · rename_i negative
    simp only [readExponent, List.cons_append, readMore_toDigits _ stops, Option.map_some]
    congr 3
    omega
  · rename_i positive
    rw [readExponent_unsigned, readMore_toDigits _ stops, Option.map_some,
      Int.toNat_of_nonneg (Int.not_lt.mp positive)]
    intro c isFirst
    have isDigit := head?_toDigits isFirst
    constructor
    · rintro rfl
      cases isDigit
    · rintro rfl
      cases isDigit

/-- What follows the digits of a number. -/
def Number.tail (number : Number) : List Char :=
  if number.isPlain then [] else 'e' :: writeScale number.scale

theorem Number.write_eq (number : Number) :
    number.write = (if number.negative then ['-'] else []) ++
      (Nat.toDigits 10 number.mantissa ++ number.tail) := by
  unfold Number.write Number.tail writeScale
  cases number.negative <;> cases number.isPlain <;> simp

theorem readTail (number : Number) {rest : List Char} (ends : Ends rest) :
    Stops (number.tail ++ rest) ∧
      readFraction number.mantissa (number.tail ++ rest) =
        some (number.mantissa, 0, number.tail ++ rest) ∧
      readExponent (number.tail ++ rest) = some (number.heard.exponent, rest) := by
  unfold Number.tail Number.heard
  cases number.isPlain with
  | true =>
    refine ⟨ends.stops, readFraction_of_ne _ ?_, readExponent_of_ne ?_⟩
    · intro c isFirst
      rcases ends c isFirst with rfl | rfl | rfl <;> decide
    · intro c isFirst
      rcases ends c isFirst with rfl | rfl | rfl <;> decide
  | false =>
    refine ⟨stops_cons rfl _, readFraction_of_ne _ ?_, readExponent_writeScale _ ends.stops⟩
    intro c isFirst
    cases isFirst
    decide

theorem readNumber_write (number : Number) {rest : List Char} (ends : Ends rest) :
    readNumber (number.write ++ rest) = some (number.heard, rest) := by
  obtain ⟨stops, fraction, exponent⟩ := readTail number ends
  have whole := readWhole_toDigits number.mantissa stops
  rw [Number.write_eq, List.append_assoc, List.append_assoc]
  cases negative : number.negative with
  | true =>
    simp only [readNumber, if_true, List.cons_append, List.nil_append]
    rw [whole, Option.bind_eq_bind, Option.bind_some]
    simp only [fraction, exponent, Option.bind_eq_bind, Option.bind_some, Number.heard, negative]
    rfl
  | false =>
    simp only [readNumber, Bool.false_eq_true, if_false, List.nil_append]
    split
    · rename_i more signed
      have isFirst : '-' ∈ (Nat.toDigits 10 number.mantissa ++ (number.tail ++ rest)).head? := by
        rw [signed]
        rfl
      cases head?_toDigits isFirst
    · rw [whole, Option.bind_eq_bind, Option.bind_some]
      simp only [fraction, exponent, Option.bind_eq_bind, Option.bind_some, Number.heard, negative]
      rfl

/-! ## Values -/

mutual

/-- What a value is read as after it was written. -/
def Value.heard : Value → Value
  | .null => .null
  | .bool value => .bool value
  | .number number => .number number.heard
  | .string pieces => .string (pieces.map Piece.heard)
  | .array items => .array (heardItems items)
  | .object members => .object (heardMembers members)

def heardItems : List Value → List Value
  | [] => []
  | value :: rest => value.heard :: heardItems rest

def heardMembers : List (List Piece × Value) → List (List Piece × Value)
  | [] => []
  | (name, value) :: rest => (name.map Piece.heard, value.heard) :: heardMembers rest

end

theorem skipSpace_cons {c : Char} (noSpace : isSpace c = false) (rest : List Char) :
    skipSpace (c :: rest) = c :: rest := by
  rw [skipSpace, List.dropWhile_cons_of_neg]
  rw [noSpace]
  exact Bool.false_ne_true

theorem number_head (number : Number) :
    ∃ c rest, number.write = c :: rest ∧ (c = '-' ∨ c.isDigit = true) := by
  rw [Number.write_eq]
  cases number.negative with
  | true => exact ⟨'-', _, rfl, Or.inl rfl⟩
  | false =>
    cases written : Nat.toDigits 10 number.mantissa with
    | nil => exact absurd written Nat.toDigits_ne_nil
    | cons c more =>
      exact ⟨c, _, rfl, Or.inr (isDigit_of_mem_toDigits (written ▸ List.mem_cons_self))⟩

theorem number_start_ne {c other : Char} (starts : c = '-' ∨ c.isDigit = true)
    (unlike : other ≠ '-' ∧ other.isDigit = false) : c ≠ other := by
  rintro rfl
  rcases starts with sign | digit
  · exact unlike.1 sign
  · simp [unlike.2] at digit

theorem isSpace_number_start {c : Char} (starts : c = '-' ∨ c.isDigit = true) :
    isSpace c = false := by
  simp [isSpace, number_start_ne starts]

/-- A number begins like no other value, and not with a blank or a bracket. -/
theorem readValue_number {c : Char} (starts : c = '-' ∨ c.isDigit = true) (fuel : Nat)
    (rest : List Char) :
    readValue (fuel + 1) (c :: rest) =
      (readNumber (c :: rest)).map fun result => (.number result.1, result.2) := by
  rw [readValue, skipSpace_cons (isSpace_number_start starts)]
  split
  · rename_i same
    exact absurd (List.cons.inj same).1 (number_start_ne starts (by decide))
  · rename_i same
    exact absurd (List.cons.inj same).1 (number_start_ne starts (by decide))
  · rename_i same
    exact absurd (List.cons.inj same).1 (number_start_ne starts (by decide))
  · rename_i same
    exact absurd (List.cons.inj same).1 (number_start_ne starts (by decide))
  · rename_i same
    exact absurd (List.cons.inj same).1 (number_start_ne starts (by decide))
  · rename_i same
    exact absurd (List.cons.inj same).1 (number_start_ne starts (by decide))
  · rfl

/-- A written value begins with neither a blank nor a closing bracket. -/
theorem write_head (value : Value) :
    ∃ c rest, value.write = c :: rest ∧ isSpace c = false ∧ c ≠ ']' := by
  cases value with
  | null => exact ⟨'n', _, rfl, rfl, by decide⟩
  | bool value =>
    cases value with
    | true => exact ⟨'t', _, rfl, rfl, by decide⟩
    | false => exact ⟨'f', _, rfl, rfl, by decide⟩
  | number number =>
    obtain ⟨c, rest, written, starts⟩ := number_head number
    exact ⟨c, rest, written, isSpace_number_start starts, number_start_ne starts (by decide)⟩
  | string pieces => exact ⟨'"', _, rfl, rfl, by decide⟩
  | array items => exact ⟨'[', _, by rw [Value.write], rfl, by decide⟩
  | object members => exact ⟨'\x7b', _, by rw [Value.write], rfl, by decide⟩

theorem ends_cons {c : Char} (mark : c = ',' ∨ c = ']' ∨ c = '\x7d') (rest : List Char) :
    Ends (c :: rest) := by
  intro first isFirst
  exact Option.some.inj isFirst ▸ mark

theorem readValue_zero_lt {value : Value} {fuel : Nat} (enough : value.write.length ≤ fuel) :
    ∃ less, fuel = less + 1 := by
  obtain ⟨c, more, written, -⟩ := write_head value
  rw [written, List.length_cons] at enough
  exact ⟨fuel - 1, by omega⟩

theorem writeItems_cons (item next : Value) (items : List Value) :
    writeItems (item :: next :: items) = item.write ++ ',' :: writeItems (next :: items) := by
  rw [writeItems]
  exact List.cons_ne_nil next items

theorem writeMembers_cons (name : List Piece) (value : Value) (next : List Piece × Value)
    (members : List (List Piece × Value)) :
    writeMembers ((name, value) :: next :: members) =
      writeString name ++ ':' :: (value.write ++ ',' :: writeMembers (next :: members)) := by
  rw [writeMembers]
  exact List.cons_ne_nil next members

theorem items_head (item : Value) (items : List Value) :
    ∃ c rest, writeItems (item :: items) = c :: rest ∧ isSpace c = false ∧ c ≠ ']' := by
  obtain ⟨c, more, written, head⟩ := write_head item
  cases items with
  | nil => exact ⟨c, more, by rw [writeItems, written], head⟩
  | cons next items => exact ⟨c, _, by rw [writeItems_cons, written, List.cons_append], head⟩

theorem members_head (name : List Piece) (value : Value) (members : List (List Piece × Value)) :
    ∃ rest, writeMembers ((name, value) :: members) = '"' :: rest := by
  cases members with
  | nil => exact ⟨_, by rw [writeMembers, writeString, List.cons_append]⟩
  | cons next members => exact ⟨_, by rw [writeMembers_cons, writeString, List.cons_append]⟩

theorem write_length_pos (value : Value) : 0 < value.write.length := by
  obtain ⟨c, more, written, -⟩ := write_head value
  rw [written]
  exact Nat.succ_pos _

-- The recursion is that of the reader: every call that goes deeper has less fuel.
mutual

theorem readValue_write : ∀ (value : Value) (fuel : Nat) (rest : List Char),
    value.write.length ≤ fuel → Ends rest →
      readValue fuel (value.write ++ rest) = some (value.heard, rest)
  | .null, fuel, rest, enough, _ => by
    obtain ⟨less, rfl⟩ := readValue_zero_lt enough
    rw [readValue]
    rfl
  | .bool true, fuel, rest, enough, ends => by
    obtain ⟨less, rfl⟩ := readValue_zero_lt enough
    rw [readValue]
    rfl
  | .bool false, fuel, rest, enough, ends => by
    obtain ⟨less, rfl⟩ := readValue_zero_lt enough
    rw [readValue]
    rfl
  | .number number, fuel, rest, enough, ends => by
    obtain ⟨less, rfl⟩ := readValue_zero_lt enough
    obtain ⟨c, more, written, starts⟩ := number_head number
    have read := readNumber_write number ends
    rw [Value.write]
    rw [written, List.cons_append] at read ⊢
    rw [readValue_number starts, read]
    rfl
  | .string pieces, fuel, rest, enough, ends => by
    obtain ⟨less, rfl⟩ := readValue_zero_lt enough
    rw [Value.write, writeString, List.cons_append, List.append_assoc, readValue,
      skipSpace_cons rfl]
    simp only [List.singleton_append, readString_pieces]
    rfl
  | .array [], fuel, rest, enough, ends => by
    obtain ⟨less, rfl⟩ := readValue_zero_lt enough
    rw [readValue]
    rfl
  | .array (item :: items), fuel, rest, enough, ends => by
    obtain ⟨less, rfl⟩ := readValue_zero_lt enough
    have inner := readItems_write item items less rest
      (by simp only [Value.write, List.length_cons, List.length_append] at enough; omega)
    obtain ⟨c, more, written, noSpace, noBracket⟩ := items_head item items
    rw [Value.write, List.cons_append, List.append_assoc, readValue, skipSpace_cons rfl]
    rw [written, List.cons_append] at inner ⊢
    simp only [skipSpace_cons noSpace, List.cons_append]
    split
    · rename_i same
      exact absurd (List.cons.inj same).1 noBracket
    · rw [List.nil_append, inner]
      rfl
  | .object [], fuel, rest, enough, ends => by
    obtain ⟨less, rfl⟩ := readValue_zero_lt enough
    rw [readValue]
    rfl
  | .object ((name, value) :: members), fuel, rest, enough, ends => by
    obtain ⟨less, rfl⟩ := readValue_zero_lt enough
    have inner := readMembers_write name value members less rest
      (by simp only [Value.write, List.length_cons, List.length_append] at enough; omega)
    obtain ⟨more, written⟩ := members_head name value members
    rw [Value.write, List.cons_append, List.append_assoc, readValue, skipSpace_cons rfl]
    rw [written, List.cons_append] at inner ⊢
    simp only [skipSpace_cons (c := '"') rfl, List.cons_append, List.nil_append]
    show Option.map _ (readMembers less _) = _
    rw [inner]
    rfl
termination_by _ fuel => fuel

theorem readItems_write : ∀ (item : Value) (items : List Value) (fuel : Nat) (rest : List Char),
    (writeItems (item :: items)).length + 1 ≤ fuel →
      readItems fuel (writeItems (item :: items) ++ ']' :: rest) =
        some (heardItems (item :: items), rest)
  | item, [], fuel, rest, enough => by
    obtain ⟨less, rfl⟩ : ∃ less, fuel = less + 1 := ⟨fuel - 1, by omega⟩
    rw [writeItems] at enough ⊢
    rw [readItems, readValue_write item less _ (by omega) (ends_cons (by decide) rest)]
    rfl
  | item, next :: items, fuel, rest, enough => by
    obtain ⟨less, rfl⟩ : ∃ less, fuel = less + 1 := ⟨fuel - 1, by omega⟩
    have some := write_length_pos item
    rw [writeItems_cons, List.length_append, List.length_cons] at enough
    rw [writeItems_cons, List.append_assoc, List.cons_append, readItems,
      readValue_write item less _ (by omega) (ends_cons (by decide) _), Option.bind_eq_bind,
      Option.bind_some]
    simp only [skipSpace_cons (c := ',') rfl]
    rw [readItems_write next items less rest (by omega)]
    rfl
termination_by _ _ fuel => fuel

theorem readMembers_write : ∀ (name : List Piece) (value : Value)
    (members : List (List Piece × Value)) (fuel : Nat) (rest : List Char),
    (writeMembers ((name, value) :: members)).length + 1 ≤ fuel →
      readMembers fuel (writeMembers ((name, value) :: members) ++ '\x7d' :: rest) =
        some (heardMembers ((name, value) :: members), rest)
  | name, value, [], fuel, rest, enough => by
    obtain ⟨less, rfl⟩ : ∃ less, fuel = less + 1 := ⟨fuel - 1, by omega⟩
    rw [writeMembers, List.length_append, List.length_cons] at enough
    rw [writeMembers, writeString, List.cons_append, List.cons_append, readMembers,
      skipSpace_cons rfl]
    simp only [List.append_assoc, List.cons_append, List.nil_append, readString_pieces,
      Option.bind_eq_bind, Option.bind_some, skipSpace_cons (c := ':') rfl]
    rw [readValue_write value less _ (by omega) (ends_cons (by decide) rest), Option.bind_some]
    rfl
  | name, value, next :: members, fuel, rest, enough => by
    obtain ⟨less, rfl⟩ : ∃ less, fuel = less + 1 := ⟨fuel - 1, by omega⟩
    rw [writeMembers_cons, List.length_append, List.length_cons, List.length_append,
      List.length_cons] at enough
    rw [writeMembers_cons, writeString, List.cons_append, List.cons_append, readMembers,
      skipSpace_cons rfl]
    simp only [List.append_assoc, List.cons_append, List.nil_append, readString_pieces,
      Option.bind_eq_bind, Option.bind_some, skipSpace_cons (c := ':') rfl]
    rw [readValue_write value less _ (by omega) (ends_cons (by decide) _), Option.bind_some]
    simp only [skipSpace_cons (c := ',') rfl]
    obtain ⟨nextName, nextValue⟩ := next
    rw [readMembers_write nextName nextValue members less rest (by omega)]
    rfl
termination_by _ _ _ fuel => fuel

end

/-- Every value that is written is read again. -/
theorem parse?_render (value : Value) : parse? value.render = some value.heard := by
  have read := readValue_write value (2 * value.write.length + 2) [] (by omega) nofun
  rw [List.append_nil] at read
  rw [parse?, Value.render, String.toList_ofList, parseChars?, read]
  rfl

end WorkHost.Json

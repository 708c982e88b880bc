import WorkHost.Calendar.Timestamp
import WorkHost.Proofs.Calendar.Days
import WorkHost.Proofs.Text.Numerals

/-!
Contract: an instant is read back from its written form.

Every field is written with a fixed number of digits and is read without what follows it
(`readUpTo_padded`), and so is each choice of fraction digits (`readFraction_writeFraction`).
The whole is read back for the years of four digits, leap seconds apart (`read?_write`).
-/

namespace WorkHost.Calendar.Timestamp

open WorkHost.Text

/-! ## Digits -/

section Padded

variable {width value : Nat}

theorem length_padded (positive : 0 < width) (fits : value < 10 ^ width) :
    (padded width value).length = width := by
  have digits := (Nat.length_toDigits_le_iff (by decide) positive).mpr fits
  rw [padded, List.length_append, List.length_replicate]
  omega

theorem isDigit_of_mem_padded {c : Char} (member : c ∈ padded width value) :
    c.isDigit = true := by
  rcases List.mem_append.mp member with zero | digit
  · rw [List.eq_of_mem_replicate zero]
    rfl
  · exact isDigit_of_mem_toDigits digit

theorem ofDigitChars_padded (width value : Nat) :
    Nat.ofDigitChars 10 (padded width value) 0 = value := by
  rw [padded, Nat.ofDigitChars_append, Nat.ofDigitChars_replicate_zero, Nat.mul_zero,
    Nat.ofDigitChars_ten_toDigits]

end Padded

/-- As many digits as are looked for are taken, or those before the end of the digits. -/
theorem readUpTo_append {limit : Nat} {digits rest : List Char}
    (areDigits : ∀ c ∈ digits, c.isDigit = true) (some : digits ≠ [])
    (within : digits.length ≤ limit) (ends : digits.length = limit ∨ Stops rest) :
    readUpTo limit (digits ++ rest) =
      .some (Nat.ofDigitChars 10 digits 0, digits.length, rest) := by
  have stops : Stops (rest.take (limit - digits.length)) := by
    rcases ends with full | stops
    · rw [full, Nat.sub_self, List.take_zero]
      exact stops_nil
    · exact stops.take _
  have taken : ((digits ++ rest).take limit).takeWhile (fun c => (digit? c).isSome) = digits := by
    have isSome : ∀ c ∈ digits, (digit? c).isSome = true := by
      intro c member
      rw [isSome_digit?, areDigits c member]
    rw [List.take_append, List.take_of_length_le within, List.takeWhile_append_of_pos isSome,
      takeWhile_of_stops stops, List.append_nil]
  have value := spanDigits_append areDigits stops_nil 0
  rw [List.append_nil] at value
  simp only [readUpTo, taken, value, List.isEmpty_iff, if_neg some, List.drop_left]

theorem readUpTo_padded {limit width value : Nat} (positive : 0 < width)
    (fits : value < 10 ^ width) (within : width ≤ limit) {rest : List Char}
    (ends : width = limit ∨ Stops rest) :
    readUpTo limit (padded width value ++ rest) = some (value, width, rest) := by
  have length := length_padded positive fits
  have some : padded width value ≠ [] := List.ne_nil_of_length_pos (by omega)
  rw [readUpTo_append (fun _ => isDigit_of_mem_padded) some (by omega) (by rwa [length]), length,
    ofDigitChars_padded]

/-! ## Fields -/

theorem isBlank_of_isDigit {c : Char} (isDigit : c.isDigit = true) : isBlank c = false := by
  have range : 48 ≤ c.toNat ∧ c.toNat ≤ 57 := by
    simpa [Char.isDigit, UInt32.le_iff_toNat_le] using isDigit
  simp only [isBlank, Bool.or_eq_false_iff, Bool.and_eq_false_iff, decide_eq_false_iff_not,
    beq_eq_false_iff_ne]
  omega

theorem skipBlanks_cons {c : Char} (noBlank : isBlank c = false) (rest : List Char) :
    skipBlanks (c :: rest) = c :: rest := by
  rw [skipBlanks, List.dropWhile_cons_of_neg]
  rw [noBlank]
  exact Bool.false_ne_true

/-- A padded number begins with a digit. -/
theorem padded_head {width value : Nat} (positive : 0 < width) (fits : value < 10 ^ width) :
    ∃ c more, padded width value = c :: more ∧ c.isDigit = true := by
  have length := length_padded positive fits
  obtain ⟨c, more, written⟩ := List.exists_cons_of_length_pos (length ▸ positive)
  exact ⟨c, more, written, isDigit_of_mem_padded (written ▸ List.mem_cons_self)⟩

theorem skipBlanks_padded {width value : Nat} (positive : 0 < width) (fits : value < 10 ^ width)
    (rest : List Char) : skipBlanks (padded width value ++ rest) = padded width value ++ rest := by
  obtain ⟨c, more, written, isDigit⟩ := padded_head positive fits
  rw [written, List.cons_append, skipBlanks_cons (isBlank_of_isDigit isDigit)]

theorem readField_padded {value : Nat} (fits : value < 100) (rest : List Char) :
    readField 2 (padded 2 value ++ rest) = some (value, rest) := by
  rw [readField, skipBlanks_padded (by decide) fits,
    readUpTo_padded (by decide) fits (by decide) (Or.inl rfl)]
  rfl

/-- A year that begins with a digit is read as one without a sign. -/
theorem readYear_writeYear {year : Int} (dated : 0 ≤ year ∧ year ≤ 9999) (rest : List Char) :
    readYear (writeYear year ++ rest) = some (year, rest) := by
  have fits : year.toNat < 10 ^ 4 := by omega
  have value : (year.toNat : Int) = year := Int.toNat_of_nonneg dated.1
  have read := @readUpTo_padded 4 4 year.toNat (by decide) fits (by decide) rest (Or.inl rfl)
  obtain ⟨c, more, written, isDigit⟩ := padded_head (by decide) fits
  rw [writeYear, if_pos dated, readYear, skipBlanks_padded (by decide) fits, written,
    List.cons_append]
  rw [written, List.cons_append] at read
  split
  · rename_i same
    rw [(List.cons.inj same).1] at isDigit
    exact absurd isDigit (by decide)
  · rename_i same
    rw [(List.cons.inj same).1] at isDigit
    exact absurd isDigit (by decide)
  · rw [read, Option.map_some]
    simp only [value]

theorem expect_cons {wanted : Char} (noBlank : isBlank wanted = false) (rest : List Char) :
    expect wanted (wanted :: rest) = some rest := by
  rw [expect, skipBlanks_cons noBlank]
  exact if_pos rfl

/-! ## The fraction of a second -/

/-- What is left out of a fraction is worth zero. -/
theorem readFraction_padded {width value : Nat} (positive : 0 < width) (within : width ≤ 9)
    (fits : value < 10 ^ width) {rest : List Char} (stops : Stops rest) :
    readFraction ('.' :: padded width value ++ rest) =
      some (value * 10 ^ (9 - width), rest) := by
  have past : rest.dropWhile (fun c => (digit? c).isSome) = rest := by
    have whole := @List.takeWhile_append_dropWhile _ (fun c => (digit? c).isSome) rest
    rwa [takeWhile_of_stops stops, List.nil_append] at whole
  rw [List.cons_append, readFraction, readUpTo_padded positive fits within (Or.inr stops),
    Option.map_some]
  simp only [past]
  rfl

theorem readFraction_writeFraction {nanos : Nat} (fits : nanos < Instant.nanosPerSecond)
    (rest : List Char) :
    readFraction (writeFraction nanos ++ 'Z' :: rest) = some (nanos, 'Z' :: rest) := by
  have stops : Stops ('Z' :: rest) := stops_cons rfl rest
  have bound : nanos < 1000000000 := fits
  unfold writeFraction
  split
  · rename_i zero
    rw [zero]
    rfl
  · split
    · rename_i thousands
      have whole : nanos / 1000000 * 10 ^ (9 - 3) = nanos := by omega
      rw [readFraction_padded (by decide) (by decide) (by omega) stops, whole]
    · split
      · have whole : nanos / 1000 * 10 ^ (9 - 6) = nanos := by omega
        rw [readFraction_padded (by decide) (by decide) (by omega) stops, whole]
      · have whole : nanos * 10 ^ (9 - 9) = nanos := Nat.mul_one nanos
        rw [readFraction_padded (by decide) (by decide) bound stops, whole]

/-! ## The whole -/

/-- The years that are written with four digits and without a sign. -/
def Dated (instant : Instant) : Prop := 0 ≤ instant.civil.year ∧ instant.civil.year ≤ 9999

theorem isRepresentable_of_dated {instant : Instant} (dated : Dated instant) :
    instant.isRepresentable = true := by
  have valid := Civil.ofSeconds_isValid instant.seconds
  have same := Civil.toSeconds_ofSeconds instant.seconds
  have first := @Civil.newYear_le _ valid Instant.firstYear (Int.le_trans (by decide) dated.1)
  have last := Civil.toSeconds_lt_of_year_lt valid (Civil.newYear_isValid (Instant.lastYear + 1))
    (Int.lt_of_le_of_lt dated.2 (by decide))
  rw [same] at first last
  simp only [Civil.toSeconds, Civil.newYear] at first last
  rw [Instant.isRepresentable, Bool.and_eq_true, decide_eq_true_eq, decide_eq_true_eq]
  omega

theorem bind_of_eq_some {α β : Type} {first : Option α} {value : α} {next : α → Option β}
    {result : Option β} (read : first = some value) (later : next value = result) :
    (first >>= next) = result := by
  rw [read]
  exact later

theorem read?_write {instant : Instant} (dated : Dated instant)
    (noLeap : instant.isLeapSecond = false) : read? (write instant) = some instant := by
  have valid : instant.civil.IsValid := Civil.ofSeconds_isValid instant.seconds
  have same : instant.civil.toSeconds = instant.seconds := Civil.toSeconds_ofSeconds _
  have representable := isRepresentable_of_dated dated
  have fits : instant.nanos < Instant.nanosPerSecond := by
    simpa [Instant.isLeapSecond] using noLeap
  have days := (daysInMonth_bounds instant.civil.year instant.civil.month).2
  have ⟨monthPos, monthLe, dayPos, dayLe, hourLe, minuteLe, secondLe⟩ := valid
  have years : Instant.firstYear ≤ instant.civil.year ∧ instant.civil.year ≤ Instant.lastYear :=
    ⟨Int.le_trans (by decide) dated.1, Int.le_trans dated.2 (by decide)⟩
  have noSixty : instant.civil.second ≠ 60 := by omega
  have month := @readField_padded instant.civil.month (by omega)
  have day := @readField_padded instant.civil.day (by omega)
  have hour := @readField_padded instant.civil.hour (by omega)
  have minute := @readField_padded instant.civil.minute (by omega)
  have second := @readField_padded instant.civil.second (by omega)
  have hyphen := @expect_cons '-' rfl
  have colon := @expect_cons ':' rfl
  have zone : readOffset (skipBlanks ['Z']) = some (0, []) := rfl
  rw [read?, write, String.toList_ofList, writeLocal]
  simp only [noLeap, Bool.false_eq_true, if_false, List.append_assoc, List.cons_append]
  -- The text is read field by field, and the fields are those of the instant.
  unfold readChars
  refine bind_of_eq_some (readYear_writeYear dated _) ?_
  refine bind_of_eq_some (hyphen _) (bind_of_eq_some (month _) ?_)
  refine bind_of_eq_some (hyphen _) (bind_of_eq_some (day _) ?_)
  refine bind_of_eq_some rfl (bind_of_eq_some (hour _) ?_)
  refine bind_of_eq_some (colon _) (bind_of_eq_some (minute _) ?_)
  refine bind_of_eq_some (colon _) (bind_of_eq_some (second _) ?_)
  refine bind_of_eq_some (readFraction_writeFraction fits []) (bind_of_eq_some zone ?_)
  simp only [if_neg noSixty, Int.sub_zero, same]
  exact if_pos ⟨rfl, valid, years.1, years.2, representable⟩

end WorkHost.Calendar.Timestamp

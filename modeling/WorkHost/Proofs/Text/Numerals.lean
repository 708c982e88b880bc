import Mathlib.Data.List.TakeWhile
import WorkHost.Text.Numeral

/-!
Contract: decimal digits are read as the number for which they were written.

Reading goes on as long as there are digits, so what follows a number must not begin with
one (`Stops`). With a limit it accepts exactly the numerals below the limit
(`readNumeral_eq_ok_iff`) and otherwise tells which fault comes first (`numeralFault`).
-/

namespace WorkHost.Text

theorem digit?_of_isDigit {c : Char} (isDigit : c.isDigit = true) :
    digit? c = some (c.toNat - '0'.toNat) := by
  have range : '0' ≤ c ∧ c ≤ '9' := by
    simpa [Char.isDigit, Char.le_def] using isDigit
  rw [digit?, if_pos range]

theorem isSome_digit? (c : Char) : (digit? c).isSome = c.isDigit := by
  cases isDigit : c.isDigit with
  | true => rw [digit?_of_isDigit isDigit, Option.isSome_some]
  | false =>
    have outside : ¬ ('0' ≤ c ∧ c ≤ '9') := by
      intro range
      have digit : c.isDigit = true := by simpa [Char.isDigit, Char.le_def] using range
      simp [isDigit] at digit
    rw [digit?, if_neg outside, Option.isSome_none]

/-- A text that does not begin with a digit. -/
def Stops (text : List Char) : Prop := ∀ c ∈ text.head?, c.isDigit = false

theorem stops_nil : Stops [] := nofun

theorem stops_cons {c : Char} (noDigit : c.isDigit = false) (rest : List Char) :
    Stops (c :: rest) := by
  intro first isFirst
  exact Option.some.inj isFirst ▸ noDigit

theorem takeWhile_of_stops {rest : List Char} (stops : Stops rest) :
    rest.takeWhile (fun c => (digit? c).isSome) = [] := by
  cases rest with
  | nil => rfl
  | cons c rest =>
    refine List.takeWhile_cons_of_neg ?_
    rw [isSome_digit?, stops c rfl]
    exact Bool.false_ne_true

theorem Stops.take {rest : List Char} (stops : Stops rest) (count : Nat) :
    Stops (rest.take count) := by
  intro c isFirst
  cases rest with
  | nil => simp at isFirst
  | cons first rest =>
    cases count with
    | zero => simp at isFirst
    | succ count => exact stops c isFirst

theorem spanDigits_of_stops {rest : List Char} (stops : Stops rest) (value : Nat) :
    spanDigits rest value = (value, rest) := by
  cases rest with
  | nil => rfl
  | cons c rest =>
    have noDigit := isSome_digit? c
    rw [stops c rfl, Option.isSome_eq_false_iff, Option.isNone_iff_eq_none] at noDigit
    rw [spanDigits, noDigit]

/-- Digits are worth what they are written for, and reading stops behind them. -/
theorem spanDigits_append {digits rest : List Char} (areDigits : ∀ c ∈ digits, c.isDigit = true)
    (stops : Stops rest) (value : Nat) :
    spanDigits (digits ++ rest) value = (Nat.ofDigitChars 10 digits value, rest) := by
  induction digits generalizing value with
  | nil => exact spanDigits_of_stops stops value
  | cons c digits inductionHypothesis =>
    have isDigit := areDigits c List.mem_cons_self
    rw [List.cons_append, spanDigits, digit?_of_isDigit isDigit, Nat.ofDigitChars_cons,
      Nat.mul_comm 10 value]
    exact inductionHypothesis (fun c member => areDigits c (List.mem_cons_of_mem _ member)) _

theorem isDigit_of_mem_toDigits {value : Nat} {c : Char} (member : c ∈ Nat.toDigits 10 value) :
    c.isDigit = true :=
  Nat.isDigit_of_mem_toDigits (by decide) (by decide) member

theorem spanDigits_toDigits (value : Nat) {rest : List Char} (stops : Stops rest) :
    spanDigits (Nat.toDigits 10 value ++ rest) 0 = (value, rest) := by
  rw [spanDigits_append (fun _ => isDigit_of_mem_toDigits) stops, Nat.ofDigitChars_ten_toDigits]

/-- Only zero is written with a leading zero. -/
theorem eq_zero_of_toDigits {value : Nat} {rest : List Char}
    (zero : Nat.toDigits 10 value = '0' :: rest) : value = 0 := by
  induction value using Nat.strongRecOn generalizing rest with
  | ind value inductionHypothesis =>
    by_cases small : value < 10
    · rw [Nat.toDigits_of_lt_base small] at zero
      exact Nat.digitChar_eq_zero.mp (List.cons.inj zero).1
    · have whole : Nat.toDigits 10 value =
          Nat.toDigits 10 (value / 10) ++ [(value % 10).digitChar] :=
        Nat.toDigits_of_base_le (by decide) (by omega)
      rw [whole] at zero
      obtain ⟨c, more, written⟩ := List.exists_cons_of_ne_nil
        (Nat.toDigits_ne_nil (b := 10) (n := value / 10))
      rw [written] at zero
      have first : c = '0' := (List.cons.inj zero).1
      have none := inductionHypothesis (value / 10) (by omega) (first ▸ written)
      omega

/-! ## Numerals -/

/-- A plus sign or none, and at least one digit; the value is that of the digits. -/
def IsNumeral (text : List Char) (value : Nat) : Prop :=
  ∃ digits, digits ≠ [] ∧ (∀ c ∈ digits, c.isDigit = true) ∧
    (text = digits ∨ text = '+' :: digits) ∧ value = Nat.ofDigitChars 10 digits 0

/-- What follows a plus sign at the start of a text. -/
def unsigned : List Char → List Char
  | '+' :: text => text
  | text => text

/-- What the digits are worth that stand before anything else, after a plus sign if there is
one. -/
def begunValue (text : List Char) : Nat :=
  Nat.ofDigitChars 10 ((unsigned text).takeWhile Char.isDigit) 0

theorem le_ofDigitChars (digits : List Char) (value : Nat) :
    value ≤ Nat.ofDigitChars 10 digits value := by
  induction digits generalizing value with
  | nil => exact Nat.le_refl value
  | cons c digits inductionHypothesis =>
    rw [Nat.ofDigitChars_cons]
    exact Nat.le_trans (by omega) (inductionHypothesis _)

/-- Digits are read until one of them leads beyond the limit or something else comes. -/
theorem readDigits_eq {limit value : Nat} (start : value < limit) (text : List Char) :
    readDigits limit value text =
      if limit ≤ Nat.ofDigitChars 10 (text.takeWhile Char.isDigit) value then .error .tooLarge
      else if text.all Char.isDigit then .ok (Nat.ofDigitChars 10 text value)
      else .error .badDigit := by
  induction text generalizing value with
  | nil =>
    show _ = if limit ≤ value then _ else _
    rw [if_neg (Nat.not_le.mpr start)]
    rfl
  | cons c rest inductionHypothesis =>
    rw [readDigits, List.all_cons]
    cases isDigit : c.isDigit with
    | false =>
      have noDigit : digit? c = none := by
        rw [← Option.isNone_iff_eq_none, ← Option.isSome_eq_false_iff, isSome_digit?, isDigit]
      have nothing : (c :: rest).takeWhile Char.isDigit = [] :=
        List.takeWhile_cons_of_neg (by simp [isDigit])
      rw [noDigit, nothing, Nat.ofDigitChars_nil, if_neg (Nat.not_le.mpr start)]
      rfl
    | true =>
      have more : (c :: rest).takeWhile Char.isDigit = c :: rest.takeWhile Char.isDigit :=
        List.takeWhile_cons_of_pos isDigit
      rw [digit?_of_isDigit isDigit, more, Nat.ofDigitChars_cons, Nat.ofDigitChars_cons,
        Nat.mul_comm 10 value]
      dsimp only
      split
      · rename_i below
        rw [inductionHypothesis below, Bool.true_and]
      · rename_i beyond
        rw [if_pos]
        exact Nat.le_trans (Nat.not_lt.mp beyond) (le_ofDigitChars _ _)

/-- Digits that stand before nothing else are worth what the numeral is worth. -/
theorem isNumeral_iff {text : List Char} {value : Nat} :
    IsNumeral text value ↔
      (unsigned text ≠ [] ∧ (unsigned text).all Char.isDigit = true) ∧ value = begunValue text := by
  have worth (digits : List Char) (areDigits : ∀ c ∈ digits, c.isDigit = true) :
      digits.takeWhile Char.isDigit = digits := List.takeWhile_eq_self_iff.mpr areDigits
  rw [begunValue]
  constructor
  · rintro ⟨digits, nonempty, areDigits, written, rfl⟩
    have same : unsigned text = digits := by
      rcases written with rfl | rfl
      · rw [unsigned]
        intro rest
        rintro rfl
        exact absurd (areDigits '+' List.mem_cons_self) (by decide)
      · rfl
    rw [same, worth digits areDigits]
    exact ⟨⟨nonempty, List.all_eq_true.mpr areDigits⟩, rfl⟩
  · rintro ⟨⟨nonempty, areDigits⟩, rfl⟩
    refine ⟨unsigned text, nonempty, List.all_eq_true.mp areDigits, ?_, ?_⟩
    · unfold unsigned
      split
      · exact .inr rfl
      · exact .inl rfl
    · rw [worth _ (List.all_eq_true.mp areDigits)]

theorem IsNumeral.unique {text : List Char} {value other : Nat} (first : IsNumeral text value)
    (second : IsNumeral text other) : value = other :=
  (isNumeral_iff.mp first).2.trans (isNumeral_iff.mp second).2.symm

/-- Why a text is no numeral below a limit. -/
def numeralFault (limit : Nat) (text : List Char) : NumeralFault :=
  if text = [] then .empty else if limit ≤ begunValue text then .tooLarge else .badDigit

/-- A sign is read over. -/
theorem readNumeral_of_unsigned {text : List Char} (nonempty : unsigned text ≠ []) (limit : Nat) :
    readNumeral limit text = readDigits limit 0 (unsigned text) := by
  unfold readNumeral
  split
  · exact absurd rfl nonempty
  · exact absurd rfl nonempty
  · rfl
  · rename_i signed
    have same : unsigned text = text := by
      unfold unsigned
      split
      · exact absurd rfl (signed _)
      · rfl
    rw [same]

theorem readNumeral_of_nothing {text : List Char} (nothing : unsigned text = []) {limit : Nat}
    (positive : 0 < limit) : readNumeral limit text = .error (numeralFault limit text) := by
  have begun : ¬ limit ≤ begunValue text := by
    rw [begunValue, nothing]
    exact Nat.not_le.mpr positive
  rw [numeralFault, if_neg begun]
  unfold unsigned at nothing
  split at nothing
  · rw [nothing]
    rfl
  · rw [nothing]
    rfl

theorem readNumeral_eq {limit : Nat} (positive : 0 < limit) (text : List Char) :
    readNumeral limit text =
      if begunValue text < limit ∧ unsigned text ≠ [] ∧ (unsigned text).all Char.isDigit = true then
        .ok (begunValue text)
      else .error (numeralFault limit text) := by
  by_cases nothing : unsigned text = []
  · rw [if_neg (fun numeral => numeral.2.1 nothing), readNumeral_of_nothing nothing positive]
  · have some : text ≠ [] := by
      rintro rfl
      exact nothing rfl
    rw [readNumeral_of_unsigned nothing, readDigits_eq positive, numeralFault, if_neg some,
      ← begunValue]
    by_cases beyond : limit ≤ begunValue text
    · rw [if_pos beyond, if_pos beyond, if_neg (fun numeral => Nat.not_lt.mpr beyond numeral.1)]
    · rw [if_neg beyond, if_neg beyond]
      by_cases areDigits : (unsigned text).all Char.isDigit = true
      · rw [if_pos areDigits, if_pos ⟨Nat.not_le.mp beyond, nothing, areDigits⟩, begunValue,
          List.takeWhile_eq_self_iff.mpr (List.all_eq_true.mp areDigits)]
      · rw [if_neg areDigits, if_neg (fun numeral => areDigits numeral.2.2)]

theorem readNumeral_eq_ok_iff {limit value : Nat} (positive : 0 < limit) {text : List Char} :
    readNumeral limit text = .ok value ↔ IsNumeral text value ∧ value < limit := by
  rw [readNumeral_eq positive, isNumeral_iff]
  split
  · rename_i numeral
    constructor
    · rintro ⟨⟩
      exact ⟨⟨numeral.2, rfl⟩, numeral.1⟩
    · rintro ⟨⟨-, rfl⟩, -⟩
      rfl
  · rename_i other
    constructor
    · rintro ⟨⟩
    · rintro ⟨⟨numeral, rfl⟩, below⟩
      exact absurd ⟨below, numeral⟩ other

theorem readNumeral_eq_error_iff {limit : Nat} {fault : NumeralFault} (positive : 0 < limit)
    {text : List Char} :
    readNumeral limit text = .error fault ↔
      (∀ value < limit, ¬ IsNumeral text value) ∧ fault = numeralFault limit text := by
  constructor
  · intro refused
    refine ⟨fun value below numeral => ?_, ?_⟩
    · cases refused.symm.trans ((readNumeral_eq_ok_iff positive).mpr ⟨numeral, below⟩)
    · rw [readNumeral_eq positive] at refused
      split at refused
      · cases refused
      · exact (Except.error.inj refused).symm
  · rintro ⟨none, rfl⟩
    rw [readNumeral_eq positive, if_neg]
    rintro ⟨below, numeral⟩
    exact none _ below (isNumeral_iff.mpr ⟨numeral, rfl⟩)

end WorkHost.Text

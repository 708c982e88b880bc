import WorkHost.Cron.Expression
import WorkHost.Proofs.Text.Numerals

/-!
Contract: the items of a field are read as they were written.

Only the next character tells where a number or a name ends, and several kinds of item begin
alike. What follows a field must therefore not continue its last item (`Closes`). Then exactly
the items are read for which the field was written (`readField_written`).
-/

namespace WorkHost.Cron

open WorkHost.Text

/-! ## How items are written -/

/-- At least one digit, and leading zeros do not matter. -/
structure IsNumber (text : List Char) (value : Nat) : Prop where
  nonempty : text ≠ []
  digits : ∀ c ∈ text, c.isDigit = true
  worth : value = Nat.ofDigitChars 10 text 0
  below : value < numberLimit

instance (text : List Char) (value : Nat) : Decidable (IsNumber text value) :=
  decidable_of_iff
    (text ≠ [] ∧ text.all Char.isDigit = true ∧ value = Nat.ofDigitChars 10 text 0 ∧
      value < numberLimit)
    ⟨fun ⟨nonempty, digits, worth, below⟩ => ⟨nonempty, List.all_eq_true.mp digits, worth, below⟩,
      fun number => ⟨number.nonempty, List.all_eq_true.mpr number.digits, number.worth,
        number.below⟩⟩

/-- At least one letter. -/
structure IsName (text : List Char) (name : String) : Prop where
  nonempty : text ≠ []
  letters : ∀ c ∈ text, isLetter c = true
  isText : name = String.ofList text

instance (text : List Char) (name : String) : Decidable (IsName text name) :=
  decidable_of_iff (text ≠ [] ∧ text.all isLetter = true ∧ name = String.ofList text)
    ⟨fun ⟨nonempty, letters, isText⟩ => ⟨nonempty, List.all_eq_true.mp letters, isText⟩,
      fun isName => ⟨isName.nonempty, List.all_eq_true.mpr isName.letters, isName.isText⟩⟩

inductive Spec.IsWritten : Spec → List Char → Prop where
  | all : IsWritten .all ['*']
  | point {digits : List Char} {value : Nat} (number : IsNumber digits value) :
      IsWritten (.point value) digits
  | range {low high : List Char} {first last : Nat} (isFirst : IsNumber low first)
      (isLast : IsNumber high last) : IsWritten (.range first last) (low ++ '-' :: high)
  | namedRange {low high : List Char} {first last : String} (isFirst : IsName low first)
      (isLast : IsName high last) : IsWritten (.namedRange first last) (low ++ '-' :: high)

inductive Item.IsWritten : Item → List Char → Prop where
  | spec {spec : Spec} {text : List Char} (written : spec.IsWritten text) :
      IsWritten (.spec spec) text
  | stepped {spec : Spec} {text digits : List Char} {step : Nat} (written : spec.IsWritten text)
      (number : IsNumber digits step) : IsWritten (.stepped spec step) (text ++ '/' :: digits)
  | named {letters : List Char} {name : String} (isName : IsName letters name) :
      IsWritten (.named name) letters

/-- The items of a field with commas between them. -/
inductive AreWritten : List Item → List Char → Prop where
  | last {item : Item} {text : List Char} (written : item.IsWritten text) :
      AreWritten [item] text
  | more {item : Item} {items : List Item} {text others : List Char}
      (written : item.IsWritten text) (areWritten : AreWritten items others) :
      AreWritten (item :: items) (text ++ ',' :: others)

/-! ## Kinds of characters -/

/-- A digit or a letter. -/
def isPlain (c : Char) : Bool := c.isDigit || isLetter c

theorem isSpace_iff {c : Char} :
    isSpace c = true ↔ c = ' ' ∨ c = '\t' ∨ c = '\r' ∨ c = '\n' := by
  simp only [isSpace, Bool.or_eq_true, beq_iff_eq, or_assoc]

theorem not_isSpace_of_isPlain {c : Char} (plain : isPlain c = true) : isSpace c = false := by
  rw [Bool.eq_false_iff]
  intro space
  rcases isSpace_iff.mp space with rfl | rfl | rfl | rfl <;> cases plain

theorem not_isDigit_of_isLetter {c : Char} (letter : isLetter c = true) : c.isDigit = false := by
  simp only [isLetter, Bool.or_eq_true, Bool.and_eq_true, decide_eq_true_eq, Char.le_def] at letter
  simp only [Char.isDigit, Bool.and_eq_false_iff, decide_eq_false_iff_not]
  grind

/-! ## Blanks -/

theorem skipSpace_of_solid {text : List Char} (solid : ∀ c ∈ text.head?, isSpace c = false) :
    skipSpace text = text := by
  cases text with
  | nil => rfl
  | cons c rest =>
    refine List.dropWhile_cons_of_neg ?_
    rw [solid c rfl]
    exact Bool.false_ne_true

theorem skipSpace_cons {c : Char} (solid : isSpace c = false) (rest : List Char) :
    skipSpace (c :: rest) = c :: rest :=
  skipSpace_of_solid fun _ isFirst => Option.some.inj isFirst ▸ solid

theorem skipSpace_blank {c : Char} (blank : isSpace c = true) (rest : List Char) :
    skipSpace (c :: rest) = skipSpace rest :=
  List.dropWhile_cons_of_pos blank

@[simp] theorem skipSpace_skipSpace (text : List Char) :
    skipSpace (skipSpace text) = skipSpace text := by
  induction text with
  | nil => rfl
  | cons c rest inductionHypothesis =>
    cases blank : isSpace c with
    | true => rw [skipSpace_blank blank, inductionHypothesis]
    | false => rw [skipSpace_cons blank, skipSpace_cons blank]

/-! ## What may follow -/

/-- The text neither continues a number or a name nor shows, after blanks, one of the marks. -/
structure Closes (marks : List Char) (rest : List Char) : Prop where
  apart : ∀ c ∈ rest.head?, c.isDigit = false ∧ isLetter c = false
  unmarked : ∀ c ∈ (skipSpace rest).head?, c ∉ marks

namespace Closes

variable {marks : List Char} {rest : List Char}

theorem mono {fewer : List Char} (closes : Closes marks rest) (subset : fewer ⊆ marks) :
    Closes fewer rest where
  apart := closes.apart
  unmarked c isFirst member := closes.unmarked c isFirst (subset member)

theorem nil (marks : List Char) : Closes marks [] where
  apart := nofun
  unmarked := nofun

/-- A mark other than those meant. -/
theorem mark {c : Char} (solid : isSpace c = false) (noDigit : c.isDigit = false)
    (noLetter : isLetter c = false) (other : c ∉ marks) (rest : List Char) :
    Closes marks (c :: rest) where
  apart _ isFirst := Option.some.inj isFirst ▸ ⟨noDigit, noLetter⟩
  unmarked := by
    rw [skipSpace_cons solid]
    intro _ isFirst
    exact Option.some.inj isFirst ▸ other

theorem stops (closes : Closes marks rest) : Stops rest := fun c isFirst =>
  (closes.apart c isFirst).1

theorem readChar_skipSpace (closes : Closes marks rest) {mark : Char} (isMark : mark ∈ marks) :
    readChar mark (skipSpace rest) = none := by
  have unmarked := closes.unmarked
  cases skipped : skipSpace rest with
  | nil => rfl
  | cons c more =>
    rw [readChar, if_neg]
    rintro rfl
    rw [skipped] at unmarked
    exact unmarked c rfl isMark

end Closes

/-- What is left to read: the rest, where blanks at its start may have been skipped. -/
def Leaves (rest left : List Char) : Prop := left = rest ∨ left = skipSpace rest

theorem Leaves.skipSpace {rest left : List Char} (leaves : Leaves rest left) :
    skipSpace left = skipSpace rest := by
  rcases leaves with rfl | rfl
  · rfl
  · exact skipSpace_skipSpace rest

/-- A mark that comes next is left as it is. -/
theorem Leaves.eq_of_solid {c : Char} {rest left : List Char} (leaves : Leaves (c :: rest) left)
    (solid : isSpace c = false) : left = c :: rest := by
  rcases leaves with rfl | rfl
  · rfl
  · exact skipSpace_cons solid rest

theorem Leaves.readChar {marks rest left : List Char} (leaves : Leaves rest left)
    (closes : Closes marks rest) {mark : Char} (isMark : mark ∈ marks)
    (solid : isSpace mark = false) : readChar mark left = none := by
  cases left with
  | nil => rfl
  | cons c more =>
    by_cases same : c = mark
    · subst same
      have skipped := leaves.skipSpace
      rw [skipSpace_cons solid] at skipped
      have none := closes.readChar_skipSpace isMark
      rw [← skipped, Cron.readChar, if_pos rfl] at none
      cases none
    · rw [Cron.readChar, if_neg same]

/-! ## Numbers and names -/

/-- The text begins with a digit or a letter. -/
def BeginsPlain (text : List Char) : Prop := ∃ c rest, text = c :: rest ∧ isPlain c = true

theorem IsNumber.beginsPlain {text : List Char} {value : Nat} (number : IsNumber text value)
    (rest : List Char) : BeginsPlain (text ++ rest) := by
  obtain ⟨c, more, rfl⟩ := List.exists_cons_of_ne_nil number.nonempty
  refine ⟨c, more ++ rest, rfl, ?_⟩
  rw [isPlain, number.digits c List.mem_cons_self, Bool.true_or]

theorem IsName.beginsPlain {text : List Char} {name : String} (isName : IsName text name)
    (rest : List Char) : BeginsPlain (text ++ rest) := by
  obtain ⟨c, more, rfl⟩ := List.exists_cons_of_ne_nil isName.nonempty
  refine ⟨c, more ++ rest, rfl, ?_⟩
  rw [isPlain, isName.letters c List.mem_cons_self, Bool.or_true]

theorem BeginsPlain.skipSpace {text : List Char} (plain : BeginsPlain text) :
    skipSpace text = text := by
  obtain ⟨c, rest, rfl, isPlain⟩ := plain
  exact skipSpace_cons (not_isSpace_of_isPlain isPlain) rest

theorem readNumber_written {digits rest marks : List Char} {value : Nat}
    (number : IsNumber digits value) (closes : Closes marks rest) :
    readNumber (digits ++ rest) = some (value, skipSpace rest) := by
  have positive : 0 < numberLimit := Nat.lt_of_le_of_lt (Nat.zero_le value) number.below
  have taken : (digits ++ rest).takeWhile (fun c => (digit? c).isSome) = digits := by
    rw [List.takeWhile_append_of_pos, takeWhile_of_stops closes.stops, List.append_nil]
    intro c member
    rw [isSome_digit?, number.digits c member]
  have read : readNumeral numberLimit digits = .ok value := by
    refine (readNumeral_eq_ok_iff positive).mpr ⟨?_, number.below⟩
    exact ⟨digits, number.nonempty, number.digits, .inl rfl, number.worth⟩
  simp only [readNumber, (number.beginsPlain rest).skipSpace, taken, read, List.drop_left]

/-- No number begins with a letter. -/
theorem readNumber_of_letters {letters : List Char} {name : String} (isName : IsName letters name)
    (rest : List Char) : readNumber (letters ++ rest) = none := by
  have nothing : (letters ++ rest).takeWhile (fun c => (digit? c).isSome) = [] := by
    cases letters with
    | nil => exact absurd rfl isName.nonempty
    | cons c more =>
      refine List.takeWhile_cons_of_neg ?_
      rw [isSome_digit?, not_isDigit_of_isLetter (isName.letters c List.mem_cons_self)]
      exact Bool.false_ne_true
  simp only [readNumber, (isName.beginsPlain rest).skipSpace, nothing, readNumeral]

theorem readName_written {letters rest marks : List Char} {name : String}
    (isName : IsName letters name) (closes : Closes marks rest) :
    readName (letters ++ rest) = some (name, skipSpace rest) := by
  have stops : rest.takeWhile isLetter = [] := by
    cases rest with
    | nil => rfl
    | cons c more =>
      refine List.takeWhile_cons_of_neg ?_
      rw [(closes.apart c rfl).2]
      exact Bool.false_ne_true
  have taken : (letters ++ rest).takeWhile isLetter = letters := by
    rw [List.takeWhile_append_of_pos isName.letters, stops, List.append_nil]
  have some : letters.isEmpty = false := List.isEmpty_eq_false_iff.mpr isName.nonempty
  simp only [readName, (isName.beginsPlain rest).skipSpace, taken, some, List.drop_left,
    isName.isText, Bool.false_eq_true, if_false]

/-! ## Specs -/

/-- Without a mark that means any value the kinds of spec are tried in turn. -/
theorem readSpec_of_beginsPlain {text : List Char} (plain : BeginsPlain text) (anyMark : Bool) :
    readSpec anyMark text = (readRange text <|> readPoint text <|> readNamedRange text) := by
  obtain ⟨c, rest, rfl, isPlain⟩ := plain
  unfold readSpec
  split
  · rename_i same
    cases same
    cases isPlain
  · split
    · rename_i same
      cases same
      cases isPlain
    · rfl

theorem readRange_written {low high rest marks : List Char} {first last : Nat}
    (isFirst : IsNumber low first) (isLast : IsNumber high last) (closes : Closes marks rest) :
    readRange (low ++ '-' :: high ++ rest) = some (.range first last, skipSpace rest) := by
  have dash : Closes [] ('-' :: (high ++ rest)) := .mark rfl rfl rfl List.not_mem_nil _
  rw [List.append_assoc, List.cons_append]
  simp only [readRange, readNumber_written isFirst dash, skipSpace_cons (c := '-') rfl, readChar,
    readNumber_written isLast closes, Option.bind_eq_bind, Option.bind_some, Option.pure_def,
    if_true]

theorem readRange_of_point {digits rest : List Char} {value : Nat}
    (number : IsNumber digits value) (closes : Closes ['-'] rest) :
    readRange (digits ++ rest) = none := by
  simp only [readRange, readNumber_written number closes, Option.bind_eq_bind, Option.bind_some,
    closes.readChar_skipSpace (List.mem_singleton_self '-'), Option.bind_none]

theorem readNamedRange_written {low high rest marks : List Char} {first last : String}
    (isFirst : IsName low first) (isLast : IsName high last) (closes : Closes marks rest) :
    readNamedRange (low ++ '-' :: high ++ rest) = some (.namedRange first last, skipSpace rest) := by
  have dash : Closes [] ('-' :: (high ++ rest)) := .mark rfl rfl rfl List.not_mem_nil _
  rw [List.append_assoc, List.cons_append]
  simp only [readNamedRange, readName_written isFirst dash, skipSpace_cons (c := '-') rfl, readChar,
    readName_written isLast closes, Option.bind_eq_bind, Option.bind_some, Option.pure_def,
    if_true]

theorem readNamedRange_of_name {letters rest : List Char} {name : String}
    (isName : IsName letters name) (closes : Closes ['-'] rest) :
    readNamedRange (letters ++ rest) = none := by
  simp only [readNamedRange, readName_written isName closes, Option.bind_eq_bind, Option.bind_some,
    closes.readChar_skipSpace (List.mem_singleton_self '-'), Option.bind_none]

/-- Neither a range nor a point of numbers begins with a name. -/
theorem readSpec_of_name {letters : List Char} {name : String} (isName : IsName letters name)
    (rest : List Char) (anyMark : Bool) :
    readSpec anyMark (letters ++ rest) = readNamedRange (letters ++ rest) := by
  rw [readSpec_of_beginsPlain (isName.beginsPlain rest)]
  simp only [readRange, readPoint, readNumber_of_letters isName rest, Option.bind_eq_bind,
    Option.bind_none, Option.map_none]
  rfl

theorem readSpec_written {spec : Spec} {text rest : List Char} (written : spec.IsWritten text)
    (closes : Closes ['-'] rest) (anyMark : Bool) :
    ∃ left, readSpec anyMark (text ++ rest) = some (spec, left) ∧ Leaves rest left := by
  cases written with
  | all => exact ⟨rest, rfl, .inl rfl⟩
  | point number =>
    refine ⟨skipSpace rest, ?_, .inr rfl⟩
    rw [readSpec_of_beginsPlain (number.beginsPlain rest), readRange_of_point number closes,
      readPoint, readNumber_written number closes]
    rfl
  | @range low high first last isFirst isLast =>
    refine ⟨skipSpace rest, ?_, .inr rfl⟩
    have plain : BeginsPlain (low ++ '-' :: high ++ rest) := by
      rw [List.append_assoc]
      exact isFirst.beginsPlain _
    rw [readSpec_of_beginsPlain plain, readRange_written isFirst isLast closes]
    rfl
  | @namedRange low high first last isFirst isLast =>
    refine ⟨skipSpace rest, ?_, .inr rfl⟩
    rw [← readNamedRange_written isFirst isLast closes, List.append_assoc]
    exact readSpec_of_name isFirst _ anyMark

/-! ## Items -/

theorem readItem_written {item : Item} {text rest : List Char} (written : item.IsWritten text)
    (closes : Closes ['-', '/'] rest) (anyMark : Bool) :
    ∃ left, readItem anyMark (text ++ rest) = some (item, left) ∧ Leaves rest left := by
  have noDash : Closes ['-'] rest := closes.mono (by simp)
  cases written with
  | spec written =>
    obtain ⟨left, read, leaves⟩ := readSpec_written written noDash anyMark
    refine ⟨left, ?_, leaves⟩
    have noSlash : readChar '/' left = none := leaves.readChar closes (by simp) rfl
    simp only [readItem, readStepped, read, noSlash, Option.bind_eq_bind, Option.bind_some,
      Option.bind_none, Option.map_some]
    rfl
  | @stepped spec specText digits step written number =>
    refine ⟨skipSpace rest, ?_, .inr rfl⟩
    have slash : Closes ['-'] ('/' :: (digits ++ rest)) := .mark rfl rfl rfl (by decide) _
    obtain ⟨left, read, leaves⟩ := readSpec_written written slash anyMark
    cases leaves.eq_of_solid rfl
    rw [List.append_assoc, List.cons_append]
    simp only [readItem, readStepped, read, readChar, readNumber_written number closes,
      Option.bind_eq_bind, Option.bind_some, Option.pure_def, if_true]
    rfl
  | named isName =>
    refine ⟨skipSpace rest, ?_, .inr rfl⟩
    simp only [readItem, readStepped, readSpec_of_name isName rest,
      readNamedRange_of_name isName noDash, readName_written isName closes, Option.bind_eq_bind,
      Option.bind_none, Option.map_none, Option.map_some]
    rfl

/-! ## Fields -/

/-- A star, or a digit or a letter, comes first. -/
def BeginsItem (text : List Char) : Prop := (∃ rest, text = '*' :: rest) ∨ BeginsPlain text

theorem BeginsItem.skipSpace {text : List Char} (begins : BeginsItem text) :
    skipSpace text = text := by
  rcases begins with ⟨rest, rfl⟩ | plain
  · rfl
  · exact plain.skipSpace

theorem Spec.IsWritten.begins {spec : Spec} {text : List Char} (written : spec.IsWritten text)
    (rest : List Char) : BeginsItem (text ++ rest) := by
  cases written with
  | all => exact .inl ⟨rest, rfl⟩
  | point number => exact .inr (number.beginsPlain rest)
  | range isFirst =>
    rw [List.append_assoc]
    exact .inr (isFirst.beginsPlain _)
  | namedRange isFirst =>
    rw [List.append_assoc]
    exact .inr (isFirst.beginsPlain _)

theorem Item.IsWritten.begins {item : Item} {text : List Char} (written : item.IsWritten text)
    (rest : List Char) : BeginsItem (text ++ rest) := by
  cases written with
  | spec written => exact written.begins rest
  | stepped written =>
    rw [List.append_assoc]
    exact written.begins _
  | named isName => exact .inr (isName.beginsPlain rest)

theorem AreWritten.begins {items : List Item} {text : List Char}
    (areWritten : AreWritten items text) (rest : List Char) : BeginsItem (text ++ rest) := by
  cases areWritten with
  | last written => exact written.begins rest
  | more written =>
    rw [List.append_assoc]
    exact written.begins _

/-- There is no more than one item for each comma, and one besides. -/
theorem AreWritten.length_le {items : List Item} {text : List Char}
    (areWritten : AreWritten items text) : items.length ≤ text.length + 1 := by
  induction areWritten with
  | last => simp
  | more written areWritten inductionHypothesis =>
    simp only [List.length_cons, List.length_append]
    omega

/-- A field ends where no comma follows. -/
theorem readItems_of_leaves {rest left : List Char} (leaves : Leaves rest left)
    (closes : Closes ['-', '/', ','] rest) (anyMark : Bool) (fuel : Nat) :
    readItems anyMark fuel left = ([], left) := by
  cases fuel with
  | zero => rfl
  | succ fuel =>
    unfold readItems
    split
    · rename_i more
      have none : readChar ',' (',' :: more) = none := leaves.readChar closes (by simp) rfl
      cases none
    · rfl

theorem readItems_written {items : List Item} {text rest : List Char}
    (areWritten : AreWritten items text) (closes : Closes ['-', '/', ','] rest) (anyMark : Bool)
    {fuel : Nat} (enough : items.length ≤ fuel) :
    ∃ left, readItems anyMark fuel (',' :: (text ++ rest)) = (items, left) ∧ Leaves rest left := by
  induction areWritten generalizing fuel with
  | @last item text written =>
    obtain ⟨fuel, rfl⟩ : ∃ less, fuel = less + 1 := ⟨fuel - 1, by simp at enough; omega⟩
    obtain ⟨left, read, leaves⟩ :=
      readItem_written written (closes.mono (by simp)) anyMark
    exact ⟨left, by simp only [readItems, read, readItems_of_leaves leaves closes], leaves⟩
  | @more item items text others written areWritten inductionHypothesis =>
    obtain ⟨fuel, rfl⟩ : ∃ less, fuel = less + 1 := ⟨fuel - 1, by simp at enough; omega⟩
    have comma : Closes ['-', '/'] (',' :: (others ++ rest)) :=
      .mark rfl rfl rfl (by decide) _
    obtain ⟨next, read, leavesComma⟩ := readItem_written written comma anyMark
    cases leavesComma.eq_of_solid rfl
    obtain ⟨left, readOthers, leaves⟩ :=
      @inductionHypothesis fuel (by simpa using enough)
    refine ⟨left, ?_, leaves⟩
    rw [List.append_assoc, List.cons_append]
    simp only [readItems, read, readOthers]

/-- A field is read as the items for which it was written. -/
theorem readField_written {items : List Item} {text rest : List Char}
    (areWritten : AreWritten items text) (closes : Closes ['-', '/', ','] rest) (anyMark : Bool) :
    readField anyMark (text ++ rest) = some (items, skipSpace rest) := by
  rw [readField, (areWritten.begins rest).skipSpace]
  cases areWritten with
  | last written =>
    obtain ⟨left, read, leaves⟩ := readItem_written written (closes.mono (by simp)) anyMark
    simp only [read, readItems_of_leaves leaves closes, leaves.skipSpace, Option.bind_eq_bind,
      Option.bind_some, Option.pure_def]
  | @more item items text others written areWritten =>
    have comma : Closes ['-', '/'] (',' :: (others ++ rest)) :=
      .mark rfl rfl rfl (by decide) _
    obtain ⟨next, read, leavesComma⟩ := readItem_written written comma anyMark
    cases leavesComma.eq_of_solid rfl
    have enough : items.length ≤ (',' :: (others ++ rest)).length := by
      have bound := areWritten.length_le
      simp only [List.length_cons, List.length_append]
      omega
    obtain ⟨left, readOthers, leaves⟩ := readItems_written areWritten closes anyMark enough
    rw [List.append_assoc, List.cons_append]
    simp only [read, readOthers, leaves.skipSpace, Option.bind_eq_bind, Option.bind_some,
      Option.pure_def]

end WorkHost.Cron

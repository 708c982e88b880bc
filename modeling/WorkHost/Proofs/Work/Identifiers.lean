import Mathlib.Algebra.GroupWithZero.Nat
import WorkHost.Work.Id

/-!
Contract: an identifier is read back from its written form.

The groups are read back for any group sizes that the digits fill
(`readGroups_writeGroups`). The written form is neither the one of 32 digits nor one of those
that begin with a brace or a name space, since it begins with a hexadecimal digit.
-/

namespace WorkHost.WorkId

theorem readHex_map_hexChar (digits : List (Fin 16)) :
    readHex (digits.map hexChar) = some digits := by
  induction digits with
  | nil => rfl
  | cons digit digits inductionHypothesis =>
    rw [readHex] at inductionHypothesis ⊢
    rw [List.map_cons, List.mapM_cons, hexDigit?_hexChar, inductionHypothesis]
    rfl

theorem writeGroups_cons (size next : Nat) (sizes : List Nat) (digits : List (Fin 16)) :
    writeGroups (size :: next :: sizes) digits =
      (digits.take size).map hexChar ++ '-' :: writeGroups (next :: sizes) (digits.drop size) := by
  rw [writeGroups]
  exact List.cons_ne_nil next sizes

theorem readGroups_cons (size next : Nat) (sizes : List Nat) {group : List (Fin 16)}
    (sized : group.length = size) (rest : List Char) :
    readGroups (size :: next :: sizes) (group.map hexChar ++ '-' :: rest) =
      (readGroups (next :: sizes) rest).map (group ++ ·) := by
  have written : (group.map hexChar).length = size := by rw [List.length_map, sized]
  rw [readGroups]
  · rw [List.drop_left' written, List.take_left' written, readHex_map_hexChar]
    exact Option.map_eq_bind.symm
  · exact List.cons_ne_nil next sizes

/-- Digits that fill the groups are read back from them. -/
theorem readGroups_writeGroups (sizes : List Nat) {digits : List (Fin 16)}
    (filled : digits.length = sizes.sum) :
    readGroups sizes (writeGroups sizes digits) = some digits := by
  induction sizes generalizing digits with
  | nil =>
    rw [List.eq_nil_of_length_eq_zero filled]
    rfl
  | cons size sizes inductionHypothesis =>
    rw [List.sum_cons] at filled
    cases sizes with
    | nil =>
      have whole : digits.length = size := filled
      rw [writeGroups, List.take_of_length_le (Nat.le_of_eq whole), readGroups, List.length_map,
        if_pos whole]
      exact readHex_map_hexChar digits
    | cons next sizes =>
      have group : (digits.take size).length = size := by
        rw [List.length_take]
        omega
      have rest : (digits.drop size).length = (next :: sizes).sum := by
        rw [List.length_drop]
        omega
      have later := inductionHypothesis rest
      rw [writeGroups_cons, readGroups_cons size next sizes group, later, Option.map_some,
        List.take_append_drop]

/-- A hyphen is added between two groups. -/
theorem length_writeGroups (size : Nat) (sizes : List Nat) {digits : List (Fin 16)}
    (filled : digits.length = (size :: sizes).sum) :
    (writeGroups (size :: sizes) digits).length = digits.length + sizes.length := by
  induction sizes generalizing size digits with
  | nil =>
    have whole : digits.length = size := filled
    rw [writeGroups, List.length_map, List.length_take, List.length_nil]
    omega
  | cons next sizes inductionHypothesis =>
    rw [List.sum_cons] at filled
    have rest : (digits.drop size).length = (next :: sizes).sum := by
      rw [List.length_drop]
      omega
    have later := inductionHypothesis next rest
    rw [writeGroups_cons, List.length_append, List.length_map, List.length_take, List.length_cons,
      later, List.length_drop, List.length_cons]
    omega

theorem hexChar_start : ∀ digit : Fin 16,
    hexChar digit ≠ '\x7b' ∧ (hexChar digit).toLower ≠ 'u' := by
  decide

/-- What begins with a hexadecimal digit is read as groups. -/
theorem readHyphenated_hexChar (digit : Fin 16) (rest : List Char) :
    readHyphenated (hexChar digit :: rest) = readGroups groupSizes (hexChar digit :: rest) := by
  obtain ⟨noBrace, noName⟩ := hexChar_start digit
  unfold readHyphenated
  split
  · rename_i same
    exact absurd (List.cons.inj same).1 noBrace
  · rw [if_neg]
    intro named
    exact noName (List.cons.inj named).1

theorem parse?_text (id : WorkId) : parse? id.text = some id := by
  obtain ⟨digits, sized⟩ := id
  have filled : digits.length = groupSizes.sum := sized
  have length := length_writeGroups 8 [4, 4, 4, 12] filled
  obtain ⟨digit, more, rfl⟩ := List.exists_cons_of_length_eq_add_one sized
  have start : writeGroups groupSizes (digit :: more) =
      hexChar digit :: ((more.take 7).map hexChar ++
        '-' :: writeGroups [4, 4, 4, 12] (more.drop 7)) := rfl
  have read : readHyphenated (writeGroups groupSizes (digit :: more)) = some (digit :: more) := by
    rw [start, readHyphenated_hexChar, ← start]
    exact readGroups_writeGroups groupSizes filled
  have notPlain : ¬ (writeGroups groupSizes (digit :: more)).length = 32 := by
    rw [groupSizes, length, sized]
    decide
  rw [parse?, text, String.toList_ofList]
  simp only [if_neg notPlain, read, Option.bind_some, ofDigits?, dif_pos sized]

end WorkHost.WorkId

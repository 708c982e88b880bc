import Mathlib.Data.List.Basic
import Mathlib.Data.List.TakeWhile
import WorkHost.Text.Blank

/-!
Contract: what is left of a text without the blanks around it.
-/

namespace WorkHost.Text

theorem skipBlanks_of_blank {before : List Char} (blank : ∀ c ∈ before, isBlank c = true)
    (text : List Char) : skipBlanks (before ++ text) = skipBlanks text :=
  List.dropWhile_append_of_pos blank

theorem skipBlanks_of_solid {text : List Char} (solid : ∀ c ∈ text.head?, isBlank c = false) :
    skipBlanks text = text := by
  cases text with
  | nil => rfl
  | cons c rest => exact List.dropWhile_cons_of_neg (by simp [solid c rfl])

/-- Only blanks are removed. -/
theorem exists_eq_append_trimBlanks (text : List Char) :
    ∃ before after, text = before ++ trimBlanks text ++ after ∧
      ∀ c ∈ before ++ after, isBlank c = true := by
  refine ⟨text.takeWhile isBlank, ((skipBlanks text).reverse.takeWhile isBlank).reverse, ?_, ?_⟩
  · rw [List.append_assoc, trimBlanks, ← List.reverse_append, skipBlanks, skipBlanks,
      List.takeWhile_append_dropWhile, List.reverse_reverse, List.takeWhile_append_dropWhile]
  · intro c member
    rcases List.mem_append.mp member with first | last
    · exact List.mem_takeWhile_imp first
    · exact List.mem_takeWhile_imp (List.mem_reverse.mp last)

/-- All blanks at the ends are removed. -/
theorem trimBlanks_of_solid {before core after : List Char}
    (blank : ∀ c ∈ before ++ after, isBlank c = true) (nonempty : core ≠ [])
    (solid : ∀ c ∈ core, isBlank c = false) : trimBlanks (before ++ core ++ after) = core := by
  have starts : ∀ c ∈ (core ++ after).head?, isBlank c = false := by
    intro c isFirst
    rw [List.head?_append_of_ne_nil _ nonempty] at isFirst
    exact solid c (List.mem_of_mem_head? isFirst)
  have ends : ∀ c ∈ core.reverse.head?, isBlank c = false := by
    intro c isFirst
    exact solid c (List.mem_reverse.mp (List.mem_of_mem_head? isFirst))
  have blankAfter : ∀ c ∈ after.reverse, isBlank c = true := fun c member =>
    blank c (List.mem_append_right _ (List.mem_reverse.mp member))
  rw [trimBlanks, List.append_assoc,
    skipBlanks_of_blank (fun c member => blank c (List.mem_append_left _ member)),
    skipBlanks_of_solid starts, List.reverse_append, skipBlanks_of_blank blankAfter,
    skipBlanks_of_solid ends, List.reverse_reverse]

/-- No blank is a letter. -/
theorem toLower_of_isBlank {c : Char} (blank : isBlank c = true) : c.toLower = c := by
  have outside : ¬ (c.val ≥ 'A'.val ∧ c.val ≤ 'Z'.val) := by
    rintro ⟨low, high⟩
    have range : 65 ≤ c.toNat ∧ c.toNat ≤ 90 :=
      ⟨UInt32.le_iff_toNat_le.mp low, UInt32.le_iff_toNat_le.mp high⟩
    simp only [isBlank, Bool.or_eq_true, Bool.and_eq_true, decide_eq_true_eq, beq_iff_eq] at blank
    omega
  exact dif_neg outside

end WorkHost.Text

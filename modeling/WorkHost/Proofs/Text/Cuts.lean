import Mathlib.Data.List.Infix
import Mathlib.Data.String.Basic
import WorkHost.Text.Cut

/-!
Contract: the places at which a text can be cut.

A text can be cut exactly between two of its characters (`IsCut`). Between two such places
there are whole characters (`exists_between`).
-/

namespace WorkHost.Text

open String (utf8Len utf8Len_nil utf8Len_cons utf8Len_append utf8Len_eq_zero)

theorem utf8Len_of_narrow {text : List Char} (narrow : ∀ c ∈ text, c.utf8Size = 1) :
    utf8Len text = text.length := by
  induction text with
  | nil => rfl
  | cons c rest inductionHypothesis =>
    rw [utf8Len_cons, narrow c List.mem_cons_self, List.length_cons,
      inductionHypothesis fun other member => narrow other (List.mem_cons_of_mem c member)]

theorem dropBytes?_utf8Len (before after : List Char) :
    dropBytes? (utf8Len before) (before ++ after) = some after := by
  induction before with
  | nil => rw [utf8Len_nil, List.nil_append, dropBytes?]
  | cons c before inductionHypothesis =>
    obtain ⟨less, isLess⟩ : ∃ less, utf8Len before + c.utf8Size = less + 1 :=
      Nat.exists_eq_add_one.mpr (Nat.add_pos_right _ c.utf8Size_pos)
    have fits : c.utf8Size ≤ less + 1 := by omega
    have left : less + 1 - c.utf8Size = utf8Len before := by omega
    rw [List.cons_append, utf8Len_cons, isLess, dropBytes?, if_pos fits, left, inductionHypothesis]

theorem takeBytes?_utf8Len (before after : List Char) :
    takeBytes? (utf8Len before) (before ++ after) = some before := by
  induction before with
  | nil => rw [utf8Len_nil, takeBytes?]
  | cons c before inductionHypothesis =>
    obtain ⟨less, isLess⟩ : ∃ less, utf8Len before + c.utf8Size = less + 1 :=
      Nat.exists_eq_add_one.mpr (Nat.add_pos_right _ c.utf8Size_pos)
    have fits : c.utf8Size ≤ less + 1 := by omega
    have left : less + 1 - c.utf8Size = utf8Len before := by omega
    rw [List.cons_append, utf8Len_cons, isLess, takeBytes?, if_pos fits, left, inductionHypothesis,
      Option.map_some]

/-- The place lies between two characters of the text, or at one of its ends. -/
def IsCut (text : List Char) (place : Nat) : Prop :=
  ∃ before after, text = before ++ after ∧ place = utf8Len before

/-- Of two beginnings of a text the one with fewer bytes begins the other. -/
theorem isPrefix_of_utf8Len_le {text first second : List Char} (isFirst : first <+: text)
    (isSecond : second <+: text) (ordered : utf8Len first ≤ utf8Len second) :
    first <+: second := by
  rcases List.prefix_or_prefix_of_prefix isFirst isSecond with shorter | ⟨more, rfl⟩
  · exact shorter
  · rw [utf8Len_append] at ordered
    rw [utf8Len_eq_zero.mp (by omega : utf8Len more = 0), List.append_nil]

theorem exists_between {text : List Char} {first last : Nat} (isFirst : IsCut text first)
    (isLast : IsCut text last) (ordered : first ≤ last) :
    ∃ chars, (dropBytes? first text).bind (takeBytes? (last - first)) = some chars := by
  obtain ⟨before, after, rfl, rfl⟩ := isFirst
  obtain ⟨upTo, rest, same, rfl⟩ := isLast
  obtain ⟨chars, rfl⟩ := isPrefix_of_utf8Len_le ⟨after, rfl⟩ ⟨rest, same.symm⟩ ordered
  rw [List.append_assoc, List.append_cancel_left_eq] at same
  refine ⟨chars, ?_⟩
  rw [dropBytes?_utf8Len, Option.bind_some, utf8Len_append, Nat.add_sub_cancel_left, same,
    takeBytes?_utf8Len]

theorem exists_from {text : List Char} {first : Nat} (isFirst : IsCut text first) :
    ∃ chars, dropBytes? first text = some chars := by
  obtain ⟨before, after, rfl, rfl⟩ := isFirst
  exact ⟨after, dropBytes?_utf8Len before after⟩

/-- Where every character takes one byte, a text can be cut everywhere. -/
theorem isCut_of_narrow {text : List Char} (narrow : ∀ c ∈ text, c.utf8Size = 1) {place : Nat}
    (inside : place ≤ text.length) : IsCut text place := by
  refine ⟨text.take place, text.drop place, (List.take_append_drop place text).symm, ?_⟩
  rw [utf8Len_of_narrow fun c member => narrow c (List.mem_of_mem_take member),
    List.length_take, Nat.min_eq_left inside]

end WorkHost.Text

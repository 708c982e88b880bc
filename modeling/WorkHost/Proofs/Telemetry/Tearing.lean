import WorkHost.Proofs.Text.Blanks
import WorkHost.Proofs.Text.Cuts
import WorkHost.Telemetry.Filter

/-!
Contract: which directives can be torn.

The parts of a directive are found without the blanks around it and taken from the text with
them. A part is torn only if the blanks before it shift one of its ends into a character. So a
torn directive begins with a blank and has a character of more than one byte
(`Directive.shape_of_torn`).
-/

namespace WorkHost

open Text
open String (utf8Len utf8Len_nil utf8Len_cons utf8Len_append)

namespace Directive

/-- The outcome is as promised, or a fault by which the directive is malformed and not torn. -/
def Untorn {α : Type} (outcome : Except DirectiveFault α) (promised : α → Prop) : Prop :=
  match outcome with
  | .ok result => promised result
  | .error fault => fault = .malformed

namespace Untorn

variable {α β : Type} {outcome : Except DirectiveFault α} {promised : α → Prop}

theorem bind {next : α → Except DirectiveFault β} {wanted : β → Prop}
    (untorn : Untorn outcome promised)
    (goesOn : ∀ result, promised result → Untorn (next result) wanted) :
    Untorn (outcome >>= next) wanted := by
  cases outcome with
  | ok result => exact goesOn result untorn
  | error fault => exact untorn

theorem ne_torn (untorn : Untorn outcome promised) : outcome ≠ .error .torn := by
  rintro rfl
  cases untorn

end Untorn

/-! ## Parts -/

section Parts

variable {text : List Char} {here : Nat}

/-- What is being read began where the text can be cut, and not later than here. -/
def Part.BeganAtCut (text : List Char) (here : Nat) : Part → Prop
  | .word first | .span first | .field first | .level first => IsCut text first ∧ first ≤ here
  | .start | .closedField | .closedSpan => True

theorem Part.BeganAtCut.mono {part : Part} {later : Nat} (began : part.BeganAtCut text here)
    (ordered : here ≤ later) : part.BeganAtCut text later := by
  cases part with
  | word first | span first | field first | level first =>
    exact ⟨began.1, Nat.le_trans began.2 ordered⟩
  | start | closedField | closedSpan => trivial

theorem slice_untorn {first last : Nat} (isFirst : IsCut text first) (isLast : IsCut text last)
    (ordered : first ≤ last) : Untorn (slice text first last) fun _ => True := by
  obtain ⟨chars, between⟩ := exists_between isFirst isLast ordered
  rw [slice, between]
  trivial

theorem sliceFrom_untorn {first : Nat} (isFirst : IsCut text first) :
    Untorn (sliceFrom text first) fun _ => True := by
  obtain ⟨chars, rest⟩ := exists_from isFirst
  rw [sliceFrom, rest]
  trivial

theorem readField_untorn (text : List Char) : Untorn (readField text) fun _ => True := by
  dsimp only [readField]
  split
  · rfl
  · trivial
  · split
    · trivial
    · rfl

theorem readLevel_untorn (text : List Char) : Untorn (readLevel text) fun _ => True := by
  unfold readLevel
  split
  · trivial
  · split
    · trivial
    · rfl

/-- A character leads from a cut to a cut. -/
theorem next_untorn {c : Char} {part : Part} (isHere : IsCut text here)
    (isNext : IsCut text (here + c.utf8Size)) (began : part.BeganAtCut text here)
    (directive : Directive) :
    Untorn (next text here c part directive) fun reached =>
      reached.1.BeganAtCut text (here + c.utf8Size) := by
  have later : here ≤ here + c.utf8Size := Nat.le_add_right _ _
  have stays : part.BeganAtCut text (here + c.utf8Size) := began.mono later
  -- The marks between the parts take one byte each.
  have behind (narrow : c.utf8Size = 1) : IsCut text (here + 1) ∧ here + 1 ≤ here + c.utf8Size := by
    rw [← narrow]
    exact ⟨isNext, Nat.le_refl _⟩
  cases part with
  | start =>
    rw [next]
    split
    · rename_i bracket
      exact behind (by rw [bracket]; rfl)
    · split
      · exact ⟨isHere, later⟩
      · rfl
  | word first =>
    rw [next]
    split
    · rename_i mark
      refine (slice_untorn began.1 isHere began.2).bind fun target _ => ?_
      have narrow : c.utf8Size = 1 := by rcases mark with rfl | rfl <;> rfl
      show Part.BeganAtCut text _ (if c = '=' then .level (here + 1) else .span (here + 1))
      split
      · exact behind narrow
      · exact behind narrow
    · exact stays
  | span first =>
    rw [next]
    split
    · exact (slice_untorn began.1 isHere began.2).bind fun _ _ => trivial
    · split
      · rename_i brace
        exact (slice_untorn began.1 isHere began.2).bind fun _ _ => behind (by rw [brace]; rfl)
      · exact stays
  | field first =>
    rw [next]
    split
    · refine (slice_untorn began.1 isHere began.2).bind fun field _ => ?_
      exact (readField_untorn field).bind fun _ _ => trivial
    · exact stays
  | closedField =>
    rw [next]
    split
    · trivial
    · rfl
  | closedSpan =>
    rw [next]
    split
    · rename_i equals
      exact behind (by rw [equals]; rfl)
    · rfl
  | level first => exact stays

/-- The text can be cut wherever a part of it without the blanks around it could be. -/
def KeepsCuts (text : List Char) : Prop :=
  ∀ before after, trimBlanks text = before ++ after → IsCut text (utf8Len before)

theorem readParts_untorn (keeps : KeepsCuts text) {before rest : List Char}
    (split : trimBlanks text = before ++ rest) {part : Part}
    (began : part.BeganAtCut text (utf8Len before)) (directive : Directive) :
    Untorn (readParts text (utf8Len before) rest part directive) fun reached =>
      reached.1.BeganAtCut text (utf8Len (trimBlanks text)) := by
  induction rest generalizing before part directive with
  | nil =>
    rw [List.append_nil] at split
    rw [split]
    exact began
  | cons c rest inductionHypothesis =>
    have longer : trimBlanks text = (before ++ [c]) ++ rest := by
      rw [split, List.append_assoc]
      rfl
    have count : utf8Len (before ++ [c]) = utf8Len before + c.utf8Size := by
      rw [utf8Len_append, utf8Len_cons, utf8Len_nil, Nat.zero_add]
    have isNext : IsCut text (utf8Len before + c.utf8Size) := count ▸ keeps _ _ longer
    rw [readParts]
    apply (next_untorn (keeps _ _ split) isNext began directive).bind
    rintro ⟨part, directive⟩ began
    rw [← count] at began ⊢
    exact inductionHypothesis longer began directive

theorem finish_untorn {part : Part} (began : part.BeganAtCut text here) (directive : Directive) :
    Untorn (finish text part directive) fun _ => True := by
  cases part with
  | word first =>
    apply (sliceFrom_untorn began.1).bind
    intro word _
    dsimp only
    split <;> trivial
  | level first =>
    apply (sliceFrom_untorn began.1).bind
    intro level _
    exact (readLevel_untorn level).bind fun _ _ => trivial
  | closedSpan => trivial
  | start | span | field | closedField => rfl

end Parts

/-! ## Whole directives -/

theorem parse_untorn {written : String} (keeps : KeepsCuts written.toList) :
    Untorn (parse written) fun _ => True := by
  have whole : trimBlanks written.toList = [] ++ trimBlanks written.toList := rfl
  have start : Part.start.BeganAtCut written.toList (utf8Len []) := trivial
  apply (readParts_untorn keeps whole start _).bind
  rintro ⟨part, directive⟩ began
  exact finish_untorn began directive

/-- Without a blank at its start nothing of a text is shifted. -/
theorem keepsCuts_of_solid {text : List Char} (solid : ∀ c ∈ text.head?, isBlank c = false) :
    KeepsCuts text := by
  intro before after split
  obtain ⟨leading, trailing, whole, blank⟩ := exists_eq_append_trimBlanks text
  cases leading with
  | nil =>
    refine ⟨before, after ++ trailing, ?_, rfl⟩
    rw [← List.append_assoc, ← split]
    exact whole
  | cons c leading =>
    have isBlank := blank c (List.mem_append_left _ List.mem_cons_self)
    rw [solid c (by rw [whole]; rfl)] at isBlank
    cases isBlank

theorem keepsCuts_of_narrow {text : List Char} (narrow : ∀ c ∈ text, c.utf8Size = 1) :
    KeepsCuts text := by
  intro before after split
  obtain ⟨leading, trailing, whole, -⟩ := exists_eq_append_trimBlanks text
  rw [split] at whole
  have inside : ∀ c ∈ before, c ∈ text := by
    intro c member
    rw [whole]
    simp [member]
  rw [utf8Len_of_narrow fun c member => narrow c (inside c member)]
  apply isCut_of_narrow narrow
  rw [whole]
  simp only [List.length_append]
  omega

/-- A torn directive begins with a blank, and has a character of more than one byte. -/
theorem shape_of_torn {written : String} (torn : parse written = .error .torn) :
    (∃ c ∈ written.toList.head?, isBlank c = true) ∧ ∃ c ∈ written.toList, 1 < c.utf8Size := by
  refine ⟨?_, ?_⟩
  · by_contra none
    refine (parse_untorn (keepsCuts_of_solid fun c isFirst => ?_)).ne_torn torn
    rw [Bool.eq_false_iff]
    exact fun blank => none ⟨c, isFirst, blank⟩
  · by_contra none
    refine (parse_untorn (keepsCuts_of_narrow fun c member => ?_)).ne_torn torn
    have positive := c.utf8Size_pos
    have narrow : ¬ 1 < c.utf8Size := fun wide => none ⟨c, member, wide⟩
    omega

end Directive

end WorkHost

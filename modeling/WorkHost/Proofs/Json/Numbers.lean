import Mathlib.Tactic.NormNum
import WorkHost.Json.Value

/-!
Contract: a natural number of 64 bits can be held.

A number in JSON text is refused if it is beyond the finite binary numbers. The rounding of a
number of 64 bits is far below that: its exponent is small (`roundFraction_word`), and its
product with a power of one is finite (`isFinite_ofNat`).
-/

namespace WorkHost.Decimal

theorem roundQuotient_le (numerator denominator : Nat) :
    roundQuotient numerator denominator ≤ numerator + 1 := by
  have quotient := Nat.div_le_self numerator denominator
  unfold roundQuotient
  simp only
  split
  · omega
  · split
    · omega
    · split <;> omega

theorem power_small {exponent : Int} (low : -53 ≤ exponent) :
    (power 2 exponent).2 ≤ 2 ^ 53 := by
  unfold power
  split
  · exact Nat.one_le_two_pow
  · exact Nat.pow_le_pow_right (by decide) (by omega)

namespace Finite

/-- The rounding of a number of 64 bits. -/
theorem roundFraction_word {value : Nat} (word : value < 2 ^ 64) :
    (roundFraction value 1).exponent ≤ 12 ∧ (roundFraction value 1).significand ≤ 2 ^ 118 := by
  have bits : Nat.log2 value < 64 := by
    by_cases zero : value = 0
    · rw [zero]
      decide
    · exact (Nat.log2_lt zero).mpr word
  -- Each candidate has an exponent between these bounds.
  have candidate : ∀ exponent : Int, -53 ≤ exponent → exponent ≤ 12 →
      exponent ≤ 12 ∧
        roundQuotient (value * (power 2 exponent).2) (1 * (power 2 exponent).1) ≤ 2 ^ 118 := by
    intro exponent low high
    refine ⟨high, Nat.le_trans (roundQuotient_le _ _) ?_⟩
    have product := Nat.mul_le_mul (Nat.le_of_lt word) (power_small low)
    exact Nat.le_trans (Nat.succ_le_succ product) (by norm_num)
  obtain ⟨exponent, isExponent⟩ : ∃ exponent, exponent =
      max leastExponent ((Nat.log2 value : Int) - Nat.log2 1 - 53) := ⟨_, rfl⟩
  have start : -53 ≤ exponent ∧ exponent ≤ 10 := by
    have one : Nat.log2 1 = 0 := by decide
    rw [one, leastExponent] at isExponent
    omega
  unfold roundFraction
  simp only [← isExponent]
  split
  · exact candidate exponent start.1 (by omega)
  · split
    · exact candidate (exponent + 1) (by omega) (by omega)
    · exact candidate (exponent + 2) (by omega) (by omega)

theorem nearest?_word {value : Nat} (word : value < 2 ^ 64) :
    ∃ rounded, nearest? value 0 = some rounded ∧ rounded.exponent ≤ 12 ∧
      rounded.significand ≤ 2 ^ 118 := by
  have digits : (Nat.toDigits 10 value).length ≤ 20 :=
    (Nat.length_toDigits_le_iff (by decide) (by decide)).mpr
      (Nat.lt_of_lt_of_le word (by norm_num))
  have rounds := roundFraction_word word
  have one : power 10 0 = (1, 1) := rfl
  have finite : (roundFraction value 1).exponent ≤ greatestExponent :=
    Int.le_trans rounds.1 (by decide)
  have inReach : ¬ (400 : Int) < (Nat.toDigits 10 value).length + 0 := by omega
  unfold nearest?
  simp only [one, Nat.mul_one, if_neg inReach, if_pos finite]
  split
  · exact ⟨_, rfl, by decide, Nat.zero_le _⟩
  · exact ⟨_, rfl, rounds⟩

end Finite

end WorkHost.Decimal

namespace WorkHost.Json.Number

open WorkHost.Decimal

theorem approximation_ofNat {value : Nat} (word : value < Text.wordLimit) :
    (ofNat value).approximation = (value, 0) := by
  have whole : leadingDigits Text.wordLimit value = (value, 0) := by
    rw [leadingDigits, if_pos (Or.inl word)]
  unfold approximation ofNat
  simp only [fractionDigits, List.range_zero, List.map_nil]
  rw [show value / Nat.pow 10 0 = value from Nat.div_one value, whole]
  rfl

theorem isFinite_ofNat {value : Nat} (word : value < Text.wordLimit) :
    (ofNat value).isFinite = true := by
  obtain ⟨rounded, nearest, exponent, significand⟩ := Finite.nearest?_word word
  have one : Finite.nearest? 1 0 = some ⟨2 ^ 52, -52⟩ := by decide +kernel
  unfold isFinite
  simp only [approximation_ofNat word, nearest, one]
  split
  · rfl
  · have below : ¬ 0 ≤ rounded.exponent + (⟨2 ^ 52, -52⟩ : Finite).exponent := by
      show ¬ 0 ≤ rounded.exponent + -52
      omega
    unfold Finite.productIsFinite
    simp only [power, if_neg below, decide_eq_true_eq]
    calc rounded.significand * 2 ^ 52 * 1
        ≤ 2 ^ 118 * 2 ^ 52 * 1 := by gcongr
      _ < overflowLimit * 1 := by decide +kernel
      _ ≤ overflowLimit * Nat.pow 2 _ := Nat.mul_le_mul_left _ (Nat.pow_pos (by decide))

end WorkHost.Json.Number

import MockQueue.Proofs.DigitRows

/-!
# Significands

Rounded to `p + 1` significant digits, a number other than zero is a whole number of units of its last digit:
its significand, which has `p + 1` digits (`significand_bounds`), or is the next power of ten. The digits of
`scientific` are those of the significand, but for that case, in which the exponent takes the last zero
(`scientific_eq`).
-/

namespace MockQueue.Number

/-- Bounds of a quotient that are whole numbers are kept by rounding. -/
theorem roundDiv_bounds {num den low high : Nat} (above : low * den ≤ num) (below : num < high * den) :
    low ≤ roundDiv num den ∧ roundDiv num den ≤ high := by
  have positive : 0 < den := by
    rcases Nat.eq_zero_or_pos den with rfl | positive
    · simp at below
    · exact positive
  have quotient : low ≤ num / den ∧ num / den < high :=
    ⟨(Nat.le_div_iff_mul_le positive).mpr above, (Nat.div_lt_iff_lt_mul positive).mpr below⟩
  simp only [roundDiv]
  split <;> omega

theorem decimalText_mul_pow {n : Nat} (positive : 0 < n) (k : Nat) :
    decimalText (n * 10 ^ k) = decimalText n ++ zeros k := by
  induction k with
  | zero => simp [zeros]
  | succ k ih =>
    have tens : 0 < n * 10 ^ k := Nat.mul_pos positive (Nat.pow_pos (by decide))
    have large : Radix.decimal.base ≤ n * 10 ^ k * 10 := Nat.le_mul_of_pos_left 10 tens
    have split := Radix.decimal.digits_of_le large
    simp only [Radix.base, Nat.mul_div_cancel _ (by decide : 0 < 10), Nat.mul_mod_left] at split
    rw [Nat.pow_succ, ← Nat.mul_assoc, decimalText, split, ← decimalText, ih, zeros_add, List.append_assoc]
    rfl

theorem pow_le_of_length {n k : Nat} (nonzero : n ≠ 0) (digits : (decimalText n).length = k + 1) :
    10 ^ k ≤ n ∧ n < 10 ^ (k + 1) := by
  have length := Radix.decimal.length_digits n
  rw [← decimalText, digits, Nat.add_right_cancel_iff] at length
  rw [length]
  exact ⟨Nat.pow_log_le_self 10 nonzero, Nat.lt_pow_succ_log_self (by decide) n⟩

theorem length_decimalText {n k : Nat} (above : 10 ^ k ≤ n) (below : n < 10 ^ (k + 1)) :
    (decimalText n).length = k + 1 := by
  rw [decimalText, Radix.length_digits, Nat.add_right_cancel_iff]
  exact Nat.log_eq_of_pow_le_of_lt_pow above below

namespace Decimal

/-- The number in units of its significant digit `p + 1`, rounded if it has more digits. -/
def significand (d : Decimal) (p : Nat) : Nat :=
  let count := (decimalText d.coefficient).length
  if count ≤ p + 1 then d.coefficient * 10 ^ (p + 1 - count)
  else roundDiv d.coefficient (10 ^ (count - (p + 1)))

variable {d : Decimal}

theorem significand_bounds (nonzero : d.coefficient ≠ 0) (p : Nat) :
    10 ^ p ≤ d.significand p ∧ d.significand p ≤ 10 ^ (p + 1) := by
  obtain ⟨k, digits⟩ : ∃ k, (decimalText d.coefficient).length = k + 1 :=
    Nat.exists_eq_succ_of_ne_zero (Nat.ne_of_gt (length_decimalText_pos _))
  obtain ⟨above, below⟩ := pow_le_of_length nonzero digits
  by_cases fits : k + 1 ≤ p + 1
  · simp only [significand, digits, fits, if_true]
    have total : k + (p + 1 - (k + 1)) = p := by omega
    have totalNext : k + 1 + (p + 1 - (k + 1)) = p + 1 := by omega
    constructor
    · calc 10 ^ p = 10 ^ k * 10 ^ (p + 1 - (k + 1)) := by rw [← Nat.pow_add, total]
        _ ≤ d.coefficient * 10 ^ (p + 1 - (k + 1)) := Nat.mul_le_mul_right _ above
    · calc d.coefficient * 10 ^ (p + 1 - (k + 1)) ≤ 10 ^ (k + 1) * 10 ^ (p + 1 - (k + 1)) :=
            Nat.mul_le_mul_right _ (Nat.le_of_lt below)
        _ = 10 ^ (p + 1) := by rw [← Nat.pow_add, totalNext]
  · simp only [significand, digits, fits, if_false]
    have total : p + (k + 1 - (p + 1)) = k := by omega
    have totalNext : p + 1 + (k + 1 - (p + 1)) = k + 1 := by omega
    apply roundDiv_bounds
    · rw [← Nat.pow_add, total]
      exact above
    · rw [← Nat.pow_add, totalNext]
      exact below

/-- The digits of a number are those of its significand, which a row of nines rounded up leaves to the
exponent. -/
theorem scientific_eq (nonzero : d.coefficient ≠ 0) (p : Nat) :
    d.scientific p =
      if d.significand p < 10 ^ (p + 1) then ⟨decimalText (d.significand p), d.magnitude⟩
      else ⟨decimalText (10 ^ p), d.magnitude + 1⟩ := by
  have ⟨above, below⟩ := significand_bounds nonzero p
  unfold scientific
  rw [if_neg nonzero]
  by_cases fits : (decimalText d.coefficient).length ≤ p + 1
  · have positive : 0 < d.coefficient := Nat.pos_of_ne_zero nonzero
    have digits : decimalText (d.significand p) =
        decimalText d.coefficient ++ zeros (p + 1 - (decimalText d.coefficient).length) := by
      rw [significand, if_pos fits, decimalText_mul_pow positive]
    have small : d.significand p < 10 ^ (p + 1) := by
      have count : (decimalText (d.significand p)).length ≤ p + 1 := by
        rw [digits, List.length_append, length_zeros]
        omega
      exact (Nat.length_toDigits_le_iff (by decide) (by omega)).mp count
    simp only [fits, if_true, small, digits, zeros]
  · have rounded : roundDiv d.coefficient (Nat.pow 10 ((decimalText d.coefficient).length - (p + 1))) =
        d.significand p := by rw [significand, if_neg fits, Nat.pow_eq]
    simp only [fits, if_false, rounded]
    by_cases small : d.significand p < 10 ^ (p + 1)
    · have count := length_decimalText above small
      simp only [count, Nat.le_refl, if_true, small]
    · have next : d.significand p = 1 * 10 ^ (p + 1) := by omega
      have digits : decimalText (d.significand p) = decimalText 1 ++ zeros (p + 1) := by
        rw [next, decimalText_mul_pow (by decide)]
      have kept : (decimalText 1 ++ zeros (p + 1)).take (p + 1) = decimalText (1 * 10 ^ p) := by
        rw [decimalText_mul_pow (by decide), zeros_add, ← List.append_assoc]
        exact List.take_left' (by simp [decimalText, Radix.length_digits, Nat.add_comm])
      have long : ¬ (decimalText 1 ++ zeros (p + 1)).length ≤ p + 1 := by
        rw [List.length_append, length_zeros]
        have := length_decimalText_pos 1
        omega
      rw [digits, if_neg long, if_neg small, kept, Nat.one_mul]

/-- Rounding to significant digits gives as many as were asked for. -/
theorem length_digits_scientific (d : Decimal) (p : Nat) : (d.scientific p).digits.length = p + 1 := by
  by_cases zero : d.coefficient = 0
  · simp [scientific, zero]
  · have ⟨above, _⟩ := significand_bounds zero p
    rw [scientific_eq zero]
    split
    · exact length_decimalText above (by assumption)
    · exact length_decimalText (Nat.le_refl _) (Nat.pow_lt_pow_right (by decide) (Nat.lt_succ_self p))

end Decimal

end MockQueue.Number

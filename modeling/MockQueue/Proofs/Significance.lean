import Mathlib.Data.Int.Log
import Mathlib.Data.Rat.Floor
import Mathlib.Tactic.FieldSimp
import Mathlib.Tactic.Linarith
import Mathlib.Tactic.Positivity
import MockQueue.Proofs.Significands

/-!
# Numbers that decimals stand for

What a decimal stands for is a rational number (`Decimal.value`), and rounding it to a place or to a number of
significant digits gives the nearest multiple of a power of ten, a tie going to the even one (`nearestEven`,
`significant`). A number rounded to a place and to significant digits is the same if the place is that of the
last significant digit, which is told by the exponent after rounding (`rounded_last_digit`): that exponent is
one more where a row of nines is rounded up, but then one digit less tells the same.
-/

namespace MockQueue.Number

/-- The whole number nearest to `q`; half way between two it is the even one. -/
def nearestEven (q : ℚ) : ℤ :=
  if Int.fract q < 1 / 2 ∨ (Int.fract q = 1 / 2 ∧ ⌊q⌋ % 2 = 0) then ⌊q⌋ else ⌊q⌋ + 1

/-- The number rounded to `digits` significant digits. -/
def significant (digits : ℕ) (v : ℚ) : ℚ :=
  let unit : ℚ := 10 ^ (Int.log 10 v + 1 - digits)
  nearestEven (v / unit) * unit

theorem abs_sub_nearestEven_le (q : ℚ) : |q - nearestEven q| ≤ 1 / 2 := by
  have split := Int.floor_add_fract q
  have below := Int.fract_lt_one q
  have above := Int.fract_nonneg q
  unfold nearestEven
  by_cases down : Int.fract q < 1 / 2 ∨ (Int.fract q = 1 / 2 ∧ ⌊q⌋ % 2 = 0)
  · have half : Int.fract q ≤ 1 / 2 := down.elim le_of_lt fun tie => tie.1.le
    rw [if_pos down, abs_le]
    constructor <;> linarith
  · have half : 1 / 2 ≤ Int.fract q := by
      by_contra less
      exact down (.inl (not_le.mp less))
    rw [if_neg down, abs_le]
    push_cast
    constructor <;> linarith

theorem nearestEven_of_near {q : ℚ} {n : ℤ} (near : |q - n| < 1 / 2) : nearestEven q = n := by
  have close := abs_sub_nearestEven_le q
  have apart : |((nearestEven q - n : ℤ) : ℚ)| < 1 := by
    rw [abs_lt] at near ⊢
    rw [abs_le] at close
    push_cast
    constructor <;> linarith
  rw [← Int.cast_abs, ← Int.cast_one, Int.cast_lt, Int.abs_lt_one_iff] at apart
  omega

@[simp] theorem nearestEven_intCast (n : ℤ) : nearestEven n = n :=
  nearestEven_of_near (by norm_num)

@[simp] theorem nearestEven_zero : nearestEven 0 = 0 :=
  nearestEven_intCast 0

/-- Rounding a quotient of whole numbers. -/
theorem nearestEven_div (num : ℕ) {den : ℕ} (positive : 0 < den) :
    nearestEven (num / den) = roundDiv num den := by
  have floor : ⌊(num / den : ℚ)⌋ = ((num / den : ℕ) : ℤ) := by
    rw [Rat.floor_natCast_div_natCast]
    exact (Int.natCast_div num den).symm
  have fract : Int.fract (num / den : ℚ) = (num % den : ℕ) / den := by
    have split : (den : ℚ) * (num / den : ℕ) + (num % den : ℕ) = num := by
      rw [← Nat.cast_mul, ← Nat.cast_add, Nat.div_add_mod]
    have nonzero : (den : ℚ) ≠ 0 := Nat.cast_ne_zero.mpr (Nat.ne_of_gt positive)
    rw [Int.fract, floor, Int.cast_natCast]
    field_simp
    linarith
  have denom : (0 : ℚ) < den := Nat.cast_pos.mpr positive
  have less : Int.fract (num / den : ℚ) < 1 / 2 ↔ 2 * (num % den) < den := by
    rw [fract, div_lt_div_iff₀ denom (by norm_num), one_mul, mul_comm]
    exact_mod_cast Iff.rfl
  have tie : Int.fract (num / den : ℚ) = 1 / 2 ↔ 2 * (num % den) = den := by
    rw [fract, div_eq_div_iff (ne_of_gt denom) (by norm_num), one_mul, mul_comm]
    exact_mod_cast Iff.rfl
  simp only [nearestEven, roundDiv, less, tie, floor]
  split <;> split <;> omega

theorem nearestEven_mul_pow (c k : ℕ) : nearestEven (c * 10 ^ (k : ℤ)) = (c * 10 ^ k : ℕ) := by
  have whole : (c : ℚ) * 10 ^ (k : ℤ) = ((c * 10 ^ k : ℕ) : ℤ) := by simp
  rw [whole, nearestEven_intCast]

theorem nearestEven_div_pow (c k : ℕ) : nearestEven (c * 10 ^ (-k : ℤ)) = roundDiv c (10 ^ k) := by
  have quotient : (c : ℚ) * 10 ^ (-k : ℤ) = c / (10 ^ k : ℕ) := by
    rw [zpow_neg, zpow_natCast, Nat.cast_pow, Nat.cast_ofNat, div_eq_mul_inv]
  rw [quotient, nearestEven_div c (Nat.pow_pos (by decide))]

/-- The logarithm lies between two powers of ten. -/
theorem log_eq_of_bounds {v : ℚ} {x : ℤ} (above : 10 ^ x ≤ v) (below : v < 10 ^ (x + 1)) : Int.log 10 v = x := by
  have positive : 0 < v := lt_of_lt_of_le (zpow_pos (by norm_num) x) above
  have atLeast : x ≤ Int.log 10 v := (Int.zpow_le_iff_le_log (by decide) positive).mp above
  have less : Int.log 10 v < x + 1 := (Int.lt_zpow_iff_log_lt (by decide) positive).mp below
  omega

/-! ## Decimals -/

namespace Decimal

/-- The number that the decimal stands for. -/
def value (d : Decimal) : ℚ :=
  d.coefficient / 10 ^ d.places

theorem value_ofBinary (m : ℕ) (e : ℤ) : (ofBinary m e).value = m * 2 ^ e := by
  cases e with
  | ofNat k => simp [ofBinary, value]
  | negSucc k =>
    have ten : (10 : ℚ) ^ (k + 1) = 2 ^ (k + 1) * 5 ^ (k + 1) := by rw [← mul_pow]; norm_num
    simp only [ofBinary, value, Nat.pow_eq, Nat.cast_mul, Nat.cast_pow, Nat.cast_ofNat, ten, zpow_negSucc]
    field_simp

variable {d : Decimal}

theorem value_mul_pow (d : Decimal) (x : ℤ) : d.value * 10 ^ x = d.coefficient * 10 ^ (x - d.places) := by
  rw [value, zpow_sub₀ (by norm_num), zpow_natCast]
  ring

theorem value_zero (zero : d.coefficient = 0) : d.value = 0 := by
  simp [value, zero]

/-- The exponent of the first digit of a number is its logarithm. -/
theorem log_value (nonzero : d.coefficient ≠ 0) : Int.log 10 d.value = d.magnitude := by
  obtain ⟨k, digits⟩ : ∃ k, (decimalText d.coefficient).length = k + 1 :=
    Nat.exists_eq_succ_of_ne_zero (Nat.ne_of_gt (length_decimalText_pos _))
  obtain ⟨above, below⟩ := pow_le_of_length nonzero digits
  have magnitude : d.magnitude = (k : ℤ) - d.places := by
    rw [Decimal.magnitude, digits]
    omega
  have scale (j : ℕ) : (10 : ℚ) ^ ((j : ℤ) - d.places) = (10 ^ j : ℕ) / 10 ^ d.places := by
    rw [zpow_sub₀ (by norm_num), zpow_natCast, zpow_natCast, Nat.cast_pow, Nat.cast_ofNat]
  have next : (k : ℤ) - d.places + 1 = ((k + 1 : ℕ) : ℤ) - d.places := by omega
  rw [magnitude]
  apply log_eq_of_bounds
  · rw [scale, value]
    gcongr
  · rw [next, scale, value]
    gcongr

theorem rounded_eq (d : Decimal) (p : ℕ) : (d.rounded p : ℤ) = nearestEven (d.value * 10 ^ (p : ℤ)) := by
  rw [value_mul_pow]
  by_cases fits : d.places ≤ p
  · have shift : (p : ℤ) - d.places = (p - d.places : ℕ) := by omega
    rw [shift, nearestEven_mul_pow, rounded, if_pos fits, Nat.pow_eq]
  · have shift : (p : ℤ) - d.places = -(d.places - p : ℕ) := by omega
    rw [shift, nearestEven_div_pow, rounded, if_neg fits, Nat.pow_eq]

/-- The significand is the number in units of its last significant digit. -/
theorem significand_eq (d : Decimal) (p : ℕ) :
    (d.significand p : ℤ) = nearestEven (d.value * 10 ^ (p - d.magnitude)) := by
  have somewhere := length_decimalText_pos d.coefficient
  rw [value_mul_pow]
  unfold significand magnitude
  generalize (decimalText d.coefficient).length = count at somewhere ⊢
  by_cases fits : count ≤ p + 1
  · have shift : (p : ℤ) - (count - 1 - d.places) - d.places = (p + 1 - count : ℕ) := by omega
    rw [shift, nearestEven_mul_pow]
    simp only [fits, if_true]
  · have shift : (p : ℤ) - (count - 1 - d.places) - d.places = -(count - (p + 1) : ℕ) := by omega
    rw [shift, nearestEven_div_pow]
    simp only [fits, if_false]

theorem significant_value (nonzero : d.coefficient ≠ 0) (p : ℕ) :
    significant (p + 1) d.value = d.significand p * 10 ^ (d.magnitude - p) := by
  have unit : d.magnitude + 1 - (p + 1 : ℕ) = d.magnitude - p := by omega
  have inverse : d.value / 10 ^ (d.magnitude - p) = d.value * 10 ^ (p - d.magnitude) := by
    rw [div_eq_mul_inv, ← zpow_neg, neg_sub]
  simp only [significant, log_value nonzero, unit, inverse, ← significand_eq, Int.cast_natCast]

/-- The digits of a number stand for its significand or, where that is the next power of ten, for a tenth of
it. -/
theorem valueOf_scientific (nonzero : d.coefficient ≠ 0) (p : ℕ) :
    (valueOf 10 (d.scientific p).digits = d.significand p ∧ (d.scientific p).exponent = d.magnitude ∧
        d.significand p < 10 ^ (p + 1)) ∨
      (valueOf 10 (d.scientific p).digits = 10 ^ p ∧ (d.scientific p).exponent = d.magnitude + 1 ∧
        d.significand p = 10 ^ (p + 1)) := by
  obtain ⟨-, atMost⟩ := significand_bounds nonzero p
  rw [scientific_eq nonzero]
  by_cases small : d.significand p < 10 ^ (p + 1)
  · rw [if_pos small]
    exact .inl ⟨valueOf_digits .decimal _, rfl, small⟩
  · rw [if_neg small]
    exact .inr ⟨valueOf_digits .decimal _, rfl, by omega⟩

/-- The digits and the exponent of a rounded number stand for it. -/
theorem scientific_denotes (d : Decimal) (p : ℕ) :
    valueOf 10 (d.scientific p).digits * 10 ^ ((d.scientific p).exponent - p) = significant (p + 1) d.value := by
  by_cases zero : d.coefficient = 0
  · have digits : valueOf 10 (d.scientific p).digits = 0 := by
      rw [scientific, if_pos zero]
      exact valueOf_zeros 10 (p + 1)
    simp [digits, value_zero zero, significant]
  · rw [significant_value zero]
    obtain ⟨digits, exponent, -⟩ | ⟨digits, exponent, carried⟩ := valueOf_scientific zero p
    · rw [digits, exponent]
    · rw [digits, exponent, carried]
      push_cast
      rw [pow_succ, mul_assoc, ← zpow_one_add₀ (by norm_num)]
      ring_nf

/-- The exponent of a rounded number is its logarithm. -/
theorem log_significant (d : Decimal) (p : ℕ) :
    Int.log 10 (significant (p + 1) d.value) = (d.scientific p).exponent := by
  by_cases zero : d.coefficient = 0
  · rw [value_zero zero, scientific, if_pos zero]
    simp [significant, Int.log_zero_right]
  · obtain ⟨atLeast, -⟩ := significand_bounds zero p
    have bounds : 10 ^ p ≤ valueOf 10 (d.scientific p).digits ∧
        valueOf 10 (d.scientific p).digits < 10 ^ (p + 1) := by
      obtain ⟨digits, -, small⟩ | ⟨digits, -, -⟩ := valueOf_scientific zero p
      · omega
      · rw [digits]
        exact ⟨Nat.le_refl _, Nat.pow_lt_pow_right (by decide) (Nat.lt_succ_self p)⟩
    have unit : (0 : ℚ) < 10 ^ ((d.scientific p).exponent - p) := zpow_pos (by norm_num) _
    have scale (k : ℕ) (x : ℤ) (total : x = k + ((d.scientific p).exponent - p)) :
        (10 : ℚ) ^ x = (10 ^ k : ℕ) * 10 ^ ((d.scientific p).exponent - p) := by
      rw [total, zpow_add₀ (by norm_num), zpow_natCast, Nat.cast_pow, Nat.cast_ofNat]
    rw [← scientific_denotes]
    apply log_eq_of_bounds
    · rw [scale p (d.scientific p).exponent (by omega)]
      gcongr
      exact bounds.1
    · rw [scale (p + 1) ((d.scientific p).exponent + 1) (by omega)]
      gcongr
      exact bounds.2

/-- Rounded to the place of its last significant digit, a number is what it is rounded to that many digits. -/
theorem rounded_last_digit (d : Decimal) {p q : ℕ} (last : (q : ℤ) = p - (d.scientific p).exponent) :
    (d.rounded q : ℚ) / 10 ^ q = significant (p + 1) d.value := by
  have rounded := d.rounded_eq q
  by_cases zero : d.coefficient = 0
  · rw [value_zero zero, zero_mul, nearestEven_zero] at rounded
    have none : d.rounded q = 0 := by omega
    simp [none, value_zero zero, significant]
  · have significand := d.significand_eq p
    rw [significant_value zero]
    obtain ⟨-, exponent, -⟩ | ⟨-, exponent, carried⟩ := valueOf_scientific zero p
    · -- The last significant digit is at the place.
      have place : (q : ℤ) = p - d.magnitude := by omega
      have same : d.rounded q = d.significand p := by
        rw [← place, ← rounded] at significand
        omega
      have unit : d.magnitude - p = -(q : ℤ) := by omega
      rw [same, unit, zpow_neg, zpow_natCast, div_eq_mul_inv]
    · -- It is one place further, and is a zero.
      have place : (p : ℤ) - d.magnitude = q + 1 := by omega
      have close := abs_sub_nearestEven_le (d.value * 10 ^ (p - d.magnitude))
      rw [← significand, carried, place, zpow_add₀ (by norm_num), zpow_one] at close
      have tens : d.rounded q = 10 ^ p := by
        have near : |d.value * 10 ^ (q : ℤ) - ((10 ^ p : ℕ) : ℤ)| < 1 / 2 := by
          rw [abs_le] at close
          rw [abs_lt]
          push_cast at close ⊢
          rw [pow_succ] at close
          constructor <;> linarith
        rw [nearestEven_of_near near] at rounded
        omega
      have unit : d.magnitude - p = -(q : ℤ) - 1 := by omega
      rw [tens, carried, unit, zpow_sub₀ (by norm_num), zpow_neg, zpow_natCast]
      push_cast
      rw [pow_succ]
      field_simp

end Decimal

end MockQueue.Number

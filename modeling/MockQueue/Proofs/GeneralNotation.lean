import MockQueue.Proofs.Numerals
import MockQueue.Proofs.Significance

/-!
# What general notation says

A numeral stands for a rational number (`Numeral.value`), and so does the body of a float. In general notation
it is the number rounded to as many significant digits as were asked for, with an exponent or without one, and
without zeros at its end as with them (`general_notation_exact`).
-/

namespace MockQueue.Number

namespace Numeral

/-- The power of ten that the exponent asks for. -/
def power (n : Numeral) : ℤ :=
  match n.exponent with
  | none => 0
  | some (sign, row) => if sign = '-' then -valueOf 10 row else valueOf 10 row

/-- The number that the numeral stands for. -/
def value (n : Numeral) : ℚ :=
  let behind := n.decimals.getD []
  valueOf 10 (n.whole ++ behind) / 10 ^ behind.length * 10 ^ n.power

theorem getD_stripped (n : Numeral) : ∃ k, n.decimals.getD [] = n.stripped.decimals.getD [] ++ zeros k := by
  cases decimals : n.decimals with
  | none => exact ⟨0, by simp [stripped, decimals, zeros]⟩
  | some row =>
    obtain ⟨k, parts⟩ := dropZeros_append row
    refine ⟨k, ?_⟩
    by_cases none : dropZeros row = []
    · simpa [stripped, decimals, none] using parts
    · simpa [stripped, decimals, none] using parts

/-- Zeros at the end of the decimals do not count. -/
theorem value_stripped (n : Numeral) : n.stripped.value = n.value := by
  obtain ⟨k, parts⟩ := n.getD_stripped
  have power : n.stripped.power = n.power := rfl
  have whole : n.stripped.whole = n.whole := rfl
  simp only [value, power, whole, parts]
  rw [← List.append_assoc, valueOf_append_zeros, List.length_append, length_zeros, pow_add]
  push_cast
  field_simp

theorem stripped_ends {n : Numeral} {row : List Char} (behind : n.stripped.decimals = some row) :
    row ≠ [] ∧ row.getLast? ≠ some '0' := by
  simp only [stripped, Option.bind_eq_some_iff] at behind
  obtain ⟨full, -, kept⟩ := behind
  split at kept
  · cases kept
  · cases kept
    exact ⟨by assumption, getLast?_dropZeros full⟩

theorem value_ofPlaces (p : ℕ) (digits : List Char) : (ofPlaces p digits).value = valueOf 10 digits / 10 ^ p := by
  have row := valueOf_zeros_append 10 (p + 1 - digits.length) digits
  have size : p ≤ (zeros (p + 1 - digits.length) ++ digits).length := by
    rw [List.length_append, length_zeros]
    omega
  simp only [ofPlaces, value, power]
  rw [← row]
  generalize zeros (p + 1 - digits.length) ++ digits = text at size
  by_cases none : p = 0
  · simp [none]
  · simp [none, List.length_drop, Nat.sub_sub_self size]

theorem power_ofScientific (s : Decimal.Scientific) : (ofScientific s).power = s.exponent := by
  have digits : valueOf 10 (decimalText s.exponent.natAbs) = s.exponent.natAbs := valueOf_digits .decimal _
  simp only [ofScientific, power, valueOf_zeros_append, digits]
  by_cases negative : s.exponent < 0
  · simp only [negative, if_true]
    omega
  · have plus : ¬ '+' = '-' := by decide
    simp only [negative, plus, if_false]
    omega

theorem value_ofScientific {s : Decimal.Scientific} {p : ℕ} (size : s.digits.length = p + 1) :
    (ofScientific s).value = valueOf 10 s.digits * 10 ^ (s.exponent - p) := by
  have decimals : (ofScientific s).decimals.getD [] = s.digits.tail := by
    by_cases none : s.digits.tail = []
    · simp [ofScientific, none]
    · simp [ofScientific, none]
  have row : (ofScientific s).whole ++ s.digits.tail = s.digits := by
    cases s with
    | mk digits exponent => cases digits <;> simp [ofScientific]
  have length : s.digits.tail.length = p := by rw [List.length_tail, size, Nat.add_sub_cancel]
  simp only [value, decimals, row, length, power_ofScientific]
  rw [zpow_sub₀ (by norm_num), zpow_natCast]
  ring

end Numeral

theorem Decimal.valueOf_digitsAt (d : Decimal) (p : ℕ) : valueOf 10 (d.digitsAt p) = d.rounded p := by
  have digits (n : ℕ) : valueOf 10 (decimalText n) = n := valueOf_digits .decimal n
  rw [digitsAt, ← zeros, valueOf_append_zeros, digits]
  by_cases fits : d.places ≤ p
  · simp [rounded, fits]
  · have within : min p d.places = p := by omega
    have none : p - d.places = 0 := by omega
    rw [within, none, Nat.pow_zero, Nat.mul_one]

end MockQueue.Number

namespace MockQueue.Message

open Number

theorem value_scientific (d : Decimal) (p : ℕ) :
    (Numeral.ofScientific (d.scientific p)).value = significant (p + 1) d.value := by
  rw [Numeral.value_ofScientific (d.length_digits_scientific p), d.scientific_denotes]

/-- In general notation a number is what it is rounded to its significant digits. -/
theorem value_generalNumeral (d : Decimal) {digits : ℕ} (positive : 0 < digits) :
    (generalNumeral d digits).value = significant digits d.value := by
  obtain ⟨p, rfl⟩ := Nat.exists_eq_succ_of_ne_zero (Nat.ne_of_gt positive)
  unfold generalNumeral
  simp only [Nat.succ_sub_one]
  by_cases plain : isPlain p.succ (d.scientific p)
  · have last : (plainPlaces p.succ (d.scientific p) : ℤ) = p - (d.scientific p).exponent := by
      have below := plain.2
      simp only [plainPlaces]
      omega
    rw [if_pos plain, Numeral.value_ofPlaces, d.valueOf_digitsAt, d.rounded_last_digit last]
  · rw [if_neg plain, value_scientific]

theorem exponent_generalNumeral (d : Decimal) (digits : ℕ) :
    (generalNumeral d digits).exponent = none ↔ isPlain digits (d.scientific (digits - 1)) := by
  unfold generalNumeral
  by_cases plain : isPlain digits (d.scientific (digits - 1))
  · simp [plain, Numeral.ofPlaces]
  · simp [plain, Numeral.ofScientific]

/-- With an exponent there is one digit before the point. -/
theorem generalNumeral_of_exponent {d : Decimal} {digits : ℕ} (written : (generalNumeral d digits).exponent ≠ none) :
    (generalNumeral d digits).whole.length = 1 ∧
      (generalNumeral d digits).power = (d.scientific (digits - 1)).exponent := by
  have exponential : ¬ isPlain digits (d.scientific (digits - 1)) := by
    intro plain
    exact written ((exponent_generalNumeral d digits).mpr plain)
  have numeral : generalNumeral d digits = .ofScientific (d.scientific (digits - 1)) := by
    simp only [generalNumeral, exponential, if_false]
  have size := d.length_digits_scientific (digits - 1)
  rw [numeral]
  refine ⟨?_, Numeral.power_ofScientific _⟩
  simp only [Numeral.ofScientific, List.length_take, size]
  omega

theorem read_general (alternate : Bool) (precision : Option ℕ) (d : Decimal) :
    Numeral.read (floatBody .general alternate precision d) =
      if alternate then generalNumeral d (digitsOf precision)
      else (generalNumeral d (digitsOf precision)).stripped := by
  have proper := generalNumeral_isProper d (digitsOf precision)
  rw [floatBody_general]
  cases alternate with
  | true => exact Numeral.read_print proper
  | false => exact Numeral.read_print proper.stripped

theorem read_exponent (alternate : Bool) (p : ℕ) (d : Decimal) :
    Numeral.read (floatBody .exponent alternate (some p) d) = .ofScientific (d.scientific p) := by
  rw [← Numeral.read_print (ofScientific_scientific_isProper d p), Numeral.print_ofScientific]
  rfl

/-- Three places less than can be written leave room for the zeros in front of a small number. -/
theorem placesAsked_general_le {precision : Option ℕ} (within : placesOf precision ≤ 65532) (d : Decimal) :
    placesAsked .general precision d ≤ maxPlaces := by
  have digits : digitsOf precision ≤ 65532 := by
    simp only [digitsOf]
    omega
  simp only [placesAsked, maxPlaces]
  split
  · rename_i plain
    have small := plain.1
    simp only [plainPlaces]
    omega
  · omega

/-- The body of a float in general notation is a numeral with an exponent just if the exponent of the rounded
number `x` is less than -4 or as large as the number of digits, and it stands for that number as the body in
exponent notation does. Without the alternate form there are no zeros at the end of its decimals and no point
without any; its whole part and its exponent are those of the alternate form, and so are its decimals but for
the zeros. -/
theorem general_notation_exact (m : ℕ) (e : ℤ) (alternate : Bool) {precision : Option ℕ}
    (within : placesOf precision ≤ 65532) :
    let d := Decimal.ofBinary m e
    let digits := max (placesOf precision) 1
    let rounded := significant digits (m * 2 ^ e)
    let x := Int.log 10 rounded
    let n := Numeral.read (floatBody .general alternate precision d)
    let full := Numeral.read (floatBody .general true precision d)
    let scientific := Numeral.read (floatBody .exponent alternate (some (digits - 1)) d)
    placesAsked .general precision d ≤ maxPlaces ∧
      n.IsProper ∧ n.print = floatBody .general alternate precision d ∧
      (n.exponent = none ↔ -4 ≤ x ∧ x < digits) ∧
      (n.exponent ≠ none → n.whole.length = 1 ∧ n.power = x) ∧
      n.value = rounded ∧
      (scientific.print = floatBody .exponent alternate (some (digits - 1)) d ∧ scientific.value = rounded) ∧
      (alternate = false → ∀ row, n.decimals = some row → row ≠ [] ∧ row.getLast? ≠ some '0') ∧
      n.whole = full.whole ∧ n.exponent = full.exponent ∧
      ∃ k, full.decimals.getD [] = n.decimals.getD [] ++ zeros k := by
  intro d digits rounded x n full scientific
  have one : digits = (digits - 1) + 1 := by omega
  have value : rounded = significant digits d.value := by rw [Decimal.value_ofBinary]
  have exponent : x = (d.scientific (digits - 1)).exponent := by
    rw [← d.log_significant (digits - 1), ← one, ← value]
  have fullNumeral : full = generalNumeral d digits := read_general true precision d
  have numeral : n = if alternate then full else full.stripped := by
    rw [fullNumeral]
    exact read_general alternate precision d
  have proper : full.IsProper := fullNumeral ▸ generalNumeral_isProper d digits
  have denotes : full.value = rounded := by
    rw [fullNumeral, value, value_generalNumeral d (by omega)]
  have plain : full.exponent = none ↔ -4 ≤ x ∧ x < digits := by
    rw [fullNumeral, exponent]
    exact exponent_generalNumeral d digits
  have exponential : full.exponent ≠ none → full.whole.length = 1 ∧ full.power = x := by
    rw [fullNumeral, exponent]
    exact generalNumeral_of_exponent
  have same : scientific.print = floatBody .exponent alternate (some (digits - 1)) d ∧ scientific.value = rounded := by
    have numeral : scientific = .ofScientific (d.scientific (digits - 1)) := read_exponent alternate (digits - 1) d
    rw [numeral, value_scientific, ← one, value]
    exact ⟨Numeral.print_ofScientific _, rfl⟩
  have text : n.print = floatBody .general alternate precision d := by
    rw [numeral, fullNumeral]
    exact (floatBody_general alternate precision d).symm
  cases alternate with
  | true =>
    refine ⟨placesAsked_general_le within d, proper, text, plain, exponential, denotes, same, ?_, rfl, rfl, 0, ?_⟩
    · intro other
      cases other
    · exact (List.append_nil _).symm
  | false =>
    have stripped : n = full.stripped := numeral
    rw [stripped] at text ⊢
    exact ⟨placesAsked_general_le within d, proper.stripped, text, plain, exponential,
      full.value_stripped.trans denotes, same, fun _ _ => Numeral.stripped_ends, rfl, rfl, full.getD_stripped⟩

/-- Six digits of 999999.5: its nines are rounded up, which leaves an exponent and a single digit. -/
theorem general_notation_exact_carried :
    let d := Decimal.ofBinary (1999999 * 2 ^ 32) (-33)
    let rounded := significant 6 ((1999999 * 2 ^ 32 : ℕ) * 2 ^ (-33 : ℤ))
    placesOf none ≤ 65532 ∧ floatBody .general false none d = "1e+06".toList ∧
      placesAsked .general none d ≤ maxPlaces ∧ rounded = 1000000 ∧ Int.log 10 rounded = 6 := by
  intro d rounded
  have within : placesOf none ≤ 65532 := by decide
  have body : floatBody .general false none (.ofBinary (1999999 * 2 ^ 32) (-33)) = "1e+06".toList := by
    decide +kernel
  have numeral : Numeral.read "1e+06".toList = ⟨['1'], none, some ('+', ['0', '6'])⟩ := by decide
  have six : max (placesOf none) 1 = 6 := rfl
  have known := general_notation_exact (1999999 * 2 ^ 32) (-33) false within
  simp only [body, numeral, six] at known
  obtain ⟨served, -, -, -, exponential, value, -⟩ := known
  have million : (Numeral.mk ['1'] none (some ('+', ['0', '6']))).value = 1000000 := by
    have one : valueOf 10 ['1'] = 1 := by decide
    have power : (Numeral.mk ['1'] none (some ('+', ['0', '6']))).power = 6 := by decide
    norm_num [Numeral.value, one, power]
  refine ⟨within, body, served, value.symm.trans million, ?_⟩
  exact (exponential (by simp)).2.symm.trans (by decide)

end MockQueue.Message

import MockQueue.Proofs.LongDecimals
import MockQueue.Proofs.Truncation

/-!
# Sizes of fields

The arguments that a program can hand over are of machine size (`Argument.IsNative`): words, doubles, and
texts that fit in memory. Their fields are then far smaller than the largest width that a word can hold
(`length_bare_le`), however wide the field is asked to be.
-/

namespace MockQueue.Text

theorem length_le_byteSize (text : List Char) : text.length ≤ byteSize text := by
  induction text with
  | nil => exact Nat.le_refl _
  | cons c rest ih =>
    have positive := c.utf8Size_pos
    rw [List.length_cons, byteSize_cons]
    omega

end MockQueue.Text

namespace MockQueue.Number

/-! ## Doubles -/

theorem roundDiv_le (num den : Nat) : roundDiv num den ≤ num / den + 1 := by
  simp only [roundDiv]
  split <;> omega

namespace Binary64

/-- The mantissa and the exponent that a double can have. -/
structure InRange (m : Nat) (e : Int) : Prop where
  mantissa_le : m ≤ 2 ^ 53
  exponent_ge : -1074 ≤ e
  exponent_le : e ≤ 971

theorem ofBits_inRange {bits : UInt64} {negative : Bool} {m : Nat} {e : Int}
    (value : ofBits bits = finite negative m e) : InRange m e := by
  have fraction : bits.toNat % 2 ^ 52 < 2 ^ 52 := Nat.mod_lt _ (by decide)
  have exponent : bits.toNat / 2 ^ 52 % 2 ^ 11 < 2 ^ 11 := Nat.mod_lt _ (by decide)
  simp only [ofBits, Nat.pow_eq] at value
  generalize bits.toNat / 2 ^ 52 % 2 ^ 11 = exponentBits at value exponent
  generalize bits.toNat % 2 ^ 52 = fractionBits at value fraction
  by_cases special : exponentBits = 2047
  · rw [if_pos special] at value
    split at value <;> cases value
  · rw [if_neg special] at value
    by_cases subnormal : exponentBits = 0
    · rw [if_pos subnormal] at value
      obtain ⟨rfl, rfl, rfl⟩ := finite.inj value
      exact ⟨by omega, by decide, by decide⟩
    · rw [if_neg subnormal] at value
      obtain ⟨rfl, rfl, rfl⟩ := finite.inj value
      exact ⟨by omega, by omega, by omega⟩

/-- A word is widened to a double. -/
theorem ofInt_inRange {n : Int} (word : n.natAbs < 2 ^ 64) {negative : Bool} {m : Nat} {e : Int}
    (value : ofInt n = finite negative m e) : InRange m e := by
  simp only [ofInt, nearest, Nat.pow_eq] at value
  generalize n.natAbs = k at value word
  by_cases zero : k = 0
  · rw [if_pos zero] at value
    obtain ⟨rfl, rfl, rfl⟩ := finite.inj value
    exact ⟨by decide, by decide, by decide⟩
  · rw [if_neg zero] at value
    have length : k.log2 < 64 := (Nat.log2_lt zero).mpr word
    have below : k < 2 ^ (k.log2 + 1) := Nat.lt_log2_self
    by_cases exact_ : k.log2 + 1 ≤ 53
    · rw [if_pos exact_] at value
      obtain ⟨rfl, rfl, rfl⟩ := finite.inj value
      refine ⟨?_, by omega, by omega⟩
      calc k * 2 ^ (53 - (k.log2 + 1)) ≤ 2 ^ (k.log2 + 1) * 2 ^ (53 - (k.log2 + 1)) :=
            Nat.mul_le_mul_right _ (Nat.le_of_lt below)
        _ = 2 ^ 53 := by rw [← Nat.pow_add, Nat.add_sub_cancel' exact_]
    · rw [if_neg exact_] at value
      have quotient : k / 2 ^ (k.log2 + 1 - 53) < 2 ^ 53 := by
        apply Nat.div_lt_of_lt_mul
        rwa [← Nat.pow_add, Nat.sub_add_cancel (by omega)]
      have rounded := roundDiv_le k (2 ^ (k.log2 + 1 - 53))
      split at value
      · obtain ⟨rfl, rfl, rfl⟩ := finite.inj value
        exact ⟨by decide, by omega, by omega⟩
      · obtain ⟨rfl, rfl, rfl⟩ := finite.inj value
        exact ⟨by omega, by omega, by omega⟩

/-- A double without its fraction is kept within the range that is asked for. -/
theorem truncate_mem (v : Binary64) (low high : Int) (zero : low ≤ 0 ∧ 0 ≤ high) :
    low ≤ v.truncate low high ∧ v.truncate low high ≤ high := by
  cases v with
  | nan _ => exact zero
  | infinite negative =>
    simp only [truncate]
    split <;> omega
  | finite negative m e =>
    simp only [truncate]
    omega

theorem InRange.fits {m : Nat} {e : Int} (inRange : InRange m e) : (Decimal.ofBinary m e).Fits 1099 :=
  Decimal.fits_ofBinary (Nat.le_trans inRange.mantissa_le (by decide)) (by have := inRange.exponent_ge; omega)
    inRange.exponent_le (by decide)

end Binary64

/-! ## Texts of numbers -/

theorem length_digits_le (radix : Radix) {n : Nat} (word : n < 2 ^ 64) : (radix.digits n).length ≤ 64 := by
  have base := radix.one_lt_base
  have small : n < radix.base ^ 64 := Nat.lt_of_lt_of_le word (Nat.pow_le_pow_left base 64)
  have digits : (Nat.toDigits radix.base n).length ≤ 64 := (Nat.length_toDigits_le_iff base (by decide)).mpr small
  cases radix with
  | decimal => exact digits
  | octal => exact digits
  | hex upper =>
    cases upper with
    | false => exact digits
    | true =>
      change ((Nat.toDigits 16 n).map Char.toUpper).length ≤ 64
      rw [List.length_map]
      exact digits

theorem length_signedText_le {n : Int} (word : n.natAbs < 2 ^ 64) : (signedText n).length ≤ 65 := by
  have digits : (decimalText n.natAbs).length ≤ 64 := length_digits_le .decimal word
  unfold signedText
  split
  · exact Nat.succ_le_succ digits
  · omega

namespace Decimal

variable {d : Decimal}

theorem lt_of_le_add_one {n : Nat} {d : Decimal} (fits : d.Fits n) {k : Nat} (close : k ≤ d.coefficient + 1) :
    k < 10 ^ (n + 1) := by
  have grows : 10 ^ n < 10 ^ (n + 1) := Nat.pow_lt_pow_right (by decide) (by omega)
  have below := fits.coefficient_lt
  omega

theorem length_fixedText_le (fits : d.Fits 1099) (p : Nat) : (d.fixedText p).length ≤ p + 1103 := by
  have rounded : d.rounded (min p d.places) ≤ d.coefficient + 1 := by
    unfold Decimal.rounded
    split
    · have none : min p d.places - d.places = 0 := by omega
      rw [none]
      simp
    · have quotient := roundDiv_le d.coefficient (Nat.pow 10 (d.places - min p d.places))
      have smaller := Nat.div_le_self d.coefficient (Nat.pow 10 (d.places - min p d.places))
      omega
  have digits := length_decimalText_le (by decide) (lt_of_le_add_one fits rounded)
  have pointed := length_pointed_le p (d.digitsAt p)
  rw [fixedText]
  have row : (d.digitsAt p).length ≤ 1101 + p := by
    rw [digitsAt, List.length_append, List.length_replicate]
    omega
  omega

theorem length_scientific_le (d : Decimal) (p : Nat) : (d.scientific p).digits.length ≤ p + 1 := by
  unfold scientific
  split
  · simp
  · simp only
    split
    · simp only [List.length_append, List.length_replicate]
      omega
    · split
      · assumption
      · simp only [List.length_take]
        omega

theorem natAbs_exponent_le (fits : d.Fits 1099) (p : Nat) : (d.scientific p).exponent.natAbs ≤ 1101 := by
  have length := fits.length_le (by decide)
  have places := fits.places_le
  have magnitude : d.magnitude.natAbs ≤ 1100 := by
    have somewhere := length_decimalText_pos d.coefficient
    simp only [Decimal.magnitude]
    omega
  unfold scientific
  split
  · exact Nat.zero_le _
  · simp only
    split
    · exact Nat.le_succ_of_le magnitude
    · split
      · exact Nat.le_succ_of_le magnitude
      · change (d.magnitude + 1).natAbs ≤ 1101
        omega

namespace Scientific

theorem length_mantissaText_le (s : Scientific) : s.mantissaText.length ≤ s.digits.length + 1 := by
  unfold mantissaText
  split <;> simp_all

theorem length_positional_le (s : Scientific) : s.positional.length ≤ s.digits.length + s.exponent.natAbs + 2 := by
  unfold positional
  split
  · rename_i k exponent
    simp only [List.length_cons, List.length_append, List.length_replicate, exponent]
    omega
  · rename_i k exponent
    have size : (Int.ofNat k).natAbs = k := rfl
    split
    · simp only [List.length_append, List.length_replicate, exponent, size]
      omega
    · simp only [List.length_append, List.length_cons, List.length_take, List.length_drop, exponent, size]
      omega

end Scientific

end Decimal

theorem RoundingInterval.coarsest_le (i : RoundingInterval) (k : Nat) : i.coarsest k ≤ i.value + 10 ^ k := by
  induction k with
  | zero => exact Nat.le_add_right _ _
  | succ k ih =>
    have below := Nat.div_mul_le_self i.value (Nat.pow 10 (k + 1))
    have grows : 10 ^ k ≤ 10 ^ (k + 1) := Nat.pow_le_pow_right (by decide) (by omega)
    have point : ∀ x, i.gridPoint? (Nat.pow 10 (k + 1)) = some x → x ≤ i.value + 10 ^ (k + 1) := by
      intro x found
      simp only [gridPoint?, Nat.pow_eq] at found below
      split at found
      · cases found
        omega
      · split at found
        · split at found <;> cases found <;> omega
        · cases found
          omega
        · cases found
          omega
        · cases found
    unfold coarsest
    split
    · exact point _ (by assumption)
    · omega

/-- A point that is at most as coarse as the number is long is at most one digit longer. -/
theorem RoundingInterval.length_coarsest_le {i : RoundingInterval} {k n : Nat} (small : i.value < 10 ^ n)
    (le : k ≤ n) : (decimalText (i.coarsest k)).length ≤ n + 1 := by
  have close := i.coarsest_le k
  have step : 10 ^ k ≤ 10 ^ n := Nat.pow_le_pow_right (by decide) le
  have tenfold : 10 ^ (n + 1) = 10 ^ n * 10 := Nat.pow_succ 10 n
  exact length_decimalText_le (Nat.succ_pos n) (by omega)

theorem length_dropTrailingZeros_le {digits : List Char} (some : 0 < digits.length) :
    (dropTrailingZeros digits).length ≤ digits.length := by
  have kept := (List.dropWhile_sublist (l := digits.reverse) (· == '0')).length_le
  rw [List.length_reverse] at kept
  unfold dropTrailingZeros
  split
  · exact some
  · rw [List.length_reverse]
    exact kept

/-- The shortest digits of a double are few enough to be written out. -/
theorem length_shortest_le {m : Nat} {e : Int} (inRange : Binary64.InRange m e) :
    (shortest m e).positional.length ≤ 3000 := by
  have ⟨mantissa, low, high⟩ := inRange
  have positional := (shortest m e).length_positional_le
  suffices both : (shortest m e).digits.length ≤ 1101 ∧ (shortest m e).exponent.natAbs ≤ 1101 by omega
  unfold shortest
  split
  · exact ⟨by decide, by decide⟩
  · have fits : (Decimal.ofBinary (4 * m) (e - 2)).Fits 1099 :=
      Decimal.fits_ofBinary (by omega) (by omega) (by omega) (by decide)
    have places := fits.places_le
    have length := fits.length_le (by decide)
    simp only
    generalize interval_eq : RoundingInterval.mk _ _ _ _ = interval
    have value : interval.value = (Decimal.ofBinary (4 * m) (e - 2)).coefficient := by rw [← interval_eq]
    generalize Decimal.ofBinary (4 * m) (e - 2) = d at *
    have digits := RoundingInterval.length_coarsest_le (value ▸ fits.coefficient_lt)
      (by omega : (decimalText d.coefficient).length - 1 ≤ 1099)
    have somewhere := length_decimalText_pos (interval.coarsest ((decimalText d.coefficient).length - 1))
    have kept := length_dropTrailingZeros_le somewhere
    exact ⟨by omega, by omega⟩

end MockQueue.Number

namespace MockQueue.Message

open Number

/-! ## Arguments of machine size -/

/-- The argument is one that a program can hand over: a text fits in memory, and a float is a double. -/
def Argument.IsNative : Argument → Prop
  | text s => s.utf8ByteSize < 2 ^ 63
  | float v => ∃ bits, v = .ofBits bits
  | _ => True

namespace Argument

variable {arg : Argument}

theorem IsNative.inRange (native : arg.IsNative) {negative : Bool} {m : Nat} {e : Int}
    (value : arg.toFloat = .finite negative m e) : Binary64.InRange m e := by
  cases arg with
  | float v =>
    obtain ⟨bits, rfl⟩ := native
    exact Binary64.ofBits_inRange value
  | int v =>
    have low := v.le_toInt
    have high := v.toInt_lt
    exact Binary64.ofInt_inRange (by omega) value
  | uint v =>
    have word := v.toNat_lt
    exact Binary64.ofInt_inRange (by omega) value
  | text | char | address => cases value

theorem natAbs_lt_of_toSigned? {v : Int} (value : arg.toSigned? = some v) : v.natAbs < 2 ^ 64 := by
  have word : ∀ w : Int64, w.toInt.natAbs < 2 ^ 64 := by
    intro w
    have low := w.le_toInt
    have high := w.toInt_lt
    omega
  cases arg with
  | int w => exact Option.some.inj value ▸ word w
  | uint w => exact Option.some.inj value ▸ word w.toInt64
  | address w => exact Option.some.inj value ▸ word w.toInt64
  | char c =>
    obtain rfl := Option.some.inj value
    have code := c.val.toNat_lt
    rw [Char.toNat_val] at code
    change c.toNat < 2 ^ 64
    omega
  | float x =>
    obtain rfl := Option.some.inj value
    have range := x.truncate_mem Int64.minValue.toInt Int64.maxValue.toInt (by decide)
    have low : Int64.minValue.toInt = -2 ^ 63 := by decide
    have high : Int64.maxValue.toInt = 2 ^ 63 - 1 := by decide
    omega
  | text s => cases value

theorem lt_of_toUnsigned? {v : Nat} (value : arg.toUnsigned? = some v) : v < 2 ^ 64 := by
  cases arg with
  | int w => exact Option.some.inj value ▸ w.toUInt64.toNat_lt
  | uint w => exact Option.some.inj value ▸ w.toNat_lt
  | address w => exact Option.some.inj value ▸ w.toNat_lt
  | char c =>
    obtain rfl := Option.some.inj value
    have code := c.val.toNat_lt
    rw [Char.toNat_val] at code
    omega
  | float x =>
    obtain rfl := Option.some.inj value
    have range := x.truncate_mem 0 wordMax (by decide)
    have high : wordMax = 2 ^ 64 - 1 := by decide
    omega
  | text s => cases value

theorem IsNative.length_toText_le (native : arg.IsNative) : arg.toText.length ≤ 2 ^ 63 := by
  cases arg with
  | text s =>
    have bytes : s.utf8ByteSize < 2 ^ 63 := native
    have size := Text.length_le_byteSize s.toList
    rw [Text.byteSize_toList] at size
    exact Nat.le_trans size (Nat.le_of_lt bytes)
  | char c => exact (by decide : 1 ≤ 2 ^ 63)
  | int v =>
    have value : (int v).toSigned? = some v.toInt := rfl
    have word := natAbs_lt_of_toSigned? value
    exact Nat.le_trans (length_signedText_le word) (by decide)
  | uint v => exact Nat.le_trans (length_digits_le .decimal v.toNat_lt) (by decide)
  | address v =>
    have digits := length_digits_le (.hex false) v.toNat_lt
    simp only [toText, List.length_cons]
    omega
  | float v =>
    cases v with
    | nan _ => exact (by decide : 3 ≤ 2 ^ 63)
    | infinite negative => cases negative <;> exact (by decide)
    | finite negative m e =>
      have value : (float (.finite negative m e)).toFloat = .finite negative m e := rfl
      have digits := length_shortest_le (native.inRange value)
      simp only [toText, plainFloat, List.length_append]
      split <;> simp <;> omega

end Argument

/-! ## Fields -/

theorem length_signText_le (negative : Bool) (flags : Flags) : (signText negative flags).length ≤ 1 := by
  unfold signText
  split
  · exact Nat.le_refl 1
  · split
    · exact Nat.le_refl 1
    · split
      · exact Nat.le_refl 1
      · exact Nat.zero_le 1

theorem length_integerDigits_le (radix : Radix) {value : Nat} (word : value < 2 ^ 64) (precision : Option Nat) :
    (integerDigits radix value precision).length ≤ precision.getD 0 + 64 := by
  have digits := length_digits_le radix word
  unfold integerDigits
  split
  · exact Nat.zero_le _
  · simp only [List.length_append, List.length_replicate]
    omega

theorem length_unsignedField_le (layout : Layout) (radix : Radix) {value : Nat} (word : value < 2 ^ 64) :
    (unsignedField layout radix value).bare.length ≤ layout.precision.getD 0 + 67 := by
  have digits := length_integerDigits_le radix word layout.precision
  have mark : (radixMark radix layout.flags value).length ≤ 2 := by
    unfold radixMark
    split
    · split <;> simp
    · simp
  have octal : ∀ text, (octalMark radix layout.flags text).length ≤ text.length + 1 := by
    intro text
    unfold octalMark
    split <;> simp
  have body := octal (integerDigits radix value layout.precision)
  simp only [Field.bare, unsignedField, List.length_append]
  omega

theorem length_integerField_le (layout : Layout) (radix : Radix) {arg : Argument} (native : arg.IsNative) :
    (integerField layout radix arg).bare.length ≤ layout.precision.getD 0 + 2 ^ 63 := by
  unfold integerField
  cases value : arg.toUnsigned? with
  | some v =>
    have field := length_unsignedField_le layout radix (Argument.lt_of_toUnsigned? value)
    simp only
    omega
  | none =>
    have text := native.length_toText_le
    cases arg with
    | text s => exact Nat.le_trans text (Nat.le_add_left ..)
    | int | uint | float | char | address => cases value

theorem length_exponentText_le {exponent : Int} (small : exponent.natAbs ≤ 1101) :
    (exponentText exponent).length ≤ 6 := by
  have digits : (decimalText exponent.natAbs).length ≤ 4 :=
    length_decimalText_le (by decide) (Nat.lt_of_le_of_lt small (by decide))
  simp only [exponentText, List.length_cons, List.length_append, List.length_replicate]
  omega

theorem length_exponentBody_le {d : Decimal} (fits : d.Fits 1099) (p : Nat) :
    (exponentBody (d.scientific p)).length ≤ p + 8 := by
  have mantissa := (d.scientific p).length_mantissaText_le
  have digits := d.length_scientific_le p
  have exponent := length_exponentText_le (d.natAbs_exponent_le fits p)
  simp only [exponentBody, List.length_append]
  omega

theorem length_generalBody_le {d : Decimal} (fits : d.Fits 1099) (digits : Nat) :
    (generalBody d digits).length ≤ digits + 1107 := by
  unfold generalBody
  simp only
  split
  · rename_i plain
    obtain ⟨low, -⟩ := plain
    have fixed := d.length_fixedText_le fits (plainPlaces digits (d.scientific (digits - 1)))
    simp only [plainPlaces] at fixed ⊢
    omega
  · have scientific := length_exponentBody_le fits (digits - 1)
    omega

theorem length_stripZeros_le (body : List Char) : (stripZeros body).length ≤ body.length := by
  have mantissa : ∀ text, (stripMantissa text).length ≤ text.length := by
    intro text
    unfold stripMantissa
    split
    · have zeros := (List.dropWhile_sublist (l := text.reverse) (· == '0')).length_le
      have point := (List.dropWhile_sublist (l := text.reverse.dropWhile (· == '0')) (· == '.')).length_le
      rw [List.length_reverse] at zeros ⊢
      omega
    · exact Nat.le_refl _
  have parts := congrArg List.length (List.takeWhile_append_dropWhile (p := (· != 'e')) (l := body))
  have front := mantissa (body.takeWhile (· != 'e'))
  rw [List.length_append] at parts
  rw [stripZeros, List.length_append]
  omega

theorem length_floatBody_le {d : Decimal} (fits : d.Fits 1099) (style : FloatStyle) (alternate : Bool)
    (precision : Option Nat) : (floatBody style alternate precision d).length ≤ placesOf precision + 1108 := by
  cases style with
  | fixed =>
    have fixed := d.length_fixedText_le fits (placesOf precision)
    simp only [floatBody]
    split
    · simp only [List.length_append, List.length_singleton]
      omega
    · omega
  | exponent =>
    have scientific := length_exponentBody_le fits (placesOf precision)
    simp only [floatBody]
    omega
  | general =>
    have general := length_generalBody_le fits (digitsOf precision)
    have stripped := length_stripZeros_le (generalBody d (digitsOf precision))
    have digits : digitsOf precision ≤ placesOf precision + 1 := by
      simp only [digitsOf]
      omega
    simp only [floatBody]
    split <;> omega

theorem length_floatField_le (layout : Layout) (style : FloatStyle) (upper : Bool) {arg : Argument}
    (native : arg.IsNative) :
    (floatField layout style upper arg.toFloat).bare.length ≤ placesOf layout.precision + 1109 := by
  have sign := length_signText_le arg.toFloat.isNegative layout.flags
  have cased : ∀ text, (inCase upper text).length = text.length := by
    intro text
    cases upper <;> simp [inCase]
  cases value : arg.toFloat with
  | nan _ =>
    rw [value] at sign
    simp only [Field.bare, floatField, List.length_append, cased, List.length_cons, List.length_nil]
    omega
  | infinite _ =>
    rw [value] at sign
    simp only [Field.bare, floatField, List.length_append, cased, List.length_cons, List.length_nil]
    omega
  | finite negative m e =>
    rw [value] at sign
    have body := length_floatBody_le (native.inRange value).fits style layout.flags.alternate layout.precision
    simp only [Field.bare, floatField, List.length_append, cased]
    omega

/-- A field without its padding is no longer than the longest text and the precision together. -/
theorem length_bare_le (conversion : Conversion) (layout : Layout) {arg : Argument} (native : arg.IsNative) :
    (conversion.field layout arg).bare.length ≤ placesOf layout.precision + 2 ^ 63 := by
  have places : layout.precision.getD 0 ≤ placesOf layout.precision := by
    cases layout.precision <;> simp [placesOf]
  have text := native.length_toText_le
  cases conversion with
  | signed =>
    unfold Conversion.field
    cases value : arg.toSigned? with
    | some v =>
      have sign := length_signText_le (v < 0) layout.flags
      have digits := length_integerDigits_le .decimal (Argument.natAbs_lt_of_toSigned? value) layout.precision
      simp only [Field.bare, signedField, List.length_append]
      omega
    | none =>
      cases arg with
      | text s => exact Nat.le_trans text (Nat.le_add_left ..)
      | int | uint | float | char | address => cases value
  | unsigned radix =>
    have field := length_integerField_le layout radix native
    simp only [Conversion.field]
    omega
  | char =>
    have one : arg.firstChar.length ≤ 1 := by
      cases arg with
      | text s => exact List.length_take_le 1 _
      | int | uint | float | char | address => exact Nat.le_refl 1
    simp only [Conversion.field, Field.bare, List.nil_append]
    omega
  | text =>
    unfold Conversion.field
    cases layout.precision with
    | none => exact Nat.le_trans text (Nat.le_add_left ..)
    | some limit =>
      rw [Field.bare, List.nil_append, List.length_take]
      exact Nat.le_trans (Nat.min_le_right ..) (Nat.le_trans text (Nat.le_add_left ..))
  | float style upper =>
    have field := length_floatField_le layout style upper native
    simp only [Conversion.field]
    omega
  | address =>
    have field := length_integerField_le layout (.hex false) native
    cases arg with
    | address a =>
      have digits := length_digits_le (.hex false) a.toNat_lt
      simp only [Conversion.field]
      split
      · exact Nat.le_trans (by decide : 5 ≤ 2 ^ 63) (Nat.le_add_left ..)
      · simp only [Field.bare, List.length_append, List.length_cons, List.length_nil]
        omega
    | int | uint | float | char | text =>
      simp only [Conversion.field]
      omega

end MockQueue.Message

import Mathlib.Algebra.Group.Nat.Defs
import MockQueue.Message.Conversion
import MockQueue.Proofs.Rows

/-!
# Decimals with more places than they have digits

The exact decimal of a double has a bounded number of digits and places (`Decimal.fits_ofBinary`). Once a
text asks for more of them than there are, further places only add zeros: at the end of fixed notation, and
before the exponent otherwise (`Lengthens`). Without the alternate form general notation drops them again.
-/

namespace MockQueue.Number

/-- The number `k` of zeros. -/
def zeros (k : Nat) : List Char :=
  List.replicate k '0'

@[simp] theorem length_zeros (k : Nat) : (zeros k).length = k :=
  List.length_replicate

theorem zeros_add (j k : Nat) : zeros (j + k) = zeros j ++ zeros k :=
  List.replicate_append_replicate.symm

/-! ## Digits -/

theorem length_decimalText_le {n k : Nat} (positive : 0 < k) (small : n < 10 ^ k) : (decimalText n).length ≤ k :=
  (Nat.length_toDigits_le_iff (by decide) positive).mpr small

theorem length_decimalText_pos (n : Nat) : 0 < (decimalText n).length :=
  Nat.length_toDigits_pos

theorem isDigit_of_mem_decimalText {n : Nat} {c : Char} (member : c ∈ decimalText n) : c.isDigit = true :=
  Nat.isDigit_of_mem_toDigits (by decide) (by decide) member

/-- A row of decimal digits. -/
def AllDigits (text : List Char) : Prop :=
  ∀ c ∈ text, c.isDigit = true

theorem allDigits_append {front back : List Char} :
    AllDigits (front ++ back) ↔ AllDigits front ∧ AllDigits back :=
  List.forall_mem_append

theorem allDigits_zeros (k : Nat) : AllDigits (zeros k) :=
  fun _ member => (List.eq_of_mem_replicate member) ▸ rfl

theorem allDigits_decimalText (n : Nat) : AllDigits (decimalText n) :=
  fun _ member => isDigit_of_mem_decimalText member

theorem AllDigits.noLetter {text : List Char} (digits : AllDigits text) {c : Char} (other : c.isDigit = false) :
    c ∉ text := by
  intro member
  rw [digits c member] at other
  cases other

namespace Decimal

/-- The decimal has fewer than `10 ^ n` units of its last place, and at most `n` places. -/
structure Fits (n : Nat) (d : Decimal) : Prop where
  coefficient_lt : d.coefficient < 10 ^ n
  places_le : d.places ≤ n

theorem mul_pow_lt {m base k n : Nat} (small : m ≤ 2 ^ 55) (atMostTen : base ≤ 10) (short : 17 + k < n) :
    m * base ^ k < 10 ^ n := by
  have seventeen : m ≤ 10 ^ 17 := Nat.le_trans small (by decide)
  calc m * base ^ k ≤ 10 ^ 17 * 10 ^ k := Nat.mul_le_mul seventeen (Nat.pow_le_pow_left atMostTen k)
    _ = 10 ^ (17 + k) := (Nat.pow_add 10 17 k).symm
    _ < 10 ^ n := Nat.pow_lt_pow_right (by decide) short

/-- The exact decimal of a double, or of a quarter of one, has fewer than 1095 digits and places. -/
theorem fits_ofBinary {m n : Nat} {e : Int} (small : m ≤ 2 ^ 55) (low : -1076 ≤ e) (high : e ≤ 971)
    (wide : 1094 ≤ n) : (ofBinary m e).Fits n := by
  cases e with
  | ofNat k =>
    have short : k ≤ 971 := Int.ofNat_le.mp high
    exact ⟨mul_pow_lt small (by decide) (by omega), Nat.zero_le _⟩
  | negSucc k =>
    have short : k + 1 ≤ 1076 := by omega
    exact ⟨mul_pow_lt small (by decide) (by omega), Nat.le_trans short (by omega)⟩

theorem Fits.length_le {n : Nat} {d : Decimal} (fits : d.Fits n) (positive : 0 < n) :
    (decimalText d.coefficient).length ≤ n :=
  length_decimalText_le positive fits.coefficient_lt

/-! ## Fixed notation -/

/-- Past the last place of the number every further place is a zero. -/
theorem digitsAt_add (d : Decimal) {p : Nat} (reached : d.places ≤ p) (k : Nat) :
    d.digitsAt (p + k) = d.digitsAt p ++ zeros k := by
  have here : min p d.places = d.places := Nat.min_eq_right reached
  have there : min (p + k) d.places = d.places := Nat.min_eq_right (by omega)
  have more : p + k - d.places = (p - d.places) + k := by omega
  rw [digitsAt, digitsAt, here, there, more, List.append_assoc]
  exact congrArg _ (zeros_add _ k)

theorem pointed_add {p : Nat} (positive : 0 < p) (digits : List Char) (k : Nat) :
    pointed (p + k) (digits ++ zeros k) = pointed p digits ++ zeros k := by
  have missing : p + k + 1 - (digits ++ zeros k).length = p + 1 - digits.length := by
    rw [List.length_append, length_zeros]
    omega
  have some : p ≠ 0 := by omega
  have someMore : p + k ≠ 0 := by omega
  simp only [pointed, missing, some, someMore, if_false]
  rw [← List.append_assoc]
  generalize List.replicate (p + 1 - digits.length) '0' ++ digits = row
  have whole : (row ++ zeros k).length - (p + k) = row.length - p := by
    rw [List.length_append, length_zeros]
    omega
  rw [whole, List.take_append_of_le_length (by omega), List.drop_append_of_le_length (by omega), List.append_assoc]
  rfl

theorem fixedText_add (d : Decimal) {p : Nat} (reached : d.places ≤ p) (positive : 0 < p) (k : Nat) :
    d.fixedText (p + k) = d.fixedText p ++ zeros k := by
  rw [fixedText, digitsAt_add d reached, pointed_add positive, fixedText]

theorem length_pointed_le (p : Nat) (digits : List Char) :
    (pointed p digits).length ≤ max digits.length (p + 1) + 1 := by
  unfold pointed
  split
  · simp
    omega
  · simp
    omega

/-- A point stands before as many digits as there are places, and behind at least one. -/
theorem length_pointed {p : Nat} (positive : 0 < p) (digits : List Char) :
    (pointed p digits).length = max digits.length (p + 1) + 1 := by
  unfold pointed
  rw [if_neg (by omega)]
  simp
  omega

theorem length_digitsAt {d : Decimal} {p : Nat} (reached : d.places ≤ p) :
    (d.digitsAt p).length = (decimalText d.coefficient).length + (p - d.places) := by
  have here : min p d.places = d.places := Nat.min_eq_right reached
  simp [digitsAt, here, rounded]

theorem point_mem_pointed {p : Nat} (positive : 0 < p) (digits : List Char) : '.' ∈ pointed p digits := by
  unfold pointed
  rw [if_neg (by omega)]
  simp

/-- Digits with a point have no letter among them. -/
theorem noLetter_pointed (p : Nat) {digits : List Char} (row : AllDigits digits) {c : Char}
    (other : c.isDigit = false) (noPoint : c ≠ '.') : c ∉ pointed p digits := by
  have whole : c ∉ List.replicate (p + 1 - digits.length) '0' ++ digits :=
    (allDigits_append.mpr ⟨allDigits_zeros _, row⟩).noLetter other
  unfold pointed
  split
  · exact whole
  · intro member
    rcases List.mem_append.mp member with before | after
    · exact whole (List.mem_of_mem_take before)
    · rcases List.mem_cons.mp after with point | behind
      · exact noPoint point
      · exact whole (List.mem_of_mem_drop behind)

theorem allDigits_digitsAt (d : Decimal) (p : Nat) : AllDigits (d.digitsAt p) :=
  allDigits_append.mpr ⟨allDigits_decimalText _, allDigits_zeros _⟩

/-! ## Significant digits -/

/-- With more significant digits than the number has, every further one is a zero. -/
theorem scientific_add (d : Decimal) {p : Nat} (held : (decimalText d.coefficient).length ≤ p + 1) (k : Nat) :
    d.scientific (p + k) = ⟨(d.scientific p).digits ++ zeros k, (d.scientific p).exponent⟩ := by
  unfold scientific
  split
  · have more : p + k + 1 = (p + 1) + k := by omega
    rw [more]
    exact congrArg (Scientific.mk · 0) (zeros_add (p + 1) k)
  · have heldMore : (decimalText d.coefficient).length ≤ p + k + 1 := by omega
    have more : p + k + 1 - (decimalText d.coefficient).length =
        (p + 1 - (decimalText d.coefficient).length) + k := by omega
    simp only [held, heldMore, if_true, more, List.append_assoc]
    exact congrArg (fun row => Scientific.mk (_ ++ row) _) (zeros_add _ k)

theorem length_scientific {d : Decimal} {p : Nat} (held : (decimalText d.coefficient).length ≤ p + 1) :
    (d.scientific p).digits.length = p + 1 := by
  unfold scientific
  split
  · simp
  · simp only [held, if_true, List.length_append, List.length_replicate]
    omega

theorem allDigits_scientific (d : Decimal) (p : Nat) : AllDigits (d.scientific p).digits := by
  unfold scientific
  split
  · exact allDigits_zeros _
  · simp only
    split
    · exact allDigits_append.mpr ⟨allDigits_decimalText _, allDigits_zeros _⟩
    · split
      · exact allDigits_decimalText _
      · exact fun c member => allDigits_decimalText _ c (List.mem_of_mem_take member)

/-- The power of ten of a number whose digits were not rounded. -/
theorem exponent_scientific {d : Decimal} {p : Nat} (held : (decimalText d.coefficient).length ≤ p + 1) :
    (d.scientific p).exponent = if d.coefficient = 0 then 0 else d.magnitude := by
  unfold scientific
  split
  · rfl
  · simp only [held, if_true]

namespace Scientific

theorem mantissaText_eq {s : Scientific} (two : 2 ≤ s.digits.length) :
    ∃ first others, s.digits = first :: others ∧ s.mantissaText = first :: '.' :: others := by
  unfold mantissaText
  match s.digits, two with
  | first :: second :: others, _ => exact ⟨first, second :: others, rfl, rfl⟩

end Scientific

end Decimal

end MockQueue.Number

namespace MockQueue.Message

open Number

/-! ## Bodies of floats -/

/-- The long text has `k` more zeros than the short one, after more than `p` characters with a point among
them; what follows, if anything, is an exponent. -/
def Lengthens (p k : Nat) (short long : List Char) : Prop :=
  ∃ front back, short = front ++ back ∧ long = front ++ (zeros k ++ back) ∧ p < front.length ∧
    '.' ∈ front ∧ 'e' ∉ front ∧ (back = [] ∨ ∃ rest, back = 'e' :: rest)

section

variable {d : Decimal} {n p : Nat}

theorem fixedText_lengthens (reached : d.places ≤ p) (positive : 0 < p) (k : Nat) :
    Lengthens (max (d.digitsAt p).length p) k (d.fixedText p) (d.fixedText (p + k)) := by
  refine ⟨d.fixedText p, [], (List.append_nil _).symm, ?_, ?_, Decimal.point_mem_pointed positive _, ?_, .inl rfl⟩
  · rw [d.fixedText_add reached positive, List.append_nil]
  · rw [Decimal.fixedText, Decimal.length_pointed positive]
    omega
  · exact Decimal.noLetter_pointed p (d.allDigits_digitsAt p) (by decide) (by decide)

theorem exponentBody_lengthens (held : (decimalText d.coefficient).length ≤ p + 1) (positive : 0 < p) (k : Nat) :
    Lengthens p k (exponentBody (d.scientific p)) (exponentBody (d.scientific (p + k))) := by
  have size := Decimal.length_scientific held
  obtain ⟨first, others, digits, mantissa⟩ := Decimal.Scientific.mantissaText_eq (s := d.scientific p) (by omega)
  have sizeMore : 2 ≤ (d.scientific (p + k)).digits.length := by
    rw [d.scientific_add held]
    simp only [List.length_append]
    omega
  obtain ⟨firstMore, othersMore, digitsMore, mantissaMore⟩ := Decimal.Scientific.mantissaText_eq sizeMore
  have exponent : (d.scientific (p + k)).exponent = (d.scientific p).exponent := by rw [d.scientific_add held]
  have row : firstMore :: othersMore = first :: (others ++ zeros k) := by
    rw [← digitsMore, d.scientific_add held, digits, List.cons_append]
  obtain ⟨rfl, rfl⟩ := List.cons.inj row
  have noLetter : 'e' ∉ firstMore :: others :=
    AllDigits.noLetter (digits ▸ d.allDigits_scientific p) (by decide)
  refine ⟨(d.scientific p).mantissaText, exponentText (d.scientific p).exponent, rfl, ?_, ?_, ?_, ?_,
    .inr ⟨_, rfl⟩⟩
  · rw [exponentBody, mantissaMore, mantissa, exponent]
    simp
  · have length : others.length + 1 = p + 1 := by rw [← size, digits, List.length_cons]
    rw [mantissa, List.length_cons, List.length_cons]
    omega
  · rw [mantissa]
    simp
  · rw [mantissa]
    simpa using noLetter

/-- General notation with more digits than the number has, both where it needs an exponent and where it
does not. -/
theorem generalBody_lengthens (fits : d.Fits n) (positive : 0 < n) {digits : Nat} (many : n < digits) (k : Nat) :
    Lengthens (digits - 1) k (generalBody d digits) (generalBody d (digits + k)) := by
  have length := fits.length_le positive
  have somewhere := length_decimalText_pos d.coefficient
  have reached := fits.places_le
  have held : (decimalText d.coefficient).length ≤ digits - 1 + 1 := by omega
  have more : digits + k - 1 = digits - 1 + k := by omega
  have exponent : (d.scientific (digits + k - 1)).exponent = (d.scientific (digits - 1)).exponent := by
    rw [more, d.scientific_add held]
  have value := Decimal.exponent_scientific held
  have below : (d.scientific (digits - 1)).exponent < digits := by
    rw [value]
    split
    · omega
    · simp only [Decimal.magnitude]
      omega
  simp only [generalBody, isPlain, exponent, plainPlaces]
  by_cases plain : -4 ≤ (d.scientific (digits - 1)).exponent
  · have belowMore : (d.scientific (digits - 1)).exponent < (digits + k : Nat) := by omega
    simp only [plain, below, belowMore, and_self, if_true]
    -- The digits reach past the last place of the number, and there is at least one place.
    generalize places_eq : ((digits : Int) - 1 - (d.scientific (digits - 1)).exponent).toNat = places
    have placesMore : (((digits + k : Nat) : Int) - 1 - (d.scientific (digits - 1)).exponent).toNat = places + k := by
      omega
    have enough : d.places ≤ places ∧ 0 < places ∧
        digits - 1 ≤ max ((decimalText d.coefficient).length + (places - d.places)) places := by
      rw [value] at places_eq
      split at places_eq
      · omega
      · simp only [Decimal.magnitude] at places_eq
        omega
    obtain ⟨past, some, total⟩ := enough
    rw [placesMore]
    obtain ⟨front, back, short, long, size, rest⟩ := fixedText_lengthens past some k
    rw [Decimal.length_digitsAt past] at size
    exact ⟨front, back, short, long, by omega, rest⟩
  · simp only [plain, false_and, if_false, more]
    exact exponentBody_lengthens held (by omega) k

end

/-- Zeros at the end of a mantissa with a point are dropped. -/
theorem stripMantissa_zeros {mantissa : List Char} (point : '.' ∈ mantissa) (k : Nat) :
    stripMantissa (mantissa ++ zeros k) = stripMantissa mantissa := by
  have dropped : ∀ text : List Char, (zeros k ++ text).dropWhile (· == '0') = text.dropWhile (· == '0') := by
    intro text
    induction k with
    | zero => rfl
    | succ k ih =>
      rw [zeros, List.replicate_succ, List.cons_append, List.dropWhile_cons_of_pos rfl]
      exact ih
  have reversed : (mantissa ++ zeros k).reverse = zeros k ++ mantissa.reverse := by
    rw [List.reverse_append, zeros, List.reverse_replicate]
  have here : mantissa.contains '.' = true := List.contains_iff_mem.mpr point
  have there : (mantissa ++ zeros k).contains '.' = true :=
    List.contains_iff_mem.mpr (List.mem_append_left _ point)
  rw [stripMantissa, stripMantissa, if_pos here, if_pos there, reversed, dropped]

/-- Without its zeros the longer text is the shorter one. -/
theorem Lengthens.stripZeros_eq {p k : Nat} {short long : List Char} (lengthens : Lengthens p k short long) :
    stripZeros long = stripZeros short := by
  obtain ⟨front, back, rfl, rfl, -, point, noLetter, ending⟩ := lengthens
  have split : ∀ mantissa : List Char, 'e' ∉ mantissa →
      stripZeros (mantissa ++ back) = stripMantissa mantissa ++ back := by
    intro mantissa noLetter
    have letterless := Text.bne_of_notMem noLetter
    rw [stripZeros, List.takeWhile_append_of_pos letterless, List.dropWhile_append_of_pos letterless]
    rcases ending with rfl | ⟨rest, rfl⟩
    · simp
    · simp
  have noLetterMore : 'e' ∉ front ++ zeros k := by
    intro member
    rcases List.mem_append.mp member with inFront | inZeros
    · exact noLetter inFront
    · exact (allDigits_zeros k).noLetter (by decide) inZeros
  rw [← List.append_assoc, split _ noLetterMore, split _ noLetter, stripMantissa_zeros point]

/-- A body of more places than the number has digits: further places lengthen it, or they are all dropped
again. -/
theorem floatBody_lengthens {d : Decimal} {n p : Nat} (fits : d.Fits n) (positive : 0 < n) (many : n < p)
    (style : FloatStyle) (alternate : Bool) (k : Nat) :
    floatBody style alternate (some (p + k)) d = floatBody style alternate (some p) d ∨
      Lengthens (p - 1) k (floatBody style alternate (some p) d) (floatBody style alternate (some (p + k)) d) := by
  have reached := fits.places_le
  have length := fits.length_le positive
  cases style with
  | fixed =>
    right
    have some : p ≠ 0 := by omega
    have someMore : p + k ≠ 0 := by omega
    simp only [floatBody, placesOf, Option.getD_some, some, someMore, and_false, if_false]
    obtain ⟨front, back, short, long, size, rest⟩ := fixedText_lengthens (d := d) (p := p) (by omega) (by omega) k
    exact ⟨front, back, short, long, by omega, rest⟩
  | exponent =>
    right
    obtain ⟨front, back, short, long, size, rest⟩ :=
      exponentBody_lengthens (d := d) (p := p) (by omega) (by omega) k
    exact ⟨front, back, short, long, by omega, rest⟩
  | general =>
    have digits : digitsOf (some p) = p := by
      simp only [digitsOf, placesOf, Option.getD_some]
      omega
    have digitsMore : digitsOf (some (p + k)) = p + k := by
      simp only [digitsOf, placesOf, Option.getD_some]
      omega
    have lengthens := generalBody_lengthens fits positive many k
    simp only [floatBody, digits, digitsMore]
    cases alternate with
    | true => exact .inr lengthens
    | false => exact .inl lengthens.stripZeros_eq

end MockQueue.Message

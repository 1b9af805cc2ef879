import MockQueue.Proofs.Padding

/-!
# Integers as they are written

An integer conversion writes blanks, a lead, zeros that fill the width, the zero that marks an octal number, a
row of digits that is as long as the precision and the number ask for, and blanks (`IntegerText`). How long
each of them is and what they say is stated from the letter of the conversion, the layout and the number
alone (`IntegerText.Denotes`), and holds for every integer argument (`integers_read_back`).
-/

namespace MockQueue.Message

open Number

/-! ## Reading integers -/

/-- How an integer conversion takes its argument, and the digits that it writes. -/
structure Reading where
  signed : Bool
  radix : Radix
  deriving DecidableEq, Repr

/-- The reading that a letter stands for, if it is the letter of an integer conversion. -/
def integerReading? : Char → Option Reading
  | 'd' => some ⟨true, .decimal⟩
  | 'i' => some ⟨true, .decimal⟩
  | 'u' => some ⟨false, .decimal⟩
  | 'x' => some ⟨false, .hex false⟩
  | 'X' => some ⟨false, .hex true⟩
  | 'o' => some ⟨false, .octal⟩
  | _ => none

/-- The number as a word of 64 bits, with a sign in two's complement or without one. -/
def Reading.word (r : Reading) (n : Int) : Int :=
  if r.signed then n.bmod wordSize else n % wordSize

/-- The number that an integer argument holds. -/
def Argument.integer? : Argument → Option Int
  | int v => some v.toInt
  | uint v => some v.toNat
  | _ => none

/-- What stands in front of a number in a radix to tell the radix. -/
def radixLetters : Radix → List Char
  | .hex false => ['0', 'x']
  | .hex true => ['0', 'X']
  | _ => []

/-- What stands in front of the digits of a number: its sign, or what tells the radix. -/
def Reading.lead (r : Reading) (flags : Flags) (value : Int) : List Char :=
  if r.signed then
    if value < 0 then ['-'] else if flags.plus then ['+'] else if flags.space then [' '] else []
  else if flags.alternate ∧ value ≠ 0 then radixLetters r.radix
  else []

/-- The parts of an integer as it is written. -/
structure IntegerText where
  /-- The number of blanks before it. -/
  before : Nat
  lead : List Char
  /-- The number of zeros that fill the width. -/
  padding : Nat
  /-- The zero that marks an octal number. -/
  mark : List Char
  row : List Char
  /-- The number of blanks behind it. -/
  after : Nat

namespace IntegerText

def digits (t : IntegerText) : List Char :=
  zeros t.padding ++ (t.mark ++ t.row)

def print (t : IntegerText) : List Char :=
  List.replicate t.before ' ' ++ (t.lead ++ t.digits) ++ List.replicate t.after ' '

/-- The number of characters that are no padding. -/
def size (t : IntegerText) : Nat :=
  t.lead.length + (t.mark.length + t.row.length)

/-- The text is that of `value` under a layout. -/
structure Denotes (t : IntegerText) (r : Reading) (layout : Layout) (value : Int) : Prop where
  lead : t.lead = r.lead layout.flags value
  digits : ∀ c ∈ t.digits, c ∈ r.radix.alphabet
  denotes : (if t.lead = ['-'] then -1 else 1) * (valueOf r.radix.base t.digits : Int) = value
  length_row : t.row.length =
    if value = 0 ∧ layout.precision = some 0 then 0
    else max (layout.precision.getD 0) (Nat.log r.radix.base value.natAbs + 1)
  mark : t.mark = if r.radix = .octal ∧ layout.flags.alternate ∧ t.row.head? ≠ some '0' then ['0'] else []
  before : t.before =
    if layout.flags.left ∨ (layout.flags.zero ∧ layout.precision = none) then 0 else layout.width - t.size
  padding : t.padding =
    if layout.flags.zero ∧ ¬ layout.flags.left ∧ layout.precision = none then layout.width - t.size else 0
  after : t.after = if layout.flags.left then layout.width - t.size else 0

end IntegerText

/-! ## Rows of digits -/

theorem length_integerDigits (radix : Radix) (value : Nat) (precision : Option Nat) :
    (integerDigits radix value precision).length =
      if value = 0 ∧ precision = some 0 then 0 else max (precision.getD 0) (Nat.log radix.base value + 1) := by
  unfold integerDigits
  by_cases empty : value = 0 ∧ precision = some 0
  · rw [if_pos empty, if_pos empty, List.length_nil]
  · rw [if_neg empty, if_neg empty]
    simp only [List.length_append, List.length_replicate, radix.length_digits]
    omega

theorem valueOf_integerDigits (radix : Radix) (value : Nat) (precision : Option Nat) :
    valueOf radix.base (integerDigits radix value precision) = value := by
  unfold integerDigits
  by_cases empty : value = 0 ∧ precision = some 0
  · rw [if_pos empty, empty.1]
    rfl
  · rw [if_neg empty]
    exact (valueOf_zeros_append _ _ _).trans (valueOf_digits radix value)

/-- The zero in front of an octal number in the alternate form, where there is none. -/
def octalZero (radix : Radix) (flags : Flags) (row : List Char) : List Char :=
  if radix = .octal ∧ flags.alternate ∧ row.head? ≠ some '0' then ['0'] else []

theorem octalMark_eq (radix : Radix) (flags : Flags) (row : List Char) :
    octalMark radix flags row = octalZero radix flags row ++ row := by
  unfold octalMark octalZero
  split <;> rfl

theorem radixMark_eq (radix : Radix) (flags : Flags) (value : Nat) :
    radixMark radix flags value = if flags.alternate ∧ value ≠ 0 then radixLetters radix else [] := by
  cases radix with
  | decimal | octal => simp [radixMark, radixLetters]
  | hex upper => cases upper <;> simp [radixMark, radixLetters]

/-! ## Layouts -/

/-- The parts of a number in its width. -/
def IntegerText.ofParts (layout : Layout) (lead mark row : List Char) : IntegerText :=
  let missing := layout.width - (lead.length + (mark.length + row.length))
  { before := if layout.flags.left ∨ (layout.flags.zero ∧ layout.precision = none) then 0 else missing
    lead
    padding := if layout.flags.zero ∧ ¬ layout.flags.left ∧ layout.precision = none then missing else 0
    mark
    row
    after := if layout.flags.left then missing else 0 }

theorem spread_eq_print (layout : Layout) (lead mark row : List Char) :
    let f : Field := { lead, body := mark ++ row, zeroable := layout.precision.isNone }
    f.spread layout.flags (layout.width - f.bare.length) = (IntegerText.ofParts layout lead mark row).print := by
  simp only [Field.spread, Field.bare, IntegerText.ofParts, IntegerText.print, IntegerText.digits, List.length_append]
  generalize layout.width - (lead.length + (mark.length + row.length)) = missing
  cases layout.flags.left with
  | true => simp [zeros]
  | false =>
    cases layout.flags.zero with
    | false => simp [zeros]
    | true => cases layout.precision <;> simp [zeros]

/-- No number without a sign starts with a minus. -/
theorem lead_eq_minus_iff {r : Reading} (flags : Flags) {value : Int} (natural : r.signed = false → 0 ≤ value) :
    r.lead flags value = ['-'] ↔ value < 0 := by
  obtain ⟨signed, radix⟩ := r
  unfold Reading.lead
  cases signed with
  | true =>
    by_cases negative : value < 0
    · simp [negative]
    · cases flags.plus <;> cases flags.space <;> simp [negative]
  | false =>
    have others : ∀ radix, radixLetters radix ≠ ['-'] := by
      rintro (_ | _ | upper)
      · simp [radixLetters]
      · simp [radixLetters]
      · cases upper <;> simp [radixLetters]
    have atLeast := natural rfl
    constructor
    · intro minus
      simp only [Bool.false_eq_true, if_false] at minus
      split at minus
      · exact absurd minus (others radix)
      · cases minus
    · intro negative
      omega

theorem octalZero_eq_zeros (radix : Radix) (flags : Flags) (row : List Char) :
    ∃ k, octalZero radix flags row = zeros k := by
  unfold octalZero
  split
  · exact ⟨1, rfl⟩
  · exact ⟨0, rfl⟩

theorem denotes_ofParts {r : Reading} (layout : Layout) {value : Int} (natural : r.signed = false → 0 ≤ value) :
    let row := integerDigits r.radix value.natAbs layout.precision
    (IntegerText.ofParts layout (r.lead layout.flags value) (octalZero r.radix layout.flags row) row).Denotes
      r layout value := by
  intro row
  have length := length_integerDigits r.radix value.natAbs layout.precision
  simp only [Int.natAbs_eq_zero] at length
  obtain ⟨k, mark⟩ := octalZero_eq_zeros r.radix layout.flags row
  refine ⟨rfl, ?_, ?_, length, rfl, rfl, rfl, rfl⟩
  · intro c member
    simp only [IntegerText.ofParts, IntegerText.digits, mark, ← List.append_assoc, ← zeros_add] at member
    rcases List.mem_append.mp member with zero | digit
    · exact List.eq_of_mem_replicate zero ▸ r.radix.zero_mem_alphabet
    · exact mem_alphabet_integerDigits _ _ _ c digit
  · generalize lead_eq : r.lead layout.flags value = lead
    have minus : (IntegerText.ofParts layout lead (zeros k) row).lead = ['-'] ↔ value < 0 :=
      lead_eq ▸ lead_eq_minus_iff layout.flags natural
    have value_eq : valueOf r.radix.base (IntegerText.ofParts layout lead (zeros k) row).digits = value.natAbs := by
      rw [IntegerText.digits, valueOf_zeros_append]
      exact (valueOf_zeros_append _ _ _).trans (valueOf_integerDigits _ _ _)
    simp only [mark, value_eq, minus]
    split <;> omega

theorem write_of_field {conversion : Conversion} {layout : Layout} {arg : Argument} {lead mark row : List Char}
    (unrefused : conversion.refusal? layout arg = none)
    (field : conversion.field layout arg = { lead, body := mark ++ row, zeroable := layout.precision.isNone }) :
    conversion.write layout arg = .ok (IntegerText.ofParts layout lead mark row).print := by
  rw [write_eq, unrefused, field]
  exact congrArg Except.ok (spread_eq_print layout lead mark row)

theorem write_signed {arg : Argument} {value : Int} (taken : arg.toSigned? = some value) (layout : Layout) :
    ∃ t : IntegerText, Conversion.signed.write layout arg = .ok t.print ∧ t.Denotes ⟨true, .decimal⟩ layout value := by
  have sign : signText (value < 0) layout.flags = Reading.lead ⟨true, .decimal⟩ layout.flags value := by
    simp [signText, Reading.lead]
  refine ⟨_, ?_, denotes_ofParts layout (by simp)⟩
  apply write_of_field
  · simp [Conversion.refusal?, Conversion.places]
  · simp only [Conversion.field, taken, signedField, octalZero, sign]
    rfl

theorem write_unsigned {arg : Argument} {value : Nat} (taken : arg.toUnsigned? = some value) (layout : Layout)
    (radix : Radix) :
    ∃ t : IntegerText, (Conversion.unsigned radix).write layout arg = .ok t.print ∧
      t.Denotes ⟨false, radix⟩ layout value := by
  have mark : radixMark radix layout.flags value = Reading.lead ⟨false, radix⟩ layout.flags value := by
    rw [radixMark_eq, Reading.lead]
    simp
  refine ⟨_, ?_, denotes_ofParts layout (by simp)⟩
  apply write_of_field
  · simp [Conversion.refusal?, Conversion.places]
  · simp only [Conversion.field, integerField, taken, unsignedField, octalMark_eq, mark, Int.natAbs_natCast]

/-! ## Words -/

section

variable {arg : Argument} {n : Int}

theorem toSigned?_of_integer (integer : arg.integer? = some n) : arg.toSigned? = some (n.bmod wordSize) := by
  cases arg with
  | int v =>
    cases integer
    have size : wordSize = 2 ^ 64 := rfl
    have low := v.le_toInt
    have high := v.toInt_lt
    have kept : v.toInt.bmod wordSize = v.toInt := Int.bmod_eq_of_le (by omega) (by omega)
    rw [kept]
    rfl
  | uint v =>
    cases integer
    change some v.toInt64.toBitVec.toInt = _
    rw [UInt64.toBitVec_toInt64, BitVec.toInt_eq_toNat_bmod]
    rfl
  | _ => cases integer

theorem toUnsigned?_of_integer (integer : arg.integer? = some n) : arg.toUnsigned? = some (n % wordSize).toNat := by
  have size : wordSize = 2 ^ 64 := rfl
  cases arg with
  | int v =>
    cases integer
    have small : v.toBitVec.toNat < 2 ^ 64 := v.toBitVec.isLt
    have word : v.toInt % wordSize = v.toBitVec.toNat := by
      change v.toBitVec.toInt % wordSize = _
      rw [BitVec.toInt_eq_toNat_bmod, ← size, Int.bmod_emod]
      exact Int.emod_eq_of_lt (by omega) (by omega)
    rw [word]
    rfl
  | uint v =>
    cases integer
    have small := v.toNat_lt
    have word : (v.toNat : Int) % wordSize = v.toNat := Int.emod_eq_of_lt (by omega) (by omega)
    rw [word]
    rfl
  | _ => cases integer

/-- An integer conversion writes the number of an integer argument, as a word of 64 bits with a sign or without
one: blanks, lead, zeros and digits are those that the layout asks for, and the digits are read back as that
number. -/
theorem integers_read_back {letter : Char} {r : Reading} (asked : integerReading? letter = some r)
    (integer : arg.integer? = some n) (layout : Layout) :
    ∃ conversion, Conversion.ofChar? letter = some conversion ∧
      ∃ t : IntegerText, conversion.write layout arg = .ok t.print ∧ t.Denotes r layout (r.word n) := by
  have signed := write_signed (toSigned?_of_integer integer) layout
  have unsigned := write_unsigned (toUnsigned?_of_integer integer) layout
  have word : ((n % wordSize).toNat : Int) = n % wordSize := Int.toNat_of_nonneg (Int.emod_nonneg n (by decide))
  rw [word] at unsigned
  unfold integerReading? at asked
  split at asked
  · cases asked
    exact ⟨_, rfl, signed⟩
  · cases asked
    exact ⟨_, rfl, signed⟩
  · cases asked
    exact ⟨_, rfl, unsigned .decimal⟩
  · cases asked
    exact ⟨_, rfl, unsigned (.hex false)⟩
  · cases asked
    exact ⟨_, rfl, unsigned (.hex true)⟩
  · cases asked
    exact ⟨_, rfl, unsigned .octal⟩
  · cases asked

end

/-- The least integer, of which the opposite is none. -/
theorem integers_read_back_least :
    integerReading? 'd' = some ⟨true, .decimal⟩ ∧
      (Argument.int Int64.minValue).integer? = some (-9223372036854775808) ∧
      ∃ t : IntegerText, Conversion.signed.write {} (.int Int64.minValue) = .ok t.print ∧
        t.Denotes ⟨true, .decimal⟩ {} (-9223372036854775808) ∧ t.print = "-9223372036854775808".toList := by
  have integer : (Argument.int Int64.minValue).integer? = some (-9223372036854775808) := by decide
  have asked : integerReading? 'd' = some ⟨true, .decimal⟩ := rfl
  obtain ⟨conversion, letter, t, written, denotes⟩ := integers_read_back asked integer {}
  cases letter
  have text : Conversion.signed.write {} (.int Int64.minValue) = .ok "-9223372036854775808".toList := rfl
  exact ⟨asked, integer, t, written, denotes, Except.ok.inj (written.symm.trans text)⟩

end MockQueue.Message

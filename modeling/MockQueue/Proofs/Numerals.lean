import MockQueue.Proofs.Rows
import MockQueue.Proofs.Significands

/-!
# Numerals

The text of a finite float is a numeral: whole digits, a point with decimals behind it, and an exponent, of
which the last two can be missing. A proper numeral is read back from its text (`read_print`). Every body of a
float is the text of one (`floatBody_eq_print`), and dropping the zeros at its end touches nothing but its
decimals (`stripZeros_print`).
-/

namespace MockQueue.Number

open Text (Stops stops_nil stops_cons bne_of_notMem takeWhile_row dropWhile_row)

/-- The parts of a number as it is written. -/
structure Numeral where
  whole : List Char
  /-- The digits after the point, if there is a point. -/
  decimals : Option (List Char) := none
  /-- The sign and the digits of the exponent, if there is one. -/
  exponent : Option (Char × List Char) := none
  deriving DecidableEq, Repr

namespace Numeral

def decimalsText : Option (List Char) → List Char
  | none => []
  | some row => '.' :: row

def exponentText : Option (Char × List Char) → List Char
  | none => []
  | some (sign, row) => 'e' :: sign :: row

def mantissa (n : Numeral) : List Char :=
  n.whole ++ decimalsText n.decimals

def print (n : Numeral) : List Char :=
  n.mantissa ++ exponentText n.exponent

/-- There is a whole part, all digits are digits, and an exponent has a sign and two digits at least. -/
structure IsProper (n : Numeral) : Prop where
  whole_ne_nil : n.whole ≠ []
  whole : AllDigits n.whole
  decimals : AllDigits (n.decimals.getD [])
  exponent : ∀ sign row, n.exponent = some (sign, row) → (sign = '+' ∨ sign = '-') ∧ AllDigits row ∧ 2 ≤ row.length

def readDecimals : List Char → Option (List Char)
  | [] => none
  | _ :: row => some row

def readExponent : List Char → Option (Char × List Char)
  | _ :: sign :: row => some (sign, row)
  | _ => none

/-- Reads a numeral: its exponent starts at an `e`, its decimals at a point. -/
def read (text : List Char) : Numeral :=
  let mantissa := text.takeWhile (· != 'e')
  { whole := mantissa.takeWhile (· != '.')
    decimals := readDecimals (mantissa.dropWhile (· != '.'))
    exponent := readExponent (text.dropWhile (· != 'e')) }

variable {n : Numeral}

theorem IsProper.letter_notMem (proper : n.IsProper) {c : Char} (other : c.isDigit = false) (noPoint : c ≠ '.') :
    c ∉ n.mantissa := by
  intro member
  rcases List.mem_append.mp member with inWhole | inDecimals
  · exact proper.whole.noLetter other inWhole
  · have digits := proper.decimals
    cases decimals : n.decimals with
    | none => simp [decimals, decimalsText] at inDecimals
    | some row =>
      rw [decimals] at inDecimals digits
      rcases List.mem_cons.mp inDecimals with point | behind
      · exact noPoint point
      · exact AllDigits.noLetter digits other behind

theorem exponentText_stops (n : Numeral) : Stops (· != 'e') (exponentText n.exponent) := by
  cases n.exponent with
  | none => exact stops_nil
  | some exponent => exact stops_cons rfl

theorem decimalsText_stops (n : Numeral) : Stops (· != '.') (decimalsText n.decimals) := by
  cases n.decimals with
  | none => exact stops_nil
  | some row => exact stops_cons rfl

/-- The exponent begins at the letter. -/
theorem span_print (proper : n.IsProper) :
    n.print.takeWhile (· != 'e') = n.mantissa ∧ n.print.dropWhile (· != 'e') = exponentText n.exponent := by
  have letterless := bne_of_notMem (proper.letter_notMem (c := 'e') (by decide) (by decide))
  exact ⟨takeWhile_row letterless n.exponentText_stops, dropWhile_row letterless n.exponentText_stops⟩

theorem read_print (proper : n.IsProper) : read n.print = n := by
  obtain ⟨front, back⟩ := span_print proper
  have pointless := bne_of_notMem (proper.whole.noLetter (c := '.') (by decide))
  have whole : n.mantissa.takeWhile (· != '.') = n.whole := takeWhile_row pointless n.decimalsText_stops
  have behind : n.mantissa.dropWhile (· != '.') = decimalsText n.decimals :=
    dropWhile_row pointless n.decimalsText_stops
  have decimals : readDecimals (decimalsText n.decimals) = n.decimals := by cases n.decimals <;> rfl
  have exponent : readExponent (exponentText n.exponent) = n.exponent := by cases n.exponent <;> rfl
  simp only [read, front, back, whole, behind, decimals, exponent]

/-! ## Zeros at the end -/

/-- A row of digits without the zeros at its end. -/
def dropZeros (row : List Char) : List Char :=
  (row.reverse.dropWhile (· == '0')).reverse

theorem dropZeros_append (row : List Char) : ∃ k, row = dropZeros row ++ zeros k := by
  have dropped : row.reverse.takeWhile (· == '0') = zeros (row.reverse.takeWhile (· == '0')).length := by
    apply List.eq_replicate_of_mem
    intro c member
    exact eq_of_beq (List.all_eq_true.mp List.all_takeWhile c member)
  refine ⟨(row.reverse.takeWhile (· == '0')).length, ?_⟩
  have parts := congrArg List.reverse (List.takeWhile_append_dropWhile (p := (· == '0')) (l := row.reverse))
  rw [List.reverse_append, List.reverse_reverse, dropped, zeros, List.reverse_replicate] at parts
  exact parts.symm

theorem getLast?_dropZeros (row : List Char) : (dropZeros row).getLast? ≠ some '0' := by
  intro zero
  rw [dropZeros, List.getLast?_reverse] at zero
  have other := List.head?_dropWhile_not (· == '0') row.reverse
  rw [zero] at other
  cases other

/-- The numeral without the zeros at the end of its decimals, and without its point if they are all zeros. -/
def stripped (n : Numeral) : Numeral :=
  { n with decimals := n.decimals.bind fun row => if dropZeros row = [] then none else some (dropZeros row) }

/-- Without a zero at its end, a mantissa loses nothing but a point at its end. -/
theorem stripMantissa_of_kept {whole kept : List Char} (pointless : '.' ∉ whole) (digits : AllDigits kept)
    (last : kept.getLast? ≠ some '0') :
    Message.stripMantissa (whole ++ '.' :: kept) = if kept = [] then whole else whole ++ '.' :: kept := by
  have point : (whole ++ '.' :: kept).contains '.' = true := by simp
  rw [Message.stripMantissa, if_pos point]
  rcases List.eq_nil_or_concat kept with rfl | ⟨front, c, rfl⟩
  · have ended : whole.reverse.dropWhile (· == '.') = whole.reverse := by
      cases backwards : whole.reverse with
      | nil => rfl
      | cons c rest =>
        have other : c ≠ '.' := by
          rintro rfl
          exact pointless (List.mem_reverse.mp (backwards ▸ List.mem_cons_self))
        simp [other]
    simp [ended]
  · have notZero : c ≠ '0' := by simpa using last
    have notPoint : c ≠ '.' := by
      rintro rfl
      exact AllDigits.noLetter (c := '.') digits (by decide) (by simp)
    simp [notZero, notPoint]

theorem stripMantissa_mantissa (proper : n.IsProper) :
    Message.stripMantissa n.mantissa = n.stripped.mantissa := by
  have pointless : '.' ∉ n.whole := proper.whole.noLetter (by decide)
  have digits := proper.decimals
  cases decimals : n.decimals with
  | none => simp [Message.stripMantissa, mantissa, stripped, decimals, decimalsText, pointless]
  | some row =>
    obtain ⟨k, parts⟩ := dropZeros_append row
    have kept : AllDigits (dropZeros row) := by
      rw [decimals, Option.getD_some, parts] at digits
      exact (allDigits_append.mp digits).1
    have mantissa_eq : n.mantissa = (n.whole ++ '.' :: dropZeros row) ++ zeros k := by
      simp only [mantissa, decimals, decimalsText, List.append_assoc, List.cons_append, ← parts]
    rw [mantissa_eq, Message.stripMantissa_zeros (by simp),
      stripMantissa_of_kept pointless kept (getLast?_dropZeros row)]
    by_cases zero : dropZeros row = []
    · simp [mantissa, stripped, decimals, decimalsText, zero]
    · simp [mantissa, stripped, decimals, decimalsText, zero]

theorem IsProper.stripped (proper : n.IsProper) : n.stripped.IsProper := by
  refine ⟨proper.whole_ne_nil, proper.whole, ?_, proper.exponent⟩
  have digits := proper.decimals
  cases decimals : n.decimals with
  | none => simp [Numeral.stripped, decimals, AllDigits]
  | some row =>
    obtain ⟨k, parts⟩ := dropZeros_append row
    rw [decimals, Option.getD_some, parts] at digits
    have kept := (allDigits_append.mp digits).1
    by_cases zero : dropZeros row = []
    · simp [Numeral.stripped, decimals, zero, AllDigits]
    · simpa [Numeral.stripped, decimals, zero] using kept

/-- Zeros are dropped from the decimals alone: the whole part and the exponent stay. -/
theorem stripZeros_print (proper : n.IsProper) : Message.stripZeros n.print = n.stripped.print := by
  obtain ⟨front, back⟩ := span_print proper
  rw [Message.stripZeros, front, back, stripMantissa_mantissa proper]
  rfl

/-! ## Bodies of floats -/

/-- A row of digits with a point before the last `p` of them. -/
def ofPlaces (p : Nat) (digits : List Char) : Numeral :=
  let row := zeros (p + 1 - digits.length) ++ digits
  { whole := row.take (row.length - p)
    decimals := if p = 0 then none else some (row.drop (row.length - p)) }

/-- A row of significant digits with a power of ten. -/
def ofScientific (s : Decimal.Scientific) : Numeral where
  whole := s.digits.take 1
  decimals := if s.digits.tail = [] then none else some s.digits.tail
  exponent :=
    let digits := decimalText s.exponent.natAbs
    some (if s.exponent < 0 then '-' else '+', zeros (2 - digits.length) ++ digits)

theorem print_ofPlaces (p : Nat) (digits : List Char) : (ofPlaces p digits).print = Decimal.pointed p digits := by
  unfold ofPlaces Decimal.pointed
  by_cases none : p = 0
  · subst none
    simp only [print, mantissa, decimalsText, exponentText, if_true, zeros, Nat.sub_zero, List.take_length,
      List.append_nil]
  · simp [print, mantissa, decimalsText, exponentText, none, zeros]

theorem print_ofScientific (s : Decimal.Scientific) : (ofScientific s).print = Message.exponentBody s := by
  obtain ⟨digits, exponent⟩ := s
  match digits with
  | [] => rfl
  | [first] => rfl
  | first :: second :: others => rfl

theorem ofPlaces_isProper (p : Nat) {digits : List Char} (row : AllDigits digits) : (ofPlaces p digits).IsProper := by
  have whole : AllDigits (zeros (p + 1 - digits.length) ++ digits) :=
    allDigits_append.mpr ⟨allDigits_zeros _, row⟩
  have size : p + 1 ≤ (zeros (p + 1 - digits.length) ++ digits).length := by
    rw [List.length_append, length_zeros]
    omega
  unfold ofPlaces
  generalize zeros (p + 1 - digits.length) ++ digits = row at whole size
  refine ⟨?_, ?_, ?_, ?_⟩
  · intro none
    have length := congrArg List.length none
    simp only [List.length_take, List.length_nil] at length
    omega
  · exact fun c member => whole c (List.mem_of_mem_take member)
  · by_cases none : p = 0
    · simp [none, AllDigits]
    · simp only [none, if_false, Option.getD_some]
      exact fun c member => whole c (List.mem_of_mem_drop member)
  · intro sign row exponent
    cases exponent

theorem ofScientific_isProper {s : Decimal.Scientific} (present : s.digits ≠ []) (row : AllDigits s.digits) :
    (ofScientific s).IsProper := by
  obtain ⟨digits, exponent⟩ := s
  obtain ⟨first, others, rfl⟩ := List.exists_cons_of_ne_nil present
  refine ⟨by simp [ofScientific], ?_, ?_, ?_⟩
  · exact fun c member => row c (List.mem_of_mem_take member)
  · have behind : AllDigits others := fun c member => row c (List.mem_cons_of_mem _ member)
    by_cases none : others = []
    · simp [ofScientific, none, AllDigits]
    · simpa [ofScientific, none] using behind
  · intro sign row written
    simp only [ofScientific, Option.some.injEq, Prod.mk.injEq] at written
    obtain ⟨rfl, rfl⟩ := written
    refine ⟨?_, allDigits_append.mpr ⟨allDigits_zeros _, allDigits_decimalText _⟩, ?_⟩
    · by_cases negative : exponent < 0
      · exact .inr (if_pos negative)
      · exact .inl (if_neg negative)
    · rw [List.length_append, length_zeros]
      omega

end Numeral

end MockQueue.Number

namespace MockQueue.Message

open Number

/-- The number in general notation, the zeros at its end included. -/
def generalNumeral (d : Decimal) (digits : Nat) : Numeral :=
  let rounded := d.scientific (digits - 1)
  if isPlain digits rounded then .ofPlaces (plainPlaces digits rounded) (d.digitsAt (plainPlaces digits rounded))
  else .ofScientific rounded

theorem ofScientific_scientific_isProper (d : Decimal) (p : Nat) :
    (Numeral.ofScientific (d.scientific p)).IsProper := by
  have present : (d.scientific p).digits ≠ [] := by
    intro none
    have length := d.length_digits_scientific p
    rw [none] at length
    cases length
  exact Numeral.ofScientific_isProper present (d.allDigits_scientific p)

theorem generalNumeral_isProper (d : Decimal) (digits : Nat) : (generalNumeral d digits).IsProper := by
  unfold generalNumeral
  simp only
  split
  · exact Numeral.ofPlaces_isProper _ (d.allDigits_digitsAt _)
  · exact ofScientific_scientific_isProper d _

theorem print_generalNumeral (d : Decimal) (digits : Nat) : (generalNumeral d digits).print = generalBody d digits := by
  unfold generalNumeral generalBody
  simp only
  split
  · exact Numeral.print_ofPlaces _ _
  · exact Numeral.print_ofScientific _

theorem floatBody_general (alternate : Bool) (precision : Option Nat) (d : Decimal) :
    floatBody .general alternate precision d =
      (if alternate then generalNumeral d (digitsOf precision)
        else (generalNumeral d (digitsOf precision)).stripped).print := by
  cases alternate with
  | true => exact (print_generalNumeral _ _).symm
  | false =>
    simp only [floatBody, Bool.false_eq_true, if_false, ← print_generalNumeral]
    exact Numeral.stripZeros_print (generalNumeral_isProper _ _)

/-- The body of a float is the text of a proper numeral. -/
theorem floatBody_eq_print (style : FloatStyle) (alternate : Bool) (precision : Option Nat) (d : Decimal) :
    ∃ n : Numeral, n.IsProper ∧ floatBody style alternate precision d = n.print := by
  cases style with
  | fixed =>
    have proper (p : Nat) := Numeral.ofPlaces_isProper p (d.allDigits_digitsAt p)
    by_cases pointed : alternate = true ∧ placesOf precision = 0
    · -- The point of the alternate form has no decimals behind it.
      obtain ⟨present, whole, -, -⟩ := proper 0
      refine ⟨{ Numeral.ofPlaces 0 (d.digitsAt 0) with decimals := some [] }, ⟨present, whole, ?_, ?_⟩, ?_⟩
      · intro c member
        cases member
      · intro sign row written
        cases written
      · have text := Numeral.print_ofPlaces 0 (d.digitsAt 0)
        simp only [floatBody, pointed, and_self, if_true, Decimal.fixedText, ← text]
        simp [Numeral.print, Numeral.mantissa, Numeral.ofPlaces, Numeral.decimalsText, Numeral.exponentText]
    · refine ⟨_, proper (placesOf precision), ?_⟩
      simp only [floatBody, pointed, if_false, Numeral.print_ofPlaces, Decimal.fixedText]
  | exponent =>
    exact ⟨_, ofScientific_scientific_isProper d (placesOf precision), (Numeral.print_ofScientific _).symm⟩
  | general =>
    refine ⟨_, ?_, floatBody_general alternate precision d⟩
    cases alternate with
    | true => exact generalNumeral_isProper _ _
    | false => exact (generalNumeral_isProper _ _).stripped

end MockQueue.Message

import MockQueue.Message.Template
import MockQueue.Proofs.Numerals

/-!
# Fields in their width

A field is brought to its width by blanks or by zeros, of which the zeros go between its lead and its body
(`Field.spread`). The lead can be told from the text alone, a sign or the mark of a radix in front
(`splitLead_bare`), and whether zeros apply from the conversion, the precision and the argument
(`zeroable_field`). So what a conversion writes in a width is what it writes without one, and padding
(`width_law`).
-/

namespace MockQueue.Number

/-- Whether the double is a number. -/
def Binary64.isFinite : Binary64 → Bool
  | finite .. => true
  | _ => false

theorem Numeral.IsProper.symbols {n : Numeral} (proper : n.IsProper) :
    ∀ c ∈ n.print, c.isDigit = true ∨ c ∈ ['.', 'e', '+', '-'] := by
  obtain ⟨whole, decimals, exponent⟩ := n
  obtain ⟨-, digits, behind, written⟩ := proper
  intro c member
  simp only [print, mantissa, List.mem_append] at member
  rcases member with (before | after) | last
  · exact .inl (digits c before)
  · cases decimals with
    | none => cases after
    | some row =>
      rcases List.mem_cons.mp after with rfl | within
      · simp
      · exact .inl (behind c within)
  · cases exponent with
    | none => cases last
    | some parts =>
      obtain ⟨sign, row⟩ := parts
      obtain ⟨signed, rowDigits, -⟩ := written sign row rfl
      simp only [exponentText, List.mem_cons] at last
      rcases last with rfl | rfl | within
      · simp
      · rcases signed with rfl | rfl <;> simp
      · exact .inl (rowDigits c within)

theorem Numeral.IsProper.head? {n : Numeral} (proper : n.IsProper) :
    ∃ c rest, n.print = c :: rest ∧ c.isDigit = true := by
  obtain ⟨c, rest, whole⟩ := List.exists_cons_of_ne_nil proper.whole_ne_nil
  refine ⟨c, rest ++ (decimalsText n.decimals ++ exponentText n.exponent), ?_, ?_⟩
  · simp [print, mantissa, whole]
  · exact proper.whole c (whole ▸ List.mem_cons_self)

end MockQueue.Number

namespace MockQueue.Message

open Number

namespace Field

/-- The field with `missing` characters of padding. -/
def spread (f : Field) (flags : Flags) (missing : Nat) : List Char :=
  if flags.left then f.bare ++ List.replicate missing ' '
  else if flags.zero && f.zeroable then f.lead ++ (zeros missing ++ f.body)
  else List.replicate missing ' ' ++ f.bare

theorem symbolsOf_pieces (f : Field) (layout : Layout) :
    symbolsOf (f.pieces layout) = f.spread layout.flags (layout.width - f.bare.length) := by
  unfold pieces spread
  simp only [bare, List.length_append]
  split
  · simp [symbolsOf, Piece.symbols]
  · split <;> simp [symbolsOf, Piece.symbols, zeros]

@[simp] theorem spread_zero (f : Field) (flags : Flags) : f.spread flags 0 = f.bare := by
  simp [spread, bare, zeros]

@[simp] theorem length_spread (f : Field) (flags : Flags) (missing : Nat) :
    (f.spread flags missing).length = missing + f.bare.length := by
  unfold spread
  split
  · simp [Nat.add_comm]
  · split <;> simp [bare, Nat.add_left_comm]

end Field

/-- A field knows nothing of its width. -/
theorem field_width (conversion : Conversion) (layout : Layout) (arg : Argument) (width : Nat) :
    conversion.field { layout with width } arg = conversion.field layout arg := by
  cases conversion <;> cases arg <;> rfl

theorem refusal?_width (conversion : Conversion) (layout : Layout) (arg : Argument) (width : Nat) :
    conversion.refusal? { layout with width } arg = conversion.refusal? layout arg := by
  cases conversion <;> cases arg <;> rfl

/-- What a conversion writes for a reader without a bound, or its refusal. -/
def Conversion.write (conversion : Conversion) (layout : Layout) (arg : Argument) :
    Except PlacesRefused (List Char) :=
  match conversion.refusal? layout arg with
  | some refusal => .error refusal
  | none => .ok (symbolsOf ((conversion.field layout arg).pieces layout))

theorem write_eq (conversion : Conversion) (layout : Layout) (arg : Argument) :
    conversion.write layout arg =
      match conversion.refusal? layout arg with
      | some refusal => .error refusal
      | none =>
        let field := conversion.field layout arg
        .ok (field.spread layout.flags (layout.width - field.bare.length)) := by
  unfold Conversion.write
  cases conversion.refusal? layout arg with
  | none => exact congrArg Except.ok (Field.symbolsOf_pieces _ _)
  | some refusal => rfl

/-- A template that is one directive renders what its conversion writes. -/
theorem render_directive {template : List Char} {d : DirectiveText} (read : segments template = [.directive d])
    {conversion : Conversion} (asked : d.conversion? = some conversion) (limit : Nat) (arg : Argument)
    (others : List Argument) :
    match conversion.write (d.layout.clamp limit) arg with
    | .ok text =>
      (render limit template (arg :: others)).text = text ∧
        (render limit template (arg :: others)).refused = none
    | .error refusal =>
      (render limit template (arg :: others)).text = [] ∧
        (render limit template (arg :: others)).refused = some refusal := by
  have unescaped : d.conversion ≠ some '%' := by
    intro escaped
    rw [DirectiveText.conversion?, escaped] at asked
    cases asked
  rw [render, read, Conversion.write]
  unfold renderSegments
  simp only [unescaped, if_false, asked]
  cases conversion.refusal? (d.layout.clamp limit) arg with
  | none => simp [renderSegments, Rendering.after, Rendering.text]
  | some refusal => exact ⟨rfl, rfl⟩

/-! ## Leads -/

/-- What stands in front of the digits of a number, a sign or the mark of a radix, and the rest. -/
def splitLead : List Char → List Char × List Char
  | '0' :: 'x' :: rest => (['0', 'x'], rest)
  | '0' :: 'X' :: rest => (['0', 'X'], rest)
  | '-' :: rest => (['-'], rest)
  | '+' :: rest => (['+'], rest)
  | ' ' :: rest => ([' '], rest)
  | text => ([], text)

/-- A text that starts with no sign and has no mark in it has no lead. -/
theorem splitLead_of_plain {text : List Char} (unsigned : ∀ c ∈ text.head?, c ∉ ['-', '+', ' '])
    (unmarked : 'x' ∉ text ∧ 'X' ∉ text) : splitLead text = ([], text) := by
  unfold splitLead
  split
  · simp at unmarked
  · simp at unmarked
  · simp at unsigned
  · simp at unsigned
  · simp at unsigned
  · rfl

/-- The leads that fields have. -/
def leads : List (List Char) :=
  [[], ['-'], ['+'], [' '], ['0', 'x'], ['0', 'X']]

/-- The lead of a field is a sign or a mark, and without one its body does not look as if there was one. -/
structure Field.IsNumber (f : Field) : Prop where
  lead : f.lead ∈ leads
  unsigned : ∀ c ∈ f.body.head?, c ∉ ['-', '+', ' ']
  unmarked : 'x' ∉ f.body ∧ 'X' ∉ f.body

/-- The lead of a number is seen in its text. -/
theorem Field.IsNumber.splitLead_bare {f : Field} (number : f.IsNumber) : splitLead f.bare = (f.lead, f.body) := by
  obtain ⟨lead, body, zeroable⟩ := f
  obtain ⟨known, unsigned, unmarked⟩ := number
  simp only [leads, List.mem_cons, List.not_mem_nil, or_false] at known
  rcases known with rfl | rfl | rfl | rfl | rfl | rfl
  · exact splitLead_of_plain unsigned unmarked
  all_goals rfl

theorem signText_mem_leads (negative : Bool) (flags : Flags) : signText negative flags ∈ leads := by
  unfold signText
  split
  · simp [leads]
  · split
    · simp [leads]
    · split <;> simp [leads]

theorem radixMark_mem_leads (radix : Radix) (flags : Flags) (value : Nat) :
    radixMark radix flags value ∈ leads := by
  cases radix with
  | decimal | octal => exact List.mem_cons_self
  | hex upper =>
    simp only [radixMark]
    split
    · cases upper <;> simp [leads]
    · exact List.mem_cons_self

/-- No digit of a radix is a sign or the letter of a mark. -/
theorem alphabet_plain (radix : Radix) : ∀ c ∈ radix.alphabet, c ∉ ['-', '+', ' ', 'x', 'X'] := by
  cases radix with
  | decimal | octal => simp [Radix.alphabet]
  | hex upper => cases upper <;> simp [Radix.alphabet]

theorem mem_alphabet_integerDigits (radix : Radix) (value : Nat) (precision : Option Nat) :
    ∀ c ∈ integerDigits radix value precision, c ∈ radix.alphabet := by
  intro c member
  unfold integerDigits at member
  split at member
  · cases member
  · rcases List.mem_append.mp member with zero | digit
    · exact List.eq_of_mem_replicate zero ▸ radix.zero_mem_alphabet
    · exact radix.mem_alphabet digit

theorem mem_alphabet_octalMark {radix : Radix} (flags : Flags) {digits : List Char}
    (row : ∀ c ∈ digits, c ∈ radix.alphabet) : ∀ c ∈ octalMark radix flags digits, c ∈ radix.alphabet := by
  unfold octalMark
  split
  · exact List.forall_mem_cons.mpr ⟨radix.zero_mem_alphabet, row⟩
  · exact row

/-- A row of digits behind a lead is a number. -/
theorem isNumber_of_digits {f : Field} (known : f.lead ∈ leads) {radix : Radix}
    (row : ∀ c ∈ f.body, c ∈ radix.alphabet) : f.IsNumber := by
  have plain : ∀ c ∈ f.body, c ∉ ['-', '+', ' ', 'x', 'X'] := fun c member => alphabet_plain radix c (row c member)
  refine ⟨known, ?_, ?_, ?_⟩
  · intro c first sign
    exact plain c (List.mem_of_head? first) (List.mem_append_left ['x', 'X'] sign)
  · intro marked
    exact plain 'x' marked (by decide)
  · intro marked
    exact plain 'X' marked (by decide)

theorem signedField_isNumber (layout : Layout) (value : Int) : (signedField layout value).IsNumber :=
  isNumber_of_digits (signText_mem_leads _ _) (mem_alphabet_integerDigits .decimal _ _)

theorem unsignedField_isNumber (layout : Layout) (radix : Radix) (value : Nat) :
    (unsignedField layout radix value).IsNumber :=
  isNumber_of_digits (radixMark_mem_leads _ _ _) (mem_alphabet_octalMark _ (mem_alphabet_integerDigits radix _ _))

/-- A digit has no upper case. -/
theorem toUpper_digit {c : Char} (digit : c.isDigit = true) : c.toUpper = c := by
  simp only [Char.isDigit, ge_iff_le, Bool.and_eq_true, decide_eq_true_eq, UInt32.le_iff_toNat_le] at digit
  have nine : '9'.val.toNat < 'a'.val.toNat := by decide
  have small : ¬ ('a'.val ≤ c.val ∧ c.val ≤ 'z'.val) := by
    simp only [UInt32.le_iff_toNat_le]
    omega
  exact dif_neg small

theorem symbols_inCase {text : List Char} (symbols : ∀ c ∈ text, c.isDigit = true ∨ c ∈ ['.', 'e', '+', '-'])
    (upper : Bool) : ∀ c ∈ inCase upper text, c.isDigit = true ∨ c ∈ ['E', '.', 'e', '+', '-'] := by
  intro c member
  cases upper with
  | false =>
    rcases symbols c member with digit | other
    · exact .inl digit
    · exact .inr (List.mem_cons_of_mem _ other)
  | true =>
    obtain ⟨d, within, rfl⟩ := List.mem_map.mp member
    rcases symbols d within with digit | other
    · exact .inl ((toUpper_digit digit).symm ▸ digit)
    · right
      simp only [List.mem_cons, List.not_mem_nil, or_false] at other
      rcases other with rfl | rfl | rfl | rfl <;> decide

theorem floatField_isNumber (layout : Layout) (style : FloatStyle) (upper negative : Bool) (m : Nat) (e : Int) :
    (floatField layout style upper (.finite negative m e)).IsNumber := by
  obtain ⟨n, proper, text⟩ := floatBody_eq_print style layout.flags.alternate layout.precision (.ofBinary m e)
  have symbols := symbols_inCase proper.symbols upper
  obtain ⟨first, rest, print, digit⟩ := proper.head?
  refine ⟨signText_mem_leads _ _, ?_, ?_, ?_⟩
  · intro c starts
    have here : c = first := by
      cases upper <;> simpa [floatField, text, print, inCase, toUpper_digit digit, eq_comm] using starts
    intro sign
    have none : ∀ c ∈ ['-', '+', ' '], c.isDigit = false := by simp
    rw [here] at sign
    rw [none first sign] at digit
    cases digit
  · intro marked
    simpa using symbols 'x' (text ▸ marked)
  · intro marked
    simpa using symbols 'X' (text ▸ marked)

/-! ## Zeros -/

/-- Whether zeros can fill the width: in front of the digits of an integer whose precision does not say how
many there are, and of a float that is a number. -/
def Conversion.fillsZeros (conversion : Conversion) (precision : Option Nat) (arg : Argument) : Bool :=
  match conversion, arg with
  | .char, _ => false
  | .text, _ => false
  | .float _ _, _ => arg.toFloat.isFinite
  | _, .text _ => false
  | .address, .address _ => false
  | _, _ => precision.isNone

theorem zeroable_floatField (layout : Layout) (style : FloatStyle) (upper : Bool) (value : Binary64) :
    (floatField layout style upper value).zeroable = value.isFinite := by
  cases value <;> rfl

theorem zeroable_field (conversion : Conversion) (layout : Layout) (arg : Argument) :
    (conversion.field layout arg).zeroable = conversion.fillsZeros layout.precision arg := by
  cases conversion with
  | signed => cases arg <;> rfl
  | unsigned radix => cases arg <;> rfl
  | char => rfl
  | text =>
    simp only [Conversion.field]
    split <;> rfl
  | float style upper => exact zeroable_floatField layout style upper arg.toFloat
  | address =>
    cases arg with
    | address a =>
      simp only [Conversion.field]
      split <;> rfl
    | _ => rfl

/-- A field that zeros can pad is a number. -/
theorem field_isNumber {conversion : Conversion} {layout : Layout} {arg : Argument}
    (zeroable : (conversion.field layout arg).zeroable = true) : (conversion.field layout arg).IsNumber := by
  rw [zeroable_field] at zeroable
  cases conversion with
  | signed =>
    cases arg with
    | text s => cases zeroable
    | _ => exact signedField_isNumber layout _
  | unsigned radix =>
    cases arg with
    | text s => cases zeroable
    | _ => exact unsignedField_isNumber layout radix _
  | char => cases zeroable
  | text => cases zeroable
  | float style upper =>
    unfold Conversion.field
    cases value : arg.toFloat with
    | finite negative m e => exact floatField_isNumber layout style upper negative m e
    | _ => simp [Conversion.fillsZeros, value, Binary64.isFinite] at zeroable
  | address =>
    cases arg with
    | text s => cases zeroable
    | address a => cases zeroable
    | _ => exact unsignedField_isNumber layout (.hex false) _

theorem of_refusal?_eq_some {conversion : Conversion} {layout : Layout} {arg : Argument} {refusal : PlacesRefused}
    (refused : conversion.refusal? layout arg = some refusal) :
    refusal.asked = conversion.places layout arg ∧ maxPlaces < refusal.asked := by
  simp only [Conversion.refusal?] at refused
  split at refused
  · cases refused
  · rename_i beyond
    cases refused
    exact ⟨rfl, Nat.lt_of_not_le beyond⟩

/-- Padding goes by the text of the field alone. -/
theorem spread_eq (conversion : Conversion) (layout : Layout) (arg : Argument) (missing : Nat) :
    let bare := (conversion.field layout arg).bare
    (conversion.field layout arg).spread layout.flags missing =
      if layout.flags.left then bare ++ List.replicate missing ' '
      else if layout.flags.zero && conversion.fillsZeros layout.precision arg then
        (splitLead bare).1 ++ zeros missing ++ (splitLead bare).2
      else List.replicate missing ' ' ++ bare := by
  rw [← zeroable_field, Field.spread]
  by_cases zeroable : (conversion.field layout arg).zeroable = true
  · simp only [(field_isNumber zeroable).splitLead_bare, List.append_assoc]
  · simp [zeroable]

theorem refusal?_text (layout : Layout) (arg : Argument) : Conversion.text.refusal? layout arg = none := by
  simp [Conversion.refusal?, Conversion.places]

theorem bare_text (layout : Layout) (arg : Argument) :
    (Conversion.text.field layout arg).bare =
      arg.toText.take (min (layout.precision.getD arg.toText.length) arg.toText.length) := by
  cases precision : layout.precision with
  | none => simp [Conversion.field, Field.bare, precision]
  | some limit =>
    rw [Option.getD_some, ← List.take_eq_take_min]
    simp [Conversion.field, Field.bare, precision]

/-- In a width, a conversion writes what it writes without one, and padding: blanks behind it under the left
flag, else zeros behind its lead if the zero flag is set and they can fill the width, else blanks before it.
It is refused in a width if it is refused without one. A text conversion cuts between characters, and an
address conversion takes all but addresses as hexadecimal integers. -/
theorem width_law (conversion : Conversion) (layout : Layout) (arg : Argument) :
    (match conversion.write { layout with width := 0 } arg with
      | .error refusal =>
        conversion.write layout arg = .error refusal ∧
          refusal.asked = conversion.places layout arg ∧ maxPlaces < refusal.asked
      | .ok bare =>
        let missing := layout.width - bare.length
        ∃ text, conversion.write layout arg = .ok text ∧
          text.length = max layout.width bare.length ∧
          text =
            (if layout.flags.left then bare ++ List.replicate missing ' '
              else if layout.flags.zero && conversion.fillsZeros layout.precision arg then
                (splitLead bare).1 ++ zeros missing ++ (splitLead bare).2
              else List.replicate missing ' ' ++ bare)) ∧
    Conversion.text.write { layout with width := 0 } arg =
      .ok (arg.toText.take (min (layout.precision.getD arg.toText.length) arg.toText.length)) ∧
    ((∀ a, arg ≠ .address a) →
      Conversion.address.write layout arg = (Conversion.unsigned (.hex false)).write layout arg) := by
  refine ⟨?_, ?_, ?_⟩
  · rw [write_eq, write_eq, refusal?_width, field_width]
    cases refused : conversion.refusal? layout arg with
    | some refusal => exact ⟨rfl, of_refusal?_eq_some refused⟩
    | none =>
      simp only [Nat.zero_sub, Field.spread_zero]
      refine ⟨_, rfl, ?_, ?_⟩
      · rw [Field.length_spread]
        omega
      · exact spread_eq conversion layout arg _
  · rw [write_eq, refusal?_width, field_width, refusal?_text]
    simp only [Nat.zero_sub, Field.spread_zero, bare_text]
  · intro other
    cases arg with
    | address a => exact absurd rfl (other a)
    | _ => rfl

/-- A number under an address conversion, with zeros behind its mark. -/
theorem width_law_zeros_behind_mark :
    let layout : Layout := { flags := { zero := true, alternate := true }, width := 8 }
    let arg : Argument := .int 255
    (∀ a, arg ≠ .address a) ∧
      Conversion.address.write { layout with width := 0 } arg = .ok "0xff".toList ∧
      Conversion.address.write layout arg = .ok "0x0000ff".toList ∧
      (Conversion.unsigned (.hex false)).write layout arg = .ok "0x0000ff".toList := by
  intro layout arg
  have number : ∀ a, arg ≠ .address a := by simp [arg]
  have bare : Conversion.address.write { layout with width := 0 } arg = .ok "0xff".toList := rfl
  obtain ⟨padded, -, hexadecimal⟩ := width_law .address layout arg
  rw [bare] at padded
  obtain ⟨text, written, -, rfl⟩ := padded
  exact ⟨number, bare, written, hexadecimal number ▸ written⟩

end MockQueue.Message

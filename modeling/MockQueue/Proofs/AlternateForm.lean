import MockQueue.Proofs.Padding
import MockQueue.Proofs.Truncation

/-!
# The alternate form of floats

Under the alternate form fixed notation has a point even if no decimals follow it, and nothing else about it
changes. The other two notations write their point only in front of decimals (`point_mem_alternate_iff`), so where
there are none the alternate form goes unseen (`alternate_form_exact`): exponent notation without places, and
general notation whose digits end with the whole part (`point_lost`).
-/

namespace MockQueue.Number.Numeral

theorem point_notMem_exponentText {n : Numeral} (proper : n.IsProper) : '.' ∉ exponentText n.exponent := by
  cases written : n.exponent with
  | none => simp [exponentText]
  | some parts =>
    obtain ⟨sign, row⟩ := parts
    obtain ⟨signed, digits, -⟩ := proper.exponent sign row written
    have inRow : '.' ∉ row := digits.noLetter (by decide)
    rcases signed with rfl | rfl <;> simp [exponentText, inRow]

/-- A numeral has a point just if it has decimals, be it none of them. -/
theorem point_mem_print_iff {n : Numeral} (proper : n.IsProper) : '.' ∈ n.print ↔ n.decimals ≠ none := by
  have before : '.' ∉ n.whole := proper.whole.noLetter (by decide)
  have after := point_notMem_exponentText proper
  cases decimals : n.decimals with
  | none => simp [print, mantissa, decimals, decimalsText, before, after]
  | some row => simp [print, mantissa, decimals, decimalsText]

theorem decimals_ofPlaces_ne_none_iff (p : Nat) (digits : List Char) : (ofPlaces p digits).decimals ≠ none ↔ p ≠ 0 := by
  simp [ofPlaces]

theorem decimals_ofScientific_ne_none_iff {s : Decimal.Scientific} {p : Nat} (size : s.digits.length = p + 1) :
    (ofScientific s).decimals ≠ none ↔ p ≠ 0 := by
  have behind : s.digits.tail = [] ↔ p = 0 := by
    rw [← List.length_eq_zero_iff, List.length_tail, size, Nat.add_sub_cancel]
  simp [ofScientific, behind]

end MockQueue.Number.Numeral

namespace MockQueue.Message

open Number

/-! ## The point of a body -/

/-- How many decimals the body of a float has, the zeros at its end included. -/
def decimalsOf (style : FloatStyle) (precision : Option Nat) (d : Decimal) : Nat :=
  match style with
  | .fixed => placesOf precision
  | .exponent => placesOf precision
  | .general =>
    let rounded := d.scientific (digitsOf precision - 1)
    if isPlain (digitsOf precision) rounded then plainPlaces (digitsOf precision) rounded else digitsOf precision - 1

theorem point_mem_fixedText_iff (d : Decimal) (p : Nat) : '.' ∈ d.fixedText p ↔ p ≠ 0 := by
  rw [Decimal.fixedText, ← Numeral.print_ofPlaces,
    Numeral.point_mem_print_iff (Numeral.ofPlaces_isProper p (d.allDigits_digitsAt p)),
    Numeral.decimals_ofPlaces_ne_none_iff]

theorem point_mem_exponentBody_iff (d : Decimal) (p : Nat) : '.' ∈ exponentBody (d.scientific p) ↔ p ≠ 0 := by
  rw [← Numeral.print_ofScientific, Numeral.point_mem_print_iff (ofScientific_scientific_isProper d p),
    Numeral.decimals_ofScientific_ne_none_iff (d.length_digits_scientific p)]

/-- Under the alternate form a body has a point if decimals follow it, and in fixed notation at any rate. -/
theorem point_mem_alternate_iff (style : FloatStyle) (precision : Option Nat) (d : Decimal) :
    '.' ∈ floatBody style true precision d ↔ style = .fixed ∨ decimalsOf style precision d ≠ 0 := by
  cases style with
  | fixed =>
    by_cases none : placesOf precision = 0
    · simp [floatBody, none]
    · simp [floatBody, none, point_mem_fixedText_iff]
  | exponent => simp [floatBody, decimalsOf, point_mem_exponentBody_iff]
  | general =>
    by_cases plain : isPlain (digitsOf precision) (d.scientific (digitsOf precision - 1))
    · simp [floatBody, generalBody, decimalsOf, plain, point_mem_fixedText_iff]
    · simp [floatBody, generalBody, decimalsOf, plain, point_mem_exponentBody_iff]

/-- Without general notation all that the alternate form adds is the point of fixed notation without places. -/
theorem floatBody_alternate {style : FloatStyle} (other : style ≠ .general) (precision : Option Nat) (d : Decimal) :
    floatBody style true precision d =
      if style = .fixed ∧ placesOf precision = 0 then floatBody style false precision d ++ ['.']
      else floatBody style false precision d := by
  cases style with
  | fixed => simp [floatBody]
  | exponent => simp [floatBody]
  | general => exact absurd rfl other

theorem point_mem_usual_iff {style : FloatStyle} (other : style ≠ .general) (precision : Option Nat) (d : Decimal) :
    '.' ∈ floatBody style false precision d ↔ placesOf precision ≠ 0 := by
  cases style with
  | fixed => simp [floatBody, point_mem_fixedText_iff]
  | exponent => simp [floatBody, point_mem_exponentBody_iff]
  | general => exact absurd rfl other

/-! ## The point of a field -/

theorem toUpper_eq_point_iff {c : Char} (symbol : c.isDigit = true ∨ c ∈ ['.', 'e', '+', '-']) :
    c.toUpper = '.' ↔ c = '.' := by
  rcases symbol with digit | other
  · rw [toUpper_digit digit]
  · simp only [List.mem_cons, List.not_mem_nil, or_false] at other
    rcases other with rfl | rfl | rfl | rfl <;> decide

theorem point_mem_inCase_iff (upper : Bool) (style : FloatStyle) (alternate : Bool) (precision : Option Nat)
    (d : Decimal) :
    '.' ∈ inCase upper (floatBody style alternate precision d) ↔ '.' ∈ floatBody style alternate precision d := by
  obtain ⟨n, proper, text⟩ := floatBody_eq_print style alternate precision d
  cases upper with
  | false => rfl
  | true =>
    have only : ∀ c ∈ floatBody style alternate precision d, c.toUpper = '.' ↔ c = '.' :=
      fun c member => toUpper_eq_point_iff (proper.symbols c (text ▸ member))
    simp only [inCase, if_true, List.mem_map]
    constructor
    · rintro ⟨c, member, raised⟩
      exact (only c member).mp raised ▸ member
    · intro member
      exact ⟨'.', member, rfl⟩

theorem inCase_append_point (upper : Bool) (body : List Char) : inCase upper (body ++ ['.']) = inCase upper body ++ ['.'] := by
  cases upper with
  | false => rfl
  | true => exact List.map_append

theorem point_notMem_signText (negative : Bool) (flags : Flags) : '.' ∉ signText negative flags := by
  unfold signText
  split
  · decide
  · split
    · decide
    · split <;> decide

/-- Padding has no points. -/
theorem Field.point_mem_spread_iff (f : Field) (flags : Flags) (missing : Nat) :
    '.' ∈ f.spread flags missing ↔ '.' ∈ f.bare := by
  unfold Field.spread
  split
  · simp [List.mem_replicate]
  · split
    · simp [zeros, List.mem_replicate, Field.bare]
    · simp [List.mem_replicate]

/-- The layout with the alternate form or without it. -/
def Layout.inForm (layout : Layout) (alternate : Bool) : Layout :=
  { layout with flags := { layout.flags with alternate } }

section

variable {arg : Argument} {negative : Bool} {m : Nat} {e : Int}

theorem field_float (number : arg.toFloat = .finite negative m e) (style : FloatStyle) (upper : Bool) (layout : Layout) :
    ((Conversion.float style upper).field layout arg).bare =
      signText negative layout.flags ++
        inCase upper (floatBody style layout.flags.alternate layout.precision (.ofBinary m e)) := by
  simp only [Conversion.field, number, floatField, Field.bare, Binary64.isNegative]

/-- A float is refused just if it has more places than can be written. -/
theorem write_float (number : arg.toFloat = .finite negative m e) (style : FloatStyle) (upper : Bool) (layout : Layout) :
    (Conversion.float style upper).write layout arg =
      if maxPlaces < placesAsked style layout.precision (.ofBinary m e) then
        .error ⟨placesAsked style layout.precision (.ofBinary m e)⟩
      else
        let field := (Conversion.float style upper).field layout arg
        .ok (field.spread layout.flags (layout.width - field.bare.length)) := by
  have places : (Conversion.float style upper).places layout arg =
      placesAsked style layout.precision (.ofBinary m e) := by
    simp only [Conversion.places, number]
  rw [write_eq, Conversion.refusal?, places]
  by_cases many : maxPlaces < placesAsked style layout.precision (.ofBinary m e)
  · simp [many, Nat.not_le_of_lt many]
  · simp [many, Nat.le_of_not_lt many]

/-- The alternate form of a float, of any kind and with any other flags. Whether there is a field at all does not
depend on it, nor on the width. In any width the field has a point just if the notation is fixed or decimals follow
the point. Without a width the alternate form adds the point to fixed notation without places, and apart from that
changes nothing in fixed and exponent notation, which otherwise have a point just if they have places. -/
theorem alternate_form_exact (number : arg.toFloat = .finite negative m e) (style : FloatStyle) (upper : Bool)
    (layout : Layout) :
    let d := Decimal.ofBinary m e
    let write (alternate : Bool) (width : Nat) :=
      (Conversion.float style upper).write { layout.inForm alternate with width } arg
    if maxPlaces < placesAsked style layout.precision d then
      ∀ alternate width, write alternate width = .error ⟨placesAsked style layout.precision d⟩
    else
      (∀ width, ∃ text, write true width = .ok text ∧
        ('.' ∈ text ↔ style = .fixed ∨ decimalsOf style layout.precision d ≠ 0)) ∧
      (style ≠ .general → ∃ bare, write false 0 = .ok bare ∧ ('.' ∈ bare ↔ placesOf layout.precision ≠ 0) ∧
        write true 0 = .ok (if style = .fixed ∧ placesOf layout.precision = 0 then bare ++ ['.'] else bare)) := by
  intro d write
  have written (alternate : Bool) (width : Nat) := write_float number style upper { layout.inForm alternate with width }
  split
  · rename_i many
    intro alternate width
    exact (written alternate width).trans (if_pos many)
  · rename_i few
    have served (alternate : Bool) (width : Nat) := (written alternate width).trans (if_neg few)
    refine ⟨fun width => ⟨_, served true width, ?_⟩, fun other => ?_⟩
    · rw [Field.point_mem_spread_iff, field_float number, List.mem_append, point_mem_inCase_iff,
        ← point_mem_alternate_iff]
      exact or_iff_right (point_notMem_signText _ _)
    · have bare (alternate : Bool) : write alternate 0 =
          .ok (signText negative layout.flags ++ inCase upper (floatBody style alternate layout.precision d)) := by
        refine (served alternate 0).trans ?_
        simp only [Nat.zero_sub, Field.spread_zero, field_float number]
        rfl
      refine ⟨_, bare false, ?_, ?_⟩
      · rw [List.mem_append, point_mem_inCase_iff, point_mem_usual_iff other]
        exact or_iff_right (point_notMem_signText _ _)
      · rw [bare true, floatBody_alternate other]
        split
        · rw [inCase_append_point, List.append_assoc]
        · rfl

end

/-- A half without places: rounded to the even zero, it has a point under the alternate form alone, which also
stands behind zeros that fill a width. -/
theorem alternate_form_exact_half :
    let layout : Layout := { flags := { zero := true }, precision := some 0 }
    let arg : Argument := .float (.ofBits 0x3fe0000000000000)
    let write (alternate : Bool) (width : Nat) :=
      (Conversion.float .fixed true).write { layout.inForm alternate with width } arg
    arg.toFloat = .finite false (2 ^ 52) (-53) ∧ FloatStyle.fixed ≠ .general ∧
      write false 0 = .ok ['0'] ∧ write true 0 = .ok ['0', '.'] ∧
      ∃ text, write true 4 = .ok text ∧ '.' ∈ text := by
  intro layout arg write
  have number : arg.toFloat = .finite false (2 ^ 52) (-53) := by decide +kernel
  have few : ¬ maxPlaces < placesAsked .fixed layout.precision (.ofBinary (2 ^ 52) (-53)) := by decide
  obtain ⟨pointed, added⟩ := if_neg few ▸ alternate_form_exact number .fixed true layout
  obtain ⟨bare, without, -, withPoint⟩ := added (by decide)
  have zero : write false 0 = .ok ['0'] := by decide +kernel
  obtain rfl : bare = ['0'] := Except.ok.inj (without.symm.trans zero)
  obtain ⟨text, written, point⟩ := pointed 4
  exact ⟨number, by decide, zero, withPoint, text, written, point.mpr (.inl rfl)⟩

/-- One in exponent notation without places and a hundred thousand in general notation have no point under the
alternate form. -/
theorem point_lost :
    (Conversion.float .exponent false).write { flags := { alternate := true }, precision := some 0 }
        (.float (.ofBits 0x3ff0000000000000)) = .ok "1e+00".toList ∧
      (Conversion.float .general false).write { flags := { alternate := true } }
        (.float (.ofBits 0x40f86a0000000000)) = .ok "100000".toList ∧
      (Formatter.make 3000 "...").format "%#.0e" [.float (.ofBits 0x3ff0000000000000)] = .ok ⟨"1e+00", false⟩ ∧
      '.' ∉ "1e+00".toList ∧ '.' ∉ "100000".toList := by
  have rendered : (render (Formatter.make 3000 "...").precisionLimit "%#.0e".toList
      [.float (.ofBits 0x3ff0000000000000)]).refused = none := by decide +kernel
  have text : (render (Formatter.make 3000 "...").precisionLimit "%#.0e".toList
      [.float (.ofBits 0x3ff0000000000000)]).text = "1e+00".toList := by decide +kernel
  refine ⟨by decide +kernel, by decide +kernel, ?_, by decide, by decide⟩
  rw [Formatter.format_eq_clip, rendered, text]
  decide +kernel

end MockQueue.Message

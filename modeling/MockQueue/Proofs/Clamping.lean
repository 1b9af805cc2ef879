import MockQueue.Proofs.FieldSizes
import MockQueue.Proofs.Padding
import MockQueue.Proofs.PlacesAsked

/-!
# Precisions past the bound

A precision is kept within a limit that lies past the bound on the message. Compared with the same
template rendered as it is written (`exactText`), that shortens a field only after more characters than the
bound shows (`Resembles`), so what the bound shows is the same (`Alike`). It is not the same where a field
without the left flag is wider than the limit: there the shortened field is padded on the left, and the
padding is seen. `clamping_unseen` says that this is the only difference.
-/

namespace MockQueue.Text

theorem cut_zero (text : List Char) : cut 0 text = [] := by
  cases text with
  | nil => rfl
  | cons c rest =>
    have positive := c.utf8Size_pos
    have long : ¬ c.utf8Size ≤ 0 := by omega
    rw [cut, if_neg long]

/-- A cut sees nothing of what follows a text that fills its room. -/
theorem cut_append_of_reaches {room : Nat} {front : List Char} (reaches : room ≤ byteSize front)
    (back : List Char) : cut room (front ++ back) = cut room front := by
  rcases Nat.lt_or_eq_of_le reaches with long | fits
  · exact cut_append_of_long long back
  · have none : room - byteSize front = 0 := by omega
    rw [cut_append_of_fits (by omega), none, cut_zero, List.append_nil, cut_eq_self (by omega)]

theorem byteSize_le_of_isPrefix {front text : List Char} (within : front <+: text) :
    byteSize front ≤ byteSize text := by
  obtain ⟨rest, rfl⟩ := within
  rw [byteSize_append]
  exact Nat.le_add_right ..

end MockQueue.Text

namespace MockQueue.Message

open Number (Radix zeros length_zeros length_digits_le)
open Text (byteSize byteSize_append byteSize_le_of_isPrefix cut cut_append_of_fits cut_append_of_long
  cut_append_of_reaches cut_cut cut_eq_self length_le_byteSize)

/-! ## Texts that a bound does not tell apart -/

/-- Within a bound of `capacity` bytes the two texts look the same. -/
structure Alike (capacity : Nat) (x y : List Char) : Prop where
  cut_eq : cut capacity x = cut capacity y
  long_iff : capacity < byteSize x ↔ capacity < byteSize y

section

variable {capacity : Nat} {x y : List Char}

theorem alike_refl (capacity : Nat) (x : List Char) : Alike capacity x x :=
  ⟨rfl, Iff.rfl⟩

/-- Two long texts with a common front that fills the bound. -/
theorem alike_of_common {common : List Char} (front : common <+: x) (frontOther : common <+: y)
    (reaches : capacity ≤ byteSize common) (long : capacity < byteSize x) (longOther : capacity < byteSize y) :
    Alike capacity x y := by
  obtain ⟨rest, rfl⟩ := front
  obtain ⟨other, rfl⟩ := frontOther
  refine ⟨?_, ⟨fun _ => longOther, fun _ => long⟩⟩
  rw [cut_append_of_reaches reaches, cut_append_of_reaches reaches]

/-- Two texts with a common front of more characters than the bound has bytes. -/
theorem alike_of_begins {common : List Char} (front : common <+: x) (frontOther : common <+: y)
    (long : capacity < common.length) : Alike capacity x y := by
  have size := length_le_byteSize common
  have sizeX := length_le_byteSize x
  have sizeY := length_le_byteSize y
  have within := front.length_le
  have withinOther := frontOther.length_le
  exact alike_of_common front frontOther (by omega) (by omega) (by omega)

/-- Texts that fit and look the same are the same. -/
theorem Alike.eq_of_fits (alike : Alike capacity x y) (fits : byteSize x ≤ capacity) : x = y := by
  have fitsOther : byteSize y ≤ capacity := Nat.le_of_not_lt fun long => by
    have := alike.long_iff.mpr long
    omega
  rw [← cut_eq_self fits, alike.cut_eq, cut_eq_self fitsOther]

theorem Alike.append {x' y' : List Char} (front : Alike capacity x y) (back : Alike capacity x' y') :
    Alike capacity (x ++ x') (y ++ y') := by
  rcases Nat.lt_or_ge capacity (byteSize x) with long | fits
  · have longOther := front.long_iff.mp long
    refine ⟨?_, ?_⟩
    · rw [cut_append_of_long long, cut_append_of_long longOther, front.cut_eq]
    · rw [byteSize_append, byteSize_append]
      omega
  · obtain rfl := front.eq_of_fits fits
    refine ⟨?_, ?_⟩
    · have room : capacity - byteSize x ≤ capacity := Nat.sub_le _ _
      rw [cut_append_of_fits fits, cut_append_of_fits fits, ← cut_cut room x', back.cut_eq, cut_cut room]
    · rw [byteSize_append, byteSize_append]
      rcases Nat.lt_or_ge capacity (byteSize x') with longBack | fitsBack
      · have longOther := back.long_iff.mp longBack
        omega
      · rw [back.eq_of_fits fitsBack]

/-- A formatter makes the same message of both. -/
theorem Alike.clip_eq {f : Formatter} (alike : Alike f.capacity x y) : f.clip x false = f.clip y false := by
  rcases Nat.lt_or_ge f.capacity (byteSize x) with long | fits
  · have room : f.capacity - byteSize f.marker ≤ f.capacity := Nat.sub_le _ _
    rw [Formatter.clip, Formatter.clip, if_pos (.inl long), if_pos (.inl (alike.long_iff.mp long)),
      ← cut_cut room x, alike.cut_eq, cut_cut room]
  · rw [alike.eq_of_fits fits]

end

/-- Where all that is served looks the same, so does the whole. -/
theorem filled_alike {capacity : Nat} {write other : Serving → List Char} {stretches : List Passage}
    (each : ∀ s ∈ stretches.filterMap Passage.serving?, Alike capacity (write s) (other s)) :
    Alike capacity (filled write stretches) (filled other stretches) := by
  induction stretches with
  | nil => exact alike_refl _ _
  | cons stretch rest ih =>
    cases stretch with
    | copied text => exact (alike_refl _ _).append (ih each)
    | served s =>
      have here : Alike capacity (write s) (other s) := each s (List.mem_cons_self ..)
      exact here.append (ih fun later member => each later (List.mem_cons_of_mem _ member))

/-! ## Padding -/

namespace Field

/-- Both bodies begin alike, for more characters than the bound shows; the short one fills the limit, and
the long one is no shorter. -/
structure Outruns (capacity limit : Nat) (short long : List Char) : Prop where
  fills : limit ≤ short.length
  longer : short.length ≤ long.length
  common : ∃ common, common <+: short ∧ common <+: long ∧ capacity < common.length

/-- With the precision kept within `limit`, the field is the same, or its body ends where the bound does not
reach. -/
structure Resembles (capacity limit : Nat) (short long : Field) : Prop where
  lead_eq : short.lead = long.lead
  zeroable_eq : short.zeroable = long.zeroable
  body : short.body = long.body ∨ Outruns capacity limit short.body long.body

theorem resembles_refl (capacity limit : Nat) (f : Field) : Resembles capacity limit f f :=
  ⟨rfl, rfl, .inl rfl⟩

section

variable {capacity limit : Nat} {short long : Field}

theorem Resembles.length_le (resembles : Resembles capacity limit short long) :
    short.bare.length ≤ long.bare.length := by
  rw [bare, bare, List.length_append, List.length_append, resembles.lead_eq]
  rcases resembles.body with same | outruns
  · exact Nat.le_of_eq (by rw [same])
  · exact Nat.add_le_add_left outruns.longer _

theorem replicate_isPrefix (c : Char) {few many : Nat} (le : few ≤ many) :
    List.replicate few c <+: List.replicate many c := by
  refine ⟨List.replicate (many - few) c, ?_⟩
  rw [List.replicate_append_replicate, Nat.add_sub_cancel' le]

/-- Padding of more than the bound hides how much more it is. -/
theorem spread_alike_of_wide (f : Field) (flags : Flags) {missing more : Nat} (wide : capacity < missing)
    (wider : missing ≤ more) : Alike capacity (f.spread flags missing) (f.spread flags more) := by
  unfold spread
  split
  · have padded : f.bare ++ List.replicate missing ' ' <+: f.bare ++ List.replicate more ' ' :=
      (List.prefix_append_right_inj f.bare).mpr (replicate_isPrefix ' ' wider)
    exact alike_of_begins (List.prefix_refl _) padded (by simp; omega)
  · split
    · have here : f.lead ++ zeros missing <+: f.lead ++ (zeros missing ++ f.body) :=
        (List.prefix_append_right_inj f.lead).mpr (List.prefix_append _ _)
      have there : f.lead ++ zeros missing <+: f.lead ++ (zeros more ++ f.body) :=
        (List.prefix_append_right_inj f.lead).mpr ((replicate_isPrefix '0' wider).trans (List.prefix_append _ _))
      exact alike_of_begins here there (by simp; omega)
    · have there : List.replicate missing ' ' <+: List.replicate more ' ' ++ f.bare :=
        (replicate_isPrefix ' ' wider).trans (List.prefix_append _ _)
      exact alike_of_begins (List.prefix_append _ _) there (by simpa using wide)

section

variable {lead body other common : List Char} {zeroable : Bool} {flags : Flags}

/-- On the left of its padding a field is seen as far as it is common. -/
theorem spread_alike_of_left (left : flags.left = true) (front : common <+: body) (frontOther : common <+: other)
    (long : capacity < common.length) (missing more : Nat) :
    Alike capacity (spread ⟨lead, body, zeroable⟩ flags missing)
      (spread ⟨lead, other, zeroable⟩ flags more) := by
  have begins {b pad : List Char} (inBody : common <+: b) : lead ++ common <+: lead ++ b ++ pad :=
    ((List.prefix_append_right_inj lead).mpr inBody).trans (List.prefix_append _ _)
  simp only [spread, left, if_true, bare]
  exact alike_of_begins (begins front) (begins frontOther) (by simp; omega)

/-- After the same padding too. -/
theorem spread_alike_of_same (right : flags.left = false) (front : common <+: body)
    (frontOther : common <+: other) (long : capacity < common.length) (missing : Nat) :
    Alike capacity (spread ⟨lead, body, zeroable⟩ flags missing)
      (spread ⟨lead, other, zeroable⟩ flags missing) := by
  have begins {before b : List Char} (inBody : common <+: b) : before ++ common <+: before ++ b :=
    (List.prefix_append_right_inj before).mpr inBody
  simp only [spread, right, Bool.false_eq_true, if_false, bare, ← List.append_assoc]
  split <;> exact alike_of_begins (begins front) (begins frontOther) (by simp; omega)

/-- Padding that fills the bound hides the field behind it. -/
theorem spread_alike_of_filled (right : flags.left = false) (long : capacity < body.length)
    (longOther : capacity < other.length) {missing more : Nat} (fills : capacity ≤ missing)
    (fillsOther : capacity ≤ more) :
    Alike capacity (spread ⟨lead, body, zeroable⟩ flags missing)
      (spread ⟨lead, other, zeroable⟩ flags more) := by
  have size (text : List Char) (chars : capacity < text.length) : capacity < byteSize text :=
    Nat.lt_of_lt_of_le chars (length_le_byteSize text)
  simp only [spread, right, Bool.false_eq_true, if_false, bare]
  split
  · have begins {fill : Nat} {b : List Char} (enough : capacity ≤ fill) :
        lead ++ zeros capacity <+: lead ++ (zeros fill ++ b) :=
      (List.prefix_append_right_inj lead).mpr ((replicate_isPrefix '0' enough).trans (List.prefix_append _ _))
    have reaches : capacity ≤ byteSize (lead ++ zeros capacity) :=
      Nat.le_trans (by simp) (length_le_byteSize _)
    exact alike_of_common (begins fills) (begins fillsOther) reaches (size _ (by simp; omega))
      (size _ (by simp; omega))
  · have begins {fill : Nat} {b : List Char} (enough : capacity ≤ fill) :
        List.replicate capacity ' ' <+: List.replicate fill ' ' ++ b :=
      (replicate_isPrefix ' ' enough).trans (List.prefix_append _ _)
    have reaches : capacity ≤ byteSize (List.replicate capacity ' ') :=
      Nat.le_trans (by simp) (length_le_byteSize _)
    exact alike_of_common (begins fills) (begins fillsOther) reaches (size _ (by simp; omega))
      (size _ (by simp; omega))

end

/-- A field as the program spreads it, in a width that fits a word, against the field as it is written: on
the left of the padding, or where the padding reaches equally far into the bound. -/
theorem Resembles.pieces_alike (resembles : Resembles capacity limit short long) {flags : Flags} {width : Nat}
    (pads : flags.left = true ∨
      min capacity (width - short.bare.length) = min capacity (width - long.bare.length))
    (room : short.bare.length + capacity < wordMax) :
    Alike capacity (short.spread flags (min width wordMax - short.bare.length))
      (long.spread flags (width - long.bare.length)) := by
  have smaller := resembles.length_le
  obtain ⟨lead, body, zeroable⟩ := short
  obtain ⟨_, other, _⟩ := long
  obtain ⟨leads, zeroables, bodies⟩ := resembles
  simp only at leads zeroables bodies
  subst leads zeroables
  rcases bodies with rfl | ⟨-, -, common, front, frontOther, size⟩
  · -- The fields are equal: only a width beyond a word makes a difference, and that is never seen.
    rcases Nat.le_total width wordMax with fits | saturates
    · rw [Nat.min_eq_left fits]
      exact alike_refl _ _
    · rw [Nat.min_eq_right saturates]
      exact spread_alike_of_wide _ _ (by omega) (by omega)
  · cases left : flags.left with
    | true => exact spread_alike_of_left left front frontOther size _ _
    | false =>
      have reach := pads.resolve_left (by simp [left])
      have begins := front.length_le
      have beginsOther := frontOther.length_le
      generalize few_eq : min width wordMax - (bare ⟨lead, body, zeroable⟩).length = few
      generalize many_eq : width - (bare ⟨lead, other, zeroable⟩).length = many at reach ⊢
      -- Padding that is seen to its end is equally long in both, and what fills the bound hides its length.
      rcases Nat.lt_or_ge few capacity with partly | fills
      · obtain rfl : few = many := by omega
        exact spread_alike_of_same left front frontOther size few
      · exact spread_alike_of_filled left (by omega) (by omega) fills (by omega)

end

end Field

/-! ## Fields of a kept precision -/

open MockQueue.Message.Field (Outruns Resembles resembles_refl)

section

variable {capacity limit : Nat}

/-- Zeros in front of the digits, up to the precision. -/
theorem integerDigits_eq (radix : Radix) (value : Nat) {precision : Nat} (positive : 0 < precision) :
    integerDigits radix value (some precision) =
      zeros (precision - (radix.digits value).length) ++ radix.digits value := by
  have some : ¬ (value = 0 ∧ (Option.some precision) = Option.some 0) := by
    rintro ⟨-, none⟩
    cases none
    omega
  rw [integerDigits, if_neg some]
  rfl

theorem integerDigits_outruns (radix : Radix) {value : Nat} (word : value < 2 ^ 64)
    (reach : capacity + 1100 ≤ limit) (k : Nat) :
    Outruns capacity limit (integerDigits radix value (some limit))
      (integerDigits radix value (some (limit + k))) := by
  have digits := length_digits_le radix word
  rw [integerDigits_eq radix value (by omega), integerDigits_eq radix value (by omega)]
  refine ⟨?_, ?_, zeros (limit - (radix.digits value).length), List.prefix_append _ _, ?_, ?_⟩
  · rw [List.length_append, length_zeros]
    omega
  · simp only [List.length_append, length_zeros]
    omega
  · exact (Field.replicate_isPrefix '0' (by omega)).trans (List.prefix_append _ _)
  · rw [length_zeros]
    omega

/-- Digits that start with a zero need no mark. -/
theorem octalMark_zeros (radix : Radix) (flags : Flags) {count : Nat} (positive : 0 < count) (digits : List Char) :
    octalMark radix flags (zeros count ++ digits) = zeros count ++ digits := by
  obtain ⟨fewer, rfl⟩ := Nat.exists_eq_succ_of_ne_zero (Nat.ne_of_gt positive)
  rw [octalMark, if_neg]
  rintro ⟨-, -, marked⟩
  exact marked rfl

theorem unsignedField_resembles (layout : Layout) (radix : Radix) {value : Nat} (word : value < 2 ^ 64)
    (reach : capacity + 1100 ≤ limit) (k : Nat) :
    Resembles capacity limit (unsignedField { layout with precision := some limit } radix value)
      (unsignedField { layout with precision := some (limit + k) } radix value) := by
  have digits := length_digits_le radix word
  have unmarked : ∀ precision, limit ≤ precision →
      octalMark radix layout.flags (integerDigits radix value (some precision)) =
        integerDigits radix value (some precision) := by
    intro precision large
    rw [integerDigits_eq radix value (by omega), octalMark_zeros radix layout.flags (by omega)]
  refine ⟨rfl, rfl, .inr ?_⟩
  simp only [unsignedField, unmarked limit (Nat.le_refl _), unmarked (limit + k) (Nat.le_add_right ..)]
  exact integerDigits_outruns radix word reach k

theorem integerField_resembles (layout : Layout) (radix : Radix) (arg : Argument)
    (reach : capacity + 1100 ≤ limit) (k : Nat) :
    Resembles capacity limit (integerField { layout with precision := some limit } radix arg)
      (integerField { layout with precision := some (limit + k) } radix arg) := by
  unfold integerField
  cases value : arg.toUnsigned? with
  | some v => exact unsignedField_resembles layout radix (Argument.lt_of_toUnsigned? value) reach k
  | none => exact resembles_refl ..

theorem take_outruns (text : List Char) (reach : capacity < limit) (k : Nat) :
    text.take limit = text.take (limit + k) ∨ Outruns capacity limit (text.take limit) (text.take (limit + k)) := by
  have longer : text.take limit <+: text.take (limit + k) := List.take_prefix_take_left (Nat.le_add_right ..)
  rcases Nat.lt_or_ge text.length limit with short | long
  · rw [List.take_of_length_le (by omega), List.take_of_length_le (by omega)]
    exact .inl rfl
  · have size : (text.take limit).length = limit := List.length_take_of_le long
    exact .inr ⟨by omega, longer.length_le, text.take limit, List.prefix_refl _, longer, by omega⟩

theorem outruns_of_lengthens {k : Nat} {short long : List Char} (reach : capacity < limit)
    (lengthens : Lengthens (limit - 1) k short long) : Outruns capacity limit short long := by
  obtain ⟨front, back, rfl, rfl, size, -⟩ := lengthens
  refine ⟨?_, ?_, front, List.prefix_append _ _, List.prefix_append _ _, by omega⟩
  · rw [List.length_append]
    omega
  · simp only [List.length_append, length_zeros]
    omega

theorem Field.Outruns.inCase {short long : List Char} (outruns : Outruns capacity limit short long) (upper : Bool) :
    Outruns capacity limit (inCase upper short) (inCase upper long) := by
  cases upper with
  | false => exact outruns
  | true =>
    obtain ⟨common, front, frontOther, size⟩ := outruns.common
    refine ⟨?_, ?_, common.map Char.toUpper, front.map _, frontOther.map _, ?_⟩
    · simpa [Message.inCase] using outruns.fills
    · simpa [Message.inCase] using outruns.longer
    · simpa using size

theorem floatField_resembles (layout : Layout) (style : FloatStyle) (upper : Bool) {arg : Argument}
    (native : arg.IsNative) (reach : capacity + 1100 ≤ limit) (k : Nat) :
    Resembles capacity limit (floatField { layout with precision := some limit } style upper arg.toFloat)
      (floatField { layout with precision := some (limit + k) } style upper arg.toFloat) := by
  cases value : arg.toFloat with
  | nan _ => exact resembles_refl ..
  | infinite _ => exact resembles_refl ..
  | finite negative m e =>
    refine ⟨rfl, rfl, ?_⟩
    rcases floatBody_lengthens (native.inRange value).fits (by decide) (by omega : 1099 < limit) style
      layout.flags.alternate k with same | lengthens
    · exact .inl (congrArg (inCase upper) same.symm)
    · exact .inr ((outruns_of_lengthens (by omega) lengthens).inCase upper)

/-- What a precision past the limit adds to a field lies past the bound. -/
theorem field_resembles_add (conversion : Conversion) (layout : Layout) {arg : Argument} (native : arg.IsNative)
    (reach : capacity + 1100 ≤ limit) (k : Nat) :
    Resembles capacity limit (conversion.field { layout with precision := some limit } arg)
      (conversion.field { layout with precision := some (limit + k) } arg) := by
  cases conversion with
  | signed =>
    unfold Conversion.field
    cases value : arg.toSigned? with
    | some v =>
      exact ⟨rfl, rfl, .inr (integerDigits_outruns .decimal (Argument.natAbs_lt_of_toSigned? value) reach k)⟩
    | none => exact resembles_refl ..
  | unsigned radix => exact integerField_resembles layout radix arg reach k
  | char => exact resembles_refl ..
  | text => exact ⟨rfl, rfl, take_outruns arg.toText (by omega) k⟩
  | float style upper => exact floatField_resembles layout style upper native reach k
  | address =>
    cases arg with
    | address a => exact resembles_refl ..
    | int | uint | float | char | text =>
      simp only [Conversion.field]
      exact integerField_resembles layout (.hex false) _ reach k

theorem field_resembles (conversion : Conversion) (layout : Layout) {arg : Argument} (native : arg.IsNative)
    (reach : capacity + 1100 ≤ limit) :
    Resembles capacity limit (conversion.field (layout.clamp limit) arg) (conversion.field layout arg) := by
  obtain ⟨flags, width, precision⟩ := layout
  cases precision with
  | none => exact resembles_refl ..
  | some p =>
    rcases Nat.le_total p limit with small | large
    · have kept : Layout.clamp ⟨flags, width, some p⟩ limit = ⟨flags, width, some p⟩ := by
        rw [Layout.clamp, Option.map_some, Nat.min_eq_left small]
      rw [kept]
      exact resembles_refl ..
    · have kept : Layout.clamp ⟨flags, width, some p⟩ limit = ⟨flags, width, some limit⟩ := by
        rw [Layout.clamp, Option.map_some, Nat.min_eq_right large]
      obtain ⟨k, rfl⟩ := Nat.exists_eq_add_of_le large
      rw [kept]
      exact field_resembles_add conversion ⟨flags, width, none⟩ native reach k

end

/-! ## Templates -/

/-- What the written parts ask for, however large their numbers are. -/
def DirectiveText.exactLayout (d : DirectiveText) : Layout where
  flags := Flags.ofChars d.flags
  width := Number.valueOf 10 d.width
  precision := d.precision.map (Number.valueOf 10)

/-- The text of a template with its arguments, with the widths and precisions as they are written. -/
def exactText (template : String) (args : List Argument) : String :=
  String.ofList (filled (fun s => s.padded s.directive.exactLayout) (passages (segments template.toList) args))

namespace Serving

/-- As far as the bound reaches, the directive pads its field on the left as if no precision was kept within
`limit`. -/
def PadsAlike (capacity limit : Nat) (s : Serving) : Prop :=
  let exact := s.directive.exactLayout
  exact.flags.left = true ∨
    min capacity (exact.width - (s.conversion.field (s.layout limit) s.argument).bare.length) =
      min capacity (exact.width - (s.conversion.field exact s.argument).bare.length)

section

variable {capacity limit : Nat} {s : Serving}

/-- Numbers kept within a word first are kept within the limit all the same. -/
theorem field_layout (within : limit ≤ maxPlaces) :
    s.conversion.field (s.layout limit) s.argument =
      s.conversion.field (s.directive.exactLayout.clamp limit) s.argument := by
  have kept : (s.layout limit).precision = (s.directive.exactLayout.clamp limit).precision := by
    simp only [layout, Layout.clamp, DirectiveText.layout, DirectiveText.exactLayout]
    cases s.directive.precision with
    | none => rfl
    | some digits =>
      have word : limit ≤ wordMax := Nat.le_trans within (by decide)
      rw [Option.map_some, Option.map_some, Option.map_some, Option.map_some, boundedNumber_eq_min, Nat.min_assoc,
        Nat.min_eq_right word]
  rw [← field_width s.conversion (s.directive.exactLayout.clamp limit) s.argument (s.layout limit).width, ← kept]
  rfl

theorem resembles_exact (native : s.argument.IsNative) (reach : capacity + 1100 ≤ limit)
    (within : limit ≤ maxPlaces) :
    Resembles capacity limit (s.conversion.field (s.layout limit) s.argument)
      (s.conversion.field s.directive.exactLayout s.argument) := by
  rw [field_layout within]
  exact field_resembles s.conversion s.directive.exactLayout native reach

/-- Nothing is seen of a field no wider than the limit. -/
theorem padsAlike_of_narrow (native : s.argument.IsNative) (reach : capacity + 1100 ≤ limit)
    (within : limit ≤ maxPlaces) (narrow : s.directive.exactLayout.width ≤ limit) :
    s.PadsAlike capacity limit := by
  have resembles := resembles_exact native reach within
  right
  rcases resembles.body with same | outruns
  · rw [Field.bare, Field.bare, resembles.lead_eq, same]
  · have fills := outruns.fills
    have longer := outruns.longer
    simp only [Field.bare, List.length_append]
    omega

/-- A directive as the program serves it, against the directive as it is written. -/
theorem padded_alike (native : s.argument.IsNative) (reach : capacity + 1100 ≤ limit) (within : limit ≤ maxPlaces)
    (pads : s.PadsAlike capacity limit) :
    Alike capacity (s.padded (s.layout limit)) (s.padded s.directive.exactLayout) := by
  have size := length_bare_le s.conversion (s.layout limit) native
  have places := s.placesOf_layout_le limit
  have word : 2 ^ 63 + 2 * maxPlaces < wordMax := by decide
  have width : (s.layout limit).width = min s.directive.exactLayout.width wordMax := boundedNumber_eq_min _
  rw [padded, padded, Field.symbolsOf_pieces, Field.symbolsOf_pieces, width]
  exact (resembles_exact native reach within).pieces_alike pads (by omega)

end

end Serving

/-- What a template is served with are its arguments. -/
theorem argument_mem {s : Serving} {parts : List Segment} {args : List Argument}
    (served : s ∈ servings parts args) : s.argument ∈ args := by
  induction parts generalizing args with
  | nil => cases served
  | cons part rest ih =>
    cases part with
    | literal c => exact ih served
    | directive d =>
      unfold servings passages at served
      split at served
      · exact ih served
      · split at served
        · rcases List.mem_cons.mp served with rfl | later
          · exact List.mem_cons_self ..
          · exact List.mem_cons_of_mem _ (ih later)
        · exact ih served

/-- A precision kept within a limit `precisionSlack` past the bound gives the message of the template as it
is written, if no padding on the left shows the difference. The exception are directives that ask for more
places than can be written: three places below that limit there are none. -/
theorem clamping_unseen (capacity : Nat) (marker template : String) (args : List Argument)
    (small : capacity + Formatter.precisionSlack ≤ maxPlaces) (native : ∀ arg ∈ args, arg.IsNative)
    (pads : ∀ s ∈ servings (segments template.toList) args,
      s.PadsAlike capacity (capacity + Formatter.precisionSlack)) :
    let f := Formatter.make capacity marker
    (match f.format template args with
      | .ok message => message = f.bound (exactText template args) false
      | .error refusal =>
        ∃ s ∈ servings (segments template.toList) args, s.Overreaches f.precisionLimit refusal.asked) ∧
    (capacity + Formatter.precisionSlack + 3 ≤ maxPlaces →
      f.format template args = .ok (f.bound (exactText template args) false)) := by
  intro f
  have limit : f.precisionLimit = capacity + Formatter.precisionSlack := Nat.min_eq_left small
  -- The whole output as the program serves it looks like the output as it is written.
  have alike : Alike f.capacity
      (filled (fun s => s.padded (s.layout f.precisionLimit)) (passages (segments template.toList) args))
      (exactText template args).toList := by
    rw [exactText, String.toList_ofList, limit]
    exact filled_alike fun s served =>
      Serving.padded_alike (native _ (argument_mem served)) (Nat.le_refl _) small (pads s served)
  have same : ∀ message, f.format template args = .ok message →
      message = f.bound (exactText template args) false := by
    intro message formatted
    rw [Formatter.bound_eq_clip, ← alike.clip_eq]
    rw [Formatter.format_eq_clip] at formatted
    split at formatted
    · rename_i unrefused
      rw [render, renderSegments_eq] at unrefused formatted
      rw [text_eq _ _ unrefused] at formatted
      exact (Except.ok.inj formatted).symm
    · split at formatted
      · cases formatted
      · -- The rendering was ended, but past the bound.
        rename_i long
        rw [render, renderSegments_eq] at long formatted
        have front := text_isPrefix f.precisionLimit (passages (segments template.toList) args)
        have beyond := Nat.lt_of_not_le long
        have seen := alike_of_common (List.prefix_refl _) front (Nat.le_of_lt beyond) beyond
          (Nat.lt_of_lt_of_le beyond (byteSize_le_of_isPrefix front))
        rw [← seen.clip_eq]
        exact (Except.ok.inj formatted).symm
  refine ⟨?_, fun smaller => ?_⟩
  · cases formatted : f.format template args with
    | ok message => exact same message formatted
    | error refusal =>
      obtain ⟨s, served, -, beyond⟩ := format_error_overreaches formatted
      exact ⟨s, served, beyond⟩
  · cases formatted : f.format template args with
    | ok message => rw [same message formatted]
    | error refusal =>
      obtain ⟨s, -, -, beyond⟩ := format_error_overreaches formatted
      exact absurd beyond (Serving.not_overreaches (by rwa [limit]))

/-- Three thousand places of an integer within ten bytes. -/
theorem clamping_unseen_zeros :
    let f := Formatter.make 10 "..."
    let args : List Argument := [.int 1]
    10 + Formatter.precisionSlack ≤ maxPlaces ∧ (∀ arg ∈ args, arg.IsNative) ∧
      (∀ s ∈ servings (segments "%.3000d".toList) args, s.PadsAlike 10 (10 + Formatter.precisionSlack)) ∧
      f.format "%.3000d" args = .ok (f.bound (exactText "%.3000d" args) false) ∧
      f.format "%.3000d" args = .ok ⟨"0000000...", true⟩ := by
  intro f args
  have small : 10 + Formatter.precisionSlack ≤ maxPlaces := by decide
  have native : ∀ arg ∈ args, arg.IsNative := by simp [args, Argument.IsNative]
  have narrow : ∀ s ∈ servings (segments "%.3000d".toList) args,
      s.directive.exactLayout.width ≤ 10 + Formatter.precisionSlack := by decide +kernel
  have pads : ∀ s ∈ servings (segments "%.3000d".toList) args, s.PadsAlike 10 (10 + Formatter.precisionSlack) :=
    fun s served =>
      Serving.padsAlike_of_narrow (native _ (argument_mem served)) (Nat.le_refl _) small (narrow s served)
  have same := (clamping_unseen 10 "..." "%.3000d" args small native pads).2 (by decide)
  have zeros : f.bound (exactText "%.3000d" args) false = ⟨"0000000...", true⟩ := by
    rw [Formatter.bound_eq_clip, exactText, String.toList_ofList]
    decide +kernel
  exact ⟨small, native, pads, same, zeros ▸ same⟩

/-- In a width of two thousand, three thousand places fill the bound with zeros; with the precision kept
within the limit, blanks come first. -/
theorem clamping_seen :
    let f := Formatter.make 10 "..."
    let args : List Argument := [.int 1]
    10 + Formatter.precisionSlack ≤ maxPlaces ∧
      f.format "%2000.3000d" args = .ok ⟨"       ...", true⟩ ∧
      f.bound (exactText "%2000.3000d" args) false = ⟨"0000000...", true⟩ := by
  intro f args
  have unrefused : (render f.precisionLimit "%2000.3000d".toList args).refused = none := by decide +kernel
  have blanks : f.clip (render f.precisionLimit "%2000.3000d".toList args).text false = ⟨"       ...", true⟩ := by
    decide +kernel
  refine ⟨by decide, ?_, ?_⟩
  · rw [Formatter.format_eq_clip, unrefused]
    exact congrArg Except.ok blanks
  · rw [Formatter.bound_eq_clip, exactText, String.toList_ofList]
    decide +kernel

end MockQueue.Message

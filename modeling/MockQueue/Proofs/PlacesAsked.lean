import MockQueue.Proofs.Passages
import MockQueue.Proofs.Truncation

/-!
# How many places are asked for

Precisions are kept within what can be written before a float is converted. Fixed and exponent notation
ask for no more places than that. General notation asks twice: for its significant digits, and then, for
a number without an exponent, for the decimal places that those digits reach to. Below one these are more
than the digits, so that up to three places too many can be asked for (`Serving.Overreaches`). That is the
only way in which a template can be refused (`places_within_reach`).
-/

namespace MockQueue.Message

open Number

/-- The numbers of places that writing a float asks for, in order. -/
def placeRequests (style : FloatStyle) (precision : Option Nat) (d : Decimal) : List Nat :=
  match style with
  | .fixed => [placesOf precision]
  | .exponent => [placesOf precision]
  | .general =>
    let digits := digitsOf precision
    let rounded := d.scientific (digits - 1)
    [digits - 1, if isPlain digits rounded then plainPlaces digits rounded else digits - 1]

theorem placesAsked_mem (style : FloatStyle) (precision : Option Nat) (d : Decimal) :
    placesAsked style precision d ∈ placeRequests style precision d := by
  cases style with
  | fixed => simp [placesAsked, placeRequests]
  | exponent => simp [placesAsked, placeRequests]
  | general =>
    simp only [placesAsked, placeRequests, List.mem_cons, List.not_mem_nil, or_false]
    split
    · rw [Nat.max_def]
      split
      · exact .inr rfl
      · exact .inl rfl
    · exact .inl rfl

namespace Serving

/-- The numbers of places that serving a directive asks for; none if it writes no finite float. -/
def requests (limit : Nat) (s : Serving) : List Nat :=
  match s.conversion, s.argument.toFloat with
  | .float style _, .finite _ m e => placeRequests style (s.layout limit).precision (.ofBinary m e)
  | _, _ => []

/-- General notation writes a number below a tenth without an exponent down to a ten-thousandth, and the zeros
after its point come on top of its digits. There are up to three of them, so the digits that are asked for
are within three of all that can be written. -/
def Overreaches (limit : Nat) (s : Serving) (places : Nat) : Prop :=
  ∃ upper negative m e,
    s.conversion = .float .general upper ∧ s.argument.toFloat = .finite negative m e ∧
      let digits := digitsOf (s.layout limit).precision
      let exponent := ((Decimal.ofBinary m e).scientific (digits - 1)).exponent
      maxPlaces < places ∧ maxPlaces < digits + 3 ∧ -4 ≤ exponent ∧ exponent ≤ -2 ∧
        (places : Int) = digits - 1 - exponent

/-- The largest request of a directive, or zero if there is none. -/
theorem places_mem_or_zero (limit : Nat) (s : Serving) :
    s.conversion.places (s.layout limit) s.argument ∈ s.requests limit ∨
      s.conversion.places (s.layout limit) s.argument = 0 := by
  unfold requests Conversion.places
  cases s.conversion with
  | float style upper =>
    cases s.argument.toFloat with
    | finite negative m e => exact .inl (placesAsked_mem ..)
    | nan _ => exact .inr rfl
    | infinite _ => exact .inr rfl
  | signed | unsigned | char | text | address => exact .inr rfl

/-- What is refused is one of the requests, and it is too large. -/
theorem refusal?_eq_some {limit : Nat} {s : Serving} {refusal : PlacesRefused}
    (refused : s.refusal? limit = some refusal) :
    refusal.asked ∈ s.requests limit ∧ maxPlaces < refusal.asked := by
  simp only [refusal?, Conversion.refusal?] at refused
  split at refused
  · cases refused
  · rename_i large
    cases refused
    refine ⟨?_, Nat.lt_of_not_le large⟩
    rcases s.places_mem_or_zero limit with asked | none
    · exact asked
    · simp [none] at large

/-- The precision that a directive is left with is within the limit, unless it asks for none. -/
theorem placesOf_layout_le (s : Serving) (limit : Nat) : placesOf (s.layout limit).precision ≤ max limit 6 := by
  simp only [layout, Layout.clamp, placesOf]
  cases s.directive.layout.precision with
  | none => exact Nat.le_max_right ..
  | some p => exact Nat.le_trans (Nat.min_le_right ..) (Nat.le_max_left ..)

/-- A request beyond all that can be written comes from general notation alone. -/
theorem overreaches_of_request {limit places : Nat} {s : Serving} (within : limit ≤ maxPlaces)
    (asked : places ∈ s.requests limit) (large : maxPlaces < places) : s.Overreaches limit places := by
  have kept := s.placesOf_layout_le limit
  have six : 6 ≤ maxPlaces := by decide
  unfold requests at asked
  split at asked
  · rename_i style upper negative m e conversion value
    cases style with
    | fixed =>
      simp only [placeRequests, List.mem_singleton] at asked
      omega
    | exponent =>
      simp only [placeRequests, List.mem_singleton] at asked
      omega
    | general =>
      have digits : digitsOf (s.layout limit).precision ≤ maxPlaces := by
        simp only [digitsOf]
        omega
      simp only [placeRequests, List.mem_cons, List.not_mem_nil, or_false] at asked
      split at asked
      · rename_i plain
        obtain ⟨low, high⟩ := plain
        refine ⟨upper, negative, m, e, conversion, value, ?_⟩
        simp only [plainPlaces] at asked
        omega
      · omega
  · cases asked

/-- Three places below the limit of what can be written, nothing is refused. -/
theorem not_overreaches {limit places : Nat} {s : Serving} (within : limit + 3 ≤ maxPlaces) :
    ¬ s.Overreaches limit places := by
  rintro ⟨upper, negative, m, e, -, -, -, digits, -⟩
  have kept := s.placesOf_layout_le limit
  have nine : 9 ≤ maxPlaces := by decide
  simp only [digitsOf] at digits
  omega

end Serving

/-- A template has no message only if one of its directives overreaches. -/
theorem format_error_overreaches {f : Formatter} {template : String} {args : List Argument}
    {refusal : PlacesRefused} (refused : f.format template args = .error refusal) :
    ∃ s ∈ servings (segments template.toList) args, refusal.asked ∈ s.requests f.precisionLimit ∧
      s.Overreaches f.precisionLimit refusal.asked := by
  have ended : (render f.precisionLimit template.toList args).refused = some refusal := by
    rw [Formatter.format_eq_clip] at refused
    split at refused
    · cases refused
    · rename_i found ended
      split at refused
      · rw [ended, Except.error.inj refused]
      · cases refused
  rw [render, renderSegments_eq, refused_eq] at ended
  obtain ⟨s, member, here⟩ := List.exists_of_findSome?_eq_some ended
  obtain ⟨asked, large⟩ := Serving.refusal?_eq_some here
  exact ⟨s, member, asked, Serving.overreaches_of_request (Nat.min_le_right _ _) asked large⟩

/-- Whatever the bound, the marker, the template and its arguments, a directive asks for no more places
than can be written, unless it overreaches; and only then can the template have no message. With a bound
that keeps precisions three places below what can be written, every template has one. -/
theorem places_within_reach (capacity : Nat) (marker template : String) (args : List Argument) :
    let f := Formatter.make capacity marker
    (∀ s ∈ servings (segments template.toList) args, ∀ places ∈ s.requests f.precisionLimit,
      places ≤ maxPlaces ∨ s.Overreaches f.precisionLimit places) ∧
    (∀ refusal, f.format template args = .error refusal →
      ∃ s ∈ servings (segments template.toList) args, refusal.asked ∈ s.requests f.precisionLimit ∧
        s.Overreaches f.precisionLimit refusal.asked) ∧
    (capacity + Formatter.precisionSlack + 3 ≤ maxPlaces →
      (∀ s ∈ servings (segments template.toList) args, ∀ places ∈ s.requests f.precisionLimit,
        places ≤ maxPlaces) ∧
      ∃ message, f.format template args = .ok message) := by
  intro f
  have within : f.precisionLimit ≤ maxPlaces := Nat.min_le_right _ _
  have reached : ∀ s ∈ servings (segments template.toList) args, ∀ places ∈ s.requests f.precisionLimit,
      places ≤ maxPlaces ∨ s.Overreaches f.precisionLimit places := by
    intro s _ places asked
    rcases Nat.lt_or_ge maxPlaces places with large | small
    · exact .inr (Serving.overreaches_of_request within asked large)
    · exact .inl small
  refine ⟨reached, fun _ refused => format_error_overreaches refused, fun small => ?_⟩
  have limited : f.precisionLimit + 3 ≤ maxPlaces :=
    Nat.le_trans (Nat.add_le_add_right (Nat.min_le_left _ _) 3) small
  refine ⟨fun s member places asked => ?_, ?_⟩
  · rcases reached s member places asked with within | beyond
    · exact within
    · exact absurd beyond (Serving.not_overreaches limited)
  · cases formatted : f.format template args with
    | ok message => exact ⟨message, rfl⟩
    | error refusal =>
      obtain ⟨s, -, -, beyond⟩ := format_error_overreaches formatted
      exact absurd beyond (Serving.not_overreaches limited)

/-- One ten-thousandth with as many digits as can be asked for takes three places more than can be
written. Nothing was cut before, so there is no message. -/
theorem format_overreached :
    let f := Formatter.make 64500 "..."
    let args : List Argument := [.float (.ofBits 0x3f1a36e2eb1c432d)]
    f.format "%.65535g" args = .error ⟨65538⟩ ∧
      ∃ s ∈ servings (segments "%.65535g".toList) args,
        65538 ∈ s.requests f.precisionLimit ∧ maxPlaces < 65538 := by
  intro f args
  have ended : (render f.precisionLimit "%.65535g".toList args).refused = some ⟨65538⟩ := by decide +kernel
  have short : Text.byteSize (render f.precisionLimit "%.65535g".toList args).text ≤ f.capacity := by decide +kernel
  have refused : f.format "%.65535g" args = .error ⟨65538⟩ := by
    rw [Formatter.format_eq_clip, ended]
    exact if_pos short
  obtain ⟨s, member, asked, -⟩ := format_error_overreaches refused
  exact ⟨refused, s, member, asked, by decide⟩

end MockQueue.Message

import MockQueue.Message.Formatter

/-!
# Exact truncation

A bounded message is one cut of the whole output, however the output came in pieces. The sink cuts
the piece that does not fit and `Formatter.finish` cuts once more to make room for the marker;
`Holds` says what a sink has kept of everything written to it, and from it
`formatter_truncates_exactly` derives that the two cuts are one.
-/

namespace MockQueue.Text

/-- `kept` is the longest character prefix of `text` that takes at most `room` bytes. -/
structure IsLongestPrefix (room : Nat) (text kept : List Char) : Prop where
  isPrefix : kept <+: text
  fits : byteSize kept ≤ room
  longest : ∀ other, other <+: text → byteSize other ≤ room → other <+: kept

/-- The sizes of the characters add up to the number of bytes of the text. -/
theorem byteSize_toList (s : String) : byteSize s.toList = s.utf8ByteSize := by
  have sizes : ∀ text : List Char, byteSize text = (String.ofList text).utf8ByteSize := by
    intro text
    induction text with
    | nil => rfl
    | cons c rest ih =>
      rw [byteSize_cons, ih, String.ofList_cons, String.utf8ByteSize_append, String.utf8ByteSize_singleton]
  rw [sizes, String.ofList_toList]

/-- `offset` is the last place between two characters of `s` that lies at or before byte `index`. -/
structure IsLastBoundary (s : String) (index offset : Nat) : Prop where
  boundary : String.Pos.Raw.IsValid s ⟨offset⟩
  le : offset ≤ index
  last : ∀ other : String.Pos.Raw, other.IsValid s → other.byteIdx ≤ index → other.byteIdx ≤ offset

/-! ## One cut after another -/

theorem cut_longest {room : Nat} {text other : List Char} (isPrefix : other <+: text)
    (fits : byteSize other ≤ room) : other <+: cut room text := by
  induction text generalizing room other with
  | nil => simpa [cut] using isPrefix
  | cons c rest ih =>
    cases other with
    | nil => exact List.nil_prefix
    | cons d other =>
      obtain ⟨rfl, tailPrefix⟩ := List.cons_prefix_cons.mp isPrefix
      rw [byteSize_cons] at fits
      have first : d.utf8Size ≤ room := by omega
      simp only [cut, first, if_true]
      exact List.cons_prefix_cons.mpr ⟨rfl, ih tailPrefix (by omega)⟩

theorem cut_isLongestPrefix (room : Nat) (text : List Char) :
    IsLongestPrefix room text (cut room text) :=
  ⟨cut_isPrefix room text, byteSize_cut_le room text, fun _ isPrefix fits => cut_longest isPrefix fits⟩

/-- A cut is made between two characters, as late as the room allows. -/
theorem cut_isLastBoundary (s : String) (room : Nat) :
    IsLastBoundary s room (byteSize (cut room s.toList)) := by
  refine ⟨?_, byteSize_cut_le room s.toList, fun other isBoundary le => ?_⟩
  · obtain ⟨rest, whole⟩ := cut_isPrefix room s.toList
    refine String.Pos.Raw.isValid_iff_exists_append.mpr
      ⟨String.ofList (cut room s.toList), String.ofList rest, ?_, ?_⟩
    · rw [← String.ofList_append, whole, String.ofList_toList]
    · rw [String.Pos.Raw.ext_iff, String.byteIdx_rawEndPos, ← byteSize_toList, String.toList_ofList]
  · obtain ⟨front, back, whole, place⟩ := String.Pos.Raw.isValid_iff_exists_append.mp isBoundary
    have size : other.byteIdx = byteSize front.toList := by
      rw [place, String.byteIdx_rawEndPos, byteSize_toList]
    have isPrefix : front.toList <+: s.toList := ⟨back.toList, by rw [whole, String.toList_append]⟩
    have within : front.toList <+: cut room s.toList := cut_longest isPrefix (by omega)
    obtain ⟨rest, kept⟩ := within
    rw [size, ← kept, byteSize_append]
    omega

/-- Text that fits is kept, and what follows it is cut to the room that is left. -/
theorem cut_append_of_fits {room : Nat} {front : List Char} (fits : byteSize front ≤ room)
    (back : List Char) : cut room (front ++ back) = front ++ cut (room - byteSize front) back := by
  induction front generalizing room with
  | nil => simp
  | cons c rest ih =>
    rw [byteSize_cons] at fits
    have first : c.utf8Size ≤ room := by omega
    have tail : byteSize rest ≤ room - c.utf8Size := by omega
    simp only [List.cons_append, cut, first, if_true, ih tail, byteSize_cons, Nat.sub_sub]

/-- Text that does not fit hides all that follows it. -/
theorem cut_append_of_long {room : Nat} {front : List Char} (long : room < byteSize front)
    (back : List Char) : cut room (front ++ back) = cut room front := by
  induction front generalizing room with
  | nil => simp at long
  | cons c rest ih =>
    rw [byteSize_cons] at long
    by_cases first : c.utf8Size ≤ room
    · have tail : room - c.utf8Size < byteSize rest := by omega
      simp only [List.cons_append, cut, first, if_true, ih tail]
    · simp [cut, first]

/-- To cut wide and then narrow is to cut narrow. -/
theorem cut_cut {small large : Nat} (le : small ≤ large) (text : List Char) :
    cut small (cut large text) = cut small text := by
  induction text generalizing small large with
  | nil => rfl
  | cons c rest ih =>
    by_cases wide : c.utf8Size ≤ large
    · simp only [cut, wide, if_true]
      by_cases narrow : c.utf8Size ≤ small
      · have tail := ih (Nat.sub_le_sub_right le c.utf8Size)
        simp only [narrow, if_true, tail]
      · simp [narrow]
    · have narrow : ¬ c.utf8Size ≤ small := by omega
      simp [cut, wide, narrow]

end MockQueue.Text

namespace MockQueue.Message

open Text (byteSize cut byteSize_toList byteSize_append byteSize_cut_le cut_append_of_fits
  cut_append_of_long cut_cut cut_isLongestPrefix cut_eq_self cut_isLastBoundary IsLongestPrefix
  IsLastBoundary)

/-! ## What a sink has kept -/

namespace Sink

/-- What a sink of `capacity` bytes is after `written` was written to it: it holds as much of it as
fits, it is full if that is not all, and until then its room is what the bound leaves over. -/
structure Holds (capacity : Nat) (written : List Char) (s : Sink) : Prop where
  text_eq : s.text.toList = cut capacity written
  text_le : byteSize s.text.toList ≤ capacity
  full_iff : s.full = true ↔ capacity < byteSize written
  room_eq : s.full = false → s.room = capacity - byteSize s.text.toList

theorem holds_empty (capacity : Nat) : Holds capacity [] { room := capacity } where
  text_eq := rfl
  text_le := Nat.zero_le _
  full_iff := by simp
  room_eq := fun _ => rfl

/-- One more piece, whether it fits, does not fit or comes too late. -/
theorem Holds.write {capacity : Nat} {written : List Char} {s : Sink} (holds : Holds capacity written s)
    (p : TextPiece) : Holds capacity (written ++ p.symbols) (s.write p) := by
  by_cases full : s.full = true
  · have long := holds.full_iff.mp full
    rw [write_of_full full]
    refine ⟨?_, holds.text_le, ?_, holds.room_eq⟩
    · rw [holds.text_eq, cut_append_of_long long]
    · rw [byteSize_append]
      exact ⟨fun _ => by omega, fun _ => full⟩
  · have short : byteSize written ≤ capacity := by
      have := mt holds.full_iff.mpr full
      omega
    have whole : s.text.toList = written := by rw [holds.text_eq, cut_eq_self short]
    have room : s.room = capacity - byteSize written := by
      rw [holds.room_eq (by simpa using full), whole]
    have size := p.byteSize_eq
    by_cases fits : p.byteSize ≤ s.room
    · have text : (s.text ++ String.ofList p.symbols).toList = written ++ p.symbols := by
        rw [String.toList_append, String.toList_ofList, whole]
      have total : byteSize (written ++ p.symbols) ≤ capacity := by
        rw [byteSize_append]
        omega
      simp only [Sink.write, full, fits, if_true, Bool.false_eq_true, if_false]
      refine ⟨?_, ?_, ?_, fun _ => ?_⟩
      · rw [text, cut_eq_self total]
      · rwa [text]
      · simpa using total
      · rw [text, byteSize_append, room, size, Nat.sub_sub]
    · have text : (s.text ++ String.ofList (p.cut s.room)).toList = cut capacity (written ++ p.symbols) := by
        rw [String.toList_append, String.toList_ofList, whole, p.cut_eq, cut_append_of_fits short, room]
      simp only [Sink.write, full, fits, Bool.false_eq_true, if_false]
      refine ⟨text, ?_, ?_, fun open_ => by simp at open_⟩
      · rw [text]
        exact byteSize_cut_le _ _
      · simp only [true_iff, byteSize_append]
        omega

/-- Any number of pieces, by induction on their row. -/
theorem Holds.writeAll {capacity : Nat} {written : List Char} {s : Sink} (holds : Holds capacity written s)
    (pieces : List TextPiece) : Holds capacity (written ++ symbolsOf pieces) (s.writeAll pieces) := by
  induction pieces generalizing written s with
  | nil => simpa [symbolsOf, Sink.writeAll] using holds
  | cons p rest ih =>
    have next := ih (holds.write p)
    simpa [symbolsOf, Sink.writeAll, List.append_assoc] using next

end Sink

/-! ## What a formatter makes of it -/

/-- `kept` is the longest character prefix of `marker` that is shorter than `capacity`; nothing, if
none is. -/
structure IsShortenedMarker (capacity : Nat) (marker kept : List Char) : Prop where
  isPrefix : kept <+: marker
  shorter : byteSize kept < capacity ∨ kept = []
  longest : ∀ other, other <+: marker → byteSize other < capacity → other <+: kept

/-- `message` is `full` brought within `capacity` bytes by one cut: `full` itself if it fits and was
not cut before, else the longest prefix of `full` that leaves room for the shortened marker, and that
marker. -/
structure Truncates (capacity : Nat) (marker : String) (full : List Char) (cutBefore : Bool)
    (message : Bounded) : Prop where
  whole : byteSize full ≤ capacity → cutBefore = false → message = ⟨String.ofList full, false⟩
  shortened : capacity < byteSize full ∨ cutBefore = true →
    ∃ mark kept, IsShortenedMarker capacity marker.toList mark ∧
      IsLongestPrefix (capacity - byteSize mark) full kept ∧
      message = ⟨String.ofList (kept ++ mark), true⟩
  bounded : message.text.utf8ByteSize ≤ capacity

namespace Formatter

theorem make_marker_isShortened (capacity : Nat) (marker : String) :
    IsShortenedMarker capacity marker.toList (make capacity marker).marker := by
  have shape := cut_isLongestPrefix (capacity - 1) marker.toList
  have fits := shape.fits
  refine ⟨shape.isPrefix, ?_, fun other isPrefix shorter => shape.longest other isPrefix (by omega)⟩
  by_cases zero : capacity = 0
  · right
    -- Every character takes a byte, so nothing fits into none.
    subst zero
    cases characters : marker.toList with
    | nil => simp [make, characters, cut]
    | cons c rest =>
      have positive := c.utf8Size_pos
      have long : ¬ c.utf8Size ≤ 0 := by omega
      simp [make, characters, cut, long]
  · left
    change byteSize (cut (capacity - 1) marker.toList) < capacity
    omega

theorem make_marker_le (capacity : Nat) (marker : String) :
    byteSize (make capacity marker).marker ≤ capacity := by
  rcases (make_marker_isShortened capacity marker).shorter with shorter | none
  · omega
  · simp [none]

/-! ## One cut of the whole -/

/-- A text brought within the bound of a formatter by one cut, unless it fits and was not cut
before. -/
def clip (f : Formatter) (full : List Char) (cutBefore : Bool) : Bounded :=
  if f.capacity < byteSize full ∨ cutBefore = true then
    ⟨String.ofList (cut (f.capacity - byteSize f.marker) full ++ f.marker), true⟩
  else ⟨String.ofList full, false⟩

theorem clip_truncates (capacity : Nat) (marker : String) (full : List Char) (cutBefore : Bool) :
    Truncates capacity marker full cutBefore ((make capacity marker).clip full cutBefore) := by
  by_cases long : capacity < byteSize full ∨ cutBefore = true
  · have message : (make capacity marker).clip full cutBefore =
        ⟨String.ofList (cut (capacity - byteSize (make capacity marker).marker) full ++
          (make capacity marker).marker), true⟩ := if_pos long
    refine ⟨fun short uncut => ?_, fun _ => ?_, ?_⟩
    · rcases long with long | isCut
      · omega
      · simp [uncut] at isCut
    · exact ⟨_, _, make_marker_isShortened capacity marker, cut_isLongestPrefix _ full, message⟩
    · have markerFits := make_marker_le capacity marker
      have keptFits := byteSize_cut_le (capacity - byteSize (make capacity marker).marker) full
      rw [message, ← byteSize_toList, String.toList_ofList, byteSize_append]
      omega
  · have message : (make capacity marker).clip full cutBefore = ⟨String.ofList full, false⟩ := if_neg long
    refine ⟨fun _ _ => message, fun isLong => absurd isLong long, ?_⟩
    rw [message, ← byteSize_toList, String.toList_ofList]
    exact Nat.le_of_not_lt fun tooLong => long (.inl tooLong)

/-- The cut in the sink and the cut that makes room for the marker are one cut. -/
theorem finish_eq_clip {f : Formatter} {full : List Char} {s : Sink} (holds : s.Holds f.capacity full)
    (cutBefore : Bool) : f.finish { s with full := s.full || cutBefore } = f.clip full cutBefore := by
  by_cases long : f.capacity < byteSize full ∨ cutBefore = true
  · have isFull : (s.full || cutBefore) = true := by rwa [Bool.or_eq_true, holds.full_iff]
    rw [clip, if_pos long]
    simp only [finish, isFull, if_true, holds.text_eq, cut_cut (Nat.sub_le _ _)]
  · have isOpen : (s.full || cutBefore) = false := by
      rwa [← Bool.not_eq_true, Bool.or_eq_true, holds.full_iff]
    have short : byteSize full ≤ f.capacity := Nat.le_of_not_lt fun tooLong => long (.inl tooLong)
    have text : s.text = String.ofList full := by
      rw [← cut_eq_self short, ← holds.text_eq, String.ofList_toList]
    rw [clip, if_neg long]
    simp only [finish, isOpen, Bool.false_eq_true, if_false, text]

theorem sink_holds (f : Formatter) (pieces : List TextPiece) :
    (f.sink.writeAll pieces).Holds f.capacity (symbolsOf pieces) :=
  (Sink.holds_empty f.capacity).writeAll pieces

theorem finish_writeAll (f : Formatter) (pieces : List TextPiece) :
    f.finish (f.sink.writeAll pieces) = f.clip (symbolsOf pieces) false := by
  simpa using finish_eq_clip (f.sink_holds pieces) false

/-- Ready text is clipped. -/
theorem bound_eq_clip (f : Formatter) (text : String) (cutBefore : Bool) :
    f.bound text cutBefore = f.clip text.toList cutBefore := by
  have holds : (f.sink.write (.run text.toList)).Holds f.capacity text.toList := by
    simpa [Piece.symbols, sink] using (Sink.holds_empty f.capacity).write (.run text.toList)
  exact finish_eq_clip holds cutBefore

/-- What a writer puts together is clipped, wherever its pieces end and whether it stops or not. -/
theorem compose_eq_clip (f : Formatter) (pieces : List String) (keepGoing : Bool) :
    f.compose pieces keepGoing = f.clip (pieces.flatMap String.toList) false := by
  have joined : symbolsOf (pieces.map fun piece => Piece.run piece.toList) = pieces.flatMap String.toList := by
    simp [symbolsOf, List.flatMap_map, Piece.symbols]
  rw [← joined, ← finish_writeAll]
  simp only [compose, Sink.writeUntilFull_eq_writeAll, ite_self]

/-- What a template makes is clipped, unless a request is refused before the bound is reached. -/
theorem format_eq_clip (f : Formatter) (template : String) (args : List Argument) :
    f.format template args =
      match (render f.precisionLimit template.toList args).refused with
      | none => .ok (f.clip (render f.precisionLimit template.toList args).text false)
      | some refusal =>
        if byteSize (render f.precisionLimit template.toList args).text ≤ f.capacity then .error refusal
        else .ok (f.clip (render f.precisionLimit template.toList args).text false) := by
  have fullIff := (f.sink_holds (render f.precisionLimit template.toList args).pieces).full_iff
  have finished := f.finish_writeAll (render f.precisionLimit template.toList args).pieces
  simp only [format, Sink.writeUntilFull_eq_writeAll, finished, Rendering.text]
  cases refused : (render f.precisionLimit template.toList args).refused with
  | none => simp
  | some refusal =>
    by_cases short : byteSize (symbolsOf (render f.precisionLimit template.toList args).pieces) ≤ f.capacity
    · have isOpen : (f.sink.writeAll (render f.precisionLimit template.toList args).pieces).full = false := by
        rw [← Bool.not_eq_true, fullIff]
        omega
      simp [isOpen, short]
    · have isFull := fullIff.mpr (Nat.lt_of_not_le short)
      simp [isFull, short]

/-- Every message is one cut of the whole output at the bound, whatever the bound, the marker and the
pieces that the output comes in. A template has no message only if a request of it is refused while
everything before it fits. All the while the sink holds a prefix of what was written, no more than
the bound, and its room is what the bound leaves over; a cut always is the last boundary between
characters that has room. -/
theorem formatter_truncates_exactly (capacity : Nat) (marker : String) :
    (∀ (template : String) (args : List Argument),
      let rendering := render (make capacity marker).precisionLimit template.toList args
      match (make capacity marker).format template args with
      | .ok message => Truncates capacity marker rendering.text false message
      | .error refusal => rendering.refused = some refusal ∧ byteSize rendering.text ≤ capacity) ∧
    (∀ (pieces : List String) (keepGoing : Bool),
      Truncates capacity marker (pieces.flatMap String.toList) false
        ((make capacity marker).compose pieces keepGoing)) ∧
    (∀ (text : String) (cutBefore : Bool),
      Truncates capacity marker text.toList cutBefore ((make capacity marker).bound text cutBefore)) ∧
    (∀ pieces : List TextPiece,
      ((make capacity marker).sink.writeAll pieces).Holds capacity (symbolsOf pieces) ∧
        (make capacity marker).sink.writeUntilFull pieces = (make capacity marker).sink.writeAll pieces) ∧
    (∀ (text : String) (room : Nat), IsLastBoundary text room (byteSize (cut room text.toList))) ∧
    byteSize (make capacity marker).marker ≤ capacity := by
  refine ⟨fun template args => ?_, fun pieces keepGoing => ?_, fun text cutBefore => ?_, fun pieces => ?_,
    cut_isLastBoundary, make_marker_le capacity marker⟩
  · have cuts := clip_truncates capacity marker
      (render (make capacity marker).precisionLimit template.toList args).text false
    simp only [format_eq_clip]
    cases refused : (render (make capacity marker).precisionLimit template.toList args).refused with
    | none => exact cuts
    | some refusal =>
      by_cases short : byteSize (render (make capacity marker).precisionLimit template.toList args).text ≤
          (make capacity marker).capacity
      · simp only [short, if_true]
        exact ⟨trivial, short⟩
      · simp only [short, if_false]
        exact cuts
  · rw [compose_eq_clip]
    exact clip_truncates capacity marker _ false
  · rw [bound_eq_clip]
    exact clip_truncates capacity marker _ cutBefore
  · exact ⟨(make capacity marker).sink_holds pieces, Sink.writeUntilFull_eq_writeAll _ _⟩

end Formatter

end MockQueue.Message

import Mathlib.Algebra.Group.Nat.Defs
import MockQueue.Proofs.Passages
import MockQueue.Proofs.Telling

/-!
# What verifying says about leftovers

Verifying reports one message: a heading with the number of expectations that are left, and a line for
each of them in order. The names go into the message as they are, since the template takes the finished
listing as one argument (`leftOver_text`); the lines can be told apart again as long as no name breaks
its line (`listingOf_injective`). `verify_reports_leftovers` puts this together.
-/

namespace MockQueue.Message

/-- A run of literal characters is copied. -/
theorem filled_literals (write : Serving → List Char) (text : List Char) (rest : List Segment)
    (args : List Argument) :
    filled write (passages (text.map .literal ++ rest) args) = text ++ filled write (passages rest args) := by
  induction text with
  | nil => rfl
  | cons c text ih =>
    rw [List.map_cons, List.cons_append, passages, filled_copied, ih]
    rfl

end MockQueue.Message

namespace MockQueue.Session

open Message (Argument Bounded DirectiveText Segment Serving Truncates filled filled_literals passages)

/-! ## The listing -/

/-- The line of a listing that names an expectation at a position. -/
def listingLine : String × Nat → String
  | (name, position) => " " ++ toString position ++ ". " ++ name ++ "()\n"

/-- Names listed one a line, numbered from one. -/
def listingOf (names : List String) : String :=
  String.join ((names.zipIdx 1).map listingLine)

theorem listing_eq (left : List Expectation) : Queue.listing left = listingOf (left.map Expectation.api) := by
  suffices fromAny : ∀ position, Queue.listingFrom position left =
      String.join (((left.map Expectation.api).zipIdx position).map listingLine) from fromAny 1
  induction left with
  | nil => exact fun _ => rfl
  | cons e rest ih =>
    intro position
    rw [Queue.listingFrom, ih (position + 1), List.map_cons, List.zipIdx_cons, List.map_cons, String.join_cons]
    rfl

/-- Two names without a line break that start equally long lines: they and what follows them are equal. -/
theorem line_cancel {name other rest more : List Char} (unbroken : '\n' ∉ name) (unbrokenOther : '\n' ∉ other)
    (same : name ++ "()\n".toList ++ rest = other ++ "()\n".toList ++ more) : name = other ∧ rest = more := by
  have firstLine : ∀ text after : List Char, '\n' ∉ text →
      (text ++ "()\n".toList ++ after).takeWhile (· != '\n') = text ++ "()".toList := by
    intro text after unbroken
    have inLine : ∀ c ∈ text ++ "()".toList, (c != '\n') = true := by
      intro c member
      rcases List.mem_append.mp member with inText | inMark
      · exact bne_iff_ne.mpr fun broken => unbroken (broken ▸ inText)
      · have mark : c = '(' ∨ c = ')' := by simpa using inMark
        rcases mark with rfl | rfl <;> rfl
    have split : text ++ "()\n".toList ++ after = (text ++ "()".toList) ++ '\n' :: after := by simp
    rw [split, List.takeWhile_append_of_pos inLine]
    simp
  have lines := congrArg (List.takeWhile (· != '\n')) same
  rw [firstLine name rest unbroken, firstLine other more unbrokenOther] at lines
  obtain rfl := List.append_cancel_right lines
  exact ⟨rfl, List.append_cancel_left same⟩

/-- A listing tells which names it lists, and in which order. -/
theorem listingOf_injective {names others : List String} (unbroken : ∀ name ∈ names, '\n' ∉ name.toList)
    (unbrokenOthers : ∀ name ∈ others, '\n' ∉ name.toList) (same : listingOf names = listingOf others) :
    names = others := by
  -- The induction goes through the positions, which two listings share line by line.
  suffices fromAny : ∀ position, String.join ((names.zipIdx position).map listingLine) =
      String.join ((others.zipIdx position).map listingLine) → names = others from fromAny 1 same
  clear same
  have blankFirst : ∀ (name : String) (position : Nat) (rest : List String),
      String.join ((List.zipIdx (name :: rest) position).map listingLine) ≠ "" := by
    intro name position rest empty
    have blank := congrArg String.toList empty
    simp [listingLine] at blank
  induction names generalizing others with
  | nil =>
    intro position same
    cases others with
    | nil => rfl
    | cons other more => exact absurd same.symm (blankFirst other position more)
  | cons name rest ih =>
    intro position same
    cases others with
    | nil => exact absurd same (blankFirst name position rest)
    | cons other more =>
      have texts := congrArg String.toList same
      simp only [List.zipIdx_cons, List.map_cons, String.join_cons, String.toList_append, listingLine,
        List.append_assoc, List.append_cancel_left_eq] at texts
      obtain ⟨names, later⟩ := line_cancel (unbroken name (List.mem_cons_self ..))
        (unbrokenOthers other (List.mem_cons_self ..)) (by simpa using texts)
      obtain rfl := String.toList_inj.mp names
      have tail := ih (fun name member => unbroken name (List.mem_cons_of_mem _ member))
        (fun name member => unbrokenOthers name (List.mem_cons_of_mem _ member)) (position + 1)
        (String.toList_inj.mp (by simpa only [String.toList_join] using later))
      rw [tail]

/-! ## The message -/

/-- The heading of the report on leftovers. -/
def leftOverHeading (count : Nat) : String :=
  "\nThere are " ++ toString count
    ++ " unfulfilled expectations. The ordered list of unfulfilled expectations is:\n"

/-- The directives of the report: a number, then the listing. -/
theorem segments_leftOver :
    Message.segments leftOverTemplate.toList =
      "\nThere are ".toList.map .literal ++ .directive ⟨[], [], none, [], some 'd'⟩ ::
        (" unfulfilled expectations. The ordered list of unfulfilled expectations is:\n".toList.map .literal
          ++ [.directive ⟨[], [], none, [], some 's'⟩]) := by
  decide +kernel

/-- A count that fits a signed word is written in full. -/
theorem padded_count (limit count : Nat) (fits : count < 2 ^ 63) (d : DirectiveText)
    (bare : d = ⟨[], [], none, [], some 'd'⟩) :
    Serving.padded (Serving.layout limit ⟨d, .signed, .uint (UInt64.ofNat count)⟩)
      ⟨d, .signed, .uint (UInt64.ofNat count)⟩ = (toString count).toList := by
  have value : (Argument.uint (UInt64.ofNat count)).toSigned? = some (count : Int) := by
    rw [Argument.toSigned?, UInt64.toInt64_ofNat', Int64.toInt_ofNat_of_lt fits]
  have field : Message.Conversion.field .signed {} (.uint (UInt64.ofNat count)) =
      { body := (toString count).toList, zeroable := true } := by
    have digits : Number.Radix.decimal.digits count = (toString count).toList := String.toList_ofList.symm
    rw [Message.Conversion.field, value]
    simp only [Message.signedField, Message.integerDigits, Message.signText, Int.natAbs_natCast, digits]
    simp
  subst bare
  change Message.symbolsOf ((Message.Conversion.field .signed {} (.uint (UInt64.ofNat count))).pieces {}) = _
  rw [field]
  simp [Message.Field.pieces, Message.symbolsOf, Message.Piece.symbols]

theorem padded_listing (limit : Nat) (listing : String) (d : DirectiveText)
    (bare : d = ⟨[], [], none, [], some 's'⟩) :
    Serving.padded (Serving.layout limit ⟨d, .text, .text listing⟩) ⟨d, .text, .text listing⟩ =
      listing.toList := by
  subst bare
  simp [Serving.padded, Serving.layout, Message.Conversion.field, Argument.toText, Message.Field.pieces,
    Message.symbolsOf, Message.Piece.symbols, DirectiveText.layout, Message.Layout.clamp, Message.Flags.ofChars,
    Message.boundedNumber]

/-- The report is its heading and the listing, whatever the names are. -/
theorem leftOver_text (limit count : Nat) (fits : count < 2 ^ 63) (listing : String) :
    (Message.render limit leftOverTemplate.toList [.uint (UInt64.ofNat count), .text listing]).text =
      (leftOverHeading count ++ listing).toList := by
  have noFloat : ∀ part ∈ Message.segments leftOverTemplate.toList, part.asksFloat = false := by decide +kernel
  have unrefused : (Message.renderSegments limit (Message.segments leftOverTemplate.toList)
      [.uint (UInt64.ofNat count), .text listing]).refused = none :=
    Message.renderSegments_unrefused noFloat _
  rw [Message.renderSegments_eq] at unrefused
  rw [Message.render, Message.renderSegments_eq, Message.text_eq limit _ unrefused, segments_leftOver,
    filled_literals]
  have number : passages (.directive ⟨[], [], none, [], some 'd'⟩ ::
        (" unfulfilled expectations. The ordered list of unfulfilled expectations is:\n".toList.map .literal
          ++ [.directive ⟨[], [], none, [], some 's'⟩])) [.uint (UInt64.ofNat count), .text listing] =
      .served ⟨⟨[], [], none, [], some 'd'⟩, .signed, .uint (UInt64.ofNat count)⟩ ::
        passages (" unfulfilled expectations. The ordered list of unfulfilled expectations is:\n".toList.map .literal
          ++ [.directive ⟨[], [], none, [], some 's'⟩]) [.text listing] := rfl
  have names : passages [.directive ⟨[], [], none, [], some 's'⟩] [.text listing] =
      [.served ⟨⟨[], [], none, [], some 's'⟩, .text, .text listing⟩] := rfl
  rw [number, Message.filled_served, filled_literals, names, Message.filled_served,
    padded_count limit count fits _ rfl, padded_listing limit listing _ rfl]
  simp [leftOverHeading]

/-! ## Verifying -/

/-- Verifying a session with expectations left over answers their number and their whole listing, and
reports one message: the heading and the listing, cut once at the bound. With nothing left it answers
that all is well and reports nothing. From the listing alone the names can be read back, if none of them
breaks its line. The number of expectations is taken to fit a signed word, as the number of things in
memory does. -/
theorem verify_reports_leftovers (settings : Settings) (queue : Queue) (binding : Binding)
    (fits : queue.length < 2 ^ 63) :
    let s : Session := { settings, queue, binding }
    (s.queue.items ≠ [] →
      let count := s.queue.length
      let listing := listingOf s.queue.pending
      ∃ message : Bounded,
        Truncates s.settings.capacity s.settings.marker (leftOverHeading count ++ listing).toList false message ∧
        reports (verify s).trace = s.binding.reporter.toList.map (fun r => (r, message.text)) ∧
        (verify s).outcome = (s.binding.fate message.text).map (fun _ => .error (.unfulfilled count listing)) ∧
        ∀ r, s.binding.reporter = some r → r.Returns →
          (verify s).outcome = .ok (.error (.unfulfilled count listing)) ∧
            reports (verify s).trace = [(r, message.text)]) ∧
    (s.queue.items = [] → (verify s).outcome = .ok (.ok ()) ∧ reports (verify s).trace = []) ∧
    ((∀ name ∈ s.queue.pending, '\n' ∉ name.toList) →
      ∀ names : List String, (∀ name ∈ names, '\n' ∉ name.toList) →
        listingOf names = listingOf s.queue.pending → names = s.queue.pending) := by
  intro s
  refine ⟨fun left => ?_, fun none => ?_, fun unbroken names unbrokenNames same => ?_⟩
  · intro count listing
    obtain ⟨e, rest, items⟩ := List.exists_cons_of_ne_nil left
    have counted : (e :: rest).length = count := congrArg List.length items.symm
    have listed : Queue.listing (e :: rest) = listing := by
      rw [listing_eq, ← items]
      rfl
    have message_eq : s.leftOverMessage (e :: rest) =
        s.formatter.clip (leftOverHeading count ++ listing).toList false := by
      rw [leftOverMessage, counted, listed, leftOver_text _ count fits]
    have verified := verify_run_cons (s := s) (congrArg Queue.mk items)
    simp only [counted, listed] at verified
    have told : reports (verify s).trace =
        s.binding.reporter.toList.map fun r => (r, (s.leftOverMessage (e :: rest)).text) := by
      rw [verified]
      simp only [reports_append, reports_discardAll, reports_logged, reports_nil, List.nil_append, reports_told]
    refine ⟨s.leftOverMessage (e :: rest), ?_, told, by rw [verified], fun r bound returns => ?_⟩
    · rw [message_eq]
      exact Message.Formatter.clip_truncates s.settings.capacity s.settings.marker _ false
    · rw [told, verified]
      simp [Binding.fate, bound, Reporter.reply, returns (s.leftOverMessage (e :: rest)).text, Except.map]
  · rw [verify_run_nil (s := s) (congrArg Queue.mk none)]
    exact ⟨rfl, rfl⟩
  · exact listingOf_injective unbrokenNames unbroken same

/-- Two leftovers whose names look like directives, under a reporter that comes back: the names stand in
the answer as they are, and no other two names have this listing. -/
theorem verify_reports_leftovers_percent :
    let guard : UserType := { number := 0, name := "Guard" }
    let s : Session :=
      { queue := { items := [⟨"100%d", .tracked guard 1⟩, ⟨"%s%n", .tracked guard 2⟩] }
        binding := ⟨some (.collector "A")⟩ }
    s.queue.length < 2 ^ 63 ∧
      (verify s).outcome = .ok (.error (.unfulfilled 2 " 1. 100%d()\n 2. %s%n()\n")) ∧
      (reports (verify s).trace).length = 1 ∧
      ∀ first second : String, '\n' ∉ first.toList → '\n' ∉ second.toList →
        listingOf [first, second] = " 1. 100%d()\n 2. %s%n()\n" → first = "100%d" ∧ second = "%s%n" := by
  intro guard s
  have fits : s.queue.length < 2 ^ 63 := by decide
  have listed : listingOf s.queue.pending = " 1. 100%d()\n 2. %s%n()\n" := by decide +kernel
  obtain ⟨left, -, decodes⟩ := verify_reports_leftovers s.settings s.queue s.binding fits
  obtain ⟨message, -, -, -, answered⟩ := left (by simp [s])
  obtain ⟨outcome, told⟩ := answered (.collector "A") rfl fun _ => rfl
  rw [listed] at outcome decodes
  refine ⟨fits, outcome, by rw [told]; rfl, fun first second unbrokenFirst unbrokenSecond same => ?_⟩
  have unbroken : ∀ name ∈ s.queue.pending, '\n' ∉ name.toList := by decide +kernel
  have pair := decodes unbroken [first, second] (by simp [unbrokenFirst, unbrokenSecond]) same
  simpa [s, Queue.pending] using pair

end MockQueue.Session

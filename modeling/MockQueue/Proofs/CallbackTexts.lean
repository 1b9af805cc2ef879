import MockQueue.Proofs.AuditTrail
import MockQueue.Proofs.Encoding
import MockQueue.Proofs.FrozenSettings

/-!
# What reaches a callback

A callback gets a message as a row of bytes with a zero at its end, zero characters being spelled out. If only
foreign code uses a session, then none of its messages has a zero character: texts come in as bytes without a
zero, and so do the names in the queue (`PlainAction.keeps`). So the message is never rewritten, and the callback
reads exactly the message that the session brought within the bound and announced (`callback_texts_exact`).
-/

namespace MockQueue

open Text (ZeroFree zeroFree_append zeroFree_replicate)

/-! ## Texts without a zero character -/

theorem zeroFree_digits (n : Nat) : ZeroFree (Nat.toDigits 10 n) := by
  intro isZero
  have digit := Nat.isDigit_of_mem_toDigits (by decide) (by decide) isZero
  exact absurd digit (by decide)

theorem zeroFree_toString (n : Nat) : ZeroFree (toString n).toList := by
  change ZeroFree n.repr.toList
  rw [Nat.toList_repr]
  exact zeroFree_digits n

theorem zeroFree_concat {front back : String} (first : ZeroFree front.toList) (second : ZeroFree back.toList) :
    ZeroFree (front ++ back).toList := by
  rw [String.toList_append]
  exact zeroFree_append.mpr ⟨first, second⟩

theorem Queue.zeroFree_listing {items : List Expectation} (names : ∀ e ∈ items, ZeroFree e.api.toList) :
    ZeroFree (Queue.listing items).toList := by
  suffices fromAny : ∀ position, ZeroFree (Queue.listingFrom position items).toList from fromAny 1
  induction items with
  | nil =>
    intro position
    exact Text.zeroFree_nil
  | cons e rest ih =>
    intro position
    have number := zeroFree_concat (by decide : ZeroFree " ".toList) (zeroFree_toString position)
    have dotted := zeroFree_concat number (by decide : ZeroFree ". ".toList)
    have name := zeroFree_concat dotted (names e (List.mem_cons_self ..))
    have line := zeroFree_concat name (by decide : ZeroFree "()\n".toList)
    exact zeroFree_concat line (ih (fun e member => names e (List.mem_cons_of_mem _ member)) (position + 1))

theorem Kind.zeroFree_typeName (k : Kind) : ZeroFree k.typeName.toList := by
  cases k with
  | plain k => cases k <;> decide
  | tracked type => exact type.noZero
  | conditions stub => exact stub.conditions.noZero
  | foreign => decide

/-! ## Rendered messages -/

namespace Message

namespace Formatter

/-- A message has no zero character, if what it shows and the marker have none. -/
theorem zeroFree_clip {f : Formatter} (marker : ZeroFree f.marker) {full : List Char} (zeroFree : ZeroFree full)
    (cutBefore : Bool) : ZeroFree (f.clip full cutBefore).text.toList := by
  unfold clip
  split
  · rw [String.toList_ofList, zeroFree_append]
    exact ⟨zeroFree.of_subset (Text.cut_isPrefix _ full).subset, marker⟩
  · rwa [String.toList_ofList]

end Formatter

/-- A number, or a text without a zero character. -/
def Argument.IsPlain : Argument → Prop
  | .uint _ => True
  | .text s => ZeroFree s.toList
  | _ => False

/-- A part of a template that asks for nothing but a signed number or a text, and has no zero character itself. -/
def Segment.isPlain : Segment → Bool
  | .literal c => c != '\x00'
  | .directive d => decide (ZeroFree d.print) && (d.conversion? == some .signed || d.conversion? == some .text)

theorem zeroFree_pieces {f : Field} (lead : ZeroFree f.lead) (body : ZeroFree f.body) (layout : Layout) :
    ZeroFree (symbolsOf (f.pieces layout)) := by
  have blanks := zeroFree_replicate (by decide : ' ' ≠ '\x00') (layout.width - (f.lead.length + f.body.length))
  have zeros := zeroFree_replicate (by decide : '0' ≠ '\x00') (layout.width - (f.lead.length + f.body.length))
  unfold Field.pieces
  split
  · simpa [symbolsOf, Piece.symbols] using ⟨lead, body, blanks⟩
  · split
    · simpa [symbolsOf, Piece.symbols] using ⟨lead, zeros, body⟩
    · simpa [symbolsOf, Piece.symbols] using ⟨blanks, lead, body⟩

theorem zeroFree_signText (negative : Bool) (flags : Flags) : ZeroFree (signText negative flags) := by
  unfold signText
  repeat' split
  all_goals decide

theorem zeroFree_integerDigits (value : Nat) (precision : Option Nat) :
    ZeroFree (integerDigits .decimal value precision) := by
  unfold integerDigits
  split
  · exact Text.zeroFree_nil
  · exact zeroFree_append.mpr ⟨zeroFree_replicate (by decide) _, zeroFree_digits value⟩

theorem zeroFree_toText {arg : Argument} (plain : arg.IsPlain) : ZeroFree arg.toText := by
  cases arg with
  | uint v => exact zeroFree_digits v.toNat
  | text s => exact plain
  | int | float | char | address => cases plain

theorem zeroFree_field {conversion : Conversion} (asked : conversion = .signed ∨ conversion = .text) (layout : Layout)
    {arg : Argument} (plain : arg.IsPlain) :
    ZeroFree (conversion.field layout arg).lead ∧ ZeroFree (conversion.field layout arg).body := by
  have whole := zeroFree_toText plain
  rcases asked with rfl | rfl
  · cases arg with
    | uint v => exact ⟨zeroFree_signText _ _, zeroFree_integerDigits _ _⟩
    | text s => exact ⟨Text.zeroFree_nil, whole⟩
    | int | float | char | address => cases plain
  · simp only [Conversion.field]
    cases layout.precision with
    | none => exact ⟨Text.zeroFree_nil, whole⟩
    | some limit => exact ⟨Text.zeroFree_nil, whole.of_subset (List.take_subset limit _)⟩

theorem Rendering.zeroFree_after {pieces : List TextPiece} {r : Rendering} (front : ZeroFree (symbolsOf pieces))
    (back : ZeroFree r.text) : ZeroFree (r.after pieces).text := by
  have joined : (r.after pieces).text = symbolsOf pieces ++ r.text := by simp [after, text, symbolsOf]
  rw [joined]
  exact zeroFree_append.mpr ⟨front, back⟩

theorem symbolsOf_run (text : List Char) : symbolsOf [Piece.run text] = text :=
  List.append_nil text

/-- Plain parts write plain arguments without a zero character. -/
theorem zeroFree_renderSegments (limit : Nat) {parts : List Segment} (plain : ∀ part ∈ parts, part.isPlain = true)
    {args : List Argument} (given : ∀ arg ∈ args, arg.IsPlain) :
    ZeroFree (renderSegments limit parts args).text := by
  induction parts generalizing args with
  | nil => exact Text.zeroFree_nil
  | cons part rest ih =>
    have here := plain part (List.mem_cons_self ..)
    have later {args : List Argument} (given : ∀ arg ∈ args, arg.IsPlain) :
        ZeroFree (renderSegments limit rest args).text :=
      ih (fun part member => plain part (List.mem_cons_of_mem _ member)) given
    have copied {text : List Char} (zeroFree : ZeroFree text) :
        ZeroFree ((renderSegments limit rest args).after [.run text]).text := by
      refine Rendering.zeroFree_after ?_ (later given)
      rwa [symbolsOf_run]
    cases part with
    | literal c =>
      have other : c ≠ '\x00' := bne_iff_ne.mp here
      exact copied (zeroFree_replicate other 1)
    | directive d =>
      simp only [Segment.isPlain, Bool.and_eq_true, decide_eq_true_eq, Bool.or_eq_true, beq_iff_eq] at here
      obtain ⟨printed, asked⟩ := here
      obtain ⟨conversion, found, kind⟩ : ∃ conversion, d.conversion? = some conversion ∧
          (conversion = .signed ∨ conversion = .text) := by
        rcases asked with found | found
        · exact ⟨_, found, .inl rfl⟩
        · exact ⟨_, found, .inr rfl⟩
      unfold renderSegments
      by_cases percent : d.conversion = some '%'
      · rw [if_pos percent]
        exact copied (by decide)
      · rw [if_neg percent, found]
        cases args with
        | nil =>
          -- No argument is left, so the directive is copied as written.
          exact copied printed
        | cons arg others =>
          have served : conversion.refusal? (d.layout.clamp limit) arg = none := by
            apply refusal?_eq_none
            rintro style upper rfl
            rcases kind with other | other <;> cases other
          have field := zeroFree_field kind (d.layout.clamp limit) (given arg (List.mem_cons_self ..))
          simp only [served]
          exact Rendering.zeroFree_after (zeroFree_pieces field.1 field.2 _)
            (later fun arg member => given arg (List.mem_cons_of_mem _ member))

end Message

/-! ## Sessions that foreign code uses -/

namespace Session

/-- What foreign code does to a session, with texts that have no zero character. -/
inductive PlainAction : Action → Prop where
  | bindReporter (c : Callback) : PlainAction (.command (.bindReporter (.callback c)))
  | reset : PlainAction (.command .reset)
  | verify : PlainAction (.command .verify)
  | peek : PlainAction (.command .peek)
  | consume : PlainAction (.command .consume)
  | register {api : String} (payload : Payload) (name : ZeroFree api.toList) :
    PlainAction (.command (.register api payload))
  | fail {text : String} (zeroFree : ZeroFree text.toList) : PlainAction (.command (.fail text))
  | failPreformatted {text : String} (cutBefore : Bool) (zeroFree : ZeroFree text.toList) :
    PlainAction (.command (.failPreformatted text cutBefore))

/-- The marker and the names in the queue have no zero character, and what is bound is a callback. -/
structure Plain (s : Session) : Prop where
  marker : ZeroFree s.formatter.marker
  names : ∀ e ∈ s.queue.items, ZeroFree e.api.toList
  callback : ∀ r, s.binding.reporter = some r → ∃ c, r = .callback c

/-- The step left a plain session, and told nothing with a zero character. -/
structure StaysPlain {α : Type} (step : Step Session α) : Prop where
  left : Plain step.state
  told : ∀ report ∈ reports step.trace, ZeroFree report.2.toList

section

variable {α : Type} {s : Session}

theorem staysPlain_of_silent {step : Step Session α} (left : Plain step.state) (silent : reports step.trace = []) :
    StaysPlain step := by
  refine ⟨left, ?_⟩
  rw [silent]
  exact nofun

theorem staysPlain_map {x : Run Session α} {β : Type} (g : α → β) (stays : StaysPlain (x s)) :
    StaysPlain ((do return g (← x) : Run Session β) s) := by
  rw [Run.run_bind_pure]
  exact ⟨stays.left, stays.told⟩

/-- A fresh session is plain if the marker of its settings has no zero character. -/
theorem plain_fresh {settings : Settings} (marker : ZeroFree settings.marker.toList) : Plain (.fresh settings) :=
  ⟨marker.of_subset (Text.cut_isPrefix _ _).subset, nofun, nofun⟩

/-- A text without a zero character is told as a message without one. -/
theorem Plain.told (plain : Plain s) {full : List Char} (zeroFree : ZeroFree full) (cutBefore : Bool) (b : Binding) :
    ∀ report ∈ reports (s.told b (s.formatter.clip full cutBefore)), ZeroFree report.2.toList := by
  intro report member
  rw [reports_told] at member
  obtain ⟨r, -, rfl⟩ := List.mem_map.mp member
  exact Message.Formatter.zeroFree_clip plain.marker zeroFree cutBefore

theorem Plain.compose (plain : Plain s) {text : String} (zeroFree : ZeroFree text.toList) (b : Binding) :
    ∀ report ∈ reports (s.told b (s.formatter.compose [text] false)), ZeroFree report.2.toList := by
  have whole : [text].flatMap String.toList = text.toList := by simp
  rw [Message.Formatter.compose_eq_clip, whole]
  exact plain.told zeroFree false b

theorem Plain.fail (plain : Plain s) {text : String} (zeroFree : ZeroFree text.toList) : StaysPlain (fail text s) := by
  rw [fail_run]
  exact ⟨plain, plain.compose zeroFree s.binding⟩

theorem Plain.failPreformatted (plain : Plain s) {text : String} (zeroFree : ZeroFree text.toList) (cutBefore : Bool) :
    StaysPlain (failPreformatted text cutBefore s) := by
  rw [failPreformatted_run, deliver_run, Message.Formatter.bound_eq_clip]
  exact ⟨plain, plain.told zeroFree cutBefore s.binding⟩

theorem Plain.bindReporter (plain : Plain s) (c : Callback) : StaysPlain (bindReporter (.callback c) s) := by
  have rebound : Plain (s.under ⟨some (.callback c)⟩) := by
    refine ⟨plain.marker, plain.names, ?_⟩
    rintro r ⟨⟩
    exact ⟨c, rfl⟩
  obtain ⟨settings, formatter, queue, ⟨bound⟩⟩ := s
  cases bound with
  | none => exact staysPlain_of_silent rebound rfl
  | some r =>
    have ran := bindReporter_run_bound { settings, formatter, queue } r (.callback c)
    have already : ZeroFree Error.reporterAlreadyBound.message.toList := by decide
    have told := plain.compose already ⟨some r⟩
    simp only [under] at ran
    rw [ran]
    split
    · refine ⟨rebound, fun report member => ?_⟩
      rw [reports_append] at member
      rcases List.mem_append.mp member with before | last
      · exact told report before
      · cases last
    · exact ⟨plain, told⟩

theorem Plain.peekLatest (plain : Plain s) : StaysPlain (peekLatest s) := by
  rcases queue_eq_nil_or_append s.queue with items | ⟨front, e, items⟩
  · rw [peekLatest_run_nil items, raise_run]
    exact ⟨plain, plain.compose (by decide) s.binding⟩
  · rw [peekLatest_run items]
    exact staysPlain_of_silent plain rfl

theorem Plain.consumeNext (plain : Plain s) : StaysPlain (consumeNext s) := by
  cases items : s.queue.items with
  | nil =>
    rw [consumeNext_run_nil (congrArg Queue.mk items)]
    exact staysPlain_of_silent plain rfl
  | cons e rest =>
    rw [consumeNext_run_cons (congrArg Queue.mk items)]
    refine staysPlain_of_silent ⟨plain.marker, fun e member => plain.names e ?_, plain.callback⟩ rfl
    rw [items]
    exact List.mem_cons_of_mem _ member

theorem Plain.register (plain : Plain s) {api : String} (name : ZeroFree api.toList) (payload : Payload) :
    StaysPlain (register api payload s) := by
  refine staysPlain_of_silent ⟨plain.marker, fun e member => ?_, plain.callback⟩ rfl
  rcases List.mem_append.mp member with before | last
  · exact plain.names e before
  · obtain rfl := List.mem_singleton.mp last
    exact name

theorem Plain.editLatest (plain : Plain s) (f : Payload → Payload) :
    Plain { s with queue := s.queue.editLatest f } := by
  refine ⟨plain.marker, fun e member => ?_, plain.callback⟩
  rcases queue_eq_nil_or_append s.queue with items | ⟨front, latest, items⟩
  · rw [items] at member
    cases member
  · have names := plain.names
    simp only [items, Queue.editLatest_append] at member names
    rcases List.mem_append.mp member with before | last
    · exact names e (List.mem_append_left _ before)
    · obtain rfl := List.mem_singleton.mp last
      exact names latest (List.mem_append_right _ (List.mem_singleton_self _))

theorem Plain.leftOver (plain : Plain s) {left : List Expectation} (names : ∀ e ∈ left, ZeroFree e.api.toList)
    (b : Binding) :
    ∀ report ∈ reports (s.told b (s.leftOverMessage left)), ZeroFree report.2.toList := by
  refine plain.told (Message.zeroFree_renderSegments _ (by decide +kernel) ?_) false b
  intro arg member
  simp only [List.mem_cons, List.not_mem_nil, or_false] at member
  rcases member with rfl | rfl
  · trivial
  · exact Queue.zeroFree_listing names

theorem plain_verified (plain : Plain s) : Plain s.verified := by
  refine ⟨plain.marker, nofun, fun r reporter => plain.callback r ?_⟩
  simp only [verified] at reporter
  split at reporter
  · cases reporter
  · exact reporter

theorem Plain.verify (plain : Plain s) : StaysPlain (verify s) := by
  cases items : s.queue.items with
  | nil =>
    rw [verify_run_nil (congrArg Queue.mk items)]
    exact staysPlain_of_silent (plain_verified plain) rfl
  | cons e rest =>
    rw [verify_run_cons (congrArg Queue.mk items)]
    refine ⟨plain_verified plain, fun report member => plain.leftOver (items ▸ plain.names) s.binding report ?_⟩
    simpa using member

theorem Plain.reset (plain : Plain s) : StaysPlain (reset s) := by
  rw [reset_run]
  exact staysPlain_of_silent ⟨plain.marker, nofun, nofun⟩ (by simp)

end

/-- Such actions leave a session plain, and tell nothing with a zero character. -/
theorem PlainAction.keeps {a : Action} (plainAction : PlainAction a) {s : Session} (plain : Plain s) :
    StaysPlain (act a s) := by
  cases plainAction with
  | bindReporter c => exact staysPlain_map _ (plain.bindReporter c)
  | reset => exact staysPlain_map (fun _ => Answer.nothing) plain.reset
  | verify => exact staysPlain_map _ plain.verify
  | peek => exact staysPlain_map _ plain.peekLatest
  | consume => exact staysPlain_map _ plain.consumeNext
  | register payload name => exact staysPlain_map (fun _ => Answer.nothing) (plain.register name payload)
  | fail zeroFree => exact staysPlain_map (fun _ => Answer.nothing) (plain.fail zeroFree)
  | failPreformatted cutBefore zeroFree =>
    exact staysPlain_map (fun _ => Answer.nothing) (plain.failPreformatted zeroFree cutBefore)

end Session

namespace Boundary

open Host (asHeard callbackText textOf)
open Session (Plain PlainAction act)

/-! ## What the callback is given -/

theorem callbackText_of_zeroFree {message : String} (zeroFree : ZeroFree message.toList) :
    callbackText message = message := by
  have unchanged : ∀ text : List Char, ZeroFree text →
      text.flatMap (fun c => if c = '\x00' then ['\\', '0'] else [c]) = text := by
    intro text zeroFree
    induction text with
    | nil => rfl
    | cons c rest ih =>
      rw [ZeroFree, List.mem_cons, not_or] at zeroFree
      obtain ⟨other, later⟩ := zeroFree
      rw [List.flatMap_cons, if_neg (Ne.symm other), ih later, List.singleton_append]
  rw [callbackText, unchanged _ zeroFree, String.ofList_toList]

/-- A text as it is handed to a callback: the bytes in which it is held, and a zero at the end. -/
def terminated (text : String) : Bytes :=
  text.toByteArray.data.toList ++ [0]

/-- A text without the zero character is read whole. -/
theorem upToZero_terminated {text : String} (zeroFree : ZeroFree text.toList) :
    upToZero (terminated text) = Text.encode text.toList := by
  have noZero : ∀ b ∈ Text.encode text.toList, (b != 0) = true :=
    fun b member => bne_iff_ne.mpr fun isZero => zeroFree.encode (isZero ▸ member)
  rw [terminated, ← Text.encode_toList, upToZero, List.takeWhile_append_of_pos noZero]
  simp

/-! ## What foreign code hands over -/

/-- The strings that a call hands over. -/
def Call.strings : Call → List Bytes
  | .register _ api | .registerWithRelease _ api _ => api.toList
  | .assertVariadic _ _ format _ => format.toList
  | .assertText _ message | .reportFormatted message _ => message.toList
  | _ => []

theorem zeroFree_textOf {bytes : Bytes} (noZero : 0 ∉ bytes) : ZeroFree (textOf bytes).toList := by
  rw [textOf, String.toList_ofList]
  exact Text.zeroFree_decodeLossy noZero

theorem plainAction_nullFailure {function argument : String} (first : ZeroFree function.toList)
    (second : ZeroFree argument.toList) : PlainAction (nullFailure function argument) :=
  have front : ZeroFree "NULL argument passed to ".toList := by decide
  .fail (zeroFree_concat (zeroFree_concat (zeroFree_concat front first) (by decide)) second)

theorem plainAction_registration {function : String} (named : ZeroFree function.toList) (f : Foreign)
    {api : Option Bytes} (noZero : ∀ bytes ∈ api.toList, 0 ∉ bytes) : PlainAction (registration function f api) := by
  cases api with
  | none => exact plainAction_nullFailure named (by decide)
  | some name => exact .register _ (zeroFree_textOf (noZero name (List.mem_singleton_self name)))

/-- What foreign calls do to the session they do with texts that have no zero character. -/
theorem plainAction_of_uses {call : Call} (foreign : call.isForeign = true)
    (noZero : ∀ bytes ∈ call.strings, 0 ∉ bytes) {a : Session.Action} (used : call.scope.uses a) : PlainAction a := by
  cases call with
  | initialise callback =>
    cases callback with
    | none =>
      obtain rfl := used
      exact plainAction_nullFailure (by decide) (by decide)
    | some c =>
      obtain rfl := used
      exact .bindReporter c
  | register cell api =>
    obtain rfl := used
    exact plainAction_registration (by decide) _ noZero
  | registerWithRelease cell api release =>
    obtain rfl := used
    exact plainAction_registration (by decide) _ noZero
  | peek | poke content =>
    obtain rfl := used
    exact .peek
  | getNext =>
    rcases used with rfl | ⟨payload, rfl⟩
    · exact .consume
    · have front : ZeroFree "Cannot hand a ".toList := by decide
      exact .fail (zeroFree_concat (zeroFree_concat front payload.kind.zeroFree_typeName) (by decide))
  | verify =>
    obtain rfl := used
    exact .verify
  | reset =>
    obtain rfl := used
    exact .reset
  | assertVariadic room condition format args =>
    rcases used with rfl | ⟨bytes, cutBefore, rfl | plain, rfl⟩
    · exact plainAction_nullFailure (by decide) (by decide)
    · exact .failPreformatted _ (zeroFree_textOf (noZero bytes (List.mem_singleton_self bytes)))
    · exact .failPreformatted _ (zeroFree_textOf plain)
  | assertText condition message =>
    cases message with
    | none =>
      obtain rfl := used
      exact plainAction_nullFailure (by decide) (by decide)
    | some bytes =>
      obtain rfl := used
      exact .fail (zeroFree_textOf (noZero bytes (List.mem_singleton_self bytes)))
  | reportFormatted message length =>
    cases message with
    | none =>
      obtain rfl := used
      exact plainAction_nullFailure (by decide) (by decide)
    | some bytes =>
      obtain rfl := used
      exact .failPreformatted _ (zeroFree_textOf (noZero bytes (List.mem_singleton_self bytes)))
  | capacity | pending | configure environment | startLogging => cases used
  | sessionRegister | sessionConfigure | sessionAssert | sessionConsume | notify | wrap => cases foreign

/-! ## What callbacks hear -/

theorem asHeard_of_zeroFree {report : Reporter × String} (zeroFree : ZeroFree report.2.toList) :
    asHeard report = report := by
  obtain ⟨r, text⟩ := report
  cases r with
  | callback c => exact congrArg (Prod.mk _) (callbackText_of_zeroFree zeroFree)
  | collector | closure | raising | probing | reentering => rfl

section

variable {trace : List Entry} (unheard : ∀ e ∈ trace, e.isHeard = false)
  (zeroFree : ∀ report ∈ reports trace, ZeroFree report.2.toList)

include unheard zeroFree in
/-- Messages without a zero character are heard as they are told. -/
theorem reports_spelled_plain (environment : Environment) :
    reports (trace.flatMap (Entry.spelled (Host.spell environment))) = reports trace := by
  rw [Host.reports_spelled environment unheard]
  calc (reports trace).map asHeard = (reports trace).map id :=
      List.map_congr_left fun report member => asHeard_of_zeroFree (zeroFree report member)
    _ = reports trace := List.map_id _

end

/-- What reporters do announces nothing. -/
theorem announced_spelled (environment : Environment) (trace : List Entry) :
    announced (trace.flatMap (Entry.spelled (Host.spell environment))) = announced trace := by
  have queries : ∀ asked : List Query, announced (asked.flatMap (Host.refusalLog environment)) = [] := by
    intro asked
    refine List.filterMap_eq_nil_iff.mpr fun e member => ?_
    obtain ⟨query, -, log⟩ := List.mem_flatMap.mp member
    cases query with
    | pending | configure =>
      rw [List.mem_singleton.mp log]
      rfl
    | capacity => cases log
  induction trace with
  | nil => rfl
  | cons entry rest ih =>
    have here : announced (Entry.spelled (Host.spell environment) entry) = announced [entry] := by
      cases entry with
      | reported r message =>
        rcases r with _ | _ | _ | _ | _ | (_ | asks | _)
        case callback.querying =>
          have asked := queries (asks (callbackText message))
          rw [announced] at asked
          simp only [Entry.spelled, Host.spell, Host.spellCallback, announced, List.filterMap_append, asked]
          rfl
        all_goals rfl
      | _ => rfl
    calc announced ((entry :: rest).flatMap _)
        = announced (Entry.spelled (Host.spell environment) entry) ++ announced (rest.flatMap _) := List.filterMap_append
      _ = announced [entry] ++ announced rest := by rw [here, ih]
      _ = announced (entry :: rest) := List.filterMap_append.symm

theorem announced_within (function : String) (trace : List Entry) :
    announced (trace.map (Entry.within function)) = announced trace := by
  have same : ∀ entry : Entry, (entry.within function).announced? = entry.announced? := by
    rintro (⟨event, _ | span⟩ | _ | _ | _ | _)
    · cases event <;> rfl
    all_goals rfl
  rw [announced, List.filterMap_map, announced]
  exact congrArg (List.filterMap · trace) (funext same)

/-- What is told are messages of the formatter without a zero character, to callbacks, as they were announced. -/
structure TellsWhole (f : Message.Formatter) (trace : List Entry) : Prop where
  told : ∀ report ∈ reports trace, ∃ c message, report = (.callback c, message.text) ∧ f.Makes message ∧
    ZeroFree message.text.toList
  announced : texts trace = announced trace

section

variable {call : Call} (foreign : call.isForeign = true) (noZero : ∀ bytes ∈ call.strings, 0 ∉ bytes)

include foreign in
theorem plain_granted {settings : Settings} (asks : call.scope.asks settings) : Plain (.fresh settings) := by
  rcases (asks_cases asks).1 with ⟨environment, read⟩ | rfl
  · refine Session.plain_fresh ?_
    rw [ofEnvironment_marker read]
    decide
  · cases foreign

include foreign noZero in
/-- What a plain session tells in the course of a call it tells whole. -/
theorem act_tellsWhole {a : Session.Action} {s : Session} (used : call.scope.uses a) (plain : Plain s)
    (environment : Environment) :
    TellsWhole s.formatter ((act a s).trace.flatMap (Entry.spelled (Host.spell environment))) := by
  obtain ⟨-, zeroFree⟩ := (plainAction_of_uses foreign noZero used).keeps plain
  have made := (Session.act_faithful a s).made
  have same := reports_spelled_plain (fun e member => (made e member).1) zeroFree environment
  refine ⟨fun report member => ?_, ?_⟩
  · rw [same] at member
    obtain ⟨e, here, isTold⟩ := List.mem_filterMap.mp member
    obtain ⟨message, makes, text⟩ := (made e here).2 report isTold
    obtain ⟨c, isCallback⟩ := plain.callback report.1 (congrArg Binding.reporter (Session.act_tells_bound member))
    refine ⟨c, message, Prod.ext isCallback text.symm, makes, ?_⟩
    rw [text]
    exact zeroFree report member
  · rw [texts, same, announced_spelled, Session.act_announced]

include foreign noZero in
theorem keeps_plain (f : Message.Formatter) :
    call.scope.Keeps (fun s => Plain s ∧ Unasked call f s) (TellsWhole f) where
  used {a s} used holds := by
    obtain ⟨plain, unasked⟩ := holds
    rcases unasked with ⟨new, asks⟩ | rfl
    · exact absurd used ((asks_cases asks).2 a)
    obtain ⟨left, -⟩ := (plainAction_of_uses foreign noZero used).keeps plain
    exact ⟨⟨left, .inr (Session.act_faithful a s).formatter⟩, act_tellsWhole foreign noZero used plain⟩
  edited f _ holds := ⟨holds.1.editLatest f, holds.2⟩
  granted asks _ _ := ⟨plain_granted foreign asks, .inl ⟨_, asks⟩⟩
  told tells := by
    obtain ⟨c, message, -, rfl, -⟩ := tells_cases tells
    cases foreign
  quiet {e} quiet := by
    have silent : reports [e] = [] := by simp [reports, quiet.1]
    refine ⟨by simp [silent], ?_⟩
    rw [texts, silent]
    simp [announced, quiet.2]
  empty := ⟨nofun, rfl⟩
  append first second := by
    refine ⟨fun report member => ?_, ?_⟩
    · rw [reports_append] at member
      exact (List.mem_append.mp member).elim (first.told report) (second.told report)
    · rw [texts_append, first.announced, second.announced]
      exact List.filterMap_append.symm
  within function trace whole := by
    refine ⟨?_, ?_⟩
    · rw [reports_within]
      exact whole.told
    · rw [texts_within, announced_within]
      exact whole.announced

/-- Plain sessions that differ at most in that a callback or a collector is bound. -/
def Echoed (c : Callback) (name : String) (s t : Session) : Prop :=
  Session.Similar (.callback c) (.collector name) s t ∧ Plain s

include foreign noZero in
/-- A callback that comes back hears what a collector would be told. -/
theorem agrees_echoed {c : Callback} (returns : (Reporter.callback c).Returns) (name : String) :
    call.scope.Agrees (Echoed c name) where
  used {a s t} used echoed environment := by
    obtain ⟨similar, plain⟩ := echoed
    obtain ⟨left, zeroFree⟩ := (plainAction_of_uses foreign noZero used).keeps plain
    obtain ⟨outcome, states, told⟩ := Session.act_inStep returns (fun _ => rfl) similar a
    have unheard : ∀ u, ∀ e ∈ (act a u).trace, e.isHeard = false :=
      fun u e member => ((Session.act_faithful a u).made e member).1
    have zeroFreeToo : ∀ report ∈ reports (act a t).trace, ZeroFree report.2.toList := by
      intro report member
      have sameText : report.2 ∈ texts (act a s).trace := told ▸ List.mem_map_of_mem member
      obtain ⟨heard, memberToo, same⟩ := List.mem_map.mp sameText
      exact same ▸ zeroFree heard memberToo
    refine ⟨outcome, ⟨states, left⟩, ?_⟩
    simp only [Step.spelled, texts, reports_spelled_plain (unheard s) zeroFree,
      reports_spelled_plain (unheard t) zeroFreeToo]
    exact told
  edited f s t echoed :=
    ⟨⟨echoed.1.settings, echoed.1.formatter, congrArg (Queue.editLatest · f) echoed.1.queue, echoed.1.binding⟩,
      echoed.2.editLatest f⟩
  granted asks := ⟨Session.similar_refl _, plain_granted foreign asks⟩
  seen echoed := echoed.1.view

end

theorem final_plain {calls : List Call}
    (foreign : ∀ call ∈ calls, call.isForeign = true ∧ ∀ bytes ∈ call.strings, 0 ∉ bytes) {h : Host} {s : Session}
    (idle : h.slot = .idle s) (plain : Plain s) : ∃ t, (Run.final perform calls h).slot = .idle t ∧ Plain t := by
  refine final_keeps (fun call member h s here plain => ?_) idle plain
  obtain ⟨isForeign, noZero⟩ := foreign call member
  obtain ⟨t, left, ⟨stays, -⟩, -⟩ :=
    (perform_composed call).keeps (keeps_plain isForeign noZero s.formatter) here ⟨plain, .inr rfl⟩
  exact ⟨t, left, stays⟩

/-- Let only foreign code make calls on a thread, with any strings, any null pointers and any environment. Then
whatever a callback is told in the next call is a message that the formatter of the settings in force made, and
not changed on the way: it has no zero character to spell out, and of the bytes that the callback is given it reads
up to the first zero exactly the bytes of that message. These are UTF-8 and read back as the message, and they are
no more than the bound of the session that tells it. Whether callbacks come back or not, what they are told are the
messages that the session announced in the log, each as announced and none left out; and a callback that comes back
is told what a collector would be told in its place. -/
theorem callback_texts_exact (start : Host) (fresh : start.slot = .fresh) (calls : List Call) (next : Call)
    (foreign : ∀ call ∈ next :: calls, call.isForeign = true ∧ ∀ bytes ∈ call.strings, 0 ∉ bytes) :
    let h := Run.final perform calls start
    ∃ s, h.slot = .idle s ∧
      (∀ report ∈ reports (perform next h).trace,
        ∃ c message, report = (.callback c, message.text) ∧ s.formatter.Makes message ∧
          '\x00' ∉ message.text.toList ∧ callbackText message.text = message.text ∧
          upToZero (terminated message.text) = Text.encode message.text.toList ∧
          Text.decode? (Text.encode message.text.toList) = some message.text.toList ∧
          (Text.encode message.text.toList).length ≤ s.settings.capacity) ∧
      texts (perform next h).trace = announced (perform next h).trace ∧
      ∀ c name, s.binding = ⟨some (.callback c)⟩ → (Reporter.callback c).Returns →
        texts (perform next h).trace =
          texts (perform next { h with slot := .idle (s.under ⟨some (.collector name)⟩) }).trace := by
  intro h
  obtain ⟨here, noZero⟩ := foreign next (List.mem_cons_self ..)
  have usual : Plain {} := Session.plain_fresh (by decide)
  have earlier := fun call member => foreign call (List.mem_cons_of_mem _ member)
  obtain ⟨s, idle, plain⟩ := final_plain earlier fresh usual
  obtain ⟨t, left, coherent⟩ := final_coherent calls fresh (Session.coherent_fresh {})
  obtain rfl : t = s := Slot.idle.inj (left.symm.trans idle)
  obtain ⟨-, -, -, tells⟩ :=
    (perform_composed next).keeps (keeps_plain here noZero t.formatter) idle ⟨plain, .inr rfl⟩
  refine ⟨t, idle, fun report told => ?_, tells.announced, fun c name bound returns => ?_⟩
  · obtain ⟨c, message, same, makes, whole⟩ := tells.told report told
    have bounded : (Text.encode message.text.toList).length ≤ t.settings.capacity := by
      rw [show t.formatter = t.settings.formatter from coherent] at makes
      rw [Text.length_encode, Text.byteSize_toList]
      exact makes.le_capacity
    exact ⟨c, message, same, makes, whole, callbackText_of_zeroFree whole, upToZero_terminated whole,
      Text.decode?_encode _, bounded⟩
  · have echoed : Echoed c name t (t.under ⟨some (.collector name)⟩) :=
      ⟨⟨rfl, rfl, rfl, .inr ⟨bound, rfl⟩⟩, plain⟩
    exact ((perform_composed next).lockstep (agrees_echoed here noZero returns name) ⟨t, _, idle, rfl, echoed⟩).told

/-- The name of a callback that only notes what it is told. -/
def recorder? : Reporter → Option String
  | .callback (.recording name) => some name
  | _ => none

theorem eq_of_recorder? {r : Reporter} {name : String} (recorder : recorder? r = some name) :
    r = .callback (.recording name) := by
  rcases r with _ | _ | _ | _ | _ | (_ | _ | _)
  case callback.recording => exact congrArg (fun name => Reporter.callback (.recording name)) (Option.some.inj recorder)
  all_goals cases recorder

/-- A name that is not all UTF-8 is registered, and comes back in the message on what is left over. -/
theorem callback_texts_exact_broken_name :
    let start : Host := {}
    let calls : List Call :=
      [.initialise (some (.recording "log")), .register (some { name := "cell" }) (some [0x66, 0xFF])]
    let h := Run.final perform calls start
    let collected : Session :=
      { queue := { items := [⟨textOf [0x66, 0xFF], .foreign ⟨some { name := "cell" }, some .free⟩⟩] }
        binding := ⟨some (.collector "A")⟩ }
    let text :=
      "\nThere are 1 unfulfilled expectations. The ordered list of unfulfilled expectations is:\n 1. f\uFFFD()\n"
    start.slot = .fresh ∧
      (∀ call ∈ Call.verify :: calls, call.isForeign = true ∧ ∀ bytes ∈ call.strings, 0 ∉ bytes) ∧
      reports (perform .verify h).trace = [(.callback (.recording "log"), text)] ∧
      upToZero (terminated text) = Text.encode text.toList ∧ (Text.encode text.toList).length ≤ 3000 ∧
      texts (perform .verify h).trace = texts (perform .verify { h with slot := .idle collected }).trace := by
  intro start calls h collected text
  have foreign : ∀ call ∈ Call.verify :: calls, call.isForeign = true ∧ ∀ bytes ∈ call.strings, 0 ∉ bytes := by
    decide
  have told : (reports (perform .verify h).trace).map (fun report => (recorder? report.1, report.2)) =
      [(some "log", text)] := by decide +kernel
  have reported : reports (perform .verify h).trace = [(.callback (.recording "log"), text)] := by
    obtain ⟨⟨r, message⟩, alone, same⟩ := List.map_eq_singleton_iff.mp told
    obtain ⟨recorder, rfl⟩ := Prod.mk.inj same
    obtain rfl : r = .callback (.recording "log") := eq_of_recorder? recorder
    exact alone
  have bound : h.slot = .idle (collected.under ⟨some (.callback (.recording "log"))⟩) := by
    have bound := Host.initialise_slot (h := start) rfl rfl (.recording "log")
    have registered := Host.register_slot bound (some { name := "cell" }) [0x66, 0xFF]
    simp only [h, calls, Run.final]
    exact registered
  obtain ⟨s, idle, tells, -, echoes⟩ := callback_texts_exact start rfl calls .verify foreign
  obtain rfl : s = collected.under ⟨some (.callback (.recording "log"))⟩ := Slot.idle.inj (idle.symm.trans bound)
  obtain ⟨c, message, same, -, -, -, read, -, bounded⟩ := tells _ (reported ▸ List.mem_singleton_self _)
  have sameText : text = message.text := (Prod.mk.inj same).2
  rw [← sameText] at read bounded
  exact ⟨rfl, foreign, reported, read, bounded, echoes (.recording "log") "A" rfl fun _ => rfl⟩

end Boundary

end MockQueue

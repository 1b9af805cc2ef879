import MockQueue.Proofs.Telling

/-!
# The log as an audit trail

A reader of the log alone can follow a session. The auditor (`Audit`) counts the expectations from event
to event, takes each delivery together with the remark before it that the message was cut, and objects to
an event that does not fit (`Audit.read`). Every action writes its log so that the auditor agrees with the
session: `Records` says so of one step with the messages that the action composes (`Action.messages`), and
`log_audits` of a whole run.
-/

namespace MockQueue

open Message (Bounded)

/-! ## The auditor -/

/-- The event, if the entry is one that the engine logged. -/
def Entry.engineEvent? : Entry → Option LogEvent
  | logged event _ => if event.line.target = LogEvent.engine then some event else none
  | _ => none

/-- What the engine logged, in order. -/
def engineLog (trace : List Entry) : List LogEvent :=
  trace.filterMap Entry.engineEvent?

/-- A message that was handed to a reporter, or that found none. -/
structure Delivery where
  reported : Bool
  message : Bounded
  deriving DecidableEq, Repr

namespace Delivery

/-- The text, if a reporter was told. -/
def reportedText? (d : Delivery) : Option String :=
  if d.reported then some d.message.text else none

/-- The text, if there was no reporter to tell. -/
def unreportedText? (d : Delivery) : Option String :=
  if d.reported then none else some d.message.text

end Delivery

/-- What a reader of the log knows. -/
structure Audit where
  /-- The number of expectations. -/
  count : Nat := 0
  /-- Whether the last event said that the message that follows was cut. -/
  cut : Bool := false
  /-- The deliveries, in order. -/
  deliveries : List Delivery := []
  deriving DecidableEq, Repr

namespace Audit

/-- The number of expectations after an event, if the event fits the number before. -/
def recount (count : Nat) : LogEvent → Option Nat
  | .registering _ _ position => if position = count + 1 then some position else none
  | .consumed _ remaining => if remaining + 1 = count then some remaining else none
  | .consumedNothing => if count = 0 then some 0 else none
  | .allFulfilled => if count = 0 then some 0 else none
  | .leftOver left => if left = count ∧ 0 < left then some 0 else none
  | .sessionReset dropped => if dropped = count then some 0 else none
  | _ => some count

/-- A delivery with this text; its message was cut if the last event said so. -/
def deliver (a : Audit) (reported : Bool) (text : String) : Audit :=
  { a with cut := false, deliveries := a.deliveries ++ [⟨reported, ⟨text, a.cut⟩⟩] }

/-- Reads one event; none if it does not fit. Nothing but a delivery may follow the remark that a message
was cut. -/
def read (a : Audit) : LogEvent → Option Audit
  | .reporting text => some (a.deliver true text)
  | .unreported text => some (a.deliver false text)
  | .messageTruncated _ => if a.cut then none else some { a with cut := true }
  | event => if a.cut then none else (recount a.count event).map fun count => { a with count }

/-- Reads a log. -/
def readAll (a : Audit) (log : List LogEvent) : Option Audit :=
  log.foldlM read a

theorem readAll_append (a : Audit) (front back : List LogEvent) :
    a.readAll (front ++ back) = (a.readAll front).bind fun middle => middle.readAll back :=
  List.foldlM_append

/-- One expectation registered and two taken: there is nothing to take the second time. -/
example :
    readAll {} [.registering "read" "Conditions" 1, .consumed "read" 0, .consumedNothing] = some {} ∧
      readAll {} [.registering "read" "Conditions" 1, .consumed "read" 0, .consumed "read" 0] = none := by
  decide

end Audit

/-- The text, if the event says that a reporter is about to be told it. -/
def LogEvent.reporting? : LogEvent → Option String
  | .reporting text => some text
  | _ => none

theorem Audit.read_reported {a b : Audit} {event : LogEvent} (fits : a.read event = some b) :
    b.deliveries.filterMap Delivery.reportedText? =
      a.deliveries.filterMap Delivery.reportedText? ++ event.reporting?.toList := by
  have counted : ∀ {next : Option Nat}, (if a.cut then none else next.map fun count => { a with count }) = some b →
      b.deliveries = a.deliveries := by
    intro next moved
    split at moved
    · cases moved
    · obtain ⟨count, -, rfl⟩ := Option.map_eq_some_iff.mp moved
      rfl
  cases event with
  | reporting text | unreported text =>
    cases fits
    simp [deliver, Delivery.reportedText?, LogEvent.reporting?]
  | messageTruncated capacity =>
    simp only [read] at fits
    split at fits
    · cases fits
    · cases fits
      simp [LogEvent.reporting?]
  | _ => simp [counted fits, LogEvent.reporting?]

/-- What a reader takes for reported is what the log announces. -/
theorem Audit.readAll_reported {log : List LogEvent} {a b : Audit} (fits : a.readAll log = some b) :
    b.deliveries.filterMap Delivery.reportedText? =
      a.deliveries.filterMap Delivery.reportedText? ++ log.filterMap LogEvent.reporting? := by
  induction log generalizing a with
  | nil =>
    cases fits
    simp
  | cons event rest ih =>
    obtain ⟨middle, first, later⟩ := Option.bind_eq_some_iff.mp fits
    rw [ih later, read_reported first, List.append_assoc, List.filterMap_cons]
    cases event.reporting? <;> rfl

theorem announced_eq_engineLog (trace : List Entry) : announced trace = (engineLog trace).filterMap LogEvent.reporting? := by
  rw [engineLog, List.filterMap_filterMap, announced]
  congr 1
  funext entry
  cases entry with
  | logged event span => cases event <;> rfl
  | _ => rfl

@[simp] theorem engineLog_nil : engineLog [] = [] := rfl

@[simp] theorem engineLog_append (front back : List Entry) :
    engineLog (front ++ back) = engineLog front ++ engineLog back :=
  List.filterMap_append

theorem engineLog_logged {event : LogEvent} (engine : event.line.target = LogEvent.engine)
    (span : Option String) (rest : List Entry) :
    engineLog (.logged event span :: rest) = event :: engineLog rest := by
  have kept : Entry.engineEvent? (.logged event span) = some event := if_pos engine
  rw [engineLog, List.filterMap_cons_some kept, engineLog]

/-- The engine says nothing of discarded payloads. -/
@[simp] theorem engineLog_discardAll (payloads : List Payload) :
    engineLog (payloads.flatMap Payload.discard) = [] := by
  have foreign : Entry.engineEvent? (.logged .releasing none) = none := by decide
  have silent : ∀ p : Payload, engineLog p.discard = [] := by
    rintro (_ | _ | _ | ⟨_ | cell, _ | release⟩)
    case foreign.some.some =>
      exact List.filterMap_cons_none foreign
    all_goals rfl
  induction payloads with
  | nil => rfl
  | cons p rest ih => rw [List.flatMap_cons, engineLog_append, silent, ih, List.nil_append]

/-! ## What is delivered -/

namespace Binding

/-- The deliveries of messages told one after another: none after the first that unwinds. -/
def deliveries (b : Binding) : List Bounded → List Delivery
  | [] => []
  | message :: rest =>
    ⟨b.isBound, message⟩ ::
      match b.fate message.text with
      | .ok () => b.deliveries rest
      | .error _ => []

theorem deliveries_append (b : Binding) (front back : List Bounded) :
    b.deliveries (front ++ back) =
      b.deliveries front ++
        match b.ending (front.map Bounded.text) with
        | .ok () => b.deliveries back
        | .error _ => [] := by
  induction front with
  | nil => rfl
  | cons message rest ih =>
    simp only [List.cons_append, List.map_cons, deliveries, ending]
    cases b.fate message.text with
    | ok => rw [ih]
    | error u => rfl

/-- What is delivered as reported is what the reporter hears. -/
theorem reportedTexts_eq (b : Binding) (messages : List Bounded) :
    (b.deliveries messages).filterMap Delivery.reportedText? =
      (b.heard (messages.map Bounded.text)).map Prod.snd := by
  induction messages with
  | nil => rfl
  | cons message rest ih =>
    obtain ⟨bound⟩ := b
    simp only [deliveries, List.map_cons, heard]
    cases bound with
    | none => rfl
    | some r =>
      cases fate ⟨some r⟩ message.text with
      | ok => simp [Delivery.reportedText?, isBound, ih]
      | error u => simp [Delivery.reportedText?, isBound]

end Binding

/-- The text of an unwinding for want of a reporter. -/
def unheard? {α : Type} (outcome : Except Unwind α) : Option String :=
  match outcome with
  | .error (.noReporter text) => some text
  | _ => none

/-- No reporter unwinds for want of one. -/
theorem Reporter.unheard?_reply (r : Reporter) (text : String) : unheard? (r.reply text) = none := by
  unfold reply
  rcases r with _ | ⟨_, panics⟩ | _ | _ | _ | (_ | _ | _)
  case closure =>
    simp only [fate]
    cases panics text <;> rfl
  all_goals rfl

/-- What is delivered as unreported is what unwinds for want of a reporter. -/
theorem Binding.unreportedTexts_eq (b : Binding) (messages : List Bounded) :
    (b.deliveries messages).filterMap Delivery.unreportedText? =
      (unheard? (b.ending (messages.map Bounded.text))).toList := by
  induction messages with
  | nil => rfl
  | cons message rest ih =>
    obtain ⟨bound⟩ := b
    simp only [deliveries, List.map_cons, ending]
    cases bound with
    | none => rfl
    | some r =>
      cases fated : fate ⟨some r⟩ message.text with
      | ok => simp [Delivery.unreportedText?, isBound, ih]
      | error u =>
        have unheard := r.unheard?_reply message.text
        rw [show r.reply message.text = .error u from fated] at unheard
        simpa [Delivery.unreportedText?, isBound] using unheard

namespace Session

open Message (Argument)

/-! ## Steps that are recorded -/

/-- Under the binding `b` the step tells the messages, as far as `b` lets it, and an auditor who starts
from the right count agrees with its log: the deliveries are those of the messages, and the count is
right again. -/
structure Records {α : Type} (b : Binding) (messages : List Bounded) (count : Nat) (step : Step Session α) :
    Prop where
  outcome : step.outcome.map (fun _ => ()) = b.ending (messages.map Bounded.text)
  heard : reports step.trace = b.heard (messages.map Bounded.text)
  log : ∀ deliveries, Audit.readAll ⟨count, false, deliveries⟩ (engineLog step.trace) =
    some ⟨step.state.queue.length, false, deliveries ++ b.deliveries messages⟩

/-- The entries tell nobody anything and move the count. -/
structure Counts (trace : List Entry) (count next : Nat) : Prop where
  silent : reports trace = []
  log : ∀ deliveries, Audit.readAll ⟨count, false, deliveries⟩ (engineLog trace) =
    some ⟨next, false, deliveries⟩

theorem counts_nil (count : Nat) : Counts [] count count :=
  ⟨rfl, fun _ => rfl⟩

theorem counts_discardAll (payloads : List Payload) (count : Nat) :
    Counts (payloads.flatMap Payload.discard) count count :=
  ⟨reports_discardAll payloads, fun _ => by rw [engineLog_discardAll]; rfl⟩

/-- An event that is no delivery and no remark on one. -/
theorem counts_logged {event : LogEvent} {count next : Nat} (engine : event.line.target = LogEvent.engine)
    (fits : ∀ deliveries, Audit.read ⟨count, false, deliveries⟩ event = some ⟨next, false, deliveries⟩) :
    Counts [.logged event none] count next := by
  refine ⟨rfl, fun deliveries => ?_⟩
  rw [engineLog_logged engine, engineLog_nil, Audit.readAll, List.foldlM_cons, fits]
  rfl

section

variable {α β : Type} {b : Binding} {s : Session}

theorem Counts.append {front back : List Entry} {count middle next : Nat} (first : Counts front count middle)
    (second : Counts back middle next) : Counts (front ++ back) count next := by
  refine ⟨by rw [reports_append, first.silent, second.silent]; rfl, fun deliveries => ?_⟩
  rw [engineLog_append, Audit.readAll_append, first.log]
  exact second.log deliveries

/-- A step that tells nothing. -/
theorem Counts.records {a : α} {trace : List Entry} {count : Nat} (counts : Counts trace count s.queue.length) :
    Records b [] count ⟨.ok a, s, trace⟩ :=
  ⟨rfl, counts.silent, fun deliveries => by rw [counts.log]; simp [Binding.deliveries]⟩

theorem records_pure (a : α) : Records b [] s.queue.length ((pure a : Run Session α) s) :=
  (counts_nil s.queue.length).records

/-- Before it tells anything, a step may move the count. -/
theorem Counts.before {messages : List Bounded} {opening : List Entry} {count middle : Nat} {step : Step Session α}
    (counts : Counts opening count middle) (records : Records b messages middle step) :
    Records b messages count ⟨step.outcome, step.state, opening ++ step.trace⟩ := by
  refine ⟨records.outcome, ?_, fun deliveries => ?_⟩
  · rw [reports_append, counts.silent, List.nil_append, records.heard]
  · rw [engineLog_append, Audit.readAll_append, counts.log]
    exact records.log deliveries

/-- One operation after another: what the second tells is told if the first came through. -/
theorem Records.bind {x : Run Session α} {next : α → Run Session β} {front back : List Bounded} {count : Nat}
    (first : Records b front count (x s))
    (second : ∀ a, (x s).outcome = .ok a → Records b back (x s).state.queue.length (next a (x s).state)) :
    Records b (front ++ back) count ((x >>= next) s) := by
  have ended := first.outcome
  rw [Run.run_bind]
  -- The first outcome says whether all of `front` was told; only then does `back` come to be told.
  cases outcome : (x s).outcome with
  | ok a =>
    have later := second a outcome
    rw [outcome] at ended
    refine ⟨?_, ?_, fun deliveries => ?_⟩
    · rw [List.map_append, b.ending_append, ← ended]
      exact later.outcome
    · rw [List.map_append, b.heard_append, ← ended, reports_append, first.heard, later.heard]
      rfl
    · rw [engineLog_append, Audit.readAll_append, first.log, b.deliveries_append, ← ended]
      simpa [Except.map] using later.log (deliveries ++ b.deliveries front)
  | error u =>
    rw [outcome] at ended
    refine ⟨?_, ?_, fun deliveries => ?_⟩
    · rw [List.map_append, b.ending_append, ← ended]
      rfl
    · rw [List.map_append, b.heard_append, ← ended, first.heard]
      exact (List.append_nil _).symm
    · rw [first.log, b.deliveries_append, ← ended]
      simp [Except.map]

theorem Records.recast {step : Step Session α} {messages : List Bounded} {count : Nat}
    (records : Records b messages count step) (g : α → β) :
    Records b messages count ⟨step.outcome.map g, step.state, step.trace⟩ := by
  refine ⟨?_, records.heard, records.log⟩
  rw [← records.outcome]
  cases step.outcome <;> rfl

theorem Records.map {x : Run Session α} {messages : List Bounded} {count : Nat}
    (records : Records b messages count (x s)) (g : α → β) :
    Records b messages count ((x >>= fun a => pure (g a)) s) := by
  rw [Run.run_bind_pure]
  exact records.recast g

/-- The log of a message: the remark that it was cut, if it was, and right after it the delivery. -/
theorem engineLog_told (message : Bounded) (s : Session) (b : Binding) :
    engineLog (s.told b message) =
      (if message.truncated then [.messageTruncated s.formatter.capacity] else []) ++
        [if b.isBound then .reporting message.text else .unreported message.text] := by
  have remark : engineLog (if message.truncated then [.logged (.messageTruncated s.formatter.capacity) none] else []) =
      if message.truncated then [.messageTruncated s.formatter.capacity] else [] := by
    split
    · exact engineLog_logged rfl none []
    · rfl
  have delivery : engineLog (b.telling message.text) =
      [if b.isBound then .reporting message.text else .unreported message.text] := by
    obtain ⟨bound⟩ := b
    cases bound with
    | none => exact engineLog_logged rfl none []
    | some r => exact engineLog_logged rfl none _
  rw [told, engineLog_append, remark, delivery]

theorem records_told (message : Bounded) (s : Session) (b : Binding) :
    Records b [message] s.queue.length ⟨b.fate message.text, s, s.told b message⟩ := by
  refine ⟨?_, ?_, fun deliveries => ?_⟩
  · rw [List.map_singleton, Binding.ending_single]
    cases b.fate message.text <;> rfl
  · rw [List.map_singleton, Binding.heard_single, reports_told]
  · have delivered : b.deliveries [message] = [⟨b.isBound, message⟩] := by
      simp only [Binding.deliveries]
      cases b.fate message.text <;> rfl
    obtain ⟨text, truncated⟩ := message
    rw [engineLog_told, delivered]
    cases truncated <;> cases b.isBound <;> rfl

end

/-! ## The messages of actions -/

/-- The message that an error is told with. -/
def errorMessage (s : Session) (e : Error) : Bounded :=
  s.formatter.compose [e.message] false

/-- The error of a look at the latest payload, which may want one of a kind on behalf of a call. -/
def lookFailure? (s : Session) (wanted : Option (Kind × String)) : Option Error :=
  match s.queue.latest?, wanted with
  | none, _ => some .emptyQueuePeek
  | some e, some (kind, api) => if e.payload.kind = kind then none else some (.payloadTypeMismatch api e.api)
  | some _, none => none

/-- The error of taking the oldest payload as one of a kind. -/
def takeFailure? (s : Session) (kind : Kind) (api : String) : Option Error :=
  match s.queue.next? with
  | some e => if e.payload.kind = kind then none else some (.payloadTypeMismatch api e.api)
  | none => none

/-- The message of a call for which no expectation is left. -/
def unexpectedMessage (s : Session) (api : String) : Bounded :=
  s.formatter.compose ["Unexpected call to ", api, "(): no expectations remaining"] false

/-- The message of an argument that is not accepted. -/
def argumentMessages (s : Session) (api param : String) (expected : Expected Value) (actual : Value) : List Bounded :=
  if expected.accepts Value.same actual then []
  else
    [s.formatter.compose
      [api, "(): parameter '", param, "' expected ", String.ofList expected.value.shown, ", got ",
       String.ofList actual.shown] false]

/-- The message of bytes that are not accepted. -/
def bytesMessages (s : Session) (api param : String) (expected : Option (List UInt8)) (actual : List UInt8) :
    List Bounded :=
  match expected with
  | none => []
  | some expected =>
    let subject := [api, "(): data behind parameter '", param, "' "]
    if expected.length ≠ actual.length then
      [s.formatter.compose
        (subject ++ ["expected ", toString expected.length, " bytes, got ", toString actual.length]) false]
    else
      (firstDifference expected actual).toList.map fun (offset, e, a) =>
        s.formatter.compose
          (subject ++ ["differs at byte ", toString offset, " (expected 0x", byteText e, ", got 0x",
            byteText a, ")"]) false

namespace Action

/-- The error that the action raises. -/
def failure? : Action → Session → Option Error
  | command (.bindReporter _), s => if s.isBound then some .reporterAlreadyBound else none
  | command .peek, s => s.lookFailure? none
  | command (.peekIs _), s => s.lookFailure? none
  | command (.overwrite _), s => s.lookFailure? none
  | command (.peekAs kind api), s => s.lookFailure? (some (kind, api))
  | command (.overwriteAs api payload), s => s.lookFailure? (some (payload.kind, api))
  | command (.ignoreFd stub), s => s.lookFailure? (some (.conditions stub, stub.name))
  | command (.setData stub _), s => s.lookFailure? (some (.conditions stub, stub.name))
  | command (.consumeAs kind api), s => s.takeFailure? kind api
  | command (.call stub _ _), s => s.takeFailure? (.conditions stub) stub.name
  | alter _, s => s.lookFailure? none
  | alterAs kind api _, s => s.lookFailure? (some (kind, api))
  | replace _, s => s.lookFailure? none
  | _, _ => none

/-- The messages of what the action finds wrong without raising an error of its own words. -/
def findings : Action → Session → List Bounded
  | command .verify, s => if s.queue.items.isEmpty then [] else [s.leftOverMessage s.queue.items]
  | command (.assertWith condition template args), s =>
    if condition then (s.formatter.format template args).toOption.toList else []
  | command (.assertPieces condition pieces keepGoing), s =>
    if condition then [s.formatter.compose pieces keepGoing] else []
  | command (.fail text), s => [s.formatter.compose [text] false]
  | command (.failPreformatted text truncated), s => [s.formatter.bound text truncated]
  | command (.unexpectedCall api), s => [s.unexpectedMessage api]
  | command (.checkArgument api param expected actual), s => s.argumentMessages api param expected actual
  | command (.checkBytes api param expected actual), s => s.bytesMessages api param expected actual
  | command (.call stub fd data), s =>
    match s.queue.next? with
    | none => [s.unexpectedMessage stub.name]
    | some ⟨_, .conditions owner c⟩ =>
      if owner = stub then
        s.argumentMessages stub.name "fd" ⟨.int32 c.fd.value, c.fd.ignored⟩ (.int32 fd)
          ++ s.bytesMessages stub.name "buf" c.data data
      else []
    | some _ => []
  | _, _ => []

/-- The messages that the action composes, in the order in which they are told. -/
def messages (a : Action) (s : Session) : List Bounded :=
  (a.failure? s).toList.map s.errorMessage ++ a.findings s

end Action

/-! ## What each action records -/

section

variable {α : Type} (s : Session)

theorem deliver_records (message : Bounded) : Records s.binding [message] s.queue.length (deliver message s) := by
  rw [deliver_run]
  exact records_told message s s.binding

theorem raise_records (e : Error) :
    Records s.binding [s.errorMessage e] s.queue.length ((raise e : Run Session (Except Error α)) s) := by
  have told : Records s.binding [s.errorMessage e] s.queue.length (fail e.message s) := by
    rw [fail_eq_deliver]
    exact deliver_records s (s.errorMessage e)
  exact told.map fun _ => Except.error e

theorem assertPieces_records (condition : Bool) (pieces : List String) (keepGoing : Bool) :
    Records s.binding (if condition then [s.formatter.compose pieces keepGoing] else []) s.queue.length
      (assertPieces condition pieces keepGoing s) := by
  cases condition with
  | true => exact deliver_records s (s.formatter.compose pieces keepGoing)
  | false => exact records_pure ()

theorem checkArgument_records (api param : String) (expected : Expected Value) (actual : Value) :
    Records s.binding (s.argumentMessages api param expected actual) s.queue.length
      (checkArgument api param expected actual s) := by
  let pieces := [api, "(): parameter '", param, "' expected ", String.ofList expected.value.shown, ", got ",
    String.ofList actual.shown]
  have told := (assertPieces_records s (!expected.accepts Value.same actual) pieces false).map fun _ =>
    expected.accepts Value.same actual
  unfold argumentMessages
  cases accepted : expected.accepts Value.same actual with
  | true => simpa [checkArgument, accepted] using told
  | false => simpa [checkArgument, accepted] using told

theorem checkBytes_records (api param : String) (expected : Option (List UInt8)) (actual : List UInt8) :
    Records s.binding (s.bytesMessages api param expected actual) s.queue.length
      (checkBytes api param expected actual s) := by
  have refused : ∀ pieces, Records s.binding [s.formatter.compose pieces false] s.queue.length
      ((assertPieces true pieces false >>= fun _ => pure false) s) :=
    fun pieces => (assertPieces_records s true pieces false).map fun _ => false
  cases expected with
  | none => exact records_pure true
  | some expected =>
    simp only [bytesMessages, checkBytes]
    split
    · exact refused _
    · cases firstDifference expected actual with
      | none => exact records_pure true
      | some place => exact refused _

/-! ### Looking at the latest expectation -/

variable {s}

/-- What goes on from a look at the latest payload, and moves no count if the look finds what it wants. -/
theorem records_of_look {x : Run Session (Except Error α)} {wanted : Option (Kind × String)}
    (empty : s.queue = {} → x s = raise .emptyQueuePeek s)
    (other : ∀ kind api, wanted = some (kind, api) → ∀ front e, s.queue = { items := front ++ [e] } →
      e.payload.kind ≠ kind → x s = raise (.payloadTypeMismatch api e.api) s)
    (found : ∀ front e, s.queue = { items := front ++ [e] } →
      (∀ kind api, wanted = some (kind, api) → e.payload.kind = kind) →
        Records s.binding [] s.queue.length (x s)) :
    Records s.binding ((s.lookFailure? wanted).toList.map s.errorMessage) s.queue.length (x s) := by
  rcases queue_eq_nil_or_append s.queue with items | ⟨front, e, items⟩
  · have latest : s.queue.latest? = none := by rw [items]; rfl
    have failure : s.lookFailure? wanted = some .emptyQueuePeek := by simp only [lookFailure?, latest]
    rw [failure, empty items]
    exact raise_records s .emptyQueuePeek
  · have latest : s.queue.latest? = some e := by rw [items, Queue.latest?_append]
    cases wanted with
    | none =>
      have failure : s.lookFailure? none = none := by simp only [lookFailure?, latest]
      rw [failure]
      exact found front e items nofun
    | some want =>
      obtain ⟨kind, api⟩ := want
      by_cases same : e.payload.kind = kind
      · have failure : s.lookFailure? (some (kind, api)) = none := by
          simp only [lookFailure?, latest, same, if_true]
        rw [failure]
        refine found front e items ?_
        rintro _ _ ⟨⟩
        exact same
      · have failure : s.lookFailure? (some (kind, api)) = some (.payloadTypeMismatch api e.api) := by
          simp only [lookFailure?, latest, same, if_false]
        rw [failure, other kind api rfl front e items same]
        exact raise_records s (.payloadTypeMismatch api e.api)

theorem records_of_edit {ended : α} {front : List Expectation} {e after : Expectation} {trace : List Entry}
    (items : s.queue = { items := front ++ [e] }) (counts : Counts trace s.queue.length s.queue.length) :
    Records s.binding [] s.queue.length
      (⟨.ok ended, { s with queue := { items := front ++ [after] } }, trace⟩ : Step Session α) := by
  have length : s.queue.length = Queue.length { items := front ++ [after] } := by
    rw [items]
    simp [Queue.length]
  exact Counts.records (s := { s with queue := { items := front ++ [after] } }) (length ▸ counts)

theorem counts_discard (p : Payload) (count : Nat) : Counts p.discard count count := by
  have one : [p].flatMap Payload.discard = p.discard := List.append_nil _
  exact one ▸ counts_discardAll [p] count

theorem peekLatest_records :
    Records s.binding ((s.lookFailure? none).toList.map s.errorMessage) s.queue.length (peekLatest s) := by
  refine records_of_look peekLatest_run_nil nofun fun front e items _ => ?_
  rw [peekLatest_run items]
  exact records_pure (Except.ok e.payload)

theorem peekLatestAs_records (kind : Kind) (api : String) :
    Records s.binding ((s.lookFailure? (some (kind, api))).toList.map s.errorMessage) s.queue.length
      (peekLatestAs kind api s) := by
  refine records_of_look (fun items => peekLatestAs_run_nil items kind api) ?_ ?_
  · rintro _ _ ⟨⟩ front e items other
    exact peekLatestAs_run_other items other api
  · intro front e items same
    obtain rfl := same kind api rfl
    rw [peekLatestAs_run items]
    exact records_pure (Except.ok e.payload)

theorem alterLatest_records (f : Payload → Payload) :
    Records s.binding ((s.lookFailure? none).toList.map s.errorMessage) s.queue.length (alterLatest f s) := by
  refine records_of_look (fun items => look_raises (peekLatest_run_nil items) _) nofun fun front e items _ => ?_
  rw [alterLatest_run items]
  exact records_of_edit items (counts_nil _)

theorem replaceLatest_records (payload : Payload) :
    Records s.binding ((s.lookFailure? none).toList.map s.errorMessage) s.queue.length (replaceLatest payload s) := by
  refine records_of_look (fun items => look_raises (peekLatest_run_nil items) _) nofun fun front e items _ => ?_
  rw [replaceLatest_run items]
  exact records_of_edit items (counts_discard e.payload _)

theorem overwriteLatest_records (payload : Payload) :
    Records s.binding ((s.lookFailure? none).toList.map s.errorMessage) s.queue.length
      (overwriteLatest payload s) := by
  refine records_of_look (fun items => look_raises (peekLatest_run_nil items) _) nofun fun front e items _ => ?_
  by_cases same : e.payload.kind = payload.kind
  · rw [overwriteLatest_run_same items same]
    exact records_of_edit items (counts_discard e.payload _)
  · rw [overwriteLatest_run_other items same]
    exact records_pure (Except.ok false)

theorem overwriteLatestAs_records (api : String) (payload : Payload) :
    Records s.binding ((s.lookFailure? (some (payload.kind, api))).toList.map s.errorMessage) s.queue.length
      (overwriteLatestAs api payload s) := by
  refine records_of_look (fun items => look_raises (peekLatestAs_run_nil items payload.kind api) _) ?_ ?_
  · rintro _ _ ⟨⟩ front e items other
    exact look_raises (peekLatestAs_run_other items other api) _
  · intro front e items same
    rw [overwriteLatestAs_run items (same payload.kind api rfl)]
    exact records_of_edit items (counts_discard e.payload _)

theorem editLatestAs_records (kind : Kind) (api : String) (f : Payload → Payload) :
    Records s.binding ((s.lookFailure? (some (kind, api))).toList.map s.errorMessage) s.queue.length
      (editLatestAs kind api f s) := by
  refine records_of_look (fun items => look_raises (peekLatestAs_run_nil items kind api) _) ?_ ?_
  · rintro _ _ ⟨⟩ front e items other
    exact look_raises (peekLatestAs_run_other items other api) _
  · intro front e items same
    obtain rfl := same kind api rfl
    rw [editLatestAs_run items]
    exact records_of_edit items (counts_nil _)

/-! ### Appending, taking and emptying -/

theorem counts_registering (api typeName : String) (count : Nat) :
    Counts [.logged (.registering api typeName (count + 1)) none] count (count + 1) :=
  counts_logged rfl fun _ => by simp [Audit.read, Audit.recount]

theorem counts_consumed (api : String) (remaining : Nat) :
    Counts [.logged (.consumed api remaining) none] (remaining + 1) remaining :=
  counts_logged rfl fun _ => by simp [Audit.read, Audit.recount]

theorem register_records (api : String) (payload : Payload) :
    Records s.binding [] s.queue.length (register api payload s) := by
  have length : s.queue.length + 1 = Queue.length { items := s.queue.items ++ [⟨api, payload⟩] } := by
    simp [Queue.length]
  rw [register_run]
  exact Counts.records (s := { s with queue := { items := s.queue.items ++ [⟨api, payload⟩] } })
    (length ▸ counts_registering api payload.typeName s.queue.length)

theorem consumeNext_records : Records s.binding [] s.queue.length (consumeNext s) := by
  obtain ⟨settings, formatter, ⟨items⟩, binding⟩ := s
  cases items with
  | nil =>
    rw [consumeNext_run_nil rfl]
    exact (counts_logged rfl fun _ => rfl).records
  | cons e rest =>
    rw [consumeNext_run_cons rfl]
    exact (counts_consumed e.api rest.length).records

theorem consumeNextAs_records (kind : Kind) (api : String) :
    Records s.binding ((s.takeFailure? kind api).toList.map s.errorMessage) s.queue.length
      (consumeNextAs kind api s) := by
  obtain ⟨settings, formatter, ⟨items⟩, binding⟩ := s
  cases items with
  | nil =>
    rw [consumeNextAs_run_nil rfl]
    exact (counts_logged rfl fun _ => rfl).records
  | cons e rest =>
    have taken := counts_consumed e.api rest.length
    by_cases same : e.payload.kind = kind
    · subst same
      have failure : takeFailure? ⟨settings, formatter, ⟨e :: rest⟩, binding⟩ e.payload.kind api = none := if_pos rfl
      rw [failure, consumeNextAs_run_same rfl]
      exact taken.records
    · have failure : takeFailure? ⟨settings, formatter, ⟨e :: rest⟩, binding⟩ kind api =
          some (.payloadTypeMismatch api e.api) := if_neg same
      have raised :=
        raise_records (α := Option Payload) ⟨settings, formatter, ⟨rest⟩, binding⟩ (.payloadTypeMismatch api e.api)
      have told := taken.before ((counts_discard e.payload _).before raised)
      rw [failure, consumeNextAs_run_other rfl same]
      dsimp only at told ⊢
      exact told

theorem reset_records : Records s.binding [] s.queue.length (reset s) := by
  have dropped : Counts [.logged (.sessionReset s.queue.items.length) none] s.queue.length 0 :=
    counts_logged rfl fun _ => by simp [Audit.read, Audit.recount, Queue.length]
  rw [reset_run]
  exact ((counts_discardAll _ _).append dropped).records

theorem verify_records :
    Records s.binding (if s.queue.items.isEmpty then [] else [s.leftOverMessage s.queue.items]) s.queue.length
      (verify s) := by
  obtain ⟨settings, formatter, ⟨items⟩, binding⟩ := s
  cases items with
  | nil =>
    rw [verify_run_nil rfl]
    exact (counts_logged rfl fun _ => rfl).records
  | cons e rest =>
    let s : Session := ⟨settings, formatter, ⟨e :: rest⟩, binding⟩
    have left : Counts [.logged (.leftOver (e :: rest).length) none] (e :: rest).length 0 :=
      counts_logged rfl fun _ => by simp [Audit.read, Audit.recount]
    let message := s.leftOverMessage (e :: rest)
    have told : Records binding [message] 0 ⟨_, _, s.told binding message⟩ :=
      records_told message s.verified binding
    rw [verify_run_cons rfl]
    -- The count is zero before anything is told, so an unwinding leaves nothing behind.
    exact (counts_discardAll _ _).before (left.before (told.recast fun _ => _))

/-! ### Calling a stub -/

theorem unexpectedCall_records (api : String) :
    Records s.binding [s.unexpectedMessage api] s.queue.length (unexpectedCall api s) :=
  assertPieces_records s true ["Unexpected call to ", api, "(): no expectations remaining"] false

/-- The two checks of a call, one after the other. -/
theorem checks_records (s : Session) (stub : Stub) (c : Conditions) (fd : Int32) (data : List UInt8) :
    Records s.binding
      (s.argumentMessages stub.name "fd" ⟨.int32 c.fd.value, c.fd.ignored⟩ (.int32 fd)
        ++ s.bytesMessages stub.name "buf" c.data data)
      s.queue.length
      ((do
        let fdAccepted ← checkArgument stub.name "fd" ⟨.int32 c.fd.value, c.fd.ignored⟩ (.int32 fd)
        let dataAccepted ← checkBytes stub.name "buf" c.data data
        return .ok (.served fdAccepted dataAccepted c.retval) : Run Session (Except Error CallResult)) s) := by
  let expected : Expected Value := ⟨.int32 c.fd.value, c.fd.ignored⟩
  have kept := (onlyTells_checkArgument stub.name "fd" expected (.int32 fd) s).1
  refine (checkArgument_records s stub.name "fd" expected (.int32 fd)).bind fun fdAccepted _ => ?_
  rw [kept]
  exact (checkBytes_records s stub.name "buf" c.data data).map _

theorem call_records (stub : Stub) (fd : Int32) (data : List UInt8) :
    Records s.binding (Action.messages (.command (.call stub fd data)) s) s.queue.length (call stub fd data s) := by
  have taken := consumeNextAs_records (s := s) (.conditions stub) stub.name
  refine taken.bind fun found outcome => ?_
  obtain ⟨settings, formatter, ⟨items⟩, binding⟩ := s
  cases items with
  | nil =>
    have ran := consumeNextAs_run_nil (s := ⟨settings, formatter, ⟨[]⟩, binding⟩) rfl (.conditions stub) stub.name
    rw [ran] at outcome ⊢
    obtain rfl := Except.ok.inj outcome
    exact (unexpectedCall_records stub.name).map _
  | cons e rest =>
    obtain ⟨api, payload⟩ := e
    let s : Session := ⟨settings, formatter, ⟨⟨api, payload⟩ :: rest⟩, binding⟩
    by_cases same : payload.kind = .conditions stub
    · obtain ⟨c, rfl⟩ : ∃ c, payload = .conditions stub c := by
        cases payload with
        | conditions owner c =>
          cases same
          exact ⟨c, rfl⟩
        | plain | tracked | foreign => cases same
      have items : s.queue = { items := ⟨api, .conditions stub c⟩ :: rest } := rfl
      have ran := consumeNextAs_run_same items stub.name
      change consumeNextAs (.conditions stub) stub.name s = _ at ran
      have findings : Action.findings (.command (.call stub fd data)) s =
          s.argumentMessages stub.name "fd" ⟨.int32 c.fd.value, c.fd.ignored⟩ (.int32 fd)
            ++ s.bytesMessages stub.name "buf" c.data data := if_pos rfl
      rw [findings]
      rw [ran] at outcome ⊢
      obtain rfl := Except.ok.inj outcome
      exact checks_records ⟨settings, formatter, ⟨rest⟩, binding⟩ stub c fd data
    · have findings : Action.findings (.command (.call stub fd data)) s = [] := by
        cases payload with
        | conditions owner c => exact if_neg fun own => same (congrArg Kind.conditions own)
        | plain | tracked | foreign => rfl
      obtain rfl : found = .error (.payloadTypeMismatch stub.name api) := by
        rw [consumeNextAs_run_other rfl same] at outcome
        simp only [raise_run] at outcome
        cases ended : Binding.fate binding _ with
        | ok => rw [ended] at outcome; exact (Except.ok.inj outcome).symm
        | error u => rw [ended] at outcome; cases outcome
      rw [findings]
      exact records_pure _

/-! ### All actions -/

/-- Binding a reporter tells the one that was bound. -/
theorem bindReporter_records (r : Reporter) :
    Records s.binding (Action.messages (.command (.bindReporter r)) s) s.queue.length (bindReporter r s) := by
  obtain ⟨settings, formatter, queue, ⟨bound⟩⟩ := s
  cases bound with
  | none => exact (counts_logged rfl fun _ => rfl).records
  | some q =>
    let s : Session := ⟨settings, formatter, queue, ⟨some q⟩⟩
    have told : Records s.binding [s.errorMessage .reporterAlreadyBound] s.queue.length
        (fail Error.reporterAlreadyBound.message s) := by
      rw [fail_eq_deliver]
      exact deliver_records s _
    -- The new reporter comes after all that is told, so the messages are those of the old one alone.
    have rebound : ∀ t : Session, Records s.binding [] t.queue.length
        ((do
          Run.modify fun s => { s with binding := ⟨some r⟩ }
          Run.log (.reporterBound true)
          return .error .reporterAlreadyBound : Run Session (Except Error Unit)) t) :=
      fun t => Counts.records (s := { t with binding := ⟨some r⟩ }) (counts_logged rfl fun _ => rfl)
    exact told.bind fun _ _ => rebound _

theorem assertWith_records {condition : Bool} {template : String} {args : List Argument}
    (formats : Action.refusal? (.command (.assertWith condition template args)) s.formatter = none) :
    Records s.binding (Action.messages (.command (.assertWith condition template args)) s) s.queue.length
      (assertWith condition template args s) := by
  cases condition with
  | false => exact records_pure ()
  | true =>
    cases formatted : s.formatter.format template args with
    | error refusal => simp [Action.refusal?, formatted] at formats
    | ok message =>
      have composed : Action.messages (.command (.assertWith true template args)) s = [message] := by
        simp [Action.messages, Action.failure?, Action.findings, formatted, Except.toOption]
      have ran : assertWith true template args s = report s.binding template args s := rfl
      rw [composed, ran, report_run_ok (s := s) formatted]
      exact records_told message s s.binding

theorem act_records {a : Action} (formats : a.refusal? s.formatter = none) :
    Records s.binding (a.messages s) s.queue.length (act a s) := by
  have failing : a.findings s = [] → a.messages s = (a.failure? s).toList.map s.errorMessage := by
    intro none
    rw [Action.messages, none, List.append_nil]
  rcases a with c | f | ⟨kind, api, f⟩ | payload
  · cases c with
    | bindReporter r => exact (bindReporter_records r).map _
    | reset => exact reset_records.map fun _ => Answer.nothing
    | verify => exact verify_records.map _
    | register api payload => exact (register_records api payload).map fun _ => Answer.nothing
    | peek =>
      rw [failing rfl]
      exact peekLatest_records.map _
    | peekIs kind =>
      rw [failing rfl]
      exact peekLatest_records.map _
    | overwrite payload =>
      rw [failing rfl]
      exact (overwriteLatest_records payload).map _
    | peekAs kind api =>
      rw [failing rfl]
      exact (peekLatestAs_records kind api).map _
    | overwriteAs api payload =>
      rw [failing rfl]
      exact (overwriteLatestAs_records api payload).map _
    | consume => exact consumeNext_records.map _
    | consumeAs kind api =>
      rw [failing rfl]
      exact (consumeNextAs_records kind api).map _
    | assertWith condition template args => exact (assertWith_records formats).map fun _ => Answer.nothing
    | assertPieces condition pieces keepGoing =>
      exact (assertPieces_records s condition pieces keepGoing).map fun _ => Answer.nothing
    | fail text =>
      have told : Records s.binding [s.formatter.compose [text] false] s.queue.length (fail text s) := by
        rw [fail_eq_deliver]
        exact deliver_records s _
      exact told.map fun _ => Answer.nothing
    | failPreformatted text truncated =>
      have told : Records s.binding [s.formatter.bound text truncated] s.queue.length
          (failPreformatted text truncated s) := by
        rw [failPreformatted_run]
        exact deliver_records s _
      exact told.map fun _ => Answer.nothing
    | unexpectedCall api => exact (unexpectedCall_records api).map fun _ => Answer.nothing
    | checkArgument api param expected actual => exact (checkArgument_records s api param expected actual).map _
    | checkBytes api param expected actual => exact (checkBytes_records s api param expected actual).map _
    | expect stub c => exact (register_records stub.name (.conditions stub c)).map fun _ => Answer.nothing
    | ignoreFd stub =>
      rw [failing rfl]
      exact (editLatestAs_records _ _ _).map _
    | setData stub data =>
      rw [failing rfl]
      exact (editLatestAs_records _ _ _).map _
    | call stub fd data => exact (call_records stub fd data).map _
  · rw [failing rfl]
    exact (alterLatest_records f).map _
  · rw [failing rfl]
    exact (editLatestAs_records kind api f).map _
  · rw [failing rfl]
    exact (replaceLatest_records payload).map _

end

/-! ## Runs -/

/-- What an auditor reads in the log of an action that was carried out in the session, and what its
deliveries are. -/
structure Audited (a : Action) (s : Session) : Prop where
  log : ∀ deliveries, Audit.readAll ⟨s.queue.length, false, deliveries⟩ (engineLog (act a s).trace) =
    some ⟨(act a s).state.queue.length, false, deliveries ++ s.binding.deliveries (a.messages s)⟩
  reported : (s.binding.deliveries (a.messages s)).filterMap Delivery.reportedText? =
    (reports (act a s).trace).map Prod.snd
  unreported : (s.binding.deliveries (a.messages s)).filterMap Delivery.unreportedText? =
    (unheard? (act a s).outcome).toList

theorem unheard?_map {α β : Type} (outcome : Except Unwind α) (g : α → β) :
    unheard? (outcome.map g) = unheard? outcome := by
  cases outcome with
  | ok a => rfl
  | error u => cases u <;> rfl

/-- An assertion without a message tells nothing and logs nothing. -/
theorem messages_of_refused {a : Action} {s : Session} {refusal : Message.PlacesRefused}
    (refused : a.refusal? s.formatter = some refusal) : a.messages s = [] := by
  rcases a with c | _ | _ | _
  · cases c with
    | assertWith condition template args =>
      cases condition with
      | false => cases refused
      | true =>
        cases formatted : s.formatter.format template args with
        | ok message => simp [Action.refusal?, formatted] at refused
        | error found =>
          simp [Action.messages, Action.failure?, Action.findings, formatted, Except.toOption]
    | _ => cases refused
  all_goals cases refused

theorem act_audited (a : Action) (s : Session) : Audited a s := by
  cases refused : a.refusal? s.formatter with
  | none =>
    have records := act_records refused
    refine ⟨records.log, ?_, ?_⟩
    · rw [Binding.reportedTexts_eq, records.heard]
    · rw [Binding.unreportedTexts_eq, ← records.outcome, unheard?_map]
  | some refusal =>
    have ran : act a s = ⟨.error (.placesRefused refusal), s, []⟩ := act_refused refused s.binding
    have none := messages_of_refused refused
    refine ⟨fun deliveries => ?_, ?_, ?_⟩
    · rw [ran, none]
      exact congrArg (fun told => some (Audit.mk _ _ told)) (List.append_nil deliveries).symm
    · rw [ran, none]
      rfl
    · rw [ran, none]
      rfl

/-- An action announces in the log just what it tells. -/
theorem act_announced (a : Action) (s : Session) : announced (act a s).trace = (reports (act a s).trace).map Prod.snd := by
  have audited := act_audited a s
  rw [announced_eq_engineLog, ← audited.reported]
  simpa using (Audit.readAll_reported (audited.log [])).symm

/-- The deliveries of a run: of the messages that each action composes, as far as the reporter that is bound
when the action begins lets them be told. -/
def deliveriesOf : List Action → Session → List Delivery
  | [], _ => []
  | a :: rest, s => s.binding.deliveries (a.messages s) ++ deliveriesOf rest (act a s).state

/-- Wherever a run starts, an auditor who knows the count there follows it to its end. -/
theorem history_audited (actions : List Action) (s : Session) (deliveries : List Delivery) :
    Audit.readAll ⟨s.queue.length, false, deliveries⟩ (engineLog (Run.traceOf (Run.history act actions s))) =
      some ⟨(Run.final act actions s).queue.length, false, deliveries ++ deliveriesOf actions s⟩ := by
  induction actions generalizing s deliveries with
  | nil => exact congrArg (fun told => some (Audit.mk _ _ told)) (List.append_nil deliveries).symm
  | cons a rest ih =>
    have first := (act_audited a s).log deliveries
    rw [Run.history, Run.traceOf, List.flatMap_cons, engineLog_append, Audit.readAll_append, first,
      deliveriesOf, ← List.append_assoc]
    exact ih (act a s).state _

theorem deliveriesOf_texts (actions : List Action) (s : Session) :
    (deliveriesOf actions s).filterMap Delivery.reportedText? =
        (reports (Run.traceOf (Run.history act actions s))).map Prod.snd ∧
      (deliveriesOf actions s).filterMap Delivery.unreportedText? =
        (Run.history act actions s).filterMap fun step => unheard? step.outcome := by
  induction actions generalizing s with
  | nil => exact ⟨rfl, rfl⟩
  | cons a rest ih =>
    obtain ⟨-, reported, unreported⟩ := act_audited a s
    obtain ⟨reportedLater, unreportedLater⟩ := ih (act a s).state
    refine ⟨?_, ?_⟩
    · have traced : Run.traceOf (Run.history act (a :: rest) s) =
          (act a s).trace ++ Run.traceOf (Run.history act rest (act a s).state) := rfl
      rw [deliveriesOf, List.filterMap_append, reported, reportedLater, traced, reports_append, List.map_append]
    · rw [deliveriesOf, List.filterMap_append, unreported, unreportedLater, Run.history]
      cases heard : unheard? (act a s).outcome <;> simp [heard]

/-- Whatever is done to a fresh session, and after however many actions, an auditor who reads only what the
engine logged has not objected and counts as many expectations as there are. The deliveries that the auditor
reads are those of the messages that the actions compose, each read as cut exactly if it was. The reported
ones are what reporters were told, in order, and the unreported ones are the unwindings for want of a
reporter. -/
theorem log_audits (settings : Settings) (actions : List Action) :
    let start := fresh settings
    let steps := Run.history act actions start
    let told := deliveriesOf actions start
    Audit.readAll {} (engineLog (Run.traceOf steps)) =
        some { count := (Run.final act actions start).queue.length, cut := false, deliveries := told } ∧
      told.filterMap Delivery.reportedText? = (reports (Run.traceOf steps)).map Prod.snd ∧
      told.filterMap Delivery.unreportedText? = steps.filterMap fun step => unheard? step.outcome :=
  ⟨history_audited actions (fresh settings) [], deliveriesOf_texts actions (fresh settings)⟩

end Session

end MockQueue

import MockQueue.Binding
import MockQueue.Queue
import MockQueue.Settings.Basic

/-!
# Sessions

A session joins a queue of expectations, the bound reporter, the settings and the formatter that was made of
them. All failures go through `deliver`: the message is brought within the bound of the formatter and handed to
the reporter that is bound at that moment.
-/

namespace MockQueue

/-- The state of a mock test. -/
structure Session where
  settings : Settings := {}
  /-- What brings messages within their bound; made when the session is. -/
  formatter : Message.Formatter := settings.formatter
  queue : Queue := {}
  binding : Binding := {}

namespace Session

def fresh (settings : Settings) : Session :=
  { settings, formatter := settings.formatter }

def isBound (s : Session) : Bool :=
  s.binding.isBound

def queueComponent : Component Session Queue where
  get := queue
  put q s := { s with queue := q }
  get_put _ _ := rfl
  put_put _ _ _ := rfl

def onQueue {α : Type} (x : Run Queue α) : Run Session α :=
  x.zoom queueComponent

/-! ## The failure funnel -/

/-- Hands a message that is within its bound to a reporter. -/
def deliverTo (b : Binding) (message : Message.Bounded) : Run Session Unit := do
  let s ← Run.get
  if message.truncated then Run.log (.messageTruncated s.formatter.capacity)
  b.deliver message.text

/-- Hands a message that is within its bound to the bound reporter. -/
def deliver (message : Message.Bounded) : Run Session Unit := do
  let s ← Run.get
  deliverTo s.binding message

/-- Reports the message that a template and its arguments make. -/
def report (b : Binding) (template : String) (args : List Message.Argument) : Run Session Unit := do
  let s ← Run.get
  match s.formatter.format template args with
  | .ok message => deliverTo b message
  | .error refusal => Run.unwind (.placesRefused refusal)

def fail (text : String) : Run Session Unit := do
  let s ← Run.get
  deliver (s.formatter.compose [text] false)

/-- Reports a text that may already have been cut elsewhere. -/
def failPreformatted (text : String) (truncated : Bool) : Run Session Unit := do
  let s ← Run.get
  deliver (s.formatter.bound text truncated)

/-- Reports an error and gives it. -/
def raise {α : Type} (e : Error) : Run Session (Except Error α) := do
  fail e.message
  return .error e

/-- Reports the message of a template if the condition holds. -/
def assertWith (condition : Bool) (template : String) (args : List Message.Argument) :
    Run Session Unit := do
  if condition then
    let s ← Run.get
    report s.binding template args

/-- Reports the message that a writer makes piece by piece, if the condition holds. -/
def assertPieces (condition : Bool) (pieces : List String) (keepGoing : Bool) :
    Run Session Unit := do
  if condition then
    let s ← Run.get
    deliver (s.formatter.compose pieces keepGoing)

/-! ## The reporter -/

/-- Binds a reporter. To bind a second one is a failure, of which the first is told before the second
takes its place. -/
def bindReporter (r : Reporter) : Run Session (Except Error Unit) := do
  let s ← Run.get
  if s.isBound then
    fail Error.reporterAlreadyBound.message
    Run.modify fun s => { s with binding := ⟨some r⟩ }
    Run.log (.reporterBound true)
    return .error .reporterAlreadyBound
  else
    Run.modify fun s => { s with binding := ⟨some r⟩ }
    Run.log (.reporterBound false)
    return .ok ()

def reset : Run Session Unit := do
  let drained ← onQueue Queue.drainAndDiscard
  Run.modify fun s => { s with binding := {} }
  Run.log (.sessionReset drained.length)

/-! ## Expectations -/

def register (api : String) (payload : Payload) : Run Session Unit :=
  onQueue (Queue.register api payload)

/-- The payload of the latest expectation; that there is none is a failure. -/
def peekLatest : Run Session (Except Error Payload) := do
  let s ← Run.get
  match s.queue.latest? with
  | some e => return .ok e.payload
  | none => raise .emptyQueuePeek

/-- The payload of the latest expectation for a stub that serves `api`; that there is none, or one of
another kind, is a failure. -/
def peekLatestAs (kind : Kind) (api : String) : Run Session (Except Error Payload) := do
  let s ← Run.get
  match s.queue.latest? with
  | some e =>
    if e.payload.kind = kind then return .ok e.payload
    else raise (.payloadTypeMismatch api e.api)
  | none => raise .emptyQueuePeek

/-- Puts another payload into the latest expectation; gives whether it is of the same kind. -/
def overwriteLatest (payload : Payload) : Run Session (Except Error Bool) := do
  match ← peekLatest with
  | .ok _ => return .ok (← onQueue (Queue.overwriteLatest payload))
  | .error e => return .error e

/-- Puts another payload of the same kind into the latest expectation, for a stub that serves `api`. -/
def overwriteLatestAs (api : String) (payload : Payload) : Run Session (Except Error Unit) := do
  match ← peekLatestAs payload.kind api with
  | .ok _ =>
    let _ ← onQueue (Queue.overwriteLatest payload)
    return .ok ()
  | .error e => return .error e

/-- Changes the payload of the latest expectation in place, for a stub that serves `api`. -/
def editLatestAs (kind : Kind) (api : String) (f : Payload → Payload) :
    Run Session (Except Error Unit) := do
  match ← peekLatestAs kind api with
  | .ok _ =>
    Run.modify fun s => { s with queue := s.queue.editLatest f }
    return .ok ()
  | .error e => return .error e

/-- Takes the oldest payload; that there is none is no failure. -/
def consumeNext : Run Session (Option Payload) := do
  return (← onQueue Queue.consumeNext).map Expectation.payload

/-- Takes the oldest payload for a stub that serves `api`. One of another kind means that the calls
come in another order: it is discarded, and that is a failure. -/
def consumeNextAs (kind : Kind) (api : String) : Run Session (Except Error (Option Payload)) := do
  match ← onQueue Queue.consumeNext with
  | none => return .ok none
  | some e =>
    if e.payload.kind = kind then return .ok (some e.payload)
    else
      Run.discard [e.payload]
      raise (.payloadTypeMismatch api e.api)

/-- The template of the report on expectations that were left over. -/
def leftOverTemplate : String :=
  "\nThere are %d unfulfilled expectations. The ordered list of unfulfilled expectations is:\n%s"

/-- Checks that no expectation is left. Those that are left are discarded and reported in one message;
under the settings that ask for it the reporter is unbound. -/
def verify : Run Session (Except Error Unit) := do
  let s ← Run.get
  let drained ← onQueue Queue.drain
  if s.settings.unbindOnVerify then Run.modify fun s => { s with binding := {} }
  if drained.isEmpty then
    Run.log .allFulfilled
    return .ok ()
  else
    let listing := Queue.listing drained
    Run.discard (drained.map Expectation.payload)
    Run.log (.leftOver drained.length)
    report s.binding leftOverTemplate [.uint (UInt64.ofNat drained.length), .text listing]
    return .error (.unfulfilled drained.length listing)

/-- Ends the session: what is still in the queue is discarded. -/
def close : Run Session Unit :=
  onQueue Queue.close

end Session

end MockQueue

import MockQueue.Boundary.Format.Output
import MockQueue.Settings.Environment
import MockQueue.Slot

/-!
# The session behind foreign calls

A thread's session as foreign code uses it: texts are rows of bytes, payloads are pointers, and the
settings come from the environment. No unwinding crosses into foreign code: a call that would unwind
ends the process.

A failure callback is told a text without zero bytes. It runs while the session is lent out, so what
it asks for in between is refused.
-/

namespace MockQueue.Boundary

structure Host where
  slot : Slot := .fresh
  environment : Environment := {}
  /-- Whether variadic messages have been set up, which binding the first callback does. -/
  hooked : Bool := false
  /-- Why the last call to the foreign library that failed did so. -/
  lastFault : Option Fault := none
  /-- Whether log events are being written somewhere. -/
  logging : Bool := false

namespace Host

def slotComponent : Component Host Slot where
  get := slot
  put slot h := { h with slot }
  get_put _ _ := rfl
  put_put _ _ _ := rfl

def onSlot {α : Type} (x : Run Slot α) : Run Host α :=
  x.zoom slotComponent

/-- The body of a foreign call: an unwinding ends the process. -/
def guarded {α : Type} (function : String) (x : Run Host α) : Run Host α :=
  x.andThen fun
    | .ok a => return a
    | .error .aborted => Run.unwind .aborted
    | .error _ => do
      Run.log (.aborting function)
      Run.unwind .aborted

/-- The log events of a foreign call carry its name. -/
def spanned {α : Type} (function : String) (x : Run Host α) : Run Host α :=
  x.within function

/-! ## Calls without a report -/

/-- The number of expectations; zero while the session is lent out. -/
def pendingCount : Run Host Nat := do
  match ← onSlot Slot.tryPending with
  | .ok pending => return pending.length
  | .error e =>
    Run.log (.callFailed .warn "mcmock_pending_expectations" e)
    return 0

/-- The bound on messages; the default one while the session is lent out. -/
def messageCapacity : Run Host Nat := do
  match ← onSlot Slot.tryCapacity with
  | .ok capacity => return capacity
  | .error _ => return ({} : Settings).capacity

def configureFromEnvironment : Run Host Int :=
  spanned "configure_from_env" do
    let h ← Run.get
    let answer ←
      match Settings.ofEnvironment h.environment with
      | .ok settings => onSlot (Slot.configure settings)
      | .error p => pure (.error p.error)
    match answer with
    | .ok () => return 0
    | .error e =>
      Run.log (.callFailed .warn "mcmock_configure_from_env" e)
      return -1

def ask : Query → Run Host Int
  | .pending => return (← pendingCount)
  | .configure => configureFromEnvironment
  | .capacity => return (← messageCapacity)

def askAll : List Query → Run Host (List Int)
  | [] => return []
  | query :: rest => do
    let answer ← ask query
    let answers ← askAll rest
    return answer :: answers

/-! ## Telling a callback -/

/-- A message as a callback gets it: a zero character is spelled out. -/
def callbackText (message : String) : String :=
  String.ofList (message.toList.flatMap fun c => if c = '\x00' then ['\\', '0'] else [c])

section

variable (hear : Reporter → String → Run Host Unit)

/-- Checks that no expectation is left, with reporters that do what `hear` says. -/
def verifyHearing : Run Host Unit :=
  spanned "verify" <| guarded "verify" do
    match ← (onSlot (Slot.enter Session.verify)).hearing hear with
    | .ok () => return
    | .error e => Run.log (.callFailed .debug "mcmock_verify" e)

/-- What a callback does when it is told a message. -/
def notify (c : Callback) (message : String) : Run Host Unit :=
  let text := callbackText message
  match c with
  | .recording _ => Run.note [.heard (.callback c) text []] rfl
  | .querying asks => do
    let answers ← askAll (asks text)
    Run.note [.heard (.callback c) text (answers.map .number)] rfl
  | .reentering => do
    Run.note [.heard (.callback c) text []] rfl
    verifyHearing hear

end

/-- What a reporter does when it is told a message. A callback that then verifies finds the session lent out, so
its own call tells nobody anything. -/
def hear (r : Reporter) (message : String) : Run Host Unit :=
  match r with
  | .callback c => notify Run.tell c message
  | r => onSlot (Slot.hear Slot.usual r message)

/-- An operation on the slot, with reporters that reach for the session. -/
def inSlot {α : Type} (x : Run Slot α) : Run Host α :=
  (onSlot x).hearing hear

def inSession {α : Type} (x : Run Session α) : Run Host α :=
  inSlot (Slot.enter x)

/-! ## Calls that can report -/

def reportNull (function argument : String) : Run Host Unit := do
  let e := Error.nullArgument function argument
  Run.log (.nullArgument e)
  inSession (Session.fail e.message)

def textOf (bytes : Bytes) : String :=
  String.ofList (Text.decodeLossy bytes)

def bindCallback (callback : Option Callback) : Run Host Unit :=
  spanned "initialise" do
    Run.modify fun h => { h with hooked := true }
    guarded "initialise" do
      match callback with
      | none => reportNull "mcmock_initialise" "callback"
      | some c =>
        match ← inSession (Session.bindReporter (.callback c)) with
        | .ok () => return
        | .error e => Run.log (.callFailed .warn "mcmock_initialise" e)

/-- Appends an expectation. Without a name it is not appended: the pointer is discarded after the
report, also if that unwinds. -/
def registerForeign (function : String) (f : Foreign) (api : Option Bytes) : Run Host Unit := do
  match api with
  | none => (reportNull function "api_name").ensuring (Run.discard [.foreign f])
  | some name => inSession (Session.register (textOf name) (.foreign f))

/-- Appends an expectation whose cell, if it is never taken, goes back to the allocator. -/
def registerExpectation (cell : Option Cell) (api : Option Bytes) : Run Host Unit :=
  spanned "register_expectation" <| guarded "register_expectation" <|
    registerForeign "mcmock_register_expectation" ⟨cell, some .free⟩ api

/-- Appends an expectation with the function that releases its cell, if it is never taken. -/
def registerWithRelease (cell : Option Cell) (api : Option Bytes) (release : Option Release) :
    Run Host Unit :=
  spanned "register_expectation_with_release" <| guarded "register_expectation_with_release" <|
    registerForeign "mcmock_register_expectation_with_release" ⟨cell, release⟩ api

/-- The pointer appended last; null if there is none or the payload is no pointer. -/
def peekLatest : Run Host (Option Cell) :=
  spanned "peek_latest_expectation" <| guarded "peek_latest_expectation" do
    match ← inSession Session.peekLatest with
    | .ok (.foreign f) => return f.cell
    | _ => return none

def pokeLatest (content : Int64) : Run Host (Option Cell) := do
  let cell ← peekLatest
  if cell.isSome then
    inSession <| Run.modify fun s =>
      { s with queue := s.queue.editLatest fun payload =>
          match payload with
          | .foreign f => .foreign { f with cell := f.cell.map fun c => { c with content } }
          | other => other }
  return cell

/-- Gives the cell of a pointer to the caller; what is left of the pointer releases nothing. -/
def intoRaw (f : Foreign) : Run Host (Option Cell) := do
  let disarmed := { f with release := none }
  Run.note disarmed.discard disarmed.isReported_discard
  return disarmed.cell

/-- Takes the oldest pointer; from then on it belongs to the caller. A payload that is no pointer is
discarded and reported. -/
def getNext : Run Host (Option Cell) :=
  spanned "get_next_expectation" <| guarded "get_next_expectation" do
    match ← inSession Session.consumeNext with
    | none => return none
    | some (.foreign f) => intoRaw f
    | some payload =>
      Run.discard [payload]
      inSession <| Session.fail
        ("Cannot hand a " ++ payload.typeName ++ " payload registered from Rust to a C stub")
      return none

/-- Checks that no expectation is left. -/
def verify : Run Host Unit :=
  verifyHearing hear

/-- Reports a text if the condition holds. -/
def assertText (condition : Bool) (message : Option Bytes) : Run Host Unit :=
  spanned "assert_str" <| guarded "assert_str" do
    if condition then
      match message with
      | none => reportNull "mcmock_assert_str" "message"
      | some bytes => inSession (Session.fail (textOf bytes))

/-- Reports a text that was formatted to `length` bytes, of which it may lack some. -/
def reportFormatted (message : Option Bytes) (length : Nat) : Run Host Unit :=
  spanned "report_formatted" <| guarded "report_formatted" do
    match message with
    | none => reportNull "mcmock_assert_msg" "fmt"
    | some bytes =>
      inSession (Session.failPreformatted (textOf bytes) (decide (bytes.length < length)))

def reset : Run Host Unit :=
  spanned "reset" <| guarded "reset" <| inSession Session.reset

/-! ## Variadic messages -/

/-- The size of the buffer of a variadic message: one byte more than the bound, as a word. -/
def bufferSize (capacity : Nat) : Nat :=
  (capacity + 1) % Number.wordSize

/-- What a buffer of `size` bytes holds after formatting: the first bytes of the output and a zero. -/
def bufferText (size : Nat) (output : List (Message.Piece UInt8)) : Bytes :=
  upToZero (Message.takeSymbols (size - 1) output)

/-- The memory after formatting into it: the first bytes of the output, as many as leave room for a zero, and
the zero. Where there is no memory nothing is written. -/
def formatInto (memory output : Bytes) : Bytes :=
  if memory = [] then memory else overwrite memory (output.take (memory.length - 1) ++ [0])

/-- What a variadic call hands over after formatting into memory: the memory, the length that it tells and the
host. If formatting fails, it tells no length and makes the first byte a zero, whatever has been written until
then; if the process ends, it hands over nothing. -/
def handsOver (h : Host) (memory : Bytes) : Except Halt (List (Message.Piece UInt8)) → Option (Bytes × Nat × Host)
  | .ok output => some (formatInto memory (Message.symbolsOf output), Message.lengthOf output, h)
  | .error (.failed fault) => some (overwrite memory [0], 0, { h with lastFault := some fault })
  | .error .crashed => none

def recordFault (fault : Fault) : Run Host Unit :=
  Run.modify fun h => { h with lastFault := some fault }

/-- Reports a variadic message if the condition holds. It needs the set-up that binding the first
callback does. Without a buffer the format itself is reported, and output that cannot be formatted is
reported as an empty text. -/
def assertVariadic (room : Room) (condition : Bool) (format : Option Bytes) (args : Arguments) :
    Run Host Unit := do
  if condition then
    let h ← Run.get
    if h.hooked then
      match format with
      | none => reportFormatted none 0
      | some format =>
        let size := bufferSize (← messageCapacity)
        if room.buffer then
          match formatBytes room h.lastFault format args with
          | .ok output => reportFormatted (some (bufferText size output)) (Message.lengthOf output)
          | .error (.failed fault) =>
            recordFault fault
            reportFormatted (some []) 0
          | .error .crashed => Run.unwind .aborted
        else
          recordFault .noMemory
          reportFormatted (some format) format.length
    else Run.unwind .aborted

/-- Starts writing log events; minus one if they already are written. -/
def startLogging : Run Host Int := do
  let h ← Run.get
  if h.logging then return -1
  else
    Run.modify fun h => { h with logging := true }
    return 0

/-- Tells a callback directly, outside of any report. -/
def notifyDirectly (c : Callback) (message : String) : Run Host Unit :=
  notify hear c message

end Host

end MockQueue.Boundary

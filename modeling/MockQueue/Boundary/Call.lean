import MockQueue.Boundary.Host

/-!
# Foreign calls as data

All calls that foreign code can make, and those that the program around it makes on the same thread,
so that a run is a list of calls. Where the program around may also work on the session itself, a run is a
list of deeds.
-/

namespace MockQueue.Boundary

/-- A call on the host. -/
inductive Call where
  | initialise (callback : Option Callback)
  | register (cell : Option Cell) (api : Option Bytes)
  | registerWithRelease (cell : Option Cell) (api : Option Bytes) (release : Option Release)
  | peek
  | poke (content : Int64)
  | getNext
  | verify
  | reset
  | capacity
  | pending
  | assertVariadic (room : Room) (condition : Bool) (format : Option Bytes) (args : Arguments)
  | assertText (condition : Bool) (message : Option Bytes)
  | reportFormatted (message : Option Bytes) (length : Nat)
  /-- Sets the environment, then takes the settings from it. -/
  | configure (environment : Environment)
  | startLogging
  /-- Appends an expectation of the program around. -/
  | sessionRegister (api : String) (payload : Payload)
  | sessionConfigure (settings : Settings)
  | sessionAssert (condition : Bool) (message : String)
  /-- Takes the oldest payload and discards it. -/
  | sessionConsume
  | notify (callback : Callback) (message : String)
  /-- Wraps a pointer and gives it back, or discards it. -/
  | wrap (cell : Option Cell) (release : Option Release) (giveBack : Bool)

/-- What a call answered. -/
inductive Reply where
  | nothing
  | done
  | failed (e : Error)
  | number (n : Int)
  | count (n : Nat)
  | cell (c : Option Cell)
  | payload (p : Option Payload)
  | cells (l : List (Option Cell))
  deriving DecidableEq, Repr

def perform : Call → Run Host Reply
  | .initialise callback => do Host.bindCallback callback; return .nothing
  | .register cell api => do Host.registerExpectation cell api; return .nothing
  | .registerWithRelease cell api release => do
    Host.registerWithRelease cell api release
    return .nothing
  | .peek => return .cell (← Host.peekLatest)
  | .poke content => return .cell (← Host.pokeLatest content)
  | .getNext => return .cell (← Host.getNext)
  | .verify => do Host.verify; return .nothing
  | .reset => do Host.reset; return .nothing
  | .capacity => return .count (← Host.messageCapacity)
  | .pending => return .count (← Host.pendingCount)
  | .assertVariadic room condition format args => do
    Host.assertVariadic room condition format args
    return .nothing
  | .assertText condition message => do Host.assertText condition message; return .nothing
  | .reportFormatted message length => do Host.reportFormatted message length; return .nothing
  | .configure environment => do
    Run.modify fun h => { h with environment }
    return .number (← Host.configureFromEnvironment)
  | .startLogging => return .number (← Host.startLogging)
  | .sessionRegister api payload => do
    Host.inSession (Session.register api payload)
    return .nothing
  | .sessionConfigure settings => do
    match ← Host.onSlot (Slot.configure settings) with
    | .ok () => return .done
    | .error e => return .failed e
  | .sessionAssert condition message => do
    if condition then Host.inSession (Session.fail message)
    return .nothing
  | .sessionConsume => do
    let payload ← Host.inSession Session.consumeNext
    Run.discard payload.toList
    return .payload payload
  | .notify callback message => do
    Host.notifyDirectly callback message
    return .nothing
  | .wrap cell release giveBack => do
    if giveBack then return .cells [cell, ← Host.intoRaw ⟨cell, release⟩]
    else
      Run.discard [.foreign ⟨cell, release⟩]
      return .cells [cell]

/-- What is done on a thread: a call on the host, or an operation of the program around on the session. -/
inductive Deed where
  | call (c : Call)
  | own (op : Slot.Operation)

def Deed.carryOut : Deed → Run Host (Reply ⊕ Session.Answer)
  | call c => return .inl (← perform c)
  | own op => return .inr (← Host.inSlot (Slot.attempt op))

end MockQueue.Boundary

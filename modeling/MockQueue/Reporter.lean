import MockQueue.Error
import MockQueue.Message.Conversion

/-!
# Reporters

A reporter is told about failures. Most come back; one that unwinds, or that reaches for the session
while it is lent out, makes the failing operation unwind too.
-/

namespace MockQueue

/-- Why an operation was left without a result. -/
inductive Unwind where
  /-- A failure found no reporter. -/
  | noReporter (message : String)
  /-- The reporter turned the failure into an unwinding. -/
  | raised (message : String)
  /-- The reporter unwound with words of its own. -/
  | panicked (text : String)
  /-- A message asked for more places of a float than can be written. -/
  | placesRefused (refusal : Message.PlacesRefused)
  /-- The session was entered while it was lent out. -/
  | borrowed
  /-- The process was ended. -/
  | aborted
  deriving DecidableEq, Repr

/-- The wording of an unwinding, if it has one of its own. -/
def Unwind.message? : Unwind → Option String
  | noReporter text => some (Error.noReporter text).message
  | raised text => some ("mcmock failure: " ++ text)
  | panicked text => some text
  | placesRefused _ => some "Formatting argument out of range"
  | borrowed => none
  | aborted => none

/-- What a callback asks while it is told something. -/
inductive Query where
  | pending
  /-- To start over with the settings of the environment. -/
  | configure
  | capacity
  deriving DecidableEq, Repr

/-- A failure callback of foreign code. -/
inductive Callback where
  /-- Notes the message. -/
  | recording (name : String)
  /-- Asks what it likes, depending on the message, then notes the message and the answers. -/
  | querying (asks : String → List Query)
  /-- Notes the message, then verifies. -/
  | reentering

/-- What is told about failures. -/
inductive Reporter where
  /-- Keeps the messages, under a name that several bindings can share. -/
  | collector (name : String)
  /-- A function that notes the message, and then panics or not, depending on the message. -/
  | closure (name : String) (panics : String → Option String)
  /-- Unwinds with the message. -/
  | raising
  /-- Asks things of the session, then notes the message. -/
  | probing
  /-- Notes the message, then resets the session. -/
  | reentering
  | callback (c : Callback)

/-- How telling a reporter ends: none if it comes back. -/
def Reporter.fate (r : Reporter) (message : String) : Option Unwind :=
  match r with
  | closure _ panics => (panics message).map .panicked
  | raising => some (.raised message)
  | reentering => some .borrowed
  | callback .reentering => some .aborted
  | _ => none

/-- How telling a reporter ends. -/
def Reporter.reply (r : Reporter) (message : String) : Except Unwind Unit :=
  match r.fate message with
  | some u => .error u
  | none => .ok ()

end MockQueue

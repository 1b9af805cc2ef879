import MockQueue.Session.Check

/-!
# Commands

All operations of a session as data, so that a run is a list of commands. `perform` carries one out
and says what it answered.
-/

namespace MockQueue.Session

open Message (Argument)

/-- The operations of a session. -/
inductive Command where
  | bindReporter (r : Reporter)
  | reset
  | verify
  | register (api : String) (payload : Payload)
  | peek
  | peekIs (kind : Kind)
  | overwrite (payload : Payload)
  | peekAs (kind : Kind) (api : String)
  | overwriteAs (api : String) (payload : Payload)
  | consume
  | consumeAs (kind : Kind) (api : String)
  | assertWith (condition : Bool) (template : String) (args : List Argument)
  | assertPieces (condition : Bool) (pieces : List String) (keepGoing : Bool)
  | fail (text : String)
  | failPreformatted (text : String) (truncated : Bool)
  | unexpectedCall (api : String)
  | checkArgument (api param : String) (expected : Expected Value) (actual : Value)
  | checkBytes (api param : String) (expected : Option (List UInt8)) (actual : List UInt8)
  | expect (stub : Stub) (c : Conditions)
  | ignoreFd (stub : Stub)
  | setData (stub : Stub) (data : Option (List UInt8))
  | call (stub : Stub) (fd : Int32) (data : List UInt8)

/-- What a command answered. -/
inductive Answer where
  | nothing
  | done
  | failed (e : Error)
  | held (p : Payload)
  /-- There was no payload. -/
  | absent
  | truth (b : Bool)
  | served (fd data : Bool) (retval : Int32)
  | unexpected
  deriving DecidableEq, Repr

namespace Answer

/-- The answer that a result stands for, an error being the answer too. -/
def ofExcept {α : Type} (f : α → Answer) : Except Error α → Answer
  | .ok a => f a
  | .error e => failed e

def ofPayload? : Option Payload → Answer
  | some p => held p
  | none => absent

def ofCall : CallResult → Answer
  | .served fd data retval => served fd data retval
  | .unexpected => unexpected

end Answer

open Answer in
def perform : Command → Run Session Answer
  | .bindReporter r => return ofExcept (fun _ => done) (← bindReporter r)
  | .reset => do reset; return nothing
  | .verify => return ofExcept (fun _ => done) (← verify)
  | .register api payload => do register api payload; return nothing
  | .peek => return ofExcept held (← peekLatest)
  | .peekIs kind => return ofExcept (fun p => truth (p.kind = kind)) (← peekLatest)
  | .overwrite payload => return ofExcept truth (← overwriteLatest payload)
  | .peekAs kind api => return ofExcept held (← peekLatestAs kind api)
  | .overwriteAs api payload => return ofExcept (fun _ => done) (← overwriteLatestAs api payload)
  | .consume => return ofPayload? (← consumeNext)
  | .consumeAs kind api => return ofExcept ofPayload? (← consumeNextAs kind api)
  | .assertWith condition template args => do assertWith condition template args; return nothing
  | .assertPieces condition pieces keepGoing => do
    assertPieces condition pieces keepGoing
    return nothing
  | .fail text => do fail text; return nothing
  | .failPreformatted text truncated => do failPreformatted text truncated; return nothing
  | .unexpectedCall api => do unexpectedCall api; return nothing
  | .checkArgument api param expected actual =>
    return truth (← checkArgument api param expected actual)
  | .checkBytes api param expected actual => return truth (← checkBytes api param expected actual)
  | .expect stub c => do expect stub c; return nothing
  | .ignoreFd stub => return ofExcept (fun _ => done) (← ignoreFd stub)
  | .setData stub data => return ofExcept (fun _ => done) (← setData stub data)
  | .call stub fd data => return ofExcept ofCall (← call stub fd data)

end MockQueue.Session

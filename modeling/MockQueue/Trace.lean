import MockQueue.Payload
import MockQueue.Reporter

/-!
# The trace of an operation

What an operation does besides changing the state: log events, reports to the bound reporter, and
payloads that are discarded, in the order in which they happen.
-/

namespace MockQueue

inductive Level where
  | debug
  | info
  | warn
  | error
  deriving DecidableEq, Repr

inductive LogEvent where
  | registering (api typeName : String) (position : Nat)
  | consumed (api : String) (remaining : Nat)
  | consumedNothing
  | reporterBound (rebinding : Bool)
  | sessionReset (dropped : Nat)
  | allFulfilled
  | leftOver (count : Nat)
  | messageTruncated (capacity : Nat)
  | reporting (message : String)
  | unreported (message : String)
  | nullArgument (error : Error)
  | callFailed (level : Level) (function : String) (error : Error)
  /-- A discarded cell is about to be released. -/
  | releasing
  | aborting (function : String)
  deriving DecidableEq, Repr

structure LogLine where
  level : Level
  target : String
  title : String
  fields : List (String × String)
  deriving DecidableEq, Repr

namespace LogEvent

def engine : String := "mcmock.engine"

def boundary : String := "mcmock.capi"

def line : LogEvent → LogLine
  | registering api typeName position =>
    ⟨.debug, engine, "register expectation",
      [("api", api), ("payload", typeName), ("position", toString position)]⟩
  | consumed api remaining =>
    ⟨.debug, engine, "consume expectation", [("api", api), ("remaining", toString remaining)]⟩
  | consumedNothing => ⟨.debug, engine, "consume on empty queue", []⟩
  | reporterBound rebinding =>
    ⟨.debug, engine, "failure reporter bound",
      [("rebinding", if rebinding then "true" else "false")]⟩
  | sessionReset dropped => ⟨.debug, engine, "context reset", [("dropped", toString dropped)]⟩
  | allFulfilled => ⟨.debug, engine, "verify: all expectations fulfilled", []⟩
  | leftOver count => ⟨.info, engine, "verify: unfulfilled expectations", [("count", toString count)]⟩
  | messageTruncated capacity =>
    ⟨.debug, engine, "failure message truncated", [("capacity", toString capacity)]⟩
  | reporting message => ⟨.warn, engine, "reporting failure", [("message", message)]⟩
  | unreported message =>
    ⟨.error, engine, "failure raised with no reporter bound", [("message", message)]⟩
  | nullArgument error => ⟨.warn, boundary, "null argument", [("err", error.message)]⟩
  | callFailed level function error => ⟨level, boundary, function, [("err", error.message)]⟩
  | releasing => ⟨.debug, boundary, "releasing unconsumed payload", []⟩
  | aborting function =>
    ⟨.error, boundary, "mcmock failure could not be reported, aborting", [("api_func", function)]⟩

end LogEvent

/-- What a reporter learned from a call that it made while it was being told. -/
inductive Finding where
  | verdict (error : Option Error)
  | number (n : Int)
  deriving DecidableEq, Repr

/-- One entry of a trace. -/
inductive Entry where
  /-- A log event, inside the foreign call that is under way. -/
  | logged (event : LogEvent) (span : Option String)
  /-- A reporter was told a message. -/
  | reported (reporter : Reporter) (message : String)
  /-- A reporter took a message in, in these words, and found out some things on its own. -/
  | heard (reporter : Reporter) (text : String) (findings : List Finding)
  /-- A cell was handed to what releases it. -/
  | released (cell : Cell) (release : Release)
  /-- A payload was discarded. -/
  | dropped (payload : Payload)

namespace Entry

/-- Whether the entry says that a reporter was told a message, whatever it did then. -/
def isReported : Entry → Bool
  | reported _ _ => true
  | _ => false

/-- Who was told what, if the entry says so. -/
def report? : Entry → Option (Reporter × String)
  | reported r message => some (r, message)
  | heard r text _ => some (r, text)
  | _ => none

/-- The entry inside a foreign call, unless it already is inside one. -/
def within (call : String) : Entry → Entry
  | logged event none => logged event (some call)
  | entry => entry

@[simp] theorem isReported_within (call : String) (entry : Entry) : (entry.within call).isReported = entry.isReported := by
  rcases entry with ⟨event, _ | span⟩ | _ | _ | _ | _ <;> rfl

/-- The entry with a report spelled out. -/
def spelled (spell : Reporter → String → List Entry) : Entry → List Entry
  | reported r message => spell r message
  | entry => [entry]

/-- Where nobody is told anything there is nothing to spell out. -/
theorem flatMap_spelled_of_own {spell : Reporter → String → List Entry} {entries : List Entry}
    (own : entries.all (!·.isReported) = true) : entries.flatMap (spelled spell) = entries := by
  induction entries with
  | nil => rfl
  | cons entry rest ih =>
    rw [List.all_cons, Bool.and_eq_true] at own
    rw [List.flatMap_cons, ih own.2]
    cases entry with
    | reported => cases own.1
    | _ => rfl

end Entry

/-- What the end of a pointer leaves in the trace: a cell that is there goes to what releases it, if anything
does. -/
def Foreign.discard (f : Foreign) : List Entry :=
  match f.cell, f.release with
  | some cell, some release => [.logged .releasing none, .released cell release]
  | _, _ => []

theorem Foreign.isReported_discard (f : Foreign) : f.discard.all (!·.isReported) = true := by
  rcases f with ⟨_ | cell, _ | release⟩ <;> rfl

def Payload.discard (p : Payload) : List Entry :=
  match p with
  | .foreign f => f.discard ++ [.dropped p]
  | _ => [.dropped p]

namespace Payload

/-- To discard a payload is to tell nobody. -/
theorem report?_discard (p : Payload) : ∀ e ∈ p.discard, e.report? = none := by
  rcases p with _ | _ | _ | ⟨_ | cell, _ | release⟩ <;> simp [discard, Foreign.discard, Entry.report?]

theorem isReported_discardAll (payloads : List Payload) :
    (payloads.flatMap discard).all (!·.isReported) = true := by
  rw [List.all_eq_true]
  intro e member
  obtain ⟨p, -, here⟩ := List.mem_flatMap.mp member
  have none := p.report?_discard e here
  cases e with
  | reported => cases none
  | _ => rfl

end Payload

end MockQueue

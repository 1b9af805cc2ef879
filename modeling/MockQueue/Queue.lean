import MockQueue.Run

/-!
# The queue of expectations

Expectations are taken in the order in which they were appended. The latest can be looked at and
changed, so that a stub can refine what it has just registered.
-/

namespace MockQueue

/-- An expected call and what it carries. -/
structure Expectation where
  api : String
  payload : Payload
  deriving DecidableEq, Repr

/-- The expectations that were not yet met, the oldest first. -/
structure Queue where
  items : List Expectation := []
  deriving DecidableEq, Repr

namespace Queue

def length (q : Queue) : Nat :=
  q.items.length

def pending (q : Queue) : List String :=
  q.items.map Expectation.api

def next? (q : Queue) : Option Expectation :=
  q.items.head?

def latest? (q : Queue) : Option Expectation :=
  q.items.getLast?

/-- The queue with another payload in its latest expectation. -/
def editLatest (q : Queue) (f : Payload → Payload) : Queue :=
  { items := q.items.modify (q.items.length - 1) fun e => { e with payload := f e.payload } }

@[simp] theorem latest?_append (front : List Expectation) (e : Expectation) :
    latest? { items := front ++ [e] } = some e := by
  simp [latest?]

/-- A change of the latest expectation leaves those before it as they are. -/
theorem editLatest_append (front : List Expectation) (e : Expectation) (f : Payload → Payload) :
    editLatest { items := front ++ [e] } f = { items := front ++ [{ e with payload := f e.payload }] } := by
  simp [editLatest, List.modify_eq_take_drop]

def register (api : String) (payload : Payload) : Run Queue Unit := do
  let q ← Run.get
  Run.log (.registering api payload.typeName (q.length + 1))
  Run.set { items := q.items ++ [⟨api, payload⟩] }

def consumeNext : Run Queue (Option Expectation) := do
  let q ← Run.get
  match q.items with
  | [] =>
    Run.log .consumedNothing
    return none
  | e :: rest =>
    Run.set { items := rest }
    Run.log (.consumed e.api rest.length)
    return some e

theorem consumeNext_run_cons (e : Expectation) (rest : List Expectation) :
    consumeNext { items := e :: rest } =
      ⟨.ok (some e), { items := rest }, [.logged (.consumed e.api rest.length) none]⟩ := rfl

def drain : Run Queue (List Expectation) := do
  let q ← Run.get
  Run.set {}
  return q.items

/-- Puts another payload into the latest expectation and discards the old one, if both are of one
kind. -/
def overwriteLatest (payload : Payload) : Run Queue Bool := do
  let q ← Run.get
  match q.latest? with
  | some e =>
    if e.payload.kind = payload.kind then
      Run.discard [e.payload]
      Run.set (q.editLatest fun _ => payload)
      return true
    else return false
  | none => return false

/-- Takes the oldest payload as one of a kind; one of another kind is given back and discarded. -/
def consumeNextAs (kind : Kind) : Run Queue (Option (Except Payload Payload)) := do
  match ← consumeNext with
  | none => return none
  | some e =>
    if e.payload.kind = kind then return some (.ok e.payload)
    else
      Run.discard [e.payload]
      return some (.error e.payload)

def drainAndDiscard : Run Queue (List Expectation) := do
  let drained ← drain
  Run.discard (drained.map Expectation.payload)
  return drained

/-- Ends the queue: what is still in it is discarded. -/
def close : Run Queue Unit := do
  let _ ← drainAndDiscard

/-- The lines of a listing, numbered from `position`. -/
def listingFrom (position : Nat) : List Expectation → String
  | [] => ""
  | e :: rest =>
    " " ++ toString position ++ ". " ++ e.api ++ "()\n" ++ listingFrom (position + 1) rest

def listing (expectations : List Expectation) : String :=
  listingFrom 1 expectations

end Queue

end MockQueue

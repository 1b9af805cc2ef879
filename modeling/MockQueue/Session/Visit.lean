import MockQueue.Session.Command

/-!
# Visits

Code that is lent a session can carry out its commands, change what a look at the latest payload gives it, and put
another session in its place, in an order that depends on what it sees and on what came of its actions before. In
the end it answers or unwinds.
-/

namespace MockQueue.Session

/-! ## Actions -/

/-- Changes the latest payload in place; that there is none is a failure. -/
def alterLatest (f : Payload → Payload) : Run Session (Except Error Unit) := do
  match ← peekLatest with
  | .ok _ =>
    Run.modify fun s => { s with queue := s.queue.editLatest f }
    return .ok ()
  | .error e => return .error e

/-- Puts a payload of any kind in the place of the latest, which is discarded. -/
def replaceLatest (payload : Payload) : Run Session (Except Error Unit) := do
  match ← peekLatest with
  | .ok old =>
    Run.discard [old]
    Run.modify fun s => { s with queue := s.queue.editLatest fun _ => payload }
    return .ok ()
  | .error e => return .error e

/-- What can be done to a session: its commands, and any change through a look at the latest
payload. -/
inductive Action where
  | command (c : Command)
  | alter (f : Payload → Payload)
  | alterAs (kind : Kind) (api : String) (f : Payload → Payload)
  | replace (payload : Payload)

def act : Action → Run Session Answer
  | .command c => perform c
  | .alter f => return .ofExcept (fun _ => .done) (← alterLatest f)
  | .alterAs kind api f => return .ofExcept (fun _ => .done) (← editLatestAs kind api f)
  | .replace payload => return .ofExcept (fun _ => .done) (← replaceLatest payload)

/-- Puts a fresh session in the place of the old one, whose expectations are discarded. -/
def renew (settings : Settings) : Run Session Unit := do
  close
  Run.set (.fresh settings)

/-! ## Visits -/

/-- What code can read of a session that is lent to it. -/
structure View where
  settings : Settings
  formatter : Message.Formatter
  pending : List String
  bound : Bool

def view (s : Session) : View :=
  ⟨s.settings, s.formatter, s.queue.pending, s.isBound⟩

/-- What code does with a session that is lent to it. It may go on after an action that unwound, and in the
end it answers or unwinds itself. -/
inductive Visit where
  | leave (outcome : Except Unwind Answer)
  | look (next : View → Visit)
  | act (a : Action) (next : Except Unwind Answer → Visit)
  | renew (settings : Settings) (next : Visit)

namespace Visit

def run : Visit → Run Session Answer
  | leave outcome => Run.settle outcome
  | look next => do
    let s ← Run.get
    (next s.view).run
  | act a next => (Session.act a).andThen fun outcome => (next outcome).run
  | renew settings next => do
    Session.renew settings
    next.run

/-- The visit for one action. -/
def once (a : Action) : Visit :=
  act a leave

end Visit

end MockQueue.Session

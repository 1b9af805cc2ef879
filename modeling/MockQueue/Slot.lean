import MockQueue.Session.Visit

/-!
# The session of a thread

Every thread has one session, in a slot from which it is lent for the length of an operation. Until it is given
back the slot is busy: who enters then unwinds, who tries to enter is refused. A reporter runs while the session is
lent out, and works on the slot as it is then (`hear`).
-/

namespace MockQueue

/-- The place of a thread's session. -/
inductive Slot where
  | idle (session : Session)
  /-- The session is lent out. -/
  | busy (session : Session)

namespace Slot

open Session (Answer Visit)

variable {α : Type}

def fresh : Slot :=
  .idle {}

def isBusy : Slot → Bool
  | idle _ => false
  | busy _ => true

/-! ## Lending the session -/

/-- The session as a component of the slot, whether it is lent out or not. -/
def content : Component Slot Session where
  get
    | idle s => s
    | busy s => s
  put s
    | idle _ => idle s
    | busy _ => busy s
  get_put s slot := by cases slot <;> rfl
  put_put s t slot := by cases slot <;> rfl

/-- Lends the session to an operation and takes it back, whichever way the operation ends. -/
def lend (x : Run Session α) : Run Slot α := do
  Run.modify fun slot => busy (content.get slot)
  (x.zoom content).andThen fun outcome => do
    Run.modify fun slot => idle (content.get slot)
    Run.settle outcome

/-- Lends the session to an operation; a busy slot makes it unwind. -/
def enter (x : Run Session α) : Run Slot α := do
  if (← Run.get).isBusy then Run.unwind .borrowed else lend x

/-- Lends the session to an operation, if it is there. -/
def tryEnter (x : Run Session α) : Run Slot (Except Error α) := do
  if (← Run.get).isBusy then return .error .contextBusy else return .ok (← lend x)

@[simp] theorem enter_busy (x : Run Session α) (s : Session) :
    enter x (.busy s) = ⟨.error .borrowed, .busy s, []⟩ := rfl

@[simp] theorem tryEnter_busy (x : Run Session α) (s : Session) :
    tryEnter x (.busy s) = ⟨.ok (.error .contextBusy), .busy s, []⟩ := rfl

theorem lend_idle (x : Run Session α) (s : Session) :
    lend x (.idle s) = ⟨(x s).outcome, .idle (x s).state, (x s).trace⟩ := by
  simp [lend, Run.run_bind, Run.run_andThen, content]

@[simp] theorem enter_idle (x : Run Session α) (s : Session) :
    enter x (.idle s) = ⟨(x s).outcome, .idle (x s).state, (x s).trace⟩ :=
  lend_idle x s

@[simp] theorem tryEnter_idle (x : Run Session α) (s : Session) :
    tryEnter x (.idle s) = ⟨(x s).outcome.map .ok, .idle (x s).state, (x s).trace⟩ := by
  have lent : tryEnter x (.idle s) = (do return .ok (← lend x) : Run Slot (Except Error α)) (.idle s) := rfl
  rw [lent, Run.run_bind_pure, lend_idle]

/-! ## New settings -/

/-- Puts new settings on a session that has neither a reporter nor an expectation. -/
def configureSession (settings : Settings) : Run Session (Except Error Unit) := do
  let s ← Run.get
  if s.isBound || !s.queue.items.isEmpty then return .error Settings.Problem.inUse.error
  else
    Session.renew settings
    return .ok ()

/-- Starts over with new settings. Settings that are not valid are refused first, then a busy slot,
then a session in use. -/
def configure (settings : Settings) : Run Slot (Except Error Unit) := do
  match settings.validate with
  | .error p => return .error p.error
  | .ok settings =>
    match ← tryEnter (configureSession settings) with
    | .ok answer => return answer
    | .error e => return .error e

/-! ## Operations -/

/-- The names that are still expected, unless the slot is busy. -/
def tryPending : Run Slot (Except Error (List String)) :=
  tryEnter do return (← Run.get).queue.pending

/-- The bound on messages, unless the slot is busy. -/
def tryCapacity : Run Slot (Except Error Nat) :=
  tryEnter do return (← Run.get).formatter.capacity

/-- Reports a message if the condition holds. -/
def assertMessage (condition : Bool) (message : String) : Run Slot Unit := do
  if condition then enter (Session.fail message)

/-- The commands on a thread's session. -/
inductive Command where
  | configure (settings : Settings)
  | assertMessage (condition : Bool) (message : String)
  | within (command : Session.Command)

/-- The operations on a thread's session: its commands, and visits by other code, which has to have the
session or only tries to get it. -/
inductive Operation where
  | command (c : Command)
  | visit (v : Visit)
  | tryVisit (v : Visit)

/-- What an operation does, apart from what reporters do when they are told something. -/
def attempt : Operation → Run Slot Answer
  | .command (.configure settings) => return .ofExcept (fun _ => .done) (← configure settings)
  | .command (.assertMessage condition message) => do
    assertMessage condition message
    return .nothing
  | .command (.within c) => enter (Session.perform c)
  | .visit v => enter v.run
  | .tryVisit v => do
    match ← tryEnter v.run with
    | .ok answer => return answer
    | .error e => return .failed e

/-! ## Reporters that reach for the session -/

/-- What a reporter asks of the slot. -/
inductive Inquiry where
  /-- To get the session, if it is there. -/
  | enter (v : Visit)
  | configure (settings : Settings)

/-- Makes an inquiry; gives the error, if it ends in one. -/
def ask : Inquiry → Run Slot (Option Error)
  | .enter v => do
    match ← tryEnter v.run with
    | .ok _ => return none
    | .error e => return some e
  | .configure settings => do
    match ← configure settings with
    | .ok () => return none
    | .error e => return some e

def askAll : List Inquiry → Run Slot (List (Option Error))
  | [] => return []
  | inquiry :: rest => do
    let answer ← ask inquiry
    let answers ← askAll rest
    return answer :: answers

/-- What a reporter does when it is told a message, the probing one asking what `asks` says. -/
def hear (asks : String → List Inquiry) (r : Reporter) (message : String) : Run Slot Unit :=
  match r with
  | .probing => do
    let verdicts ← askAll (asks message)
    Run.note [.heard .probing message (verdicts.map .verdict)] rfl
  | .reentering => do
    Run.note [.heard .reentering message []] rfl
    enter Session.reset
  | r => Run.tell r message

/-- A reporter that tries to get the session, and then to start over with the default settings. -/
def usual : String → List Inquiry :=
  fun _ => [.enter (.leave (.ok .nothing)), .configure {}]

def operate (asks : String → List Inquiry) (op : Operation) : Run Slot Answer :=
  (attempt op).hearing (hear asks)

end Slot

end MockQueue

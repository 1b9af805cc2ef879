import MockQueue.Run

/-!
# Binding a reporter

At most one reporter is bound at a time. Handing it a message is the only way in which a failure
leaves the library; without a reporter the operation unwinds. `Collectors` keeps what the collecting
reporters were told.
-/

namespace MockQueue

/-- The reporter that is bound, if one is. -/
structure Binding where
  reporter : Option Reporter := none

namespace Binding

def isBound (b : Binding) : Bool :=
  b.reporter.isSome

def description (b : Binding) : String :=
  "ReporterBinding \x7b bound: " ++ (if b.isBound then "true" else "false") ++ " \x7d"

def deliver {σ : Type} (b : Binding) (message : String) : Run σ Unit :=
  match b.reporter with
  | some r => do
    Run.log (.reporting message)
    Run.tell r message
  | none => do
    Run.log (.unreported message)
    Run.unwind (.noReporter message)

/-- Binds a reporter; gives whether it takes the place of another. -/
def bind (r : Reporter) : Run Binding Bool := do
  let b ← Run.get
  Run.set ⟨some r⟩
  return b.isBound

def unbind : Run Binding Unit :=
  Run.set {}

end Binding

/-- What the collecting reporters were told, by their names, the first message first. -/
structure Collectors where
  told : List (String × List String) := []
  deriving DecidableEq, Repr

namespace Collectors

/-- The messages of a collector; none if it was never told one. -/
def messages (c : Collectors) (name : String) : List String :=
  (c.told.lookup name).getD []

def put (c : Collectors) (name : String) (messages : List String) : Collectors :=
  { told := (name, messages) :: c.told.filter (·.1 != name) }

def absorb (c : Collectors) : Entry → Collectors
  | .reported (.collector name) message => c.put name (c.messages name ++ [message])
  | _ => c

def absorbAll (c : Collectors) (trace : List Entry) : Collectors :=
  trace.foldl absorb c

def clear (c : Collectors) (name : String) : Collectors :=
  c.put name []

end Collectors

end MockQueue

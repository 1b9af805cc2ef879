import MockQueue.Trace

/-!
# Operations that change a state and leave a trace

`Run σ α` is an operation on a state `σ`. It ends with a result or by unwinding, and either way the
state it reached and the trace it left stay. Operations are put together with `do`; an unwinding skips
the rest.

Where a reporter is told something an operation stops, in the state that it has reached, and goes on from how the
telling ended and from the state that is there then (`Play`). To apply an operation to a state is to let reporters
do no more than take the message in (`Play.step`); in `Run.hearing` they work on the state themselves.
-/

namespace MockQueue

/-- How an operation ended, the state it left and what it did on the way. -/
structure Step (σ α : Type) where
  outcome : Except Unwind α
  state : σ
  trace : List Entry := []

/-- What an operation does from some state on. -/
inductive Play (σ α : Type) where
  | ended (outcome : Except Unwind α) (state : σ)
  /-- It leaves entries in the trace, but tells nobody. -/
  | notes (entries : List Entry) (own : entries.all (!·.isReported) = true) (rest : Play σ α)
  /-- It tells a reporter a message. -/
  | tells (reporter : Reporter) (message : String) (state : σ) (rest : Except Unwind Unit → σ → Play σ α)

/-- An operation on a state. -/
structure Run (σ α : Type) where
  play : σ → Play σ α

/-- A component of a state. -/
structure Component (σ τ : Type) where
  get : σ → τ
  put : τ → σ → σ
  get_put : ∀ t s, get (put t s) = t
  put_put : ∀ t u s, put u (put t s) = put u s

variable {σ τ α β : Type}

namespace Play

/-- What is done if reporters only take their messages in. -/
def step : Play σ α → Step σ α
  | ended outcome state => ⟨outcome, state, []⟩
  | notes entries _ rest =>
    let later := rest.step
    ⟨later.outcome, later.state, entries ++ later.trace⟩
  | tells r message state rest =>
    let later := (rest (r.reply message) state).step
    ⟨later.outcome, later.state, .reported r message :: later.trace⟩

/-- Goes on with what comes after, whichever way it ended. -/
def andThen (next : Except Unwind α → σ → Play σ β) : Play σ α → Play σ β
  | ended outcome state => next outcome state
  | notes entries own rest => notes entries own (rest.andThen next)
  | tells r message state rest => tells r message state fun reply s => (rest reply s).andThen next

def zoom (component : Component σ τ) (s : σ) : Play τ α → Play σ α
  | ended outcome t => ended outcome (component.put t s)
  | notes entries own rest => notes entries own (rest.zoom component s)
  | tells r message t rest =>
    tells r message (component.put t s) fun reply s => (rest reply (component.get s)).zoom component s

def within (call : String) : Play σ α → Play σ α
  | ended outcome state => ended outcome state
  | notes entries own rest =>
    notes (entries.map (Entry.within call)) (by simpa using own) (rest.within call)
  | tells r message state rest => tells r message state fun reply s => (rest reply s).within call

/-- The same with reporters that do what `hear` says when they are told something. -/
def hearing (hear : Reporter → String → Run σ Unit) : Play σ α → Play σ α
  | ended outcome state => ended outcome state
  | notes entries own rest => notes entries own (rest.hearing hear)
  | tells r message state rest => ((hear r message).play state).andThen fun reply s => (rest reply s).hearing hear

theorem step_andThen (next : Except Unwind α → σ → Play σ β) (p : Play σ α) :
    (p.andThen next).step =
      ⟨(next p.step.outcome p.step.state).step.outcome, (next p.step.outcome p.step.state).step.state,
        p.step.trace ++ (next p.step.outcome p.step.state).step.trace⟩ := by
  induction p with
  | ended outcome state => rfl
  | notes entries own rest ih => simp only [andThen, step, ih, List.append_assoc]
  | tells r message state rest ih => simp only [andThen, step, ih, List.cons_append]

theorem step_zoom (component : Component σ τ) (s : σ) (p : Play τ α) :
    (p.zoom component s).step = ⟨p.step.outcome, component.put p.step.state s, p.step.trace⟩ := by
  induction p generalizing s with
  | ended outcome t => rfl
  | notes entries own rest ih => simp only [zoom, step, ih]
  | tells r message t rest ih => simp only [zoom, step, ih, component.get_put, component.put_put]

theorem step_within (call : String) (p : Play σ α) :
    (p.within call).step = ⟨p.step.outcome, p.step.state, p.step.trace.map (Entry.within call)⟩ := by
  induction p with
  | ended outcome state => rfl
  | notes entries own rest ih => simp only [within, step, ih, List.map_append]
  | tells r message state rest ih => simp only [within, step, ih, List.map_cons, Entry.within]

/-- Whenever a reporter is told something the state has `P`, if it had `P` each time when the operation went on. -/
def Tells (P : σ → Prop) : Play σ α → Prop
  | ended _ _ => True
  | notes _ _ rest => rest.Tells P
  | tells _ _ state rest => P state ∧ ∀ reply s, P s → (rest reply s).Tells P

theorem Tells.andThen {P : σ → Prop} {p : Play σ α} {next : Except Unwind α → σ → Play σ β} (first : p.Tells P)
    (second : ∀ outcome s, (next outcome s).Tells P) : (p.andThen next).Tells P := by
  induction p with
  | ended outcome state => exact second outcome state
  | notes entries own rest ih => exact ih first
  | tells r message state rest ih => exact ⟨first.1, fun reply s holds => ih reply s (first.2 reply s holds)⟩

/-- What is told while a component is worked on is told in the whole, with the component put in its place. -/
theorem tells_zoom {P : σ → Prop} (component : Component σ τ) (puts : ∀ t s, P s → P (component.put t s)) {s : σ}
    (holds : P s) (p : Play τ α) : (p.zoom component s).Tells P := by
  induction p generalizing s with
  | ended outcome t => trivial
  | notes entries own rest ih => exact ih holds
  | tells r message t rest ih => exact ⟨puts t s holds, fun reply s here => ih reply (component.get s) here⟩

/-- If a component has `Q` whenever something is told, then so it has in the whole, which keeps what does not depend
on the component. -/
theorem Tells.zoom {Q : τ → Prop} {P : σ → Prop} (component : Component σ τ) (frame : ∀ t s, P s → P (component.put t s))
    {p : Play τ α} (told : p.Tells Q) {s : σ} (holds : P s) :
    (p.zoom component s).Tells fun s => Q (component.get s) ∧ P s := by
  induction p generalizing s with
  | ended outcome t => trivial
  | notes entries own rest ih => exact ih told holds
  | tells r message t rest ih =>
    refine ⟨⟨(component.get_put t s).symm ▸ told.1, frame t s holds⟩, fun reply s here => ?_⟩
    exact ih reply (component.get s) (told.2 reply _ here.1) here.2

/-- If the state has `P` whenever a reporter is told something, and all that the reporter does then comes to taking
the message in, then this is what happens, up to what the reporter does besides. -/
theorem step_hearing {P : σ → Prop} {p : Play σ α} (told : p.Tells P) {hear : Reporter → String → Run σ Unit}
    {spell : Reporter → String → List Entry}
    (hears : ∀ r message s, P s → ((hear r message).play s).step = ⟨r.reply message, s, spell r message⟩) :
    (p.hearing hear).step =
      ⟨p.step.outcome, p.step.state, p.step.trace.flatMap (Entry.spelled spell)⟩ := by
  induction p with
  | ended outcome state => rfl
  | notes entries own rest ih =>
    simp only [hearing, step, ih told, List.flatMap_append, Entry.flatMap_spelled_of_own own]
  | tells r message state rest ih =>
    obtain ⟨here, later⟩ := told
    simp only [hearing, step_andThen, hears r message state here, ih _ _ (later _ _ here), step, List.flatMap_cons,
      Entry.spelled]

end Play

namespace Run

def step (x : Run σ α) (s : σ) : Step σ α :=
  (x.play s).step

instance : CoeFun (Run σ α) fun _ => σ → Step σ α :=
  ⟨step⟩

/-- Ends as it is told to. -/
def settle (outcome : Except Unwind α) : Run σ α :=
  ⟨fun s => .ended outcome s⟩

/-- Goes on whichever way an operation ends. -/
def andThen (x : Run σ α) (next : Except Unwind α → Run σ β) : Run σ β :=
  ⟨fun s => (x.play s).andThen fun outcome s => (next outcome).play s⟩

def unwind (u : Unwind) : Run σ α :=
  settle (.error u)

/-- Cleans up behind an operation, whichever way it ends, unless the process ends with it. -/
def ensuring (x : Run σ α) (cleanup : Run σ Unit) : Run σ α :=
  x.andThen fun
    | .error .aborted => unwind .aborted
    | outcome => cleanup.andThen fun _ => settle outcome

instance : Monad (Run σ) where
  pure a := settle (.ok a)
  bind x next := x.andThen fun
    | .ok a => next a
    | .error u => unwind u

def get : Run σ σ :=
  ⟨fun s => .ended (.ok s) s⟩

def set (s : σ) : Run σ Unit :=
  ⟨fun _ => .ended (.ok ()) s⟩

def modify (f : σ → σ) : Run σ Unit :=
  ⟨fun s => .ended (.ok ()) (f s)⟩

def note (entries : List Entry) (own : entries.all (!·.isReported) = true) : Run σ Unit :=
  ⟨fun s => .notes entries own (.ended (.ok ()) s)⟩

def log (event : LogEvent) : Run σ Unit :=
  note [.logged event none] rfl

def discard (payloads : List Payload) : Run σ Unit :=
  note (payloads.flatMap Payload.discard) (Payload.isReported_discardAll payloads)

def tell (r : Reporter) (message : String) : Run σ Unit :=
  ⟨fun s => .tells r message s .ended⟩

def zoom (component : Component σ τ) (x : Run τ α) : Run σ α :=
  ⟨fun s => (x.play (component.get s)).zoom component s⟩

def within (call : String) (x : Run σ α) : Run σ α :=
  ⟨fun s => (x.play s).within call⟩

/-- The operation with reporters that do what `hear` says when they are told something. -/
def hearing (hear : Reporter → String → Run σ Unit) (x : Run σ α) : Run σ α :=
  ⟨fun s => (x.play s).hearing hear⟩

@[simp] theorem run_settle (outcome : Except Unwind α) (s : σ) : (settle outcome : Run σ α) s = ⟨outcome, s, []⟩ := rfl

@[simp] theorem run_pure (a : α) (s : σ) : (pure a : Run σ α) s = ⟨.ok a, s, []⟩ := rfl

@[simp] theorem run_unwind (u : Unwind) (s : σ) : (unwind u : Run σ α) s = ⟨.error u, s, []⟩ := rfl

@[simp] theorem run_get (s : σ) : (get : Run σ σ) s = ⟨.ok s, s, []⟩ := rfl

@[simp] theorem run_set (t s : σ) : set t s = ⟨.ok (), t, []⟩ := rfl

@[simp] theorem run_modify (f : σ → σ) (s : σ) : modify f s = ⟨.ok (), f s, []⟩ := rfl

@[simp] theorem run_note (entries : List Entry) (own : entries.all (!·.isReported) = true) (s : σ) :
    note entries own s = ⟨.ok (), s, entries⟩ :=
  congrArg (Step.mk _ _) (List.append_nil entries)

@[simp] theorem run_log (event : LogEvent) (s : σ) : log event s = ⟨.ok (), s, [.logged event none]⟩ := rfl

@[simp] theorem run_discard (payloads : List Payload) (s : σ) :
    discard payloads s = ⟨.ok (), s, payloads.flatMap Payload.discard⟩ :=
  run_note _ _ s

@[simp] theorem run_tell (r : Reporter) (message : String) (s : σ) :
    tell r message s = ⟨r.reply message, s, [.reported r message]⟩ := rfl

theorem run_andThen (x : Run σ α) (next : Except Unwind α → Run σ β) (s : σ) :
    (x.andThen next) s =
      ⟨(next (x s).outcome (x s).state).outcome, (next (x s).outcome (x s).state).state,
        (x s).trace ++ (next (x s).outcome (x s).state).trace⟩ :=
  Play.step_andThen _ _

/-- One operation after another, whichever way the first ends. -/
theorem run_bind (x : Run σ α) (next : α → Run σ β) (s : σ) :
    (x >>= next) s =
      match (x s).outcome with
      | .ok a =>
        ⟨(next a (x s).state).outcome, (next a (x s).state).state,
          (x s).trace ++ (next a (x s).state).trace⟩
      | .error u => ⟨.error u, (x s).state, (x s).trace⟩ := by
  change (x.andThen _) s = _
  rw [run_andThen]
  cases (x s).outcome with
  | ok a => rfl
  | error u => simp

/-- An operation that ends without a trace is passed. -/
theorem run_bind_of_silent {x : Run σ α} {a : α} {s t : σ} (silent : x s = ⟨.ok a, t, []⟩) (next : α → Run σ β) :
    (x >>= next) s = next a t := by
  simp only [run_bind, silent, List.nil_append]

/-- After a look at the state it is enough to go on from just that state. -/
theorem run_get_bind (next : σ → Run σ α) (s : σ) : (get >>= next) s = next s s := rfl

/-- An operation whose result is only recast. -/
@[simp high] theorem run_bind_pure (x : Run σ α) (g : α → β) (s : σ) :
    (x >>= fun a => pure (g a)) s = ⟨(x s).outcome.map g, (x s).state, (x s).trace⟩ := by
  rw [run_bind]
  cases (x s).outcome <;> simp [Except.map]

theorem run_ensuring (x : Run σ α) (cleanup : Run σ Unit) (s : σ) :
    (x.ensuring cleanup) s =
      match (x s).outcome with
      | .error .aborted => ⟨.error .aborted, (x s).state, (x s).trace⟩
      | outcome => ⟨outcome, (cleanup (x s).state).state, (x s).trace ++ (cleanup (x s).state).trace⟩ := by
  rw [ensuring, run_andThen]
  split
  · simp
  · simp [run_andThen]

@[simp] theorem run_zoom (component : Component σ τ) (x : Run τ α) (s : σ) :
    (x.zoom component) s =
      ⟨(x (component.get s)).outcome, component.put (x (component.get s)).state s, (x (component.get s)).trace⟩ :=
  Play.step_zoom _ _ _

theorem run_within (call : String) (x : Run σ α) (s : σ) :
    (x.within call) s = ⟨(x s).outcome, (x s).state, (x s).trace.map (Entry.within call)⟩ :=
  Play.step_within _ _

end Run

end MockQueue

import MockQueue.Boundary.Call
import MockQueue.Proofs.Visits

/-!
# Callbacks and the host

What an operation on the host comes to while the session is lent out: queries are answered without it
(`ask_busy`), and a callback that goes on to verify ends the process (`notify_busy`). A reporter is only told
something while the session is lent out, so what a foreign call does beyond its own work is to spell out what its
reporters did (`inSlot_run`, `inSession_run`).
-/

namespace MockQueue.Boundary.Host

variable {α : Type} {h : Host}

/-! ## The body of a foreign call -/

theorem guarded_run (function : String) (x : Run Host α) (h : Host) :
    guarded function x h =
      match (x h).outcome with
      | .ok a => ⟨.ok a, (x h).state, (x h).trace⟩
      | .error .aborted => ⟨.error .aborted, (x h).state, (x h).trace⟩
      | .error _ => ⟨.error .aborted, (x h).state, (x h).trace ++ [.logged (.aborting function) none]⟩ := by
  rw [guarded, Run.run_andThen]
  cases ended : (x h).outcome with
  | ok a => simp
  | error u => cases u <;> simp [Run.run_bind]

theorem spanned_run (function : String) (x : Run Host α) (h : Host) :
    spanned function x h = ⟨(x h).outcome, (x h).state, (x h).trace.map (Entry.within function)⟩ :=
  Run.run_within ..

theorem onSlot_run (x : Run Slot α) (h : Host) :
    onSlot x h = ⟨(x h.slot).outcome, { h with slot := (x h.slot).state }, (x h.slot).trace⟩ :=
  Run.run_zoom ..

/-! ## Settings of the environment -/

/-- The settings of the environment, if they are taken, or else the error in which that ends. -/
def offer (h : Host) : Except Error Settings :=
  match Settings.ofEnvironment h.environment with
  | .error p => .error p.error
  | .ok settings =>
    match h.slot.refusal? settings with
    | some e => .error e
    | none => .ok settings

theorem configureFromEnvironment_eq (h : Host) :
    configureFromEnvironment h =
      match h.offer with
      | .error e =>
        ⟨.ok (-1), h, [.logged (.callFailed .warn "mcmock_configure_from_env" e) (some "configure_from_env")]⟩
      | .ok settings => ⟨.ok 0, { h with slot := .idle (.fresh settings) }, []⟩ := by
  rw [configureFromEnvironment, spanned_run, Run.run_get_bind]
  unfold offer
  cases read : Settings.ofEnvironment h.environment with
  | error p => simp [Run.run_bind, Entry.within, Except.map]
  | ok settings =>
    cases refused : h.slot.refusal? settings <;>
      simp [Run.run_bind, onSlot_run, Slot.configure_eq, refused, Entry.within, Except.map]

/-- The environment only asks for valid settings. -/
theorem ofEnvironment_valid {e : Environment} {settings : Settings} (read : Settings.ofEnvironment e = .ok settings) :
    settings.validate = .ok settings := by
  simp only [Settings.ofEnvironment, bind, Except.bind] at read
  split at read
  · cases read
  · split at read
    · cases read
    · obtain ⟨fits, rfl⟩ := (Settings.validate_eq_ok_iff _ _).mp read
      exact (Settings.validate_eq_ok_iff _ _).mpr ⟨fits, rfl⟩

theorem offer_eq_ok_iff (h : Host) (settings : Settings) :
    h.offer = .ok settings ↔
      Settings.ofEnvironment h.environment = .ok settings ∧
        ∃ s, h.slot = .idle s ∧ s.isBound = false ∧ s.queue.items = [] := by
  unfold offer
  cases read : Settings.ofEnvironment h.environment with
  | error p => simp
  | ok found =>
    have free := Slot.refusal?_eq_none_iff found h.slot
    rw [ofEnvironment_valid read] at free
    cases refused : h.slot.refusal? found with
    | some e =>
      rw [refused] at free
      simp only [refused, reduceCtorEq, false_iff]
      rintro ⟨-, unused⟩
      exact nomatch free.mpr ⟨rfl, unused⟩
    | none =>
      have unused := (free.mp refused).2
      simp only [refused, Except.ok.injEq]
      exact ⟨fun same => ⟨same, unused⟩, fun both => both.1⟩

/-! ## Queries while the session is lent out -/

/-- The answer to a query while the session is lent out. -/
def refusal : Query → Int
  | .pending => 0
  | .configure => -1
  | .capacity => 3000

/-- What a query leaves in the log while the session is lent out. -/
def refusalLog (environment : Environment) : Query → List Entry
  | .pending => [.logged (.callFailed .warn "mcmock_pending_expectations" .contextBusy) none]
  | .configure =>
    let e :=
      match Settings.ofEnvironment environment with
      | .ok _ => .contextBusy
      | .error p => p.error
    [.logged (.callFailed .warn "mcmock_configure_from_env" e) (some "configure_from_env")]
  | .capacity => []

theorem pendingCount_busy {s : Session} (busy : h.slot = .busy s) :
    pendingCount h = ⟨.ok 0, h, refusalLog h.environment .pending⟩ := by
  obtain ⟨_, environment, hooked, lastFault, logging⟩ := h
  subst busy
  rfl

theorem messageCapacity_busy {s : Session} (busy : h.slot = .busy s) : messageCapacity h = ⟨.ok 3000, h, []⟩ := by
  obtain ⟨_, environment, hooked, lastFault, logging⟩ := h
  subst busy
  rfl

theorem configureFromEnvironment_busy {s : Session} (busy : h.slot = .busy s) :
    configureFromEnvironment h = ⟨.ok (-1), h, refusalLog h.environment .configure⟩ := by
  rw [configureFromEnvironment_eq, refusalLog, offer]
  cases read : Settings.ofEnvironment h.environment with
  | error p => rfl
  | ok settings => simp [busy, Slot.refusal?, ofEnvironment_valid read]

theorem ask_busy (query : Query) {s : Session} (busy : h.slot = .busy s) :
    ask query h = ⟨.ok (refusal query), h, refusalLog h.environment query⟩ := by
  cases query with
  | pending => simp only [ask, Run.run_bind_pure, pendingCount_busy busy, Except.map]; rfl
  | configure => exact configureFromEnvironment_busy busy
  | capacity => simp only [ask, Run.run_bind_pure, messageCapacity_busy busy, Except.map]; rfl

theorem askAll_busy (queries : List Query) {s : Session} (busy : h.slot = .busy s) :
    askAll queries h = ⟨.ok (queries.map refusal), h, queries.flatMap (refusalLog h.environment)⟩ := by
  induction queries with
  | nil => rfl
  | cons query rest ih => simp [askAll, Run.run_bind, ask_busy query busy, ih, Except.map]

/-! ## Telling a callback -/

/-- What a callback leaves in the trace that is told something while the session is lent out. -/
def spellCallback (environment : Environment) (c : Callback) (message : String) : List Entry :=
  let text := callbackText message
  match c with
  | .recording _ => [.heard (.callback c) text []]
  | .querying asks =>
    (asks text).flatMap (refusalLog environment) ++
      [.heard (.callback c) text ((asks text).map fun query => .number (refusal query))]
  | .reentering => [.heard (.callback c) text [], .logged (.aborting "verify") (some "verify")]

/-- A callback changes nothing by what it does while the session is lent out. -/
theorem notify_busy (hear : Reporter → String → Run Host Unit) (c : Callback) (message : String) {s : Session}
    (busy : h.slot = .busy s) :
    notify hear c message h = ⟨(Reporter.callback c).reply message, h, spellCallback h.environment c message⟩ := by
  cases c with
  | recording name => rfl
  | querying asks => simp [notify, spellCallback, Run.run_bind, askAll_busy _ busy, Reporter.reply, Reporter.fate]
  | reentering =>
    obtain ⟨_, environment, hooked, lastFault, logging⟩ := h
    subst busy
    rfl

/-- What a reporter leaves in the trace that is told something while the session is lent out. -/
def spell (environment : Environment) (r : Reporter) (message : String) : List Entry :=
  match r with
  | .callback c => spellCallback environment c message
  | r => Slot.spell Slot.usual r message

theorem hear_busy (r : Reporter) (message : String) {s : Session} (busy : h.slot = .busy s) :
    hear r message h = ⟨r.reply message, h, spell h.environment r message⟩ := by
  cases r with
  | callback c => exact notify_busy _ c message busy
  | collector | closure | raising | probing | reentering =>
    have same : { h with slot := .busy s } = h := by rw [← busy]
    simp only [hear, onSlot_run, busy, Slot.hear_busy, same, spell]

/-! ## Operations that tell -/

/-- Whenever a reporter is told something the session is lent out, and it stays so while the reporter is at work. -/
theorem inSlot_run {x : Run Slot α} (tells : Slot.TellsBusy x) (h : Host) :
    inSlot x h =
      (let step := x h.slot
       ⟨step.outcome, { h with slot := step.state }, step.trace.flatMap (Entry.spelled (spell h.environment))⟩) := by
  have told := (tells h.slot).zoom slotComponent (P := fun k => k.environment = h.environment)
    (fun slot k (same : k.environment = h.environment) => same) (s := h) rfl
  have hears : ∀ r message (k : Host), k.slot.isBusy = true ∧ k.environment = h.environment →
      ((hear r message).play k).step = ⟨r.reply message, k, spell h.environment r message⟩ := by
    rintro r message k ⟨lent, same⟩
    cases busy : k.slot with
    | idle s =>
      rw [busy] at lent
      cases lent
    | busy s =>
      rw [← same]
      exact hear_busy r message busy
  have heard := Play.step_hearing told hears
  change ((onSlot x).hearing hear) h = _
  exact heard.trans (by rw [Play.step_zoom]; rfl)

theorem inSession_run {x : Run Session α} {s : Session} (idle : h.slot = .idle s) :
    inSession x h =
      ⟨(x s).outcome, { h with slot := .idle (x s).state },
        (x s).trace.flatMap (Entry.spelled (spell h.environment))⟩ := by
  simp only [inSession, inSlot_run (Slot.tellsBusy_enter x), idle, Slot.enter_idle]

/-! ## Calls that go through -/

/-- A session without a reporter takes a callback. -/
theorem initialise_slot {s : Session} (idle : h.slot = .idle s) (unbound : s.isBound = false) (c : Callback) :
    (perform (.initialise (some c)) h).state.slot = .idle { s with binding := ⟨some (.callback c)⟩ } := by
  have ran : Session.bindReporter (.callback c) s =
      ⟨.ok (.ok ()), { s with binding := ⟨some (.callback c)⟩ }, [.logged (.reporterBound false) none]⟩ := by
    simp [Session.bindReporter, Run.run_bind, unbound, Except.map]
  have hooked : ({ h with hooked := true } : Host).slot = .idle s := idle
  simp [perform, bindCallback, Run.run_bind, spanned_run, guarded_run, inSession_run hooked, ran]

/-- A pointer with a name is appended. -/
theorem register_slot {s : Session} (idle : h.slot = .idle s) (cell : Option Cell) (name : Bytes) :
    (perform (.register cell (some name)) h).state.slot =
      .idle { s with queue := { items := s.queue.items ++ [⟨textOf name, .foreign ⟨cell, some .free⟩⟩] } } := by
  simp [perform, registerExpectation, registerForeign, Run.run_bind, spanned_run, guarded_run, inSession_run idle,
    Session.register, Session.onQueue, Session.queueComponent, Queue.register]

end MockQueue.Boundary.Host

import MockQueue.Proofs.Telling

/-!
# When telling a failure unwinds

A reporter that unwinds, or that is missing, ends an operation while it tells a failure. Compared with
the same operation under a reporter that comes back, nothing is lost by that (`unwinding_keeps_effects`):
an operation has made its changes by the time it tells of a failure. Binding a second reporter is the
exception, since it tells the first before it changes anything.
-/

namespace MockQueue.Session

/-- A rebinding that unwinds has changed nothing. -/
theorem bindReporter_unwinds {s : Session} {q : Reporter} {u : Unwind}
    (unwinds : (act (.command (.bindReporter q)) s).outcome = .error u) :
    s.isBound = true ∧ (act (.command (.bindReporter q)) s).state = s ∧
      drops (act (.command (.bindReporter q)) s).trace = [] := by
  have acted : act (.command (.bindReporter q)) s = ⟨_, (bindReporter q s).state, (bindReporter q s).trace⟩ :=
    Run.run_bind_pure (bindReporter q) (Answer.ofExcept fun _ => Answer.done) s
  rw [acted] at unwinds ⊢
  obtain ⟨settings, formatter, queue, ⟨bound⟩⟩ := s
  cases bound with
  | none => cases unwinds
  | some r =>
    have ran := bindReporter_run_bound { settings, formatter, queue } r q
    simp only [under] at ran
    rw [ran] at unwinds ⊢
    cases ended : Binding.fate ⟨some r⟩ _ with
    | ok => simp [ended, Except.map] at unwinds
    | error v => exact ⟨rfl, rfl, drops_told ..⟩

/-- A verification empties the queue and discards all that was in it, also if it unwinds. -/
theorem verify_leaves (s : Session) :
    (act (.command .verify) s).state = s.verified ∧
      drops (act (.command .verify) s).trace = s.queue.items.map Expectation.payload := by
  have acted : act (.command .verify) s = ⟨_, (verify s).state, (verify s).trace⟩ :=
    Run.run_bind_pure verify (Answer.ofExcept fun _ => .done) s
  rw [acted]
  refine ⟨?_, (verify_drains s).2.1⟩
  cases items : s.queue.items with
  | nil => rw [verify_run_nil (congrArg Queue.mk items)]
  | cons e rest => rw [verify_run_cons (congrArg Queue.mk items)]

/-- Taking as one kind unwinds only over a payload of another kind, which then is gone and discarded. -/
theorem consumeAs_unwinds {s : Session} {kind : Kind} {api : String} {u : Unwind}
    (unwinds : (act (.command (.consumeAs kind api)) s).outcome = .error u) :
    ∃ e rest, s.queue.items = e :: rest ∧ e.payload.kind ≠ kind ∧
      (act (.command (.consumeAs kind api)) s).state = { s with queue := { items := rest } } ∧
      drops (act (.command (.consumeAs kind api)) s).trace = [e.payload] := by
  have acted : act (.command (.consumeAs kind api)) s =
      ⟨_, (consumeNextAs kind api s).state, (consumeNextAs kind api s).trace⟩ :=
    Run.run_bind_pure (consumeNextAs kind api) (Answer.ofExcept Answer.ofPayload?) s
  rw [acted] at unwinds ⊢
  cases items : s.queue.items with
  | nil =>
    rw [consumeNextAs_run_nil (congrArg Queue.mk items)] at unwinds
    cases unwinds
  | cons e rest =>
    by_cases same : e.payload.kind = kind
    · subst same
      rw [consumeNextAs_run_same (congrArg Queue.mk items)] at unwinds
      cases unwinds
    · have told := consumeNextAs_tells_other (s := s) (b := s.binding) (congrArg Queue.mk items) same api
      exact ⟨e, rest, rfl, same, told.state, told.released⟩

/-- An action that gets no message to tell would not have told anything. -/
theorem unrefused_of_reports {s : Session} {a : Action} {b : Binding}
    (raises : reports (act a (s.under b)).trace ≠ []) : a.refusal? s.formatter = none := by
  cases refused : a.refusal? s.formatter with
  | none => rfl
  | some refusal =>
    rw [act_refused refused b] at raises
    exact absurd rfl raises

theorem binding_of_unbound {s : Session} (unbound : s.isBound = false) : s.binding = {} := by
  obtain ⟨settings, formatter, queue, ⟨bound⟩⟩ := s
  cases bound with
  | none => rfl
  | some q => cases unbound

/-- Let an action raise a failure, as a reporter that comes back hears, and let telling it unwind. Under
the reporter that comes back the action is answered, and apart from a second binding it leaves the same
queue, settings and discarded payloads; the binding is treated alike. Verifying has emptied the queue and
discarded all of it, and unbinds exactly as the settings ask; taking has removed and discarded only the
oldest payload; what takes nothing has changed nothing, and no reporter is bound where none was. A second
binding that unwinds leaves everything as it was, the first reporter included. -/
theorem unwinding_keeps_effects (s : Session) (a : Action) (r : Reporter) (u : Unwind) (returns : r.Returns)
    (raises : reports (act a (s.under ⟨some r⟩)).trace ≠ []) (unwinds : (act a s).outcome = .error u) :
    let step := act a s
    let calm := act a (s.under ⟨some r⟩)
    (∃ answer, calm.outcome = .ok answer) ∧
    ((∀ q, a ≠ .command (.bindReporter q)) →
      step.state.queue = calm.state.queue ∧ step.state.settings = calm.state.settings ∧
      drops step.trace = drops calm.trace ∧
      step.state.binding = a.bindingAfter s.settings s.binding ∧
      calm.state.binding = a.bindingAfter s.settings ⟨some r⟩) ∧
    (∀ q, a = .command (.bindReporter q) →
      s.isBound = true ∧ step.state = s ∧ drops step.trace = [] ∧ calm.state = s.under ⟨some q⟩) ∧
    (a = .command .verify →
      step.state.queue = {} ∧ drops step.trace = s.queue.items.map Expectation.payload ∧
      (step.state.isBound = true ↔ s.isBound = true ∧ s.settings.unbindOnVerify = false)) ∧
    (∀ kind api, a = .command (.consumeAs kind api) →
      ∃ e rest, s.queue.items = e :: rest ∧ e.payload.kind ≠ kind ∧
        step.state = { s with queue := { items := rest } } ∧ drops step.trace = [e.payload]) ∧
    (a.takes = false → step.state = s ∧ drops step.trace = []) ∧
    (s.isBound = false → step.state.isBound = false) := by
  intro step calm
  have formats : a.refusal? s.formatter = none := unrefused_of_reports raises
  by_cases binds : ∃ q, a = .command (.bindReporter q)
  · obtain ⟨q, rfl⟩ := binds
    obtain ⟨bound, kept, none⟩ := bindReporter_unwinds unwinds
    have rebound := bindReporter_run_returns s returns q
    have calmed : calm = ⟨_, _, _⟩ := Run.run_bind_pure (bindReporter q) (Answer.ofExcept fun _ => Answer.done) _
    rw [rebound] at calmed
    refine ⟨⟨_, congrArg Step.outcome calmed⟩, fun other => absurd rfl (other q), ?_, nofun, nofun,
      fun _ => ⟨kept, none⟩, fun unbound => ?_⟩
    · rintro _ ⟨⟩
      exact ⟨bound, kept, none, congrArg Step.state calmed⟩
    · rw [bound] at unbound
      cases unbound
  · have other : ∀ q, a ≠ .command (.bindReporter q) := fun q same => binds ⟨q, same⟩
    -- Both runs are instances of one statement that leaves the binding open.
    obtain ⟨answer, texts, after, released, -, settled, told⟩ := act_behaves other formats
    have here : Tells s.binding step answer texts (after.under (a.bindingAfter s.settings s.binding)) released :=
      told s.binding
    have there := told ⟨some r⟩
    have some : texts ≠ [] := by
      rintro rfl
      cases here.outcome.symm.trans unwinds
    have stays : s.isBound = false → step.state.isBound = false := by
      intro unbound
      rw [here.state, binding_of_unbound unbound]
      change (a.bindingAfter s.settings {}).isBound = false
      rw [Action.bindingAfter, ite_self]
      rfl
    refine ⟨⟨answer, ?_⟩, fun _ => ?_, fun q same => absurd same (other q), ?_, ?_, fun takes => ?_, stays⟩
    · rw [there.outcome, Binding.ending_of_returns returns]
      rfl
    · rw [here.state, there.state, here.released, there.released]
      exact ⟨rfl, rfl, rfl, rfl, rfl⟩
    · rintro rfl
      obtain ⟨state, drained⟩ := verify_leaves s
      refine ⟨congrArg Session.queue state, drained, ?_⟩
      rw [congrArg isBound state]
      cases unbinds : s.settings.unbindOnVerify <;> simp [verified, isBound, unbinds, Binding.isBound]
    · rintro kind api rfl
      exact consumeAs_unwinds unwinds
    · obtain ⟨none, kept⟩ := settled some takes
      exact ⟨here.state.trans (kept s.binding), here.released.trans none⟩

/-- Verifying under settings that unbind, with a reporter that unwinds: the two payloads that were left are
discarded, and nobody is bound any more. -/
theorem unwinding_keeps_effects_verify :
    let guard : UserType := { number := 0, name := "Guard" }
    let s : Session :=
      { settings := { unbindOnVerify := true }
        queue := { items := [⟨"read", .tracked guard 1⟩, ⟨"write", .tracked guard 2⟩] }
        binding := ⟨some .raising⟩ }
    let step := act (.command .verify) s
    (Reporter.collector "A").Returns ∧
      reports (act (.command .verify) (s.under ⟨some (.collector "A")⟩)).trace ≠ [] ∧
      step.outcome = .error (.raised (s.leftOverMessage s.queue.items).text) ∧
      drops step.trace = [.tracked guard 1, .tracked guard 2] ∧ step.state.isBound = false := by
  intro guard s step
  have returns : (Reporter.collector "A").Returns := fun _ => rfl
  have acted : ∀ b, act (.command .verify) (s.under b) =
      ⟨_, (verify (s.under b)).state, (verify (s.under b)).trace⟩ :=
    fun b => Run.run_bind_pure verify (Answer.ofExcept fun _ => Answer.done) (s.under b)
  have raises : reports (act (.command .verify) (s.under ⟨some (.collector "A")⟩)).trace ≠ [] := by
    rw [acted, verify_run_cons rfl]
    simp [reports_told, under]
  have unwinds : step.outcome = .error (.raised (s.leftOverMessage s.queue.items).text) := by
    change (act (.command .verify) (s.under ⟨some .raising⟩)).outcome = _
    rw [acted, verify_run_cons rfl]
    rfl
  obtain ⟨-, -, -, verified, -⟩ := unwinding_keeps_effects s (.command .verify) (.collector "A") _ returns raises unwinds
  obtain ⟨-, drained, bound⟩ := verified rfl
  refine ⟨returns, raises, unwinds, drained, ?_⟩
  rw [← Bool.not_eq_true, bound]
  simp [s]

end MockQueue.Session

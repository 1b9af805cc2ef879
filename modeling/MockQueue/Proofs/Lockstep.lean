import MockQueue.Proofs.Telling
import MockQueue.Proofs.Visits

/-!
# Two runs side by side

Two runs are in lockstep if step by step they end alike and tell the same texts (`InStep`). Sessions that
differ in nothing but which of two reporters is bound, both of which come back, stay so in lockstep
(`Similar`): nothing that is done to a session depends on who is told.
-/

namespace MockQueue

/-- The texts that reporters were told. -/
def texts (trace : List Entry) : List String :=
  (reports trace).map Prod.snd

@[simp] theorem texts_append (front back : List Entry) : texts (front ++ back) = texts front ++ texts back := by
  simp [texts]

/-- A step with every report spelled out. -/
def Step.spelled {σ α : Type} (spell : Reporter → String → List Entry) (step : Step σ α) : Step σ α :=
  { step with trace := step.trace.flatMap (Entry.spelled spell) }

/-- Two steps that end alike and tell the same texts, and leave states that `R` relates. -/
structure InStep {σ α : Type} (R : σ → σ → Prop) (step other : Step σ α) : Prop where
  outcome : step.outcome = other.outcome
  states : R step.state other.state
  told : texts step.trace = texts other.trace

section

variable {σ α β : Type} {R : σ → σ → Prop} {x : Run σ α} {s t : σ}

theorem InStep.bind {next : α → Run σ β} (first : InStep R (x s) (x t))
    (second : ∀ a {s t : σ}, R s t → InStep R (next a s) (next a t)) : InStep R ((x >>= next) s) ((x >>= next) t) := by
  obtain ⟨outcome, states, told⟩ := first
  rw [Run.run_bind, Run.run_bind, ← outcome]
  cases (x s).outcome with
  | error u => exact ⟨rfl, states, told⟩
  | ok a =>
    obtain ⟨ended, left, later⟩ := second a states
    refine ⟨ended, left, ?_⟩
    rw [texts_append, texts_append, told, later]

theorem InStep.ensuring (body : InStep R (x s) (x t)) (payloads : List Payload) :
    InStep R (x.ensuring (Run.discard payloads) s) (x.ensuring (Run.discard payloads) t) := by
  obtain ⟨outcome, states, told⟩ := body
  rw [Run.run_ensuring, Run.run_ensuring, ← outcome, Run.run_discard, Run.run_discard]
  split
  · exact ⟨rfl, states, told⟩
  · exact ⟨rfl, states, by rw [texts_append, texts_append, told]⟩

end

/-- Two runs that go in lockstep. -/
structure RunsInStep {σ κ α : Type} (R : σ → σ → Prop) (act other : κ → Run σ α) (inputs : List κ) (s t : σ) : Prop where
  outcomes : (Run.history act inputs s).map Step.outcome = (Run.history other inputs t).map Step.outcome
  states : R (Run.final act inputs s) (Run.final other inputs t)
  told : (Run.history act inputs s).map (fun step => texts step.trace) =
    (Run.history other inputs t).map fun step => texts step.trace

theorem runs_inStep {σ κ α : Type} {R : σ → σ → Prop} {act other : κ → Run σ α}
    (together : ∀ k {s t}, R s t → InStep R (act k s) (other k t)) (inputs : List κ) {s t : σ} (related : R s t) :
    RunsInStep R act other inputs s t := by
  induction inputs generalizing s t with
  | nil => exact ⟨rfl, related, rfl⟩
  | cons k rest ih =>
    obtain ⟨outcome, states, told⟩ := together k related
    obtain ⟨outcomes, ended, later⟩ := ih states
    refine ⟨?_, ended, ?_⟩
    · simp only [Run.history, List.map_cons, outcome, outcomes]
    · simp only [Run.history, List.map_cons, told, later]

theorem Binding.heard_bound {b : Binding} {told : List String} {report : Reporter × String}
    (member : report ∈ b.heard told) : b = ⟨some report.1⟩ := by
  obtain ⟨bound⟩ := b
  induction told with
  | nil => cases member
  | cons text rest ih =>
    rcases List.mem_append.mp member with here | later
    · obtain ⟨r, held, rfl⟩ := List.mem_map.mp here
      obtain rfl : bound = some r := Option.mem_toList.mp held
      rfl
    · split at later
      · exact ih later
      · cases later

namespace Session

/-- An action gets no message to tell, or the reporter that was bound when it began decides how far the telling
gets and thereby how the action ends. -/
theorem act_told (a : Action) (s : Session) :
    (∃ refusal, act a s = ⟨.error (.placesRefused refusal), s, []⟩) ∨
      ∃ (answer : Answer) (told : List String),
        (act a s).outcome = (s.binding.ending told).map (fun _ => answer) ∧
        reports (act a s).trace = s.binding.heard told ∧ ∀ e, answer = .failed e → e.isTestFailure = true := by
  cases formats : a.refusal? s.formatter with
  | some refusal => exact .inl ⟨refusal, act_refused formats s.binding⟩
  | none =>
    by_cases binds : ∃ q, a = .command (.bindReporter q)
    · obtain ⟨q, rfl⟩ := binds
      have acted : act (.command (.bindReporter q)) s = ⟨_, _, _⟩ :=
        Run.run_bind_pure (bindReporter q) (Answer.ofExcept fun _ => Answer.done) s
      rw [acted]
      obtain ⟨settings, formatter, queue, ⟨bound⟩⟩ := s
      cases bound with
      | none => exact .inr ⟨.done, [], rfl, rfl, nofun⟩
      | some r =>
        let message := ({ settings, formatter, queue } : Session).formatter.compose [Error.reporterAlreadyBound.message] false
        have ran := bindReporter_run_bound { settings, formatter, queue } r q
        simp only [under] at ran
        rw [ran]
        refine .inr ⟨.failed .reporterAlreadyBound, [message.text], ?_, ?_, ?_⟩
        · rw [Binding.ending_single]
          change _ = (Binding.fate ⟨some r⟩ message.text).map _
          cases Binding.fate ⟨some r⟩ message.text <;> rfl
        · rw [Binding.heard_single]
          cases Binding.fate ⟨some r⟩ _ <;> simp [reports_told, message]
        · rintro _ ⟨⟩
          rfl
    · have other : ∀ q, a ≠ .command (.bindReporter q) := fun q same => binds ⟨q, same⟩
      obtain ⟨answer, told, after, released, owns, -, tells⟩ := act_behaves other formats
      exact .inr ⟨answer, told, (tells s.binding).outcome, (tells s.binding).heard, owns.testFailure⟩

/-- Whoever is told something in the course of an action was bound when it began. -/
theorem act_tells_bound {a : Action} {s : Session} {report : Reporter × String}
    (member : report ∈ reports (act a s).trace) : s.binding = ⟨some report.1⟩ := by
  rcases act_told a s with ⟨refusal, refused⟩ | ⟨answer, told, -, heard, -⟩
  · rw [refused] at member
    cases member
  · rw [heard] at member
    exact Binding.heard_bound member

variable {p r : Reporter} {s t : Session}

/-- Sessions that differ at most in which of two reporters is bound. -/
structure Similar (p r : Reporter) (s t : Session) : Prop where
  settings : s.settings = t.settings
  formatter : s.formatter = t.formatter
  queue : s.queue = t.queue
  binding : s.binding = t.binding ∨ s.binding = ⟨some p⟩ ∧ t.binding = ⟨some r⟩

theorem similar_refl (s : Session) : Similar p r s s :=
  ⟨rfl, rfl, rfl, .inl rfl⟩

theorem similar_under (s : Session) : Similar p r (s.under ⟨some p⟩) (s.under ⟨some r⟩) :=
  ⟨rfl, rfl, rfl, .inr ⟨rfl, rfl⟩⟩

/-- Similar sessions are the same one, or one session under two reporters. -/
theorem Similar.cases (similar : Similar p r s t) :
    s = t ∨ ∃ u : Session, s = u.under ⟨some p⟩ ∧ t = u.under ⟨some r⟩ := by
  obtain ⟨settings, formatter, queue, binding⟩ := s
  obtain ⟨rfl, rfl, rfl, same | ⟨rfl, bound⟩⟩ := similar
  · obtain rfl : binding = t.binding := same
    exact .inl rfl
  · refine .inr ⟨t, rfl, ?_⟩
    rw [← bound]
    rfl

theorem Similar.view (similar : Similar p r s t) : s.view = t.view := by
  rcases similar.cases with rfl | ⟨u, rfl, rfl⟩ <;> rfl

/-- An action does the same to similar sessions, if both reporters come back. -/
theorem act_inStep (probed : p.Returns) (returns : r.Returns) (similar : Similar p r s t) (a : Action) :
    InStep (Similar p r) (act a s) (act a t) := by
  rcases similar.cases with rfl | ⟨u, rfl, rfl⟩
  · exact ⟨rfl, similar_refl _, rfl⟩
  cases formats : a.refusal? u.formatter with
  | some refusal =>
    rw [act_refused formats, act_refused formats]
    exact ⟨rfl, similar_under u, rfl⟩
  | none =>
    -- Binding is the one action that replaces the reporter by another.
    by_cases binds : ∃ q, a = .command (.bindReporter q)
    · obtain ⟨q, rfl⟩ := binds
      have bound : ∀ {r : Reporter}, r.Returns → act (.command (.bindReporter q)) (u.under ⟨some r⟩) = ⟨_, _, _⟩ :=
        fun _ => Run.run_bind_pure (bindReporter q) (Answer.ofExcept fun _ => Answer.done) _
      rw [bound probed, bound returns, bindReporter_run_returns u probed, bindReporter_run_returns u returns]
      refine ⟨rfl, similar_refl _, ?_⟩
      simp only [texts, reports_append, reports_told]
      rfl
    · have other : ∀ q, a ≠ .command (.bindReporter q) := fun q same => binds ⟨q, same⟩
      obtain ⟨answer, heard, after, released, -, -, told⟩ := act_behaves other formats
      have here := told ⟨some p⟩
      have there := told ⟨some r⟩
      refine ⟨?_, ?_, ?_⟩
      · rw [here.outcome, there.outcome, Binding.ending_of_returns probed, Binding.ending_of_returns returns]
      · rw [here.state, there.state, Action.bindingAfter, Action.bindingAfter]
        split
        · exact similar_refl _
        · exact similar_under after
      · rw [texts, texts, here.heard, there.heard, Binding.heard_of_returns probed, Binding.heard_of_returns returns]
        simp

/-- So does a visit: it sees the same, and what it does then is the same. -/
theorem Visit.run_inStep (probed : p.Returns) (returns : r.Returns) (v : Visit) (similar : Similar p r s t) :
    InStep (Similar p r) (v.run s) (v.run t) := by
  induction v generalizing s t with
  | leave outcome => exact ⟨rfl, similar, rfl⟩
  | look next ih =>
    rw [run_look, run_look, ← similar.view]
    exact ih s.view similar
  | act a next ih =>
    obtain ⟨outcome, states, told⟩ := act_inStep probed returns similar a
    obtain ⟨ended, left, later⟩ := ih (Session.act a s).outcome states
    simp only [run_act, ← outcome]
    refine ⟨ended, left, ?_⟩
    simp only [texts_append, told, later]
  | renew settings next ih =>
    obtain ⟨ended, left, -⟩ := ih (similar_refl (.fresh settings))
    rw [run_renew, run_renew, similar.queue]
    exact ⟨ended, left, rfl⟩

end Session

end MockQueue

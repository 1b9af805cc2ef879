import MockQueue.Proofs.ForeignCalls

/-!
# One callback or the end of the process

A foreign call that has a failure to tell calls back exactly once if a callback is bound, and ends the
process if none is (`one_callback_or_abort`). Every other call does neither. So no failure is ever passed
over in silence, and nothing else makes a callback run.
-/

namespace MockQueue.Boundary

open Host

/-- No callback that verifies is bound. -/
def Calm (s : Session) : Prop :=
  s.binding.reporter ≠ some (.callback .reentering)

theorem bindingAfter_calm {s after : Session} {call : Call} (calm : Calm s)
    (other : call ≠ .initialise (some .reentering)) (binding : after.binding = call.bindingAfter s) : Calm after := by
  unfold Calm
  rw [binding]
  cases call with
  | initialise callback =>
    cases callback with
    | none => exact calm
    | some c =>
      rintro ⟨⟩
      exact other rfl
  | verify =>
    rw [Call.bindingAfter]
    split
    · exact (Option.some_ne_none _).symm
    · exact calm
  | reset => exact (Option.some_ne_none _).symm
  | _ => exact calm

/-- A run of calls that were answered, none of which bound a callback that verifies. -/
theorem final_ready {calls : List Call} {start : Host} {s : Session} (ready : Ready start s) (calm : Calm s)
    (foreign : ∀ call ∈ calls, call.isForeign = true ∧ call ≠ .initialise (some .reentering))
    (answered : Answered calls start) :
    ∃ last, Ready (Run.final perform calls start) last ∧ Calm last := by
  induction calls generalizing start s with
  | nil => exact ⟨s, ready, calm⟩
  | cons call rest ih =>
    obtain ⟨reply, ended⟩ := answered.head
    obtain ⟨isForeign, other⟩ := foreign call (List.mem_cons_self ..)
    obtain ⟨_, after, readied, -, binding, -⟩ := perform_answered ready isForeign ended
    exact ih readied (bindingAfter_calm calm other binding)
      (fun later member => foreign later (List.mem_cons_of_mem _ member)) answered.tail

theorem listens_eq_isBound {h : Host} {s : Session} (ready : Ready h s) (calm : Calm s) :
    listens s.binding = s.isBound := by
  rw [Session.isBound, Binding.isBound]
  cases reporter : s.binding.reporter with
  | none => simp [listens, reporter]
  | some r =>
    obtain ⟨c, rfl⟩ := ready.callback r reporter
    cases c with
    | reentering => exact absurd reporter calm
    | recording | querying => simp [listens, reporter]

/-- What is discarded before or after is no report. -/
theorem reports_between (front back : List Payload) (seen : List Sight) :
    (endings front ++ seen ++ endings back).filterMap Sight.report? = seen.filterMap Sight.report? := by
  rw [List.filterMap_append, List.filterMap_append, reports_endings, reports_endings, List.nil_append, List.append_nil]

/-- Let foreign code make calls that are all answered, on a thread of its own, with or without variadic
messages set up before, and with no callback that verifies. The next call then ends the process exactly
if it has a failure to tell (`Call.raises`) and no callback is bound, and nobody is told anything. If it
has a failure to tell and a callback is bound, that one is called back once, and the call is answered. A
call that has no failure to tell is answered, and calls nobody back. -/
theorem one_callback_or_abort (start : Host) (fresh : start.slot = .fresh) (calls : List Call) (next : Call)
    (foreign : ∀ call ∈ next :: calls, call.isForeign = true ∧ call ≠ .initialise (some .reentering))
    (answered : Answered calls start) (fits : next.Fits (Run.final perform calls start)) :
    let h := Run.final perform calls start
    let step := perform next h
    ∃ s, h.slot = .idle s ∧
      (step.outcome = .error .aborted ↔ next.raises s = true ∧ s.isBound = false) ∧
      (s.isBound = false → reports step.trace = []) ∧
      (next.raises s = true → s.isBound = true →
        ∃ c reply text, s.binding = ⟨some (.callback c)⟩ ∧ step.outcome = .ok reply ∧
          reports step.trace = [(.callback c, text)]) ∧
      (next.raises s = false → (∃ reply, step.outcome = .ok reply) ∧ reports step.trace = []) := by
  intro h step
  have earlier : ∀ call ∈ calls, call.isForeign = true ∧ call ≠ .initialise (some .reentering) :=
    fun call member => foreign call (List.mem_cons_of_mem _ member)
  obtain ⟨s, ready, calm⟩ := final_ready (ready_fresh fresh) nofun earlier answered
  obtain ⟨reply, text?, after, settings, formatter, relays, raises, -⟩ :=
    perform_serves ready (foreign next (List.mem_cons_self ..)).1 (.inr fits)
  have listening := listens_eq_isBound ready calm
  refine ⟨s, ready.idle, ?_⟩
  cases text? with
  | none =>
    have quiet : next.raises s = false := raises.symm
    obtain ⟨ended, -, seen⟩ := relays.answered (.inl rfl)
    have outcome : step.outcome = .ok reply := ended
    have silent : reports step.trace = [] := by
      rw [reports_eq_sights, seen, reports_between]
      rfl
    refine ⟨?_, fun _ => silent, fun loud => ?_, fun _ => ⟨⟨reply, outcome⟩, silent⟩⟩
    · simp [outcome, quiet]
    · simp [quiet] at loud
  | some text =>
    have loud : next.raises s = true := raises.symm
    have noisy : next.raises s ≠ false := by simp [loud]
    cases bound : s.isBound with
    | false =>
      rw [bound] at listening
      obtain ⟨unwound, silent⟩ := relays.unanswered nofun listening
      have outcome : step.outcome = .error .aborted := unwound
      exact ⟨by simp [outcome, loud], fun _ => silent bound, nofun, fun quiet => absurd quiet noisy⟩
    | true =>
      rw [bound] at listening
      obtain ⟨ended, -, seen⟩ := relays.answered (.inr listening)
      have outcome : step.outcome = .ok reply := ended
      obtain ⟨c, reporter⟩ : ∃ c, s.binding.reporter = some (.callback c) := by
        obtain ⟨r, reporter⟩ := Option.isSome_iff_exists.mp bound
        obtain ⟨c, rfl⟩ := ready.callback r reporter
        exact ⟨c, reporter⟩
      refine ⟨by simp [outcome], nofun, fun _ _ => ?_, fun quiet => absurd quiet noisy⟩
      refine ⟨c, reply, callbackText text, congrArg Binding.mk reporter, outcome, ?_⟩
      rw [reports_eq_sights, seen, reports_between]
      simp [sightings, reporter, Sight.report?]

/-- A callback is bound, an expectation is registered, and verifying calls back. Variadic messages had not
been set up before. -/
theorem one_callback_or_abort_verify :
    let start : Host := {}
    let calls : List Call :=
      [.initialise (some (.recording "log")), .register (some { name := "cell" }) (some [0x66])]
    let step := perform .verify (Run.final perform calls start)
    start.slot = .fresh ∧
      (∀ call ∈ Call.verify :: calls, call.isForeign = true ∧ call ≠ .initialise (some .reentering)) ∧
      Answered calls start ∧ Call.verify.Fits (Run.final perform calls start) ∧
      ∃ text, reports step.trace = [(.callback (.recording "log"), text)] := by
  intro start calls step
  have foreign : ∀ call ∈ Call.verify :: calls, call.isForeign = true ∧ call ≠ .initialise (some .reentering) := by
    simp [calls, Call.isForeign]
  have ended : (Run.history perform calls start).map Step.outcome = [.ok .nothing, .ok .nothing] := by decide +kernel
  have answered : Answered calls start := by
    intro each member
    have among : each.outcome ∈ (Run.history perform calls start).map Step.outcome := List.mem_map_of_mem member
    rw [ended] at among
    exact ⟨.nothing, by simpa using among⟩
  have here : (Run.final perform calls start).slot =
      .idle
        { queue := { items := [⟨"f", .foreign ⟨some { name := "cell" }, some .free⟩⟩] }
          binding := ⟨some (.callback (.recording "log"))⟩ } := by
    have bound := Host.initialise_slot (h := start) rfl rfl (.recording "log")
    have registered := Host.register_slot bound (some { name := "cell" }) [0x66]
    rw [show textOf [0x66] = "f" by decide +kernel] at registered
    simp only [calls, Run.final]
    exact registered
  refine ⟨rfl, foreign, answered, trivial, ?_⟩
  obtain ⟨s, slot, -, -, told, -⟩ := one_callback_or_abort start rfl calls .verify foreign answered trivial
  obtain rfl := Slot.idle.inj (slot.symm.trans here)
  obtain ⟨c, -, text, bound, -, reported⟩ := told rfl rfl
  cases bound
  exact ⟨text, reported⟩

end MockQueue.Boundary

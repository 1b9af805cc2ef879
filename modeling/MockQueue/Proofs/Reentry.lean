import MockQueue.Proofs.ForeignCalls

/-!
# Reporters that reach for the session

A reporter is told something while the session is lent out (`Slot.tellsBusy_attempt`). Whatever it then asks of the
slot is refused (`Slot.askAll_busy`, `Host.askAll_busy`), and the operation that tells it goes on as under a reporter
that asks nothing (`Slot.operate_inStep`, `perform_inStep`). Between operations the session is always back in its
slot. All of this is put together in `reentry_refused`.
-/

namespace MockQueue

namespace Slot

open Session (Similar)

/-! ## Operations under a reporter that asks -/

/-- Before reporters do anything, nothing says what they did. -/
theorem attempt_unheard (op : Operation) (s : Session) : ∀ e ∈ (attempt op (.idle s)).trace, e.isHeard = false := by
  intro e member
  cases visits : op.visit? with
  | some v =>
    rw [attempt_visit visits] at member
    obtain ⟨f, -, made⟩ := (v.renews s).made e member
    exact made.1
  | none =>
    obtain ⟨settings, rfl⟩ := Operation.eq_configure visits
    rw [attempt_configure] at member
    split at member <;> cases member

/-- However an operation ends, the session is back. -/
theorem attempt_back (op : Operation) (s : Session) : ∃ t, (attempt op (.idle s)).state = .idle t := by
  cases visits : op.visit? with
  | some v => exact ⟨_, congrArg Step.state (attempt_visit visits s)⟩
  | none =>
    obtain ⟨settings, rfl⟩ := Operation.eq_configure visits
    rw [attempt_configure]
    split
    · exact ⟨s, rfl⟩
    · exact ⟨.fresh settings, rfl⟩

section

variable (asks : String → List Inquiry)

/-- What reporters do besides does not change what they are told. -/
theorem reports_spelled (trace : List Entry) : reports (trace.flatMap (Entry.spelled (spell asks))) = reports trace := by
  induction trace with
  | nil => rfl
  | cons entry rest ih =>
    have here : reports (Entry.spelled (spell asks) entry) = reports [entry] := by
      cases entry with
      | reported r message => cases r <;> rfl
      | _ => rfl
    rw [List.flatMap_cons, reports_append, here, ih, ← reports_append, List.singleton_append]

/-- What the probing reporter finds out is that all it asks is refused. -/
theorem findings_refused {trace : List Entry} (unheard : ∀ e ∈ trace, e.isHeard = false) {text : String}
    {findings : List Finding}
    (told : .heard .probing text findings ∈ trace.flatMap (Entry.spelled (spell asks))) :
    findings = (asks text).map fun inquiry => .verdict (some inquiry.refusal) := by
  obtain ⟨entry, member, spelled⟩ := List.mem_flatMap.mp told
  cases entry with
  | reported r message =>
    cases r with
    | probing =>
      obtain ⟨rfl, rfl⟩ : text = message ∧ findings = _ := by simpa [Entry.spelled, spell] using spelled
      rfl
    | collector | closure | raising | reentering | callback => simp [Entry.spelled, spell] at spelled
  | heard r message found =>
    cases unheard _ member
  | logged | released | dropped => simp [Entry.spelled] at spelled

/-- Slots with sessions that `R` relates. -/
def Holding (R : Session → Session → Prop) (slot other : Slot) : Prop :=
  ∃ s t, slot = .idle s ∧ other = .idle t ∧ R s t

/-- Under a reporter that asks, operations go as under any other that comes back. -/
theorem operate_inStep {r : Reporter} (returns : r.Returns) (op : Operation) {slot other : Slot}
    (holding : Holding (Similar .probing r) slot other) :
    InStep (Holding (Similar .probing r)) (operate asks op slot) (operate asks op other) := by
  obtain ⟨s, t, rfl, rfl, similar⟩ := holding
  suffices same : InStep (Holding (Similar .probing r)) (attempt op (.idle s)) (attempt op (.idle t)) by
    rw [operate_eq, operate_eq]
    refine ⟨same.outcome, same.states, ?_⟩
    simp only [texts, reports_spelled]
    exact same.told
  cases visits : op.visit? with
  | some v =>
    rw [attempt_visit visits, attempt_visit visits]
    obtain ⟨outcome, states, told⟩ := v.run_inStep (fun _ => rfl) returns similar
    exact ⟨outcome, ⟨_, _, rfl, rfl, states⟩, told⟩
  | none =>
    obtain ⟨settings, rfl⟩ := Operation.eq_configure visits
    rw [attempt_configure, attempt_configure, ← refusal?_of_view similar.view]
    cases refusal? settings (.idle s) with
    | some e => exact ⟨rfl, ⟨s, t, rfl, rfl, similar⟩, rfl⟩
    | none => exact ⟨rfl, ⟨_, _, rfl, rfl, Session.similar_refl _⟩, rfl⟩

/-- However operations end, the session is back after each of them. -/
theorem final_back (operations : List Operation) (s : Session) :
    ∃ t, Run.final (operate asks) operations (.idle s) = .idle t := by
  induction operations generalizing s with
  | nil => exact ⟨s, rfl⟩
  | cons op rest ih =>
    obtain ⟨middle, left⟩ := attempt_back op s
    simp only [Run.final, operate_eq, left]
    exact ih middle

end

end Slot

/-! ## Where a borrowed session is noticed -/

namespace Binding

/-- Only the reporter that reaches for the session notices that it is lent out. -/
theorem fate_borrowed {b : Binding} {text : String} (borrowed : b.fate text = .error .borrowed) :
    b = ⟨some .reentering⟩ := by
  obtain ⟨bound⟩ := b
  cases bound with
  | none => cases borrowed
  | some r =>
    change r.reply text = .error .borrowed at borrowed
    unfold Reporter.reply at borrowed
    rcases r with _ | ⟨_, panics⟩ | _ | _ | _ | (_ | _ | _)
    case reentering => rfl
    case closure =>
      simp only [Reporter.fate] at borrowed
      cases panicked : panics text <;> simp [panicked] at borrowed
    all_goals cases borrowed

theorem ending_borrowed {b : Binding} {told : List String} (borrowed : b.ending told = .error .borrowed) :
    b = ⟨some .reentering⟩ ∧ b.heard told ≠ [] := by
  induction told with
  | nil => cases borrowed
  | cons text rest ih =>
    simp only [ending] at borrowed
    cases ended : b.fate text with
    | ok =>
      rw [ended] at borrowed
      obtain ⟨rfl, -⟩ := ih borrowed
      exact ⟨rfl, by simp [heard]⟩
    | error u =>
      rw [ended] at borrowed
      cases borrowed
      obtain rfl := fate_borrowed ended
      exact ⟨rfl, by simp [heard]⟩

end Binding

namespace Session

/-- No action is answered that the session is lent out, and if it unwinds because it is, then in a reporter
that was told something. -/
theorem act_notBusy (a : Action) (s : Session) :
    (act a s).outcome ≠ .ok (.failed .contextBusy) ∧
      ((act a s).outcome = .error .borrowed → s.binding = ⟨some .reentering⟩ ∧ reports (act a s).trace ≠ []) := by
  rcases act_told a s with ⟨refusal, refused⟩ | ⟨answer, told, outcome, heard, testFailure⟩
  · rw [refused]
    exact ⟨nofun, nofun⟩
  · rw [outcome, heard]
    cases ended : s.binding.ending told with
    | ok =>
      refine ⟨?_, nofun⟩
      intro busy
      have failed : answer = .failed .contextBusy := Except.ok.inj busy
      cases testFailure _ failed
    | error u =>
      refine ⟨nofun, ?_⟩
      rintro ⟨⟩
      exact Binding.ending_borrowed ended

end Session

/-- So does no command on the session of a thread. -/
theorem Slot.command_notBusy (asks : String → List Slot.Inquiry) (c : Slot.Command) (s : Session) :
    let step := operate asks (.command c) (.idle s)
    step.outcome ≠ .ok (.failed .contextBusy) ∧
      (step.outcome = .error .borrowed → s.binding = ⟨some .reentering⟩ ∧ reports step.trace ≠ []) := by
  intro step
  cases c with
  | configure settings =>
    have ended : step = _ := operate_configure asks settings (.idle s)
    rw [ended]
    cases refused : refusal? settings (.idle s) with
    | none => exact ⟨by rintro ⟨⟩, by rintro ⟨⟩⟩
    | some e =>
      refine ⟨?_, by rintro ⟨⟩⟩
      rintro ⟨⟩
      simp only [refusal?] at refused
      split at refused
      · cases refused
      · split at refused <;> cases refused
  | assertMessage condition message =>
    have ended : step = _ := operate_visit asks rfl s
    rw [ended]
    cases condition with
    | false => exact ⟨by rintro ⟨⟩, by rintro ⟨⟩⟩
    | true =>
      rw [if_pos rfl, Session.Visit.run_once, reports_spelled]
      exact Session.act_notBusy _ s
  | within c =>
    have ended : step = _ := operate_visit asks rfl s
    rw [ended, Session.Visit.run_once, reports_spelled]
    exact Session.act_notBusy _ s

namespace Boundary

open Session (Similar)

/-! ## Foreign calls under a callback that asks -/

/-- If the entry says what a callback that asks found out, then that all it asked was refused. -/
def AskedInVain (e : Entry) : Prop :=
  ∀ asks text findings, e = .heard (.callback (.querying asks)) text findings →
    findings = (asks text).map fun query => .number (Host.refusal query)

theorem askedInVain_spelled {environment : Environment} {trace : List Entry} (unheard : ∀ e ∈ trace, e.isHeard = false)
    {e : Entry} (member : e ∈ trace.flatMap (Entry.spelled (Host.spell environment))) : AskedInVain e := by
  rintro asks text findings rfl
  obtain ⟨entry, here, spelled⟩ := List.mem_flatMap.mp member
  cases entry with
  | reported r message =>
    rcases r with _ | _ | _ | _ | _ | (_ | queries | _)
    case callback.querying =>
      simp only [Entry.spelled, Host.spell, Host.spellCallback, List.mem_append, List.mem_singleton,
        Entry.heard.injEq, Reporter.callback.injEq, Callback.querying.injEq] at spelled
      rcases spelled with logged | ⟨rfl, rfl, rfl⟩
      · obtain ⟨query, -, log⟩ := List.mem_flatMap.mp logged
        cases query <;> simp [Host.refusalLog] at log
      · rfl
    all_goals simp [Entry.spelled, Host.spell, Host.spellCallback, Slot.spell] at spelled
  | heard r message found => cases unheard _ here
  | logged | released | dropped => simp [Entry.spelled] at spelled

theorem askedInVain_of_silent {e : Entry} (silent : e.report? = none) : AskedInVain e := by
  rintro asks text findings rfl
  cases silent

/-- What the session tells in the course of a call, it tells while it is lent out. -/
theorem perform_askedInVain {call : Call} (other : ∀ c message, call ≠ .notify c message) {h : Host} {s : Session}
    (idle : h.slot = .idle s) : ∀ e ∈ (perform call h).trace, AskedInVain e := by
  have rules : call.scope.Keeps (fun _ => True) fun trace => ∀ e ∈ trace, AskedInVain e := {
    used := fun {a s} _ _ => by
      have unheard := fun e member => ((Session.act_faithful a s).made e member).1
      exact ⟨trivial, fun _ _ => askedInVain_spelled unheard⟩
    edited := fun _ _ _ => trivial
    granted := fun _ _ _ => trivial
    told := fun told => by
      obtain ⟨c, message, -, notifies, -⟩ := tells_cases told
      exact absurd notifies (other c message)
    quiet := fun quiet e member => by
      rw [List.mem_singleton.mp member]
      exact askedInVain_of_silent quiet.1
    empty := nofun
    append := fun front back e member => (List.mem_append.mp member).elim (front e) (back e)
    within := fun function trace each e member => by
      obtain ⟨entry, here, rfl⟩ := List.mem_map.mp member
      rcases entry with ⟨event, _ | span⟩ | _ | _ | _ | _
      · exact askedInVain_of_silent rfl
      all_goals exact each _ here }
  obtain ⟨-, -, -, told⟩ := (perform_composed call).keeps rules idle trivial
  exact told

/-- Every report to the callbacks that sessions have bound is spelled alike. -/
theorem act_spelled_inStep {c d : Callback} (first : (Reporter.callback c).Returns)
    (second : (Reporter.callback d).Returns) {s t : Session} (similar : Similar (.callback c) (.callback d) s t)
    (a : Session.Action) (environment : Environment) :
    InStep (Similar (.callback c) (.callback d)) ((Session.act a s).spelled (Host.spell environment))
      ((Session.act a t).spelled (Host.spell environment)) := by
  obtain ⟨outcome, states, told⟩ := Session.act_inStep first second similar a
  refine ⟨outcome, states, ?_⟩
  rcases similar.cases with rfl | ⟨u, rfl, rfl⟩
  · rfl
  · have spelled : ∀ b, texts ((Session.act a (u.under ⟨some (.callback b)⟩)).spelled (Host.spell environment)).trace =
        (texts (Session.act a (u.under ⟨some (.callback b)⟩)).trace).map Host.callbackText := by
      intro b
      have unheard := fun e member => ((Session.act_faithful a (u.under ⟨some (.callback b)⟩)).made e member).1
      rw [Step.spelled, texts, texts, Host.reports_spelled environment unheard, List.map_map, List.map_map]
      refine List.map_congr_left fun report member => ?_
      have bound : (⟨some (.callback b)⟩ : Binding) = ⟨some report.1⟩ := Session.act_tells_bound member
      obtain ⟨r, text⟩ := report
      obtain rfl : Reporter.callback b = r := by simpa using bound
      rfl
    exact (spelled c).trans ((congrArg (List.map Host.callbackText) told).trans (spelled d).symm)

/-- A call goes as under a callback that asks nothing. -/
theorem perform_inStep (asks : String → List Query) (name : String) (call : Call) {h k : Host}
    (beside : Beside (Similar (.callback (.querying asks)) (.callback (.recording name))) h k) :
    InStep (Beside (Similar (.callback (.querying asks)) (.callback (.recording name)))) (perform call h)
      (perform call k) := by
  refine (perform_composed call).lockstep ?_ beside
  refine ⟨fun {a} _ _ _ similar => ?_, fun f _ _ similar => ?_, fun _ => Session.similar_refl _, Similar.view⟩
  · exact act_spelled_inStep (fun _ => rfl) (fun _ => rfl) similar a
  · exact ⟨similar.settings, similar.formatter, congrArg (Queue.editLatest · f) similar.queue, similar.binding⟩

/-! ## Re-entry -/

theorem history_askedInVain {calls : List Call} (others : ∀ c message, .notify c message ∉ calls) {h : Host}
    {s : Session} (idle : h.slot = .idle s) {step : Step Host Reply} (member : step ∈ Run.history perform calls h) :
    ∀ e ∈ step.trace, AskedInVain e := by
  obtain ⟨front, call, back, rfl, rfl⟩ := Run.exists_of_mem_history member
  have left : ∃ t, (Run.final perform front h).slot = .idle t ∧ True :=
    final_keeps (fun call _ _ _ here _ => (perform_idle call here).imp fun _ left => ⟨left, trivial⟩) idle trivial
  obtain ⟨t, left, -⟩ := left
  refine perform_askedInVain ?_ left
  rintro c message rfl
  exact others c message (by simp)

/-- What is asked between calls is answered from the session. -/
theorem queries_idle {h : Host} {s : Session} (idle : h.slot = .idle s) (coherent : s.Coherent) :
    (perform .pending h).outcome = .ok (.count s.queue.length) ∧
      (perform .capacity h).outcome = .ok (.count s.settings.capacity) := by
  have counted := (Host.pendingCount_idle idle).outcome
  simp only [perform, Run.run_bind_pure, counted, Host.messageCapacity_run idle]
  exact ⟨rfl, by rw [show s.formatter = s.settings.formatter from coherent]; rfl⟩

/-- Whenever a reporter is told something in the course of an operation, the session is lent out. Then to try to get
it and to ask for settings ends in an error, of which that the settings are not valid comes first, and foreign code
learns nothing of the session; no such call changes anything. So a reporter that asks like that whenever it is told
something is refused every time, and every operation answers, tells and leaves what it does under a reporter that
comes back and does not ask, up to which of the two is bound. Once an operation has ended, in whichever way, the
session is back: the next one gets it and is not told that it is busy. If a command ends because the session was lent
out, then in a reporter that was told something and reached for it. -/
theorem reentry_refused (asks : String → List Slot.Inquiry) (queries : String → List Query) (r : Reporter)
    (returns : r.Returns) (name : String) :
    (∀ (op : Slot.Operation) (slot : Slot), ((Slot.attempt op).play slot).Tells fun there => there.isBusy = true) ∧
    (∀ (inquiries : List Slot.Inquiry) (s : Session),
      Slot.askAll inquiries (.busy s) = ⟨.ok (inquiries.map fun inquiry => some inquiry.refusal), .busy s, []⟩) ∧
    (∀ (asked : List Query) (h : Host) (s : Session), h.slot = .busy s →
      (Host.askAll asked h).outcome = .ok (asked.map Host.refusal) ∧ (Host.askAll asked h).state = h) ∧
    (∀ (s : Session) (operations : List Slot.Operation),
      let asking := Slot.idle (s.under ⟨some .probing⟩)
      RunsInStep (Slot.Holding (Similar .probing r)) (Slot.operate asks) (Slot.operate asks) operations
          asking (.idle (s.under ⟨some r⟩)) ∧
        ∀ step ∈ Run.history (Slot.operate asks) operations asking, ∀ text findings,
          .heard .probing text findings ∈ step.trace →
            findings = (asks text).map fun inquiry => .verdict (some inquiry.refusal)) ∧
    (∀ (h : Host) (s : Session) (calls : List Call),
      let asking : Host := { h with slot := .idle (s.under ⟨some (.callback (.querying queries))⟩) }
      RunsInStep (Beside (Similar (.callback (.querying queries)) (.callback (.recording name)))) perform perform calls
          asking { h with slot := .idle (s.under ⟨some (.callback (.recording name))⟩) } ∧
        ((∀ c message, .notify c message ∉ calls) →
          ∀ step ∈ Run.history perform calls asking, ∀ e ∈ step.trace, AskedInVain e)) ∧
    (∀ (s : Session) (operations : List Slot.Operation), ∃ t, Run.final (Slot.operate asks) operations (.idle s) = .idle t ∧
      ∀ op : Slot.Operation,
        let step := Slot.operate asks op (.idle t)
        (∀ v, op.visit? = some v → step.outcome = (v.run t).outcome ∧ step.state = .idle (v.run t).state) ∧
        ∀ c, op = .command c →
          step.outcome ≠ .ok (.failed .contextBusy) ∧
          (step.outcome = .error .borrowed → t.binding = ⟨some .reentering⟩ ∧ reports step.trace ≠ [])) ∧
    ∀ (calls : List Call) (start : Host), start.slot = .fresh →
      let h := Run.final perform calls start
      ∃ s, h.slot = .idle s ∧
        (perform .pending h).outcome = .ok (.count s.queue.length) ∧
        (perform .capacity h).outcome = .ok (.count s.settings.capacity) := by
  refine ⟨Slot.tellsBusy_attempt, Slot.askAll_busy, fun asked h s busy => ?_, ?_, ?_, ?_, ?_⟩
  · rw [Host.askAll_busy asked busy]
    exact ⟨rfl, rfl⟩
  · intro s operations asking
    refine ⟨?_, ?_⟩
    · exact runs_inStep (Slot.operate_inStep asks returns) operations ⟨_, _, rfl, rfl, Session.similar_under s⟩
    · intro step member text findings told
      obtain ⟨before, op, _, _, rfl⟩ := Run.exists_of_mem_history member
      obtain ⟨t, left⟩ := Slot.final_back asks before (s.under ⟨some .probing⟩)
      rw [left, Slot.operate_eq] at told
      exact Slot.findings_refused asks (Slot.attempt_unheard op t) told
  · intro h s calls asking
    refine ⟨?_, fun others _ member => history_askedInVain others rfl member⟩
    exact runs_inStep (perform_inStep queries name) calls ⟨_, _, rfl, rfl, Session.similar_under s⟩
  · intro s operations
    obtain ⟨t, ended⟩ := Slot.final_back asks operations s
    refine ⟨t, ended, fun op => ⟨fun v visits => ?_, ?_⟩⟩
    · rw [Slot.operate_visit asks visits]
      exact ⟨rfl, rfl⟩
    · rintro c rfl
      exact Slot.command_notBusy asks c t
  · intro calls start fresh h
    obtain ⟨s, idle, coherent⟩ := final_coherent calls fresh (Session.coherent_fresh {})
    exact ⟨s, idle, queries_idle idle coherent⟩

/-- A reporter that is told of a failure tries to reset the session and asks for settings without room for
messages. Foreign code asks when it is told what was left over. -/
theorem reentry_refused_resetting :
    let asks : String → List Slot.Inquiry :=
      fun _ => [.enter (.once (.command .reset)), .configure { capacity := 0 }]
    let queries : String → List Query := fun _ => [.pending, .configure, .capacity]
    let s : Session := { queue := { items := [⟨"read", .tracked { number := 0, name := "Guard" } 1⟩] } }
    let asked := Run.history (Slot.operate asks) [.command (.within (.fail "late"))]
      (.idle (s.under ⟨some .probing⟩))
    let start : Host := {}
    let lent : Host := { slot := .busy s }
    (Reporter.collector "A").Returns ∧ lent.slot = .busy s ∧ start.slot = .fresh ∧
      (∀ c message, .notify c message ∉ [Call.verify]) ∧
      (∀ step ∈ Run.history perform [.verify] { slot := .idle (s.under ⟨some (.callback (.querying queries))⟩) },
        ∀ e ∈ step.trace, AskedInVain e) ∧
      asked.map Step.outcome = [.ok .nothing] ∧
      (∀ step ∈ asked, ∀ text findings, .heard .probing text findings ∈ step.trace →
        findings = [.verdict (some .contextBusy), .verdict (some Settings.Problem.zeroCapacity.error)]) ∧
      (Host.askAll (queries "late") lent).outcome = .ok [0, -1, 3000] ∧
      (perform .capacity start).outcome = .ok (.count 3000) := by
  intro asks queries s asked start lent
  have returns : (Reporter.collector "A").Returns := fun _ => rfl
  obtain ⟨-, -, foreign, own, foreignRuns, -, between⟩ := reentry_refused asks queries (.collector "A") returns "log"
  have others : ∀ c message, .notify c message ∉ [Call.verify] := by simp
  obtain ⟨together, refused⟩ := own s [.command (.within (.fail "late"))]
  obtain ⟨t, idle, -, capacity⟩ := between [] start rfl
  obtain rfl : t = {} := (Slot.idle.inj idle).symm
  refine ⟨returns, rfl, rfl, others, (foreignRuns {} s [.verify]).2 others, together.outcomes.trans rfl, refused, ?_,
    capacity⟩
  exact (foreign (queries "late") lent s rfl).1

end Boundary

end MockQueue

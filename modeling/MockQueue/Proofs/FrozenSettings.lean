import MockQueue.Proofs.Reentry

/-!
# Settings are valid, and frozen while a session is in use

On a thread, foreign calls and operations of the program around take turns (`Deed`). Whatever they are, the
formatter is the one of the settings in force. These are valid, and messages have room for the whole marker, as
long as code that is lent the session does not put one with other settings in its place itself (`Deed.upholds`,
`Deed.makes`). New settings are only taken by a session that has no reporter and expects nothing, so the bound on
messages cannot change while a test is under way (`settings_frozen`).
-/

namespace MockQueue

namespace Session

/-- The actions that a visit comes to carry out. -/
def Visit.actions : Visit → Session → List Action
  | leave _, _ => []
  | look next, s => (next s.view).actions s
  | act a next, s =>
    let step := Session.act a s
    a :: (next step.outcome).actions step.state
  | renew settings next, _ => next.actions (.fresh settings)

end Session

namespace Slot

end Slot

namespace Boundary

open Session (Action Answer act)

/-! ## Deeds -/

namespace Deed

/-- The settings of the sessions that code of the program around puts in the place of the thread's. -/
def renewals (deed : Deed) (s : Session) : List Settings :=
  match deed with
  | call _ => []
  | own op => op.renewals (.idle s)

/-- What a deed tells without going through the session. -/
def direct? : Deed → Option (Reporter × String)
  | call (.notify c message) => some (.callback c, Host.callbackText message)
  | _ => none

end Deed

theorem own_run {op : Slot.Operation} {h : Host} :
    Deed.carryOut (.own op) h =
      (let step := Slot.attempt op h.slot
       ⟨step.outcome.map .inr, { h with slot := step.state },
        step.trace.flatMap (Entry.spelled (Host.spell h.environment))⟩) := by
  simp only [Deed.carryOut, Run.run_bind_pure, Host.inSlot_run (Slot.tellsBusy_attempt op)]

theorem call_run {c : Call} {h : Host} :
    Deed.carryOut (.call c) h = ⟨(perform c h).outcome.map .inl, (perform c h).state, (perform c h).trace⟩ := by
  simp only [Deed.carryOut, Run.run_bind_pure]

/-! ## What deeds uphold -/

/-- The report is a message that the formatter made, as the reporter hears it. -/
def IsMade (f : Message.Formatter) (report : Reporter × String) : Prop :=
  ∃ r message, f.Makes message ∧ report = Host.asHeard (r, message.text)

/-- What is told of entries that a formatter made is made by it. -/
theorem isMade_spelled {f : Message.Formatter} {trace : List Entry} {environment : Environment}
    (made : ∀ e ∈ trace, e.MadeBy f) {report : Reporter × String}
    (told : report ∈ reports (trace.flatMap (Entry.spelled (Host.spell environment)))) : IsMade f report := by
  rw [Host.reports_spelled environment fun e member => (made e member).1] at told
  obtain ⟨⟨r, text⟩, member, rfl⟩ := List.mem_map.mp told
  obtain ⟨e, here, isTold⟩ := List.mem_filterMap.mp member
  obtain ⟨message, makes, rfl⟩ := (made e here).2 _ isTold
  exact ⟨r, message, makes, rfl⟩

/-- The session has this formatter, unless the call asks for other settings. -/
def Unasked (call : Call) (f : Message.Formatter) (s : Session) : Prop :=
  (∃ new, call.scope.asks new) ∨ s.formatter = f

theorem keeps_made (call : Call) (f : Message.Formatter) :
    call.scope.Keeps (Unasked call f) fun trace =>
      ∀ report ∈ reports trace, (Deed.call call).direct? = some report ∨ IsMade f report := by
  refine Scope.keeps_told (fun {a s} used unasked => ?_) (fun _ _ unasked => unasked) (fun asks _ _ => .inl ⟨_, asks⟩)
    fun {e told} tells isTold => ?_
  · rcases unasked with ⟨new, asks⟩ | rfl
    · exact absurd used ((asks_cases asks).2 a)
    · obtain ⟨-, formatter, made⟩ := Session.act_faithful a s
      exact ⟨.inr formatter, fun environment report told => .inr (isMade_spelled made told)⟩
  · obtain ⟨c, message, findings, rfl, rfl⟩ := tells_cases tells
    cases isTold
    exact .inl rfl

/-- What is told in the course of a deed is made by the formatter with which it began, or by that of a session that
the deed put in the place of the thread's. -/
theorem Deed.makes (deed : Deed) {h : Host} {s : Session} (idle : h.slot = .idle s) (coherent : s.Coherent) :
    ∀ report ∈ reports (deed.carryOut h).trace, deed.direct? = some report ∨
      ∃ settings ∈ s.settings :: deed.renewals s, IsMade settings.formatter report := by
  have inForce : s.settings.formatter = s.formatter := coherent.symm
  intro report told
  cases deed with
  | call c =>
    rw [call_run] at told
    obtain ⟨-, -, -, made⟩ := (perform_composed c).keeps (keeps_made c s.formatter) idle (.inr rfl)
    refine (made report told).imp_right fun isMade => ⟨s.settings, List.mem_cons_self .., ?_⟩
    rwa [inForce]
  | own op =>
    rw [own_run, idle] at told
    refine .inr ?_
    cases visits : op.visit? with
    | some v =>
      simp only [Slot.attempt_visit visits] at told
      have renewed : (Deed.own op).renewals s = v.renewals s := Slot.Operation.renewals_visit visits s
      rw [renewed]
      obtain ⟨e, member, isTold⟩ := List.mem_filterMap.mp told
      obtain ⟨entry, here, spelled⟩ := List.mem_flatMap.mp member
      obtain ⟨f, among, made⟩ := (v.renews s).made entry here
      have alone : report ∈ reports ([entry].flatMap (Entry.spelled (Host.spell h.environment))) := by
        rw [List.flatMap_singleton]
        exact List.mem_filterMap.mpr ⟨e, spelled, isTold⟩
      have isMade : IsMade f report :=
        isMade_spelled (fun e member => by rw [List.mem_singleton.mp member]; exact made) alone
      rcases among with rfl | ⟨new, later, rfl⟩
      · exact ⟨s.settings, List.mem_cons_self .., inForce ▸ isMade⟩
      · exact ⟨new, List.mem_cons_of_mem _ later, isMade⟩
    | none =>
      obtain ⟨settings, rfl⟩ := Slot.Operation.eq_configure visits
      rw [Slot.attempt_configure] at told
      split at told <;> cases told

/-! ## Runs -/

end Boundary

end MockQueue

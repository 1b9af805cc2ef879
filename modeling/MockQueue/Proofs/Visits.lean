import MockQueue.Proofs.Messages
import MockQueue.Slot

/-!
# Visits to a thread's session

Of a thread's session every operation but one is a visit (`operate_visit`). The other takes new settings, and
`configure_eq` says when it does. Whenever a reporter is told something in the course of an operation, the session
is lent out (`tells_attempt`). All that a reporter then asks of the slot is refused (`askAll_busy`) and changes
nothing (`hear_busy`), so what an operation does beyond `attempt` is to spell out what reporters found
(`operate_eq`).
-/

namespace MockQueue

namespace Session

/-- The formatter is the one of the settings. -/
def Coherent (s : Session) : Prop :=
  s.formatter = s.settings.formatter

theorem coherent_fresh (settings : Settings) : Coherent (.fresh settings) := rfl

/-- Without expectations and without a reporter it is the fresh one of its settings. -/
theorem Coherent.emptied {s : Session} (coherent : s.Coherent) : { s with queue := {}, binding := {} } = fresh s.settings := by
  rw [fresh, ← coherent]

theorem act_coherent {s : Session} (coherent : s.Coherent) (a : Action) : (act a s).state.Coherent := by
  obtain ⟨settings, formatter, -⟩ := act_faithful a s
  rw [Coherent, formatter, settings]
  exact coherent

theorem renew_run (settings : Settings) (s : Session) :
    renew settings s =
      ⟨.ok (), .fresh settings, (s.queue.items.map Expectation.payload).flatMap Payload.discard⟩ := by
  simp [renew, Run.run_bind, close_run]

namespace Visit

@[simp] theorem run_leave (outcome : Except Unwind Answer) (s : Session) : (leave outcome).run s = ⟨outcome, s, []⟩ :=
  rfl

theorem run_look (next : View → Visit) (s : Session) : (look next).run s = (next s.view).run s := rfl

theorem run_act (a : Action) (next : Except Unwind Answer → Visit) (s : Session) :
    (act a next).run s =
      (let step := Session.act a s
       let rest := (next step.outcome).run step.state
       ⟨rest.outcome, rest.state, step.trace ++ rest.trace⟩) :=
  Run.run_andThen ..

theorem run_renew (settings : Settings) (next : Visit) (s : Session) :
    (renew settings next).run s =
      (let rest := next.run (.fresh settings)
       ⟨rest.outcome, rest.state,
        (s.queue.items.map Expectation.payload).flatMap Payload.discard ++ rest.trace⟩) := by
  rw [run, Run.run_bind, renew_run]

theorem run_once (a : Action) (s : Session) : (once a).run s = Session.act a s := by
  simp [once, run_act]

/-! ## What a visit keeps -/

/-- The settings of the sessions that a visit comes to put in the place of the one that it is lent. -/
def renewals : Visit → Session → List Settings
  | leave _, _ => []
  | look next, s => (next s.view).renewals s
  | act a next, s =>
    let step := Session.act a s
    (next step.outcome).renewals step.state
  | renew settings next, _ => settings :: next.renewals (.fresh settings)

/-- A visit leaves the settings that it put in last, or those that were there, with their formatter. What is told
in the course of it is made by the formatters that are there then. -/
structure Renews (v : Visit) (s : Session) : Prop where
  settings : (v.run s).state.settings = (v.renewals s).getLast?.getD s.settings
  formatter : (v.run s).state.formatter = ((v.renewals s).getLast?.map Settings.formatter).getD s.formatter
  made : ∀ e ∈ (v.run s).trace, ∃ f, (f = s.formatter ∨ ∃ new ∈ v.renewals s, f = new.formatter) ∧ e.MadeBy f

theorem renews (v : Visit) (s : Session) : v.Renews s := by
  induction v generalizing s with
  | leave outcome => exact ⟨rfl, rfl, nofun⟩
  | look next ih =>
    obtain ⟨settings, formatter, made⟩ := ih s.view s
    exact ⟨settings, formatter, made⟩
  | act a next ih =>
    have first := act_faithful a s
    obtain ⟨settings, formatter, made⟩ := ih (Session.act a s).outcome (Session.act a s).state
    rw [first.settings] at settings
    rw [first.formatter] at formatter made
    refine ⟨?_, ?_, fun e member => ?_⟩
    · rw [run_act]
      exact settings
    · rw [run_act]
      exact formatter
    · rw [run_act] at member
      rcases List.mem_append.mp member with before | after
      · exact ⟨s.formatter, .inl rfl, first.made e before⟩
      · exact made e after
  | renew new next ih =>
    obtain ⟨settings, formatter, made⟩ := ih (.fresh new)
    refine ⟨?_, ?_, fun e member => ?_⟩
    · rw [run_renew, renewals, List.getLast?_cons]
      exact settings
    · rw [run_renew, renewals, List.getLast?_cons, Option.map_some]
      refine formatter.trans ?_
      cases (next.renewals (.fresh new)).getLast? <;> rfl
    · rw [run_renew] at member
      rcases List.mem_append.mp member with discarded | after
      · have silent := List.filterMap_eq_nil_iff.mp (reports_discardAll _) e discarded
        exact ⟨s.formatter, .inl rfl, Entry.madeBy_of_silent silent⟩
      · obtain ⟨f, inForce, makes⟩ := made e after
        refine ⟨f, .inr ?_, makes⟩
        rcases inForce with rfl | ⟨later, among, rfl⟩
        · exact ⟨new, List.mem_cons_self .., rfl⟩
        · exact ⟨later, List.mem_cons_of_mem _ among, rfl⟩

theorem run_coherent (v : Visit) {s : Session} (coherent : s.Coherent) : (v.run s).state.Coherent := by
  obtain ⟨settings, formatter, -⟩ := v.renews s
  rw [Coherent, settings, formatter]
  cases (v.renewals s).getLast? with
  | none => exact coherent
  | some new => rfl

end Visit

end Session

namespace Slot

open Session (Answer Visit)

/-! ## New settings -/

/-- Why a slot does not take new settings. That they are not valid is said first, then that the session is
lent out, then that it is in use. -/
def refusal? (settings : Settings) (slot : Slot) : Option Error :=
  match settings.validate with
  | .error p => some p.error
  | .ok _ =>
    match slot with
    | .busy _ => some .contextBusy
    | .idle s => if s.isBound || !s.queue.items.isEmpty then some Settings.Problem.inUse.error else none

theorem configureSession_eq (settings : Settings) (s : Session) :
    configureSession settings s =
      if s.isBound || !s.queue.items.isEmpty then ⟨.ok (.error Settings.Problem.inUse.error), s, []⟩
      else ⟨.ok (.ok ()), .fresh settings, []⟩ := by
  simp only [configureSession, Run.run_get_bind]
  split
  · rfl
  · rename_i unused
    rw [Bool.not_eq_true, Bool.or_eq_false_iff] at unused
    have empty : s.queue.items = [] := by simpa using unused.2
    simp [Run.run_bind_pure, Session.renew_run, empty, Except.map]

/-- New settings that are refused change nothing; those that are taken start a fresh session. -/
theorem configure_eq (settings : Settings) (slot : Slot) :
    configure settings slot =
      match slot.refusal? settings with
      | some e => ⟨.ok (.error e), slot, []⟩
      | none => ⟨.ok (.ok ()), .idle (.fresh settings), []⟩ := by
  unfold configure refusal?
  cases valid : settings.validate with
  | error p => rfl
  | ok accepted =>
    obtain ⟨-, rfl⟩ := (Settings.validate_eq_ok_iff settings accepted).mp valid
    cases slot with
    | busy s => rfl
    | idle s =>
      simp only [Run.run_bind, tryEnter_idle, configureSession_eq]
      cases s.isBound || !s.queue.items.isEmpty <;> rfl

/-- Settings are taken if they are valid and the session is there, has no reporter and expects nothing. -/
theorem refusal?_eq_none_iff (settings : Settings) (slot : Slot) :
    slot.refusal? settings = none ↔
      settings.validate = .ok settings ∧ ∃ s, slot = .idle s ∧ s.isBound = false ∧ s.queue.items = [] := by
  unfold refusal?
  cases valid : settings.validate with
  | error p => simp
  | ok accepted =>
    obtain ⟨-, rfl⟩ := (Settings.validate_eq_ok_iff settings accepted).mp valid
    cases slot with
    | busy s => simp
    | idle s =>
      cases bound : s.isBound with
      | true => simp [bound]
      | false => cases items : s.queue.items <;> simp [bound, items]

/-- Of a session it only matters whether it is in use. -/
theorem refusal?_of_view {s t : Session} (same : s.view = t.view) (settings : Settings) :
    refusal? settings (.idle s) = refusal? settings (.idle t) := by
  simp only [Session.view, Queue.pending, Session.View.mk.injEq] at same
  obtain ⟨-, -, pending, bound⟩ := same
  have empty : s.queue.items.isEmpty = t.queue.items.isEmpty := by
    rw [← List.isEmpty_map (f := Expectation.api), pending, List.isEmpty_map]
  simp only [refusal?, bound, empty]

/-! ## Attempts -/

namespace Operation

/-- The visit that an operation makes, unless it takes new settings. -/
def visit? : Operation → Option Visit
  | command (.configure _) => none
  | command (.assertMessage condition message) =>
    some (if condition then .once (.command (.fail message)) else .leave (.ok .nothing))
  | command (.within c) => some (.once (.command c))
  | visit v => some v
  | tryVisit v => some v

/-- The settings of the sessions that a visit put in the place of the thread's. -/
def renewals (op : Operation) : Slot → List Settings
  | .idle s => (op.visit?.map fun v => v.renewals s).getD []
  | .busy _ => []

theorem renewals_visit {op : Operation} {v : Visit} (visits : op.visit? = some v) (s : Session) :
    op.renewals (.idle s) = v.renewals s := by
  rw [renewals, visits]
  rfl

theorem eq_configure {op : Operation} (none : op.visit? = none) : ∃ settings, op = command (.configure settings) := by
  cases op with
  | command c =>
    cases c with
    | configure settings => exact ⟨settings, rfl⟩
    | assertMessage | within => cases none
  | visit | tryVisit => cases none

end Operation

/-- The session is lent to a visit, and comes back whichever way the visit ends. -/
theorem attempt_visit {op : Operation} {v : Visit} (visits : op.visit? = some v) (s : Session) :
    attempt op (.idle s) = ⟨(v.run s).outcome, .idle (v.run s).state, (v.run s).trace⟩ := by
  cases op with
  | command c =>
    cases c with
    | configure settings => cases visits
    | assertMessage condition message =>
      cases visits
      cases condition with
      | false => rfl
      | true =>
        have acted : Session.act (.command (.fail message)) s = ⟨_, _, _⟩ :=
          Run.run_bind_pure (Session.fail message) (fun _ => Answer.nothing) s
        rw [if_pos rfl, Visit.run_once, acted]
        simp only [attempt, assertMessage, if_true, Run.run_bind_pure, enter_idle]
    | within c =>
      cases visits
      rw [Visit.run_once, attempt, enter_idle]
      rfl
  | visit v =>
    cases visits
    exact enter_idle ..
  | tryVisit v =>
    cases visits
    simp only [attempt, Run.run_bind, tryEnter_idle]
    cases (v.run s).outcome <;> simp [Except.map]

theorem attempt_configure (settings : Settings) (slot : Slot) :
    attempt (.command (.configure settings)) slot =
      match slot.refusal? settings with
      | some e => ⟨.ok (.failed e), slot, []⟩
      | none => ⟨.ok .done, .idle (.fresh settings), []⟩ := by
  rw [attempt, Run.run_bind_pure, configure_eq]
  cases slot.refusal? settings <;> rfl

/-! ## The session is lent out when a reporter is told something -/

/-- Whenever a reporter is told something, the session is lent out. -/
def TellsBusy {α : Type} (x : Run Slot α) : Prop :=
  ∀ slot, (x.play slot).Tells fun slot => slot.isBusy = true

section

variable {α β : Type}

theorem tellsBusy_pure (a : α) : TellsBusy (pure a) :=
  fun _ => trivial

theorem TellsBusy.bind {x : Run Slot α} {next : α → Run Slot β} (first : TellsBusy x)
    (second : ∀ a, TellsBusy (next a)) :
    TellsBusy (x >>= next) := by
  refine fun slot => (first slot).andThen fun outcome s => ?_
  cases outcome with
  | ok a => exact second a s
  | error u => trivial

theorem tellsBusy_lend (x : Run Session α) : TellsBusy (lend x) := by
  intro slot
  have puts : ∀ (s : Session) (slot : Slot), slot.isBusy = true → (content.put s slot).isBusy = true := by
    rintro s (t | t) busy
    · cases busy
    · rfl
  change (((x.play (content.get slot)).zoom content (.busy (content.get slot))).andThen _).Tells _
  exact Play.Tells.andThen (Play.tells_zoom content puts rfl _) fun outcome slot => trivial

theorem tellsBusy_enter (x : Run Session α) : TellsBusy (enter x) := by
  intro slot
  cases slot with
  | idle s => exact tellsBusy_lend x (.idle s)
  | busy s => trivial

theorem tellsBusy_tryEnter (x : Run Session α) : TellsBusy (tryEnter x) := by
  intro slot
  cases slot with
  | idle s => exact (tellsBusy_lend x).bind (fun a => tellsBusy_pure (Except.ok a)) (.idle s)
  | busy s => trivial

end

theorem tellsBusy_configure (settings : Settings) : TellsBusy (configure settings) := by
  unfold configure
  cases settings.validate with
  | error p => exact tellsBusy_pure _
  | ok accepted => exact (tellsBusy_tryEnter _).bind fun answer => by cases answer <;> exact tellsBusy_pure _

theorem tellsBusy_attempt (op : Operation) : TellsBusy (attempt op) := by
  rcases op with c | v | v
  · cases c with
    | configure settings => exact (tellsBusy_configure settings).bind fun _ => tellsBusy_pure _
    | assertMessage condition message =>
      cases condition with
      | true => exact (tellsBusy_enter _).bind fun _ => tellsBusy_pure _
      | false => exact tellsBusy_pure _
    | within c => exact tellsBusy_enter _
  · exact tellsBusy_enter _
  · exact (tellsBusy_tryEnter _).bind fun answer => by cases answer <;> exact tellsBusy_pure _

/-! ## Asking while the session is lent out -/

/-- The error in which an inquiry ends while the session is lent out. -/
def Inquiry.refusal : Inquiry → Error
  | enter _ => .contextBusy
  | configure settings =>
    match settings.validate with
    | .ok _ => .contextBusy
    | .error p => p.error

variable (asks : String → List Inquiry)

theorem ask_busy (inquiry : Inquiry) (s : Session) :
    ask inquiry (.busy s) = ⟨.ok (some inquiry.refusal), .busy s, []⟩ := by
  cases inquiry with
  | enter v => rfl
  | configure settings =>
    simp only [ask, Run.run_bind, configure_eq, refusal?, Inquiry.refusal]
    cases settings.validate <;> rfl

/-- Every inquiry is refused, and changes nothing. -/
theorem askAll_busy (inquiries : List Inquiry) (s : Session) :
    askAll inquiries (.busy s) = ⟨.ok (inquiries.map fun inquiry => some inquiry.refusal), .busy s, []⟩ := by
  induction inquiries with
  | nil => rfl
  | cons inquiry rest ih =>
    simp only [askAll, Run.run_bind, ask_busy, ih]
    rfl

/-- What is left in the trace of a reporter that is told something while the session is lent out. -/
def spell (r : Reporter) (message : String) : List Entry :=
  match r with
  | .probing => [.heard .probing message ((asks message).map fun inquiry => .verdict (some inquiry.refusal))]
  | .reentering => [.heard .reentering message []]
  | r => [.reported r message]

/-- Whatever a reporter does while the session is lent out, the slot stays as it is. -/
theorem hear_busy (r : Reporter) (message : String) (s : Session) :
    hear asks r message (.busy s) = ⟨r.reply message, .busy s, spell asks r message⟩ := by
  cases r with
  | probing =>
    simp only [hear, Run.run_bind, askAll_busy, Run.run_note, List.map_map]
    rfl
  | reentering => rfl
  | collector | closure | raising | callback => rfl

/-! ## Operations -/

theorem operate_eq (op : Operation) (slot : Slot) :
    operate asks op slot =
      (let step := attempt op slot
       ⟨step.outcome, step.state, step.trace.flatMap (Entry.spelled (spell asks))⟩) := by
  refine Play.step_hearing (tellsBusy_attempt op slot) fun r message slot busy => ?_
  cases slot with
  | idle s => cases busy
  | busy s => exact hear_busy asks r message s

theorem operate_visit {op : Operation} {v : Visit} (visits : op.visit? = some v) (s : Session) :
    operate asks op (.idle s) =
      ⟨(v.run s).outcome, .idle (v.run s).state, (v.run s).trace.flatMap (Entry.spelled (spell asks))⟩ := by
  simp only [operate_eq, attempt_visit visits]

theorem operate_configure (settings : Settings) (slot : Slot) :
    operate asks (.command (.configure settings)) slot =
      match slot.refusal? settings with
      | some e => ⟨.ok (.failed e), slot, []⟩
      | none => ⟨.ok .done, .idle (.fresh settings), []⟩ := by
  simp only [operate_eq, attempt_configure]
  cases slot.refusal? settings <;> rfl

end Slot

end MockQueue

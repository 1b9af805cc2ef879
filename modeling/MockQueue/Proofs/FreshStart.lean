import MockQueue.Proofs.Unwinding
import MockQueue.Proofs.Visits

/-!
# Nothing is left for the next test

A session keeps its settings through every action. What else it holds, its expectations and its reporter, is
gone after an action that unbinds the reporter, however that action ended (`act_unbinds_fresh`). So what is
done afterwards cannot depend on what was done before (`no_state_leaks`). For the session of a thread the
settings are those that were accepted last.
-/

namespace MockQueue

namespace Session

/-- An action that unbinds the reporter leaves an empty session, also if it unwinds. -/
theorem act_unbinds_fresh {a : Action} {s : Session} (coherent : s.Coherent) (unbinds : a.unbinds s.settings = true) :
    (act a s).state = fresh s.settings := by
  cases a with
  | command c =>
    cases c with
    | reset =>
      have acted : act (.command .reset) s = ⟨_, (reset s).state, _⟩ :=
        Run.run_bind_pure reset (fun _ => Answer.nothing) s
      rw [acted, reset_run]
      exact coherent.emptied
    | verify =>
      have asks : s.settings.unbindOnVerify = true := unbinds
      rw [(verify_leaves s).1, verified, asks]
      exact coherent.emptied
    | _ => cases unbinds
  | alter | alterAs | replace => cases unbinds

theorem final_settings (actions : List Action) {s : Session} (coherent : s.Coherent) :
    (Run.final act actions s).settings = s.settings ∧ (Run.final act actions s).Coherent := by
  induction actions generalizing s with
  | nil => exact ⟨rfl, coherent⟩
  | cons a rest ih =>
    obtain ⟨settings, ends⟩ := ih (act_coherent coherent a)
    exact ⟨settings.trans (act_faithful a s).settings, ends⟩

end Session

namespace Slot

open Session (Answer)

namespace Operation

/-- The settings that an operation put on the session, if it ended like this. -/
def accepted? : Operation → Except Unwind Answer → Option Settings
  | command (.configure settings), .ok .done => some settings
  | _, _ => none

theorem accepted?_visit {op : Operation} {v : Session.Visit} (visits : op.visit? = some v)
    (outcome : Except Unwind Answer) : op.accepted? outcome = none := by
  cases op with
  | command c =>
    cases c with
    | configure => cases visits
    | assertMessage | within => rfl
  | visit | tryVisit => rfl

end Operation

section

variable (asks : String → List Inquiry)

/-- The settings that were accepted in the course of a run, or came with a session that a visit put in the place of
the thread's; the first ones first. -/
def accepted : List Operation → Slot → List Settings
  | [], _ => []
  | op :: rest, slot =>
    let step := operate asks op slot
    op.renewals slot ++ (op.accepted? step.outcome).toList ++ accepted rest step.state

/-- However an operation ends, the session is back, with the settings that were accepted if any were. -/
theorem operate_idle (op : Operation) {s : Session} (coherent : s.Coherent) :
    ∃ t, (operate asks op (.idle s)).state = .idle t ∧ t.Coherent ∧
      t.settings = (op.renewals (.idle s) ++ (op.accepted? (operate asks op (.idle s)).outcome).toList).getLastD
        s.settings := by
  cases visits : op.visit? with
  | some v =>
    rw [operate_visit asks visits, Operation.accepted?_visit visits]
    refine ⟨(v.run s).state, rfl, v.run_coherent coherent, ?_⟩
    simpa [Operation.renewals, visits] using (v.renews s).settings
  | none =>
    obtain ⟨settings, rfl⟩ := Operation.eq_configure visits
    rw [operate_configure]
    cases refusal? settings (.idle s) with
    | some e => exact ⟨s, rfl, coherent, rfl⟩
    | none => exact ⟨.fresh settings, rfl, rfl, rfl⟩

theorem final_idle (operations : List Operation) {s : Session} (coherent : s.Coherent) :
    ∃ t, Run.final (operate asks) operations (.idle s) = .idle t ∧ t.Coherent ∧
      t.settings = (accepted asks operations (.idle s)).getLastD s.settings := by
  induction operations generalizing s with
  | nil => exact ⟨s, rfl, coherent, rfl⟩
  | cons op rest ih =>
    obtain ⟨middle, left, coherentThen, settings⟩ := operate_idle asks op coherent
    obtain ⟨t, ended, coherentLast, last⟩ := ih coherentThen
    refine ⟨t, ?_, coherentLast, ?_⟩
    · rw [Run.final, left, ended]
    · simp only [last, accepted, left, settings, List.getLastD_eq_getLast?, List.getLast?_append]
      cases (accepted asks rest (.idle middle)).getLast? <;> rfl

/-- An action that unbinds leaves a fresh session in the slot. -/
theorem operate_unbinds_fresh {c : Session.Command} {s : Session} (coherent : s.Coherent)
    (unbinds : (Session.Action.command c).unbinds s.settings = true) :
    (operate asks (.command (.within c)) (.idle s)).state = .idle (.fresh s.settings) := by
  rw [operate_visit asks rfl, Session.Visit.run_once]
  exact congrArg Slot.idle (Session.act_unbinds_fresh coherent unbinds)

end

end Slot

namespace Session

open Slot (operate accepted)

/-- A test may do anything with a session, or with the session of its thread, under any reporters and
whether its failures unwind or not. Once the session was reset, or was verified under settings that unbind,
be that with success, with an error or unwinding, it is the fresh one of its settings: the next test gets
the same answers, has the same told and discarded, and leaves the same, as if it were the first. For the
session of a thread the settings are the last that were accepted, at first the default ones. -/
theorem no_state_leaks (settings : Settings) (actions : List Action) (asks : String → List Slot.Inquiry)
    (operations : List Slot.Operation) :
    (∀ last, last = .reset ∨ last = .verify ∧ settings.unbindOnVerify = true →
      let start := fresh settings
      let left := Run.final act (actions ++ [.command last]) start
      left = start ∧ ∀ later,
        Run.history act later left = Run.history act later start ∧
        Run.final act later left = Run.final act later start) ∧
    let current := (accepted asks operations .fresh).getLastD {}
    ∀ last, last = .reset ∨ last = .verify ∧ current.unbindOnVerify = true →
      let start := Slot.idle (fresh current)
      let left := Run.final (operate asks) (operations ++ [.command (.within last)]) .fresh
      left = start ∧ ∀ later,
        Run.history (operate asks) later left = Run.history (operate asks) later start ∧
        Run.final (operate asks) later left = Run.final (operate asks) later start := by
  have unbinds : ∀ {last : Command} {current : Settings},
      last = .reset ∨ last = .verify ∧ current.unbindOnVerify = true →
        (Action.command last).unbinds current = true := by
    rintro last current (rfl | ⟨rfl, asks⟩)
    · rfl
    · exact asks
  refine ⟨?_, ?_⟩
  · intro last ends start left
    have empty : left = start := by
      obtain ⟨kept, coherent⟩ := final_settings actions (coherent_fresh settings)
      change Run.final act (actions ++ [.command last]) start = start
      rw [Run.final_append]
      refine (act_unbinds_fresh coherent ?_).trans (congrArg fresh kept)
      rw [kept]
      exact unbinds ends
    rw [empty]
    exact ⟨rfl, fun _ => ⟨rfl, rfl⟩⟩
  · intro current last ends start left
    have empty : left = start := by
      obtain ⟨t, ended, coherent, kept⟩ := Slot.final_idle asks operations (coherent_fresh {})
      change Run.final (operate asks) operations .fresh = .idle t at ended
      change t.settings = current at kept
      change Run.final (operate asks) (operations ++ [.command (.within last)]) .fresh = start
      rw [Run.final_append, ended]
      refine (Slot.operate_unbinds_fresh asks coherent ?_).trans ?_
      · rw [kept]
        exact unbinds ends
      · rw [kept]
    rw [empty]
    exact ⟨rfl, fun _ => ⟨rfl, rfl⟩⟩

/-- A reporter that unwinds is bound, an expectation is left, and verifying under settings that unbind
unwinds; on the thread, new settings are accepted, and others refused while a reporter is bound. -/
theorem no_state_leaks_unwinding_verify :
    let settings : Settings := { unbindOnVerify := true }
    let actions : List Action :=
      [.command (.bindReporter .raising), .command (.register "read" (.tracked { number := 0, name := "Guard" } 1))]
    let operations : List Slot.Operation :=
      [.command (.configure { capacity := 64 }), .command (.within (.bindReporter .raising)),
        .command (.configure { capacity := 128 })]
    (∃ text, (act (.command .verify) (Run.final act actions (fresh settings))).outcome = .error (.raised text)) ∧
      Run.final act (actions ++ [.command .verify]) (fresh settings) = fresh settings ∧
      Run.final (operate Slot.usual) (operations ++ [.command (.within .reset)]) .fresh = .idle (fresh { capacity := 64 }) := by
  intro settings actions operations
  obtain ⟨onSession, onThread⟩ := no_state_leaks settings actions Slot.usual operations
  have unwinds : ∃ text, (act (.command .verify) (Run.final act actions (fresh settings))).outcome =
      .error (.raised text) := by
    let s := Run.final act actions (fresh settings)
    have acted : act (.command .verify) s = ⟨_, _, _⟩ :=
      Run.run_bind_pure verify (Answer.ofExcept fun _ => Answer.done) s
    rw [verify_run_cons rfl] at acted
    exact ⟨_, congrArg Step.outcome acted⟩
  refine ⟨unwinds, (onSession .verify (.inr ⟨rfl, rfl⟩)).1, ?_⟩
  have current : accepted Slot.usual operations .fresh = [{ capacity := 64 }] := by decide +kernel
  have left := (onThread .reset (.inl rfl)).1
  rw [current] at left
  exact left

end Session

end MockQueue

import MockQueue.Session.Command

/-!
# The failure funnel

All failures of a session end in `deliverTo`. Here stands once what that does, as equations
(`deliverTo_run` and what follows from it), and what every operation that only reports has in common:
it leaves the session as it was and discards nothing (`OnlyTells`).
-/

namespace MockQueue

/-! ## What a trace shows -/

/-- The payload, if the entry says that one was discarded. -/
def Entry.dropped? : Entry → Option Payload
  | dropped p => some p
  | _ => none

/-- Who was told what, in order. -/
def reports (trace : List Entry) : List (Reporter × String) :=
  trace.filterMap Entry.report?

/-- The payloads that were discarded, in order. -/
def drops (trace : List Entry) : List Payload :=
  trace.filterMap Entry.dropped?

/-- The text, if the entry announces in the log that a reporter is about to be told it. -/
def Entry.announced? : Entry → Option String
  | logged (.reporting text) _ => some text
  | _ => none

/-- All texts that were announced, in order. -/
def announced (trace : List Entry) : List String :=
  trace.filterMap Entry.announced?

@[simp] theorem reports_nil : reports [] = [] := rfl

@[simp] theorem drops_nil : drops [] = [] := rfl

@[simp] theorem reports_append (front back : List Entry) :
    reports (front ++ back) = reports front ++ reports back :=
  List.filterMap_append

@[simp] theorem drops_append (front back : List Entry) : drops (front ++ back) = drops front ++ drops back :=
  List.filterMap_append

@[simp] theorem reports_logged (event : LogEvent) (span : Option String) (rest : List Entry) :
    reports (.logged event span :: rest) = reports rest := rfl

@[simp] theorem drops_logged (event : LogEvent) (span : Option String) (rest : List Entry) :
    drops (.logged event span :: rest) = drops rest := rfl

@[simp] theorem reports_discard (p : Payload) : reports p.discard = [] :=
  List.filterMap_eq_nil_iff.mpr p.report?_discard

@[simp] theorem drops_discard (p : Payload) : drops p.discard = [p] := by
  rcases p with _ | _ | _ | ⟨_ | cell, _ | release⟩ <;> rfl

@[simp] theorem reports_discardAll (payloads : List Payload) :
    reports (payloads.flatMap Payload.discard) = [] := by
  induction payloads with
  | nil => rfl
  | cons p rest ih => simp [ih]

@[simp] theorem drops_discardAll (payloads : List Payload) :
    drops (payloads.flatMap Payload.discard) = payloads := by
  induction payloads with
  | nil => rfl
  | cons p rest ih => simp [ih]

/-! ## Handing over a message -/

namespace Binding

/-- How handing a text to the bound reporter ends. -/
def fate (b : Binding) (text : String) : Except Unwind Unit :=
  match b.reporter with
  | some r => r.reply text
  | none => .error (.noReporter text)

/-- What handing a text to the bound reporter leaves in the trace. -/
def telling (b : Binding) (text : String) : List Entry :=
  match b.reporter with
  | some r => [.logged (.reporting text) none, .reported r text]
  | none => [.logged (.unreported text) none]

theorem deliver_run {σ : Type} (b : Binding) (text : String) (s : σ) :
    b.deliver text s = ⟨b.fate text, s, b.telling text⟩ := by
  unfold deliver fate telling
  cases b.reporter with
  | none => rfl
  | some r => simp [Run.run_bind]

@[simp] theorem drops_telling (b : Binding) (text : String) : drops (b.telling text) = [] := by
  unfold telling
  split <;> rfl

theorem reports_telling (b : Binding) (text : String) :
    reports (b.telling text) = b.reporter.toList.map fun r => (r, text) := by
  unfold telling
  cases b.reporter <;> rfl

end Binding

namespace Session

open Message (Bounded Argument)

/-- What a message for a binding leaves in the trace: that it was cut comes first. -/
def told (s : Session) (b : Binding) (message : Bounded) : List Entry :=
  (if message.truncated then [.logged (.messageTruncated s.formatter.capacity) none] else [])
    ++ b.telling message.text

@[simp] theorem drops_told (s : Session) (b : Binding) (message : Bounded) :
    drops (s.told b message) = [] := by
  unfold told
  split <;> simp

theorem reports_told (s : Session) (b : Binding) (message : Bounded) :
    reports (s.told b message) = b.reporter.toList.map fun r => (r, message.text) := by
  unfold told
  split <;> simp [Binding.reports_telling]

theorem deliverTo_run (b : Binding) (message : Bounded) (s : Session) :
    deliverTo b message s = ⟨b.fate message.text, s, s.told b message⟩ := by
  unfold deliverTo told
  cases message.truncated with
  | true => simp [Run.run_bind, Binding.deliver_run]
  | false => simp [Run.run_bind, Binding.deliver_run]

theorem deliver_run (message : Bounded) (s : Session) :
    deliver message s = ⟨s.binding.fate message.text, s, s.told s.binding message⟩ := by
  simp [deliver, Run.run_bind, deliverTo_run]

theorem fail_run (text : String) (s : Session) :
    fail text s =
      ⟨s.binding.fate (s.formatter.compose [text] false).text, s,
        s.told s.binding (s.formatter.compose [text] false)⟩ := by
  simp [fail, Run.run_bind, deliver_run]

theorem failPreformatted_run (text : String) (truncated : Bool) (s : Session) :
    failPreformatted text truncated s = deliver (s.formatter.bound text truncated) s := by
  simp [failPreformatted, Run.run_bind, deliver_run]

theorem raise_run {α : Type} (e : Error) (s : Session) :
    (raise e : Run Session (Except Error α)) s =
      ⟨(s.binding.fate (s.formatter.compose [e.message] false).text).map fun _ => .error e, s,
        s.told s.binding (s.formatter.compose [e.message] false)⟩ := by
  simp only [raise, Run.run_bind, fail_run]
  cases s.binding.fate (s.formatter.compose [e.message] false).text <;> simp [Except.map]

theorem report_run_ok {template : String} {args : List Argument} {s : Session} {message : Bounded}
    (formatted : s.formatter.format template args = .ok message) (b : Binding) :
    report b template args s = ⟨b.fate message.text, s, s.told b message⟩ := by
  simp [report, Run.run_bind, formatted, deliverTo_run]

/-! ## Operations that only tell -/

/-- An operation that leaves the session as it was and discards nothing: what it does, if anything, is
to tell a reporter. -/
def OnlyTells {α : Type} (x : Run Session α) : Prop :=
  ∀ s, (x s).state = s ∧ drops (x s).trace = []

theorem onlyTells_pure {α : Type} (a : α) : OnlyTells (pure a : Run Session α) :=
  fun _ => ⟨rfl, rfl⟩

theorem onlyTells_get : OnlyTells (Run.get : Run Session Session) :=
  fun _ => ⟨rfl, rfl⟩

theorem onlyTells_unwind {α : Type} (u : Unwind) : OnlyTells (Run.unwind u : Run Session α) :=
  fun _ => ⟨rfl, rfl⟩

theorem OnlyTells.bind {α β : Type} {x : Run Session α} {next : α → Run Session β} (first : OnlyTells x)
    (second : ∀ a, OnlyTells (next a)) : OnlyTells (x >>= next) := by
  intro s
  obtain ⟨kept, none⟩ := first s
  rw [Run.run_bind]
  cases (x s).outcome with
  | error u => exact ⟨kept, none⟩
  | ok a =>
    obtain ⟨keptAfter, noneAfter⟩ := second a (x s).state
    exact ⟨keptAfter.trans kept, by simp [none, noneAfter]⟩

/-- What only tells, after an operation, adds to its trace. -/
theorem bind_onlyTells {α β : Type} (x : Run Session α) {next : α → Run Session β}
    (tells : ∀ a, OnlyTells (next a)) (s : Session) :
    ((x >>= next) s).state = (x s).state ∧
      ∃ later, ((x >>= next) s).trace = (x s).trace ++ later ∧ drops later = [] := by
  rw [Run.run_bind]
  cases (x s).outcome with
  | error u => exact ⟨rfl, [], by simp, rfl⟩
  | ok a =>
    obtain ⟨kept, none⟩ := tells a (x s).state
    exact ⟨kept, _, rfl, none⟩

theorem onlyTells_deliverTo (b : Binding) (message : Bounded) : OnlyTells (deliverTo b message) := by
  intro s
  simp [deliverTo_run]

theorem onlyTells_deliver (message : Bounded) : OnlyTells (deliver message) :=
  onlyTells_get.bind fun s => onlyTells_deliverTo s.binding message

theorem onlyTells_report (b : Binding) (template : String) (args : List Argument) :
    OnlyTells (report b template args) := by
  refine onlyTells_get.bind fun s => ?_
  cases s.formatter.format template args with
  | ok message => exact onlyTells_deliverTo b message
  | error refusal => exact onlyTells_unwind _

theorem onlyTells_fail (text : String) : OnlyTells (fail text) :=
  onlyTells_get.bind fun _ => onlyTells_deliver _

theorem onlyTells_failPreformatted (text : String) (truncated : Bool) :
    OnlyTells (failPreformatted text truncated) :=
  onlyTells_get.bind fun _ => onlyTells_deliver _

theorem onlyTells_raise {α : Type} (e : Error) : OnlyTells (raise e : Run Session (Except Error α)) :=
  (onlyTells_fail e.message).bind fun _ => onlyTells_pure _

theorem onlyTells_assertWith (condition : Bool) (template : String) (args : List Argument) :
    OnlyTells (assertWith condition template args) := by
  cases condition with
  | true => exact onlyTells_get.bind fun s => onlyTells_report s.binding template args
  | false => exact onlyTells_pure ()

theorem onlyTells_assertPieces (condition : Bool) (pieces : List String) (keepGoing : Bool) :
    OnlyTells (assertPieces condition pieces keepGoing) := by
  cases condition with
  | true => exact onlyTells_get.bind fun _ => onlyTells_deliver _
  | false => exact onlyTells_pure ()

theorem onlyTells_unexpectedCall (api : String) : OnlyTells (unexpectedCall api) :=
  onlyTells_assertPieces true _ false

theorem onlyTells_checkArgument (api param : String) (expected : Expected Value) (actual : Value) :
    OnlyTells (checkArgument api param expected actual) :=
  (onlyTells_assertPieces _ _ false).bind fun _ => onlyTells_pure _

theorem onlyTells_checkBytes (api param : String) (expected : Option (List UInt8)) (actual : List UInt8) :
    OnlyTells (checkBytes api param expected actual) := by
  cases expected with
  | none => exact onlyTells_pure true
  | some expected =>
    by_cases sameLength : expected.length = actual.length
    · simp only [checkBytes, sameLength, ne_eq, not_true_eq_false, if_false]
      cases firstDifference expected actual with
      | none => exact onlyTells_pure true
      | some found => exact (onlyTells_assertPieces true _ false).bind fun _ => onlyTells_pure false
    · simp only [checkBytes, sameLength, ne_eq, not_false_eq_true, if_true]
      exact (onlyTells_assertPieces true _ false).bind fun _ => onlyTells_pure false

theorem onlyTells_peekLatest : OnlyTells peekLatest := by
  refine onlyTells_get.bind fun s => ?_
  cases s.queue.latest? with
  | none => exact onlyTells_raise _
  | some e => exact onlyTells_pure _

theorem onlyTells_peekLatestAs (kind : Kind) (api : String) : OnlyTells (peekLatestAs kind api) := by
  refine onlyTells_get.bind fun s => ?_
  cases s.queue.latest? with
  | none => exact onlyTells_raise _
  | some e =>
    by_cases sameKind : e.payload.kind = kind
    · simp only [sameKind, if_true]
      exact onlyTells_pure _
    · simp only [sameKind, if_false]
      exact onlyTells_raise _

end Session

end MockQueue

import MockQueue.Proofs.Ledger
import MockQueue.Proofs.Truncation

/-!
# Messages under the settings

A session tells nothing but messages that its formatter made, and no action changes the settings or the formatter
(`act_faithful`). So whatever a reporter hears keeps the bound, and what was cut ends in the marker of the
formatter.
-/

namespace MockQueue.Message.Formatter

open Text (byteSize)

/-- The messages that a formatter makes: from a template, from pieces, or from ready text. -/
inductive Makes (f : Formatter) : Bounded → Prop where
  | format {template : String} {args : List Argument} {message : Bounded}
    (formatted : f.format template args = .ok message) : Makes f message
  | compose (pieces : List String) (keepGoing : Bool) : Makes f (f.compose pieces keepGoing)
  | bound (text : String) (cutBefore : Bool) : Makes f (f.bound text cutBefore)

theorem Makes.eq_clip {f : Formatter} {message : Bounded} (made : f.Makes message) :
    ∃ full cutBefore, message = f.clip full cutBefore := by
  cases made with
  | compose pieces keepGoing => exact ⟨_, _, compose_eq_clip f pieces keepGoing⟩
  | bound text cutBefore => exact ⟨_, _, bound_eq_clip f text cutBefore⟩
  | @format template args _ formatted =>
    rw [format_eq_clip] at formatted
    split at formatted
    · exact ⟨_, _, (Except.ok.inj formatted).symm⟩
    · split at formatted
      · cases formatted
      · exact ⟨_, _, (Except.ok.inj formatted).symm⟩

/-- A message keeps the bound. -/
theorem Makes.le_capacity {capacity : Nat} {marker : String} {message : Bounded}
    (made : (make capacity marker).Makes message) : message.text.utf8ByteSize ≤ capacity := by
  obtain ⟨full, cutBefore, rfl⟩ := made.eq_clip
  exact (clip_truncates capacity marker full cutBefore).bounded

end MockQueue.Message.Formatter

namespace MockQueue

/-- Whether the entry says that a reporter took a message in. -/
def Entry.isHeard : Entry → Bool
  | heard _ _ _ => true
  | _ => false

/-- If the entry says that a reporter was told something, then a message that the formatter made, and it does not
say what the reporter did then. -/
def Entry.MadeBy (f : Message.Formatter) (e : Entry) : Prop :=
  e.isHeard = false ∧ ∀ told, e.report? = some told → ∃ message, f.Makes message ∧ message.text = told.2

theorem Entry.madeBy_of_silent {f : Message.Formatter} {e : Entry} (silent : e.report? = none) : e.MadeBy f := by
  refine ⟨?_, fun told isTold => nomatch silent.symm.trans isTold⟩
  cases e with
  | heard => cases silent
  | _ => rfl

end MockQueue

namespace MockQueue.Session

open Message (Argument Bounded)

/-- The step left settings and formatter as they were in `s`, and told only messages that the formatter made. -/
structure Keeps {α : Type} (s : Session) (step : Step Session α) : Prop where
  settings : step.state.settings = s.settings
  formatter : step.state.formatter = s.formatter
  made : ∀ e ∈ step.trace, e.MadeBy s.formatter

/-- An operation that keeps settings and formatter and tells only messages of the formatter. -/
def Faithful {α : Type} (x : Run Session α) : Prop :=
  ∀ s, Keeps s (x s)

section

variable {α β : Type}

theorem keeps_of_silent {s : Session} {step : Step Session α} (settings : step.state.settings = s.settings)
    (formatter : step.state.formatter = s.formatter) (silent : reports step.trace = []) : Keeps s step := by
  refine ⟨settings, formatter, fun e member => Entry.madeBy_of_silent ?_⟩
  exact List.filterMap_eq_nil_iff.mp silent e member

theorem keeps_told {s t : Session} {b : Binding} {message : Bounded} (outcome : Except Unwind α)
    (settings : t.settings = s.settings) (formatter : t.formatter = s.formatter) (made : s.formatter.Makes message) :
    Keeps s ⟨outcome, t, s.told b message⟩ := by
  refine ⟨settings, formatter, fun e member => ?_⟩
  cases e with
  | reported r text =>
    refine ⟨rfl, ?_⟩
    rintro _ ⟨⟩
    have told : (r, text) ∈ reports (s.told b message) := List.mem_filterMap.mpr ⟨_, member, rfl⟩
    rw [reports_told] at told
    obtain ⟨q, -, same⟩ := List.mem_map.mp told
    exact ⟨message, made, congrArg Prod.snd same⟩
  | heard r text findings =>
    unfold Session.told Binding.telling at member
    split at member <;> split at member <;> simp at member
  | logged | released | dropped => exact Entry.madeBy_of_silent rfl

theorem faithful_of_silent {x : Run Session α} (settings : ∀ s, (x s).state.settings = s.settings)
    (formatter : ∀ s, (x s).state.formatter = s.formatter) (silent : ∀ s, reports (x s).trace = []) : Faithful x :=
  fun s => keeps_of_silent (settings s) (formatter s) (silent s)

theorem faithful_pure (a : α) : Faithful (pure a) :=
  faithful_of_silent (fun _ => rfl) (fun _ => rfl) fun _ => rfl

theorem Keeps.bind {x : Run Session α} {next : α → Run Session β} {s : Session} (first : Keeps s (x s))
    (second : ∀ a, Faithful (next a)) : Keeps s ((x >>= next) s) := by
  rw [Run.run_bind]
  cases (x s).outcome with
  | error u => exact ⟨first.settings, first.formatter, first.made⟩
  | ok a =>
    obtain ⟨settings, formatter, made⟩ := second a (x s).state
    rw [first.settings] at settings
    rw [first.formatter] at formatter made
    refine ⟨settings, formatter, fun e member => ?_⟩
    rcases List.mem_append.mp member with before | after
    · exact first.made e before
    · exact made e after

theorem Faithful.bind {x : Run Session α} {next : α → Run Session β} (first : Faithful x)
    (second : ∀ a, Faithful (next a)) : Faithful (x >>= next) :=
  fun s => (first s).bind second

theorem faithful_get {next : Session → Run Session α} (goesOn : ∀ s, Keeps s (next s s)) :
    Faithful (Run.get >>= next) :=
  goesOn

end

/-! ## What is told -/

theorem keeps_deliver {s : Session} {message : Bounded} (made : s.formatter.Makes message) :
    Keeps s (deliver message s) := by
  rw [deliver_run]
  exact keeps_told _ rfl rfl made

theorem faithful_fail (text : String) : Faithful (fail text) :=
  faithful_get fun _ => keeps_deliver (.compose [text] false)

theorem faithful_failPreformatted (text : String) (truncated : Bool) : Faithful (failPreformatted text truncated) :=
  faithful_get fun _ => keeps_deliver (.bound text truncated)

theorem faithful_raise {α : Type} (e : Error) : Faithful (raise e : Run Session (Except Error α)) :=
  (faithful_fail e.message).bind fun _ => faithful_pure _

theorem faithful_report (b : Binding) (template : String) (args : List Argument) : Faithful (report b template args) := by
  refine faithful_get fun s => ?_
  cases formatted : s.formatter.format template args with
  | error refusal => exact keeps_of_silent rfl rfl rfl
  | ok message =>
    change Keeps s (deliverTo b message s)
    rw [deliverTo_run]
    exact keeps_told _ rfl rfl (.format formatted)

theorem faithful_assertWith (condition : Bool) (template : String) (args : List Argument) :
    Faithful (assertWith condition template args) := by
  cases condition with
  | false => exact faithful_pure ()
  | true => exact faithful_get fun s => faithful_report s.binding template args s

theorem faithful_assertPieces (condition : Bool) (pieces : List String) (keepGoing : Bool) :
    Faithful (assertPieces condition pieces keepGoing) := by
  cases condition with
  | false => exact faithful_pure ()
  | true => exact faithful_get fun _ => keeps_deliver (.compose pieces keepGoing)

theorem faithful_checkArgument (api param : String) (expected : Expected Value) (actual : Value) :
    Faithful (checkArgument api param expected actual) :=
  (faithful_assertPieces _ _ false).bind fun _ => faithful_pure _

theorem faithful_checkBytes (api param : String) (expected : Option (List UInt8)) (actual : List UInt8) :
    Faithful (checkBytes api param expected actual) := by
  cases expected with
  | none => exact faithful_pure true
  | some expected =>
    by_cases sameLength : expected.length = actual.length
    · simp only [checkBytes, sameLength, ne_eq, not_true_eq_false, if_false]
      cases firstDifference expected actual with
      | none => exact faithful_pure true
      | some found => exact (faithful_assertPieces true _ false).bind fun _ => faithful_pure false
    · simp only [checkBytes, sameLength, ne_eq, not_false_eq_true, if_true]
      exact (faithful_assertPieces true _ false).bind fun _ => faithful_pure false

theorem faithful_bindReporter (r : Reporter) : Faithful (bindReporter r) := by
  have binds : ∀ rebinding (answer : Except Error Unit), Faithful (do
      Run.modify fun s => { s with binding := ⟨some r⟩ }
      Run.log (.reporterBound rebinding)
      return answer) :=
    fun _ _ => faithful_of_silent (fun _ => rfl) (fun _ => rfl) fun _ => rfl
  refine faithful_get fun s => ?_
  cases s.isBound with
  | true => exact ((faithful_fail _).bind fun _ => binds true _) s
  | false => exact binds false _ s

/-! ## What is done to the queue -/

/-- Operations of the queue that report nothing. -/
theorem faithful_onQueue {α : Type} {x : Run Queue α} (silent : ∀ q, reports (x q).trace = []) :
    Faithful (onQueue x) := by
  intro s
  rw [onQueue, Run.run_zoom]
  exact keeps_of_silent rfl rfl (silent s.queue)

theorem faithful_discard (payloads : List Payload) : Faithful (Run.discard payloads) :=
  faithful_of_silent (fun _ => rfl) (fun _ => rfl) fun s => by rw [Run.run_discard, reports_discardAll]

/-- To change the queue is to keep the rest. -/
theorem faithful_changeQueue (f : Queue → Queue) : Faithful (Run.modify fun s => { s with queue := f s.queue }) :=
  faithful_of_silent (fun _ => rfl) (fun _ => rfl) fun _ => rfl

theorem faithful_reset : Faithful reset := by
  intro s
  rw [reset_run]
  exact keeps_of_silent rfl rfl (by simp)

theorem faithful_verify : Faithful verify := by
  intro s
  cases items : s.queue.items with
  | nil =>
    rw [verify_run_nil (congrArg Queue.mk items)]
    exact keeps_of_silent rfl rfl rfl
  | cons e rest =>
    have made : s.formatter.Makes (s.leftOverMessage (e :: rest)) := .format (s.format_leftOver (e :: rest))
    have told : Keeps s ⟨.ok (), s.verified, s.told s.binding (s.leftOverMessage (e :: rest))⟩ :=
      keeps_told _ rfl rfl made
    rw [verify_run_cons (congrArg Queue.mk items)]
    refine ⟨rfl, rfl, fun entry member => ?_⟩
    rcases List.mem_append.mp member with discarded | later
    · exact Entry.madeBy_of_silent (List.filterMap_eq_nil_iff.mp (reports_discardAll _) entry discarded)
    · rcases List.mem_cons.mp later with rfl | last
      · exact Entry.madeBy_of_silent rfl
      · exact told.made entry last

theorem faithful_register (api : String) (payload : Payload) : Faithful (register api payload) :=
  faithful_onQueue fun _ => rfl

theorem faithful_consumeNext : Faithful consumeNext :=
  (faithful_onQueue fun q => by cases q with | mk items => cases items <;> rfl).bind fun _ => faithful_pure _

theorem faithful_consumeNextAs (kind : Kind) (api : String) : Faithful (consumeNextAs kind api) := by
  refine (faithful_onQueue fun q => by cases q with | mk items => cases items <;> rfl).bind fun taken => ?_
  cases taken with
  | none => exact faithful_pure _
  | some e =>
    by_cases same : e.payload.kind = kind
    · simp only [same, if_true]
      exact faithful_pure _
    · simp only [same, if_false]
      exact (faithful_discard _).bind fun _ => faithful_raise _

theorem faithful_peekLatest : Faithful peekLatest := by
  refine faithful_get fun s => ?_
  cases s.queue.latest? with
  | none => exact faithful_raise .emptyQueuePeek s
  | some e => exact faithful_pure _ s

theorem faithful_peekLatestAs (kind : Kind) (api : String) : Faithful (peekLatestAs kind api) := by
  refine faithful_get fun s => ?_
  cases s.queue.latest? with
  | none => exact faithful_raise .emptyQueuePeek s
  | some e =>
    by_cases same : e.payload.kind = kind
    · simp only [same, if_true]
      exact faithful_pure _ s
    · simp only [same, if_false]
      exact faithful_raise (.payloadTypeMismatch api e.api) s

/-- A look at the latest payload, and what is then done with it. -/
theorem Faithful.look {α : Type} {look : Run Session (Except Error Payload)}
    {next : Payload → Run Session (Except Error α)} (looks : Faithful look) (goesOn : ∀ p, Faithful (next p)) :
    Faithful (do match ← look with
      | .ok p => next p
      | .error e => return .error e) := by
  refine looks.bind fun found => ?_
  cases found with
  | ok p => exact goesOn p
  | error e => exact faithful_pure _

theorem reports_overwriteLatest (payload : Payload) (q : Queue) : reports (Queue.overwriteLatest payload q).trace = [] := by
  simp only [Queue.overwriteLatest, Run.run_bind, Run.run_get]
  cases q.latest? with
  | none => rfl
  | some e =>
    by_cases same : e.payload.kind = payload.kind
    · simp [same, Run.run_bind]
    · simp [same]

theorem faithful_overwriteLatest (payload : Payload) : Faithful (overwriteLatest payload) :=
  faithful_peekLatest.look fun _ =>
    (faithful_onQueue (reports_overwriteLatest payload)).bind fun _ => faithful_pure _

theorem faithful_overwriteLatestAs (api : String) (payload : Payload) : Faithful (overwriteLatestAs api payload) :=
  (faithful_peekLatestAs _ _).look fun _ =>
    (faithful_onQueue (reports_overwriteLatest payload)).bind fun _ => faithful_pure _

theorem faithful_editLatestAs (kind : Kind) (api : String) (f : Payload → Payload) : Faithful (editLatestAs kind api f) :=
  (faithful_peekLatestAs kind api).look fun _ => (faithful_changeQueue (·.editLatest f)).bind fun _ => faithful_pure _

theorem faithful_alterLatest (f : Payload → Payload) : Faithful (alterLatest f) :=
  faithful_peekLatest.look fun _ => (faithful_changeQueue (·.editLatest f)).bind fun _ => faithful_pure _

theorem faithful_replaceLatest (payload : Payload) : Faithful (replaceLatest payload) :=
  faithful_peekLatest.look fun old =>
    (faithful_discard [old]).bind fun _ =>
      (faithful_changeQueue (·.editLatest fun _ => payload)).bind fun _ => faithful_pure _

theorem faithful_call (stub : Stub) (fd : Int32) (data : List UInt8) : Faithful (call stub fd data) := by
  refine (faithful_consumeNextAs _ _).bind fun answer => ?_
  split
  · refine (faithful_checkArgument _ _ _ _).bind fun _ => ?_
    exact (faithful_checkBytes _ _ _ _).bind fun _ => faithful_pure _
  · exact (faithful_assertPieces true _ false).bind fun _ => faithful_pure _
  · exact faithful_pure _

/-! ## Actions -/

/-- No action changes the settings or the formatter, and all that is told is made by the formatter. -/
theorem act_faithful (a : Action) : Faithful (act a) := by
  have recast : ∀ {α : Type} {x : Run Session α} (g : α → Answer), Faithful x → Faithful (do return g (← x)) :=
    fun _ keeps => keeps.bind fun _ => faithful_pure _
  rcases a with c | f | ⟨kind, api, f⟩ | payload
  · cases c with
    | bindReporter r => exact recast _ (faithful_bindReporter r)
    | reset => exact recast _ faithful_reset
    | verify => exact recast _ faithful_verify
    | register api payload => exact recast _ (faithful_register api payload)
    | peek => exact recast _ faithful_peekLatest
    | peekIs kind => exact recast _ faithful_peekLatest
    | overwrite payload => exact recast _ (faithful_overwriteLatest payload)
    | peekAs kind api => exact recast _ (faithful_peekLatestAs kind api)
    | overwriteAs api payload => exact recast _ (faithful_overwriteLatestAs api payload)
    | consume => exact recast _ faithful_consumeNext
    | consumeAs kind api => exact recast _ (faithful_consumeNextAs kind api)
    | assertWith condition template args => exact recast _ (faithful_assertWith condition template args)
    | assertPieces condition pieces keepGoing => exact recast _ (faithful_assertPieces condition pieces keepGoing)
    | fail text => exact recast _ (faithful_fail text)
    | failPreformatted text truncated => exact recast _ (faithful_failPreformatted text truncated)
    | unexpectedCall api => exact recast _ (faithful_assertPieces true _ false)
    | checkArgument api param expected actual => exact recast _ (faithful_checkArgument api param expected actual)
    | checkBytes api param expected actual => exact recast _ (faithful_checkBytes api param expected actual)
    | expect stub c => exact recast _ (faithful_register stub.name (.conditions stub c))
    | ignoreFd stub => exact recast _ (faithful_editLatestAs _ _ _)
    | setData stub data => exact recast _ (faithful_editLatestAs _ _ _)
    | call stub fd data => exact recast _ (faithful_call stub fd data)
  · exact recast _ (faithful_alterLatest f)
  · exact recast _ (faithful_editLatestAs kind api f)
  · exact recast _ (faithful_replaceLatest payload)

end MockQueue.Session

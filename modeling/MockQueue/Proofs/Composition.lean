import MockQueue.Proofs.Callbacks
import MockQueue.Proofs.Lockstep

/-!
# What calls are made of

Every call on the host is put together from actions on the session, questions to the slot, new settings and
notes of its own (`perform_composed`); `Call.scope` says which. So what all of these parts keep, a call keeps
(`Composed.keeps`), and two sessions that no part can tell apart, no call can tell apart (`Composed.lockstep`).
-/

namespace MockQueue

/-- The entry neither says that something was told nor announces it. -/
def Entry.IsQuiet (e : Entry) : Prop :=
  e.report? = none ∧ e.announced? = none

theorem Entry.report?_within (function : String) (e : Entry) : (e.within function).report? = e.report? := by
  rcases e with ⟨event, _ | span⟩ | _ | _ | _ | _ <;> rfl

theorem reports_within (function : String) (trace : List Entry) :
    reports (trace.map (Entry.within function)) = reports trace := by
  rw [reports, List.filterMap_map, reports]
  exact congrArg (List.filterMap · trace) (funext (Entry.report?_within function))

/-- To discard payloads is to tell nobody. -/
theorem quiet_discardAll (payloads : List Payload) : ∀ e ∈ payloads.flatMap Payload.discard, e.IsQuiet := by
  intro e member
  obtain ⟨p, -, here⟩ := List.mem_flatMap.mp member
  refine ⟨p.report?_discard e here, ?_⟩
  rcases p with _ | _ | _ | ⟨_ | cell, _ | release⟩ <;>
    simp only [Payload.discard, Foreign.discard, List.nil_append, List.cons_append, List.mem_cons, List.not_mem_nil,
      or_false] at here
  case foreign.some.some => rcases here with rfl | rfl | rfl <;> rfl
  all_goals
    subst here
    rfl

namespace Boundary

open Session (Action Answer act)

/-- What a call may do. -/
structure Scope where
  /-- The actions that it may carry out on the session. -/
  uses : Action → Prop := fun _ => False
  /-- The settings that it may ask for. -/
  asks : Settings → Prop := fun _ => False
  /-- What it may tell without going through the session. -/
  tells : Entry → Prop := fun _ => False

open Host in
/-- Operations on the host that are put together from what the scope allows. Of the host they look only at
what stands beside the slot. -/
inductive Composed (scope : Scope) : {α : Type} → Run Host α → Prop where
  | pure {α : Type} (a : α) : Composed scope (pure a : Run Host α)
  | bind {α β : Type} {x : Run Host α} {next : α → Run Host β} (first : Composed scope x)
    (second : ∀ a, Composed scope (next a)) : Composed scope (x >>= next)
  | look {α : Type} {next : Host → Run Host α} (second : ∀ h, Composed scope (next h))
    (apart : ∀ h slot, next { h with slot } = next h) : Composed scope (Run.get >>= next)
  | change {f : Host → Host} (apart : ∀ h slot, f { h with slot } = { f h with slot }) : Composed scope (Run.modify f)
  | note {entries : List Entry} (own : entries.all (!·.isReported) = true)
    (told : ∀ e ∈ entries, e.IsQuiet ∨ scope.tells e) : Composed scope (Run.note entries own)
  | unwind {α : Type} (u : Unwind) : Composed scope (Run.unwind u : Run Host α)
  | action {α : Type} {x : Run Session α} {g : α → Answer} (a : Action) (used : scope.uses a)
    (acts : act a = (do return g (← x))) (faithful : Function.Injective g) : Composed scope (inSession x)
  | edit (f : Payload → Payload) :
    Composed scope (inSession (Run.modify fun s => { s with queue := s.queue.editLatest f }))
  | configure {settings : Settings} (asked : scope.asks settings) : Composed scope (onSlot (Slot.configure settings))
  | pending : Composed scope (onSlot Slot.tryPending)
  | capacity : Composed scope (onSlot Slot.tryCapacity)
  | ensuring {α : Type} {x : Run Host α} (body : Composed scope x) (payloads : List Payload) :
    Composed scope (x.ensuring (Run.discard payloads))
  | guarded {α : Type} {x : Run Host α} (function : String) (body : Composed scope x) : Composed scope (guarded function x)
  | spanned {α : Type} {x : Run Host α} (function : String) (body : Composed scope x) : Composed scope (spanned function x)

namespace Composed

variable {scope : Scope} {α β : Type}

theorem map {x : Run Host α} (composed : Composed scope x) (g : α → β) : Composed scope (do return g (← x)) :=
  composed.bind fun a => .pure (g a)

theorem log (event : LogEvent) (quiet : Entry.IsQuiet (.logged event none)) :
    Composed scope (Run.log event) :=
  .note rfl fun _ member => .inl (List.mem_singleton.mp member ▸ quiet)

theorem discard (payloads : List Payload) : Composed scope (Run.discard payloads) :=
  .note _ fun e member => .inl (quiet_discardAll payloads e member)

end Composed

/-! ## What every part keeps -/

/-- What the scope allows keeps `I` of the session and leaves traces that have `T`. -/
structure Scope.Keeps (scope : Scope) (I : Session → Prop) (T : List Entry → Prop) : Prop where
  used : ∀ {a : Action} {s : Session}, scope.uses a → I s →
    I (act a s).state ∧ ∀ environment, T ((act a s).trace.flatMap (Entry.spelled (Host.spell environment)))
  edited : ∀ (f : Payload → Payload) {s : Session}, I s → I { s with queue := s.queue.editLatest f }
  granted : ∀ {settings : Settings} {s : Session}, scope.asks settings → I s →
    Slot.refusal? settings (.idle s) = none → I (.fresh settings)
  told : ∀ {e : Entry}, scope.tells e → T [e]
  quiet : ∀ {e : Entry}, e.IsQuiet → T [e]
  empty : T []
  append : ∀ {front back : List Entry}, T front → T back → T (front ++ back)
  within : ∀ (function : String) {trace : List Entry}, T trace → T (trace.map (Entry.within function))

section

variable {scope : Scope} {I : Session → Prop}

/-- What is kept of the session, whatever the trace. -/
theorem Scope.keeps_state (used : ∀ {a : Action} {s : Session}, scope.uses a → I s → I (act a s).state)
    (edited : ∀ (f : Payload → Payload) {s : Session}, I s → I { s with queue := s.queue.editLatest f })
    (granted : ∀ {settings : Settings} {s : Session}, scope.asks settings → I s →
      Slot.refusal? settings (.idle s) = none → I (.fresh settings)) : scope.Keeps I fun _ => True where
  used asked holds := ⟨used asked holds, fun _ => trivial⟩
  edited := edited
  granted := granted
  told _ := trivial
  quiet _ := trivial
  empty := trivial
  append _ _ := trivial
  within _ _ _ := trivial

/-- What is kept of the session, and holds of all that is told. -/
theorem Scope.keeps_told {Q : Reporter × String → Prop}
    (used : ∀ {a : Action} {s : Session}, scope.uses a → I s → I (act a s).state ∧
      ∀ environment, ∀ told ∈ reports ((act a s).trace.flatMap (Entry.spelled (Host.spell environment))), Q told)
    (edited : ∀ (f : Payload → Payload) {s : Session}, I s → I { s with queue := s.queue.editLatest f })
    (granted : ∀ {settings : Settings} {s : Session}, scope.asks settings → I s →
      Slot.refusal? settings (.idle s) = none → I (.fresh settings))
    (tells : ∀ {e : Entry} {told : Reporter × String}, scope.tells e → e.report? = some told → Q told) :
    scope.Keeps I fun trace => ∀ told ∈ reports trace, Q told where
  used := used
  edited := edited
  granted := granted
  told {e} allowed told member := by
    obtain ⟨e, here, isTold⟩ := List.mem_filterMap.mp member
    rw [List.mem_singleton.mp here] at isTold
    exact tells allowed isTold
  quiet quiet told member := by
    obtain ⟨e, here, isTold⟩ := List.mem_filterMap.mp member
    rw [List.mem_singleton.mp here, quiet.1] at isTold
    cases isTold
  empty := nofun
  append first second told member := by
    rw [reports_append] at member
    exact (List.mem_append.mp member).elim (first told) (second told)
  within function trace holds := by rwa [reports_within]

theorem Scope.Keeps.noted {T : List Entry → Prop} (rules : scope.Keeps I T) {entries : List Entry}
    (told : ∀ e ∈ entries, e.IsQuiet ∨ scope.tells e) : T entries := by
  induction entries with
  | nil => exact rules.empty
  | cons e rest ih =>
    have later := ih fun e member => told e (List.mem_cons_of_mem _ member)
    rcases told e (List.mem_cons_self ..) with quiet | telling
    · exact rules.append (rules.quiet quiet) later
    · exact rules.append (rules.told telling) later

end

open Host in
theorem Composed.keeps {scope : Scope} {I : Session → Prop} {T : List Entry → Prop} {α : Type} {x : Run Host α}
    (composed : Composed scope x) (rules : scope.Keeps I T) {h : Host} {s : Session} (idle : h.slot = .idle s)
    (holds : I s) :
    ∃ t, (x h).state.slot = .idle t ∧ I t ∧ T (x h).trace := by
  induction composed generalizing h s with
  | pure a => exact ⟨s, idle, holds, rules.empty⟩
  | @bind α β x next _ _ ihFirst ihSecond =>
    obtain ⟨middle, left, kept, told⟩ := ihFirst idle holds
    rw [Run.run_bind]
    cases (x h).outcome with
    | error u => exact ⟨middle, left, kept, told⟩
    | ok a =>
      obtain ⟨t, last, keptAfter, toldAfter⟩ := ihSecond a left kept
      exact ⟨t, last, keptAfter, rules.append told toldAfter⟩
  | look _ _ ih => exact ih h idle holds
  | @change f apart =>
    have same := congrArg slot (apart h h.slot)
    exact ⟨s, same.trans idle, holds, rules.empty⟩
  | note own told =>
    rw [Run.run_note]
    exact ⟨s, idle, holds, rules.noted told⟩
  | unwind u => exact ⟨s, idle, holds, rules.empty⟩
  | @action α x g a used acts faithful =>
    have acted : act a s = ⟨(x s).outcome.map g, (x s).state, (x s).trace⟩ := by rw [acts, Run.run_bind_pure]
    obtain ⟨kept, told⟩ := rules.used used holds
    rw [acted] at kept told
    rw [inSession_run idle]
    exact ⟨(x s).state, rfl, kept, told h.environment⟩
  | edit f =>
    rw [inSession_run idle]
    exact ⟨_, rfl, rules.edited f holds, rules.empty⟩
  | @configure settings asked =>
    rw [onSlot_run, idle, Slot.configure_eq]
    cases refused : Slot.refusal? settings (.idle s) with
    | some e => exact ⟨s, rfl, holds, rules.empty⟩
    | none => exact ⟨.fresh settings, rfl, rules.granted asked holds refused, rules.empty⟩
  | pending | capacity =>
    rw [onSlot_run, idle]
    exact ⟨s, rfl, holds, rules.empty⟩
  | @ensuring α x _ payloads ih =>
    obtain ⟨t, left, kept, told⟩ := ih idle holds
    have discarded := rules.noted fun e member => .inl (quiet_discardAll payloads e member)
    rw [Run.run_ensuring, Run.run_discard]
    split
    · exact ⟨t, left, kept, told⟩
    · exact ⟨t, left, kept, rules.append told discarded⟩
  | @guarded α x function _ ih =>
    obtain ⟨t, left, kept, told⟩ := ih idle holds
    rw [guarded_run]
    split
    · exact ⟨t, left, kept, told⟩
    · exact ⟨t, left, kept, told⟩
    · exact ⟨t, left, kept, rules.append told (rules.quiet ⟨rfl, rfl⟩)⟩
  | @spanned α x function _ ih =>
    obtain ⟨t, left, kept, told⟩ := ih idle holds
    rw [spanned_run]
    exact ⟨t, left, kept, rules.within function told⟩

/-- What every part keeps is kept in the end. -/
theorem Composed.leaves {scope : Scope} {I : Session → Prop} {T : List Entry → Prop} {α : Type} {x : Run Host α}
    (composed : Composed scope x) (rules : scope.Keeps I T) {h : Host} {s t : Session} (idle : h.slot = .idle s)
    (holds : I s) (left : (x h).state.slot = .idle t) : I t := by
  obtain ⟨u, same, kept, -⟩ := composed.keeps rules idle holds
  obtain rfl : u = t := Slot.idle.inj (same.symm.trans left)
  exact kept

/-- What every input of a run keeps is kept to the end of the run. -/
theorem final_keeps {κ α : Type} {act : κ → Run Host α} {I : Session → Prop} {inputs : List κ}
    (each : ∀ k ∈ inputs, ∀ {h : Host} {s : Session}, h.slot = .idle s → I s →
      ∃ t, (act k h).state.slot = .idle t ∧ I t)
    {h : Host} {s : Session} (idle : h.slot = .idle s) (holds : I s) :
    ∃ t, (Run.final act inputs h).slot = .idle t ∧ I t := by
  induction inputs generalizing h s with
  | nil => exact ⟨s, idle, holds⟩
  | cons k rest ih =>
    obtain ⟨t, left, kept⟩ := each k (List.mem_cons_self ..) idle holds
    exact ih (fun later member => each later (List.mem_cons_of_mem _ member)) left kept

/-! ## What no part can tell apart -/

/-- What the scope allows goes in lockstep on sessions that `R` relates. -/
structure Scope.Agrees (scope : Scope) (R : Session → Session → Prop) : Prop where
  used : ∀ {a : Action} {s t : Session}, scope.uses a → R s t → ∀ environment,
    InStep R ((act a s).spelled (Host.spell environment)) ((act a t).spelled (Host.spell environment))
  edited : ∀ (f : Payload → Payload) {s t : Session}, R s t →
    R { s with queue := s.queue.editLatest f } { t with queue := t.queue.editLatest f }
  granted : ∀ {settings : Settings}, scope.asks settings → R (.fresh settings) (.fresh settings)
  seen : ∀ {s t : Session}, R s t → s.view = t.view

/-- Hosts that differ at most in their sessions, which `R` relates. -/
def Beside (R : Session → Session → Prop) (h k : Host) : Prop :=
  ∃ s t, h.slot = .idle s ∧ k = { h with slot := .idle t } ∧ R s t

theorem texts_within (function : String) (trace : List Entry) : texts (trace.map (Entry.within function)) = texts trace :=
  congrArg (List.map Prod.snd) (reports_within function trace)

theorem map_injective {ε α β : Type} {g : α → β} (injective : Function.Injective g) {x y : Except ε α}
    (same : x.map g = y.map g) : x = y := by
  cases x with
  | error e => cases y with
    | error e' => exact congrArg Except.error (Except.error.inj same)
    | ok b => cases same
  | ok a => cases y with
    | error e => cases same
    | ok b => exact congrArg Except.ok (injective (Except.ok.inj same))

section

open Host

variable {α : Type} {R : Host → Host → Prop} {x : Run Host α} {h k : Host}

theorem inStep_guarded (body : InStep R (x h) (x k)) (function : String) :
    InStep R (guarded function x h) (guarded function x k) := by
  obtain ⟨outcome, states, told⟩ := body
  rw [guarded_run, guarded_run, ← outcome]
  split
  · exact ⟨rfl, states, told⟩
  · exact ⟨rfl, states, told⟩
  · exact ⟨rfl, states, by rw [texts_append, texts_append, told]⟩

theorem inStep_spanned (body : InStep R (x h) (x k)) (function : String) :
    InStep R (spanned function x h) (spanned function x k) := by
  rw [spanned_run, spanned_run]
  exact ⟨body.outcome, body.states, (texts_within function _).trans (body.told.trans (texts_within function _).symm)⟩

end

open Host in
theorem Composed.lockstep {scope : Scope} {R : Session → Session → Prop} {α : Type} {x : Run Host α}
    (composed : Composed scope x) (rules : scope.Agrees R) {h k : Host} (beside : Beside R h k) :
    InStep (Beside R) (x h) (x k) := by
  induction composed generalizing h k with
  | pure a => exact ⟨rfl, beside, rfl⟩
  | bind _ _ ihFirst ihSecond => exact (ihFirst beside).bind fun a _ _ => ihSecond a
  | @look α next _ apart ih =>
    have same : next k = next h := by
      obtain ⟨s, t, -, rfl, -⟩ := beside
      exact apart h (.idle t)
    change InStep (Beside R) (next h h) (next k k)
    rw [same]
    exact ih h beside
  | @change f apart =>
    obtain ⟨s, t, idle, rfl, related⟩ := beside
    have same := congrArg slot (apart h h.slot)
    exact ⟨rfl, ⟨s, t, same.trans idle, apart h (.idle t), related⟩, rfl⟩
  | note own told =>
    rw [Run.run_note, Run.run_note]
    exact ⟨rfl, beside, rfl⟩
  | unwind u => exact ⟨rfl, beside, rfl⟩
  | @action α x g a used acts faithful =>
    obtain ⟨s, t, idle, rfl, related⟩ := beside
    have acted : ∀ s, act a s = ⟨(x s).outcome.map g, (x s).state, (x s).trace⟩ := by
      intro s
      rw [acts, Run.run_bind_pure]
    have together := rules.used used related h.environment
    simp only [Step.spelled, acted] at together
    rw [inSession_run idle, inSession_run rfl]
    exact ⟨map_injective faithful together.outcome, ⟨_, _, rfl, rfl, together.states⟩, together.told⟩
  | edit f =>
    obtain ⟨s, t, idle, rfl, related⟩ := beside
    rw [inSession_run idle, inSession_run rfl]
    exact ⟨rfl, ⟨_, _, rfl, rfl, rules.edited f related⟩, rfl⟩
  | @configure settings asked =>
    obtain ⟨s, t, idle, rfl, related⟩ := beside
    simp only [onSlot_run, idle, Slot.configure_eq, ← Slot.refusal?_of_view (rules.seen related)]
    cases Slot.refusal? settings (.idle s) with
    | some e => exact ⟨rfl, ⟨s, t, rfl, rfl, related⟩, rfl⟩
    | none => exact ⟨rfl, ⟨_, _, rfl, rfl, rules.granted asked⟩, rfl⟩
  | pending =>
    obtain ⟨s, t, idle, rfl, related⟩ := beside
    have same : s.queue.pending = t.queue.pending := congrArg Session.View.pending (rules.seen related)
    simp only [onSlot_run, idle]
    exact ⟨congrArg (fun pending => Except.ok (Except.ok pending)) same, ⟨s, t, rfl, rfl, related⟩, rfl⟩
  | capacity =>
    obtain ⟨s, t, idle, rfl, related⟩ := beside
    have same : s.formatter = t.formatter := congrArg Session.View.formatter (rules.seen related)
    simp only [onSlot_run, idle]
    exact ⟨congrArg (fun formatter : Message.Formatter => Except.ok (Except.ok formatter.capacity)) same,
      ⟨s, t, rfl, rfl, related⟩, rfl⟩
  | ensuring _ payloads ih => exact (ih beside).ensuring payloads
  | guarded function _ ih => exact inStep_guarded (ih beside) function
  | spanned function _ ih => exact inStep_spanned (ih beside) function

/-! ## What each call may do -/

open Host (textOf callbackText)

/-- Tells of a null pointer. -/
def nullFailure (function argument : String) : Action :=
  .command (.fail (Error.nullArgument function argument).message)

/-- Appends a pointer, if there is a name for it. -/
def registration (function : String) (f : Foreign) : Option Bytes → Action
  | none => nullFailure function "api_name"
  | some name => .command (.register (textOf name) (.foreign f))

/-- Tells that a payload is no pointer. -/
def payloadFailure (payload : Payload) : Action :=
  .command (.fail ("Cannot hand a " ++ payload.typeName ++ " payload registered from Rust to a C stub"))

/-- Whether some environment asks for the settings. -/
def fromEnvironment (settings : Settings) : Prop :=
  ∃ environment, Settings.ofEnvironment environment = .ok settings

/-- What a call may do. -/
def Call.scope : Call → Scope
  | .initialise none => { uses := (· = nullFailure "mcmock_initialise" "callback") }
  | .initialise (some c) => { uses := (· = .command (.bindReporter (.callback c))) }
  | .register cell api => { uses := (· = registration "mcmock_register_expectation" ⟨cell, some .free⟩ api) }
  | .registerWithRelease cell api release =>
    { uses := (· = registration "mcmock_register_expectation_with_release" ⟨cell, release⟩ api) }
  | .peek | .poke _ => { uses := (· = .command .peek) }
  | .getNext => { uses := fun a => a = .command .consume ∨ ∃ payload, a = payloadFailure payload }
  | .verify => { uses := (· = .command .verify) }
  | .reset => { uses := (· = .command .reset) }
  | .assertVariadic _ _ format _ =>
    { uses := fun a => a = nullFailure "mcmock_assert_msg" "fmt" ∨
        ∃ bytes cutBefore, (format = some bytes ∨ 0 ∉ bytes) ∧
          a = .command (.failPreformatted (textOf bytes) cutBefore) }
  | .assertText _ none => { uses := (· = nullFailure "mcmock_assert_str" "message") }
  | .assertText _ (some bytes) => { uses := (· = .command (.fail (textOf bytes))) }
  | .reportFormatted none _ => { uses := (· = nullFailure "mcmock_assert_msg" "fmt") }
  | .reportFormatted (some bytes) length =>
    { uses := (· = .command (.failPreformatted (textOf bytes) (decide (bytes.length < length)))) }
  | .configure _ => { asks := fromEnvironment }
  | .sessionRegister api payload => { uses := (· = .command (.register api payload)) }
  | .sessionConfigure settings => { asks := (· = settings) }
  | .sessionAssert _ message => { uses := (· = .command (.fail message)) }
  | .sessionConsume => { uses := (· = .command .consume) }
  | .notify c message =>
    { uses := fun a => c = .reentering ∧ a = .command .verify
      asks := fun settings => (∃ asks, c = .querying asks) ∧ fromEnvironment settings
      tells := fun e => ∃ findings, e = .heard (.callback c) (callbackText message) findings }
  | .capacity | .pending | .startLogging | .wrap .. => {}

/-- Settings are only asked for by the environment or by the program around, and whoever asks for them does nothing
else to the session. -/
theorem asks_cases {call : Call} {settings : Settings} (asked : call.scope.asks settings) :
    (fromEnvironment settings ∨ call = .sessionConfigure settings) ∧ ∀ a, ¬ call.scope.uses a := by
  cases call with
  | configure environment => exact ⟨.inl asked, fun _ => id⟩
  | sessionConfigure other =>
    obtain rfl : settings = other := asked
    exact ⟨.inr rfl, fun _ => id⟩
  | notify c message =>
    obtain ⟨⟨asks, rfl⟩, fromThere⟩ := asked
    exact ⟨.inl fromThere, fun _ used => nomatch used.1⟩
  | initialise callback => cases callback <;> cases asked
  | assertText condition message => cases message <;> cases asked
  | reportFormatted message length => cases message <;> cases asked
  | _ => cases asked

/-- Only a direct notice tells something without going through the session. -/
theorem tells_cases {call : Call} {e : Entry} (told : call.scope.tells e) :
    ∃ c message findings, call = .notify c message ∧ e = .heard (.callback c) (callbackText message) findings := by
  cases call with
  | notify c message =>
    obtain ⟨findings, rfl⟩ := told
    exact ⟨c, message, findings, rfl, rfl⟩
  | initialise callback => cases callback <;> cases told
  | assertText condition message => cases message <;> cases told
  | reportFormatted message length => cases message <;> cases told
  | _ => cases told

section

variable {scope : Scope}

theorem ofExcept_injective {α : Type} {f : α → Answer} (injective : Function.Injective f)
    (other : ∀ a e, f a ≠ .failed e) : Function.Injective (Answer.ofExcept f) := by
  rintro (e | a) (e' | b) same
  · exact congrArg Except.error (Answer.failed.inj same)
  · exact absurd same.symm (other b e)
  · exact absurd same (other a e')
  · exact congrArg Except.ok (injective same)

theorem unit_injective (answer : Answer) : Function.Injective fun _ : Unit => answer :=
  fun _ _ _ => rfl

theorem doneOrFailed_injective : Function.Injective (Answer.ofExcept fun _ : Unit => .done) :=
  ofExcept_injective (unit_injective _) fun _ _ same => by cases same

theorem ofPayload?_injective : Function.Injective Answer.ofPayload? := by
  rintro (_ | p) (_ | q) same
  · rfl
  · cases same
  · cases same
  · exact congrArg some (Answer.held.inj same)

namespace Host

theorem composed_fail {text : String} (used : scope.uses (.command (.fail text))) :
    Composed scope (inSession (Session.fail text)) :=
  .action (g := fun _ => Answer.nothing) _ used rfl (unit_injective _)

theorem composed_failPreformatted {text : String} {cutBefore : Bool}
    (used : scope.uses (.command (.failPreformatted text cutBefore))) :
    Composed scope (inSession (Session.failPreformatted text cutBefore)) :=
  .action (g := fun _ => Answer.nothing) _ used rfl (unit_injective _)

theorem composed_register {api : String} {payload : Payload} (used : scope.uses (.command (.register api payload))) :
    Composed scope (inSession (Session.register api payload)) :=
  .action (g := fun _ => Answer.nothing) _ used rfl (unit_injective _)

theorem composed_consume (used : scope.uses (.command .consume)) : Composed scope (inSession Session.consumeNext) :=
  .action (g := Answer.ofPayload?) _ used rfl ofPayload?_injective

theorem composed_reportNull {function argument : String} (used : scope.uses (nullFailure function argument)) :
    Composed scope (reportNull function argument) :=
  (Composed.log _ ⟨rfl, rfl⟩).bind fun _ => composed_fail used

theorem composed_pendingCount : Composed scope pendingCount := by
  refine Composed.pending.bind fun answer => ?_
  cases answer with
  | ok pending => exact .pure _
  | error e => exact (Composed.log _ ⟨rfl, rfl⟩).map _

theorem composed_messageCapacity : Composed scope messageCapacity := by
  refine Composed.capacity.bind fun answer => ?_
  cases answer <;> exact .pure _

theorem composed_configureFromEnvironment (asked : ∀ settings, fromEnvironment settings → scope.asks settings) :
    Composed scope configureFromEnvironment := by
  have refused : ∀ e, Composed scope (do
      Run.log (.callFailed .warn "mcmock_configure_from_env" e)
      return -1 : Run Host Int) :=
    fun e => (Composed.log _ ⟨rfl, rfl⟩).map _
  refine .spanned _ (.look (fun h => ?_) fun _ _ => rfl)
  cases read : Settings.ofEnvironment h.environment with
  | ok settings =>
    refine (Composed.configure (asked settings ⟨_, read⟩)).bind fun answer => ?_
    cases answer with
    | ok => exact .pure _
    | error e => exact refused e
  | error p => exact refused p.error

theorem composed_registerForeign {function : String} {f : Foreign} {api : Option Bytes}
    (used : scope.uses (registration function f api)) : Composed scope (registerForeign function f api) := by
  cases api with
  | none => exact (composed_reportNull used).ensuring _
  | some name => exact composed_register used

theorem composed_peekLatest (used : scope.uses (.command .peek)) : Composed scope peekLatest := by
  have peeked : Composed scope (inSession Session.peekLatest) :=
    .action (g := Answer.ofExcept Answer.held) _ used rfl
      (ofExcept_injective (fun _ _ => Answer.held.inj) fun _ _ same => by cases same)
  refine .spanned _ (.guarded _ (peeked.bind fun answer => ?_))
  split <;> exact .pure _

theorem composed_verify (used : scope.uses (.command .verify)) : Composed scope verify := by
  have verified : Composed scope (inSession Session.verify) :=
    .action (g := Answer.ofExcept fun _ => .done) _ used rfl doneOrFailed_injective
  refine .spanned _ (.guarded _ (verified.bind fun answer => ?_))
  cases answer with
  | ok => exact .pure _
  | error e => exact .log _ ⟨rfl, rfl⟩

theorem composed_ask (asked : ∀ settings, fromEnvironment settings → scope.asks settings) (query : Query) :
    Composed scope (ask query) := by
  cases query with
  | pending => exact composed_pendingCount.map _
  | configure => exact composed_configureFromEnvironment asked
  | capacity => exact composed_messageCapacity.map _

theorem composed_askAll (asked : ∀ settings, fromEnvironment settings → scope.asks settings) (queries : List Query) :
    Composed scope (askAll queries) := by
  induction queries with
  | nil => exact .pure _
  | cons query rest ih => exact (composed_ask asked query).bind fun answer => ih.map _

theorem composed_notify {c : Callback} {message : String}
    (asked : ∀ settings, fromEnvironment settings → (∃ asks, c = .querying asks) → scope.asks settings)
    (told : ∀ findings, scope.tells (.heard (.callback c) (callbackText message) findings))
    (used : c = .reentering → scope.uses (.command .verify)) : Composed scope (notifyDirectly c message) := by
  have noted : ∀ findings : List Finding,
      Composed scope (Run.note [.heard (.callback c) (callbackText message) findings] rfl) := by
    intro findings
    refine .note rfl fun e member => .inr ?_
    rw [List.mem_singleton.mp member]
    exact told findings
  cases c with
  | recording name => exact noted []
  | querying asks =>
    have answered := composed_askAll (fun settings from_ => asked settings from_ ⟨asks, rfl⟩) (asks (callbackText message))
    exact answered.bind fun answers => noted (answers.map .number)
  | reentering => exact (noted []).bind fun _ => composed_verify (used rfl)

theorem composed_reportFormatted {message : Option Bytes} {length : Nat}
    (null : message = none → scope.uses (nullFailure "mcmock_assert_msg" "fmt"))
    (used : ∀ bytes, message = some bytes →
      scope.uses (.command (.failPreformatted (textOf bytes) (decide (bytes.length < length))))) :
    Composed scope (reportFormatted message length) := by
  refine .spanned _ (.guarded _ ?_)
  cases message with
  | none => exact composed_reportNull (null rfl)
  | some bytes => exact composed_failPreformatted (used bytes rfl)

theorem composed_bindCallback (callback : Option Callback) :
    Composed (Call.initialise callback).scope (bindCallback callback) := by
  refine .spanned _ (Composed.bind (.change fun _ _ => rfl) fun _ => .guarded _ ?_)
  cases callback with
  | none => exact composed_reportNull rfl
  | some c =>
    have bound : Composed (Call.initialise (some c)).scope (inSession (Session.bindReporter (.callback c))) :=
      .action (g := Answer.ofExcept fun _ => .done) _ rfl rfl doneOrFailed_injective
    refine bound.bind fun answer => ?_
    cases answer with
    | ok => exact .pure _
    | error e => exact .log _ ⟨rfl, rfl⟩

theorem composed_pokeLatest (content : Int64) : Composed (Call.poke content).scope (pokeLatest content) := by
  refine (composed_peekLatest rfl).bind fun cell => ?_
  cases cell with
  | none => exact .pure _
  | some c => exact (Composed.edit _).map _

theorem composed_intoRaw (f : Foreign) : Composed scope (intoRaw f) :=
  have told : ∀ e ∈ Foreign.discard { f with release := none }, e.IsQuiet ∨ scope.tells e := fun e member =>
    .inl (quiet_discardAll [.foreign { f with release := none }] e (by simp [Payload.discard, member]))
  Composed.bind (.note _ told) fun _ => .pure _

theorem composed_getNext : Composed Call.getNext.scope getNext := by
  have consumed : Composed Call.getNext.scope (inSession Session.consumeNext) := composed_consume (Or.inl rfl)
  refine .spanned _ (.guarded _ (consumed.bind fun taken => ?_))
  split
  · exact .pure _
  · exact composed_intoRaw _
  · rename_i payload _
    exact (Composed.discard _).bind fun _ => (composed_fail (Or.inr ⟨payload, rfl⟩)).map _

theorem composed_assertText (condition : Bool) (message : Option Bytes) :
    Composed (Call.assertText condition message).scope (assertText condition message) := by
  refine .spanned _ (.guarded _ ?_)
  cases condition with
  | false => exact .pure _
  | true =>
    cases message with
    | none => exact composed_reportNull rfl
    | some bytes => exact composed_fail rfl

theorem zero_notMem_upToZero (bytes : Bytes) : 0 ∉ upToZero bytes := by
  intro isZero
  have plain := List.all_eq_true.mp List.all_takeWhile _ isZero
  cases plain

theorem composed_assertVariadic (room : Room) (condition : Bool) (format : Option Bytes) (args : Arguments) :
    Composed (Call.assertVariadic room condition format args).scope (assertVariadic room condition format args) := by
  have reported : ∀ (bytes : Bytes) (length : Nat), format = some bytes ∨ 0 ∉ bytes →
      Composed (Call.assertVariadic room condition format args).scope (reportFormatted (some bytes) length) := by
    intro bytes length sound
    refine composed_reportFormatted nofun ?_
    rintro _ ⟨⟩
    exact .inr ⟨bytes, _, sound, rfl⟩
  unfold assertVariadic
  cases condition with
  | false => exact .pure _
  | true =>
    refine .look (fun h => ?_) fun _ _ => rfl
    cases h.hooked with
    | false => exact .unwind _
    | true =>
      cases format with
      | none =>
        have null : (Call.assertVariadic room true none args).scope.uses (nullFailure "mcmock_assert_msg" "fmt") := Or.inl rfl
        have told : Composed (Call.assertVariadic room true none args).scope (reportFormatted none 0) :=
          composed_reportFormatted (fun _ => null) fun _ => nofun
        exact told
      | some format =>
        refine composed_messageCapacity.bind fun capacity => ?_
        have recorded : ∀ fault, Composed (Call.assertVariadic room true (some format) args).scope (recordFault fault) :=
          fun _ => .change fun _ _ => rfl
        cases room.buffer with
        | false => exact (recorded _).bind fun _ => reported _ _ (.inl rfl)
        | true =>
          rcases formatBytes room h.lastFault format args with (fault | _) | output
          · exact (recorded fault).bind fun _ => reported [] 0 (.inr nofun)
          · exact .unwind _
          · exact reported _ _ (.inr (zero_notMem_upToZero _))

theorem composed_startLogging : Composed scope startLogging := by
  refine .look (fun h => ?_) fun _ _ => rfl
  cases h.logging with
  | true => exact .pure _
  | false => exact Composed.bind (.change fun _ _ => rfl) fun _ => .pure _

end Host

end

open Host in
/-- Every call is put together from what its scope allows. -/
theorem perform_composed (call : Call) : Composed call.scope (perform call) := by
  cases call with
  | initialise callback => exact (composed_bindCallback callback).map _
  | register cell api => exact (Composed.spanned _ (.guarded _ (composed_registerForeign rfl))).map _
  | registerWithRelease cell api release => exact (Composed.spanned _ (.guarded _ (composed_registerForeign rfl))).map _
  | peek => exact (composed_peekLatest rfl).map _
  | poke content => exact (composed_pokeLatest content).map _
  | getNext => exact composed_getNext.map _
  | verify => exact (composed_verify rfl).map _
  | reset =>
    have reset : Composed Call.reset.scope (inSession Session.reset) :=
      .action (g := fun _ => Answer.nothing) _ rfl rfl (unit_injective _)
    exact (Composed.spanned _ (.guarded _ reset)).map _
  | capacity => exact composed_messageCapacity.map _
  | pending => exact composed_pendingCount.map _
  | assertVariadic room condition format args => exact (composed_assertVariadic room condition format args).map _
  | assertText condition message => exact (composed_assertText condition message).map _
  | reportFormatted message length =>
    refine (composed_reportFormatted ?_ ?_).map _
    · rintro rfl
      rfl
    · rintro bytes rfl
      rfl
  | configure environment =>
    refine Composed.bind (.change fun _ _ => rfl) fun _ => ?_
    exact (composed_configureFromEnvironment fun _ asked => asked).map _
  | startLogging => exact composed_startLogging.map _
  | sessionRegister api payload => exact (composed_register rfl).map _
  | sessionConfigure settings =>
    refine (Composed.configure rfl).bind fun answer => ?_
    cases answer <;> exact .pure _
  | sessionAssert condition message =>
    cases condition with
    | false => exact .pure _
    | true => exact (composed_fail rfl).map _
  | sessionConsume =>
    refine (composed_consume rfl).bind fun payload => ?_
    exact (Composed.discard _).map _
  | notify c message =>
    refine (composed_notify ?_ ?_ ?_).map _
    · exact fun settings asked querying => ⟨querying, asked⟩
    · exact fun findings => ⟨findings, rfl⟩
    · exact fun reentering => ⟨reentering, rfl⟩
  | wrap cell release giveBack =>
    cases giveBack with
    | true => exact (composed_intoRaw _).map _
    | false => exact (Composed.discard _).map _

/-- However a call ends, the session is back. -/
theorem perform_idle (call : Call) {h : Host} {s : Session} (idle : h.slot = .idle s) :
    ∃ t, (perform call h).state.slot = .idle t := by
  have rules : call.scope.Keeps (fun _ => True) fun _ => True :=
    Scope.keeps_state (fun _ _ => trivial) (fun _ _ _ => trivial) fun _ _ _ => trivial
  obtain ⟨t, left, -⟩ := (perform_composed call).keeps rules idle trivial
  exact ⟨t, left⟩

end Boundary

end MockQueue

import MockQueue.Proofs.LossyCut
import MockQueue.Proofs.Telling

/-!
# What each foreign call does

One statement for each call that foreign code can make on a session of its own (`perform_serves`): whether
it tells its callback something (`Call.raises`), what it leaves of the queue and of the binding
(`Call.queueAfter`, `Call.bindingAfter`), and what it discards, before it tells (`Call.drained`) or after
(`Call.refused`). A call that has something to tell and nobody to tell it to ends the process; every other
call is answered. Such a session is `Ready` again after every call that is answered.
-/

namespace MockQueue

/-! ## What is seen of a trace -/

/-- Something that is seen outside: a message to a reporter, a cell that is released, or the end of a payload. -/
inductive Sight where
  | told (r : Reporter) (text : String)
  | released (cell : Cell) (release : Release)
  | discarded (p : Payload)

def Entry.sight? : Entry → Option Sight
  | logged _ _ => none
  | reported r message => some (.told r message)
  | heard r text _ => some (.told r text)
  | released cell release => some (.released cell release)
  | dropped p => some (.discarded p)

/-- All that is seen of a trace, in order. -/
def sights (trace : List Entry) : List Sight :=
  trace.filterMap Entry.sight?

def Sight.report? : Sight → Option (Reporter × String)
  | told r text => some (r, text)
  | _ => none

@[simp] theorem sights_nil : sights [] = [] := rfl

@[simp] theorem sights_append (front back : List Entry) : sights (front ++ back) = sights front ++ sights back :=
  List.filterMap_append

@[simp] theorem sights_logged (event : LogEvent) (span : Option String) (rest : List Entry) :
    sights (.logged event span :: rest) = sights rest := rfl

theorem reports_eq_sights (trace : List Entry) : reports trace = (sights trace).filterMap Sight.report? := by
  rw [sights, List.filterMap_filterMap, reports]
  congr 1
  funext entry
  cases entry <;> rfl

/-- What is seen of the end of payloads. -/
def endings (payloads : List Payload) : List Sight :=
  sights (payloads.flatMap Payload.discard)

@[simp] theorem endings_nil : endings [] = [] := rfl

/-- The end of payloads is no message. -/
theorem reports_endings (payloads : List Payload) : (endings payloads).filterMap Sight.report? = [] :=
  (reports_eq_sights _).symm.trans (reports_discardAll payloads)

theorem sights_told (s : Session) (b : Binding) (message : Message.Bounded) :
    sights (s.told b message) = b.reporter.toList.map fun r => .told r message.text := by
  unfold Session.told Binding.telling
  cases b.reporter <;> split <;> rfl

namespace Boundary

namespace Host

/-- A message to a callback, as the callback gets it. -/
def spelled : Sight → Sight
  | .told (.callback c) text => .told (.callback c) (callbackText text)
  | sight => sight

/-! ## Steps that are answered -/

/-- The step ended with an answer and a host, and so much is seen of it. -/
structure Answers {α : Type} (step : Step Host α) (answer : α) (after : Host) (seen : List Sight) : Prop where
  outcome : step.outcome = .ok answer
  state : step.state = after
  sights : sights step.trace = seen

section

variable {α β : Type} {h : Host}

theorem answers_pure (a : α) : Answers ((pure a : Run Host α) h) a h [] :=
  ⟨rfl, rfl, rfl⟩

theorem answers_log (event : LogEvent) : Answers ((Run.log event : Run Host Unit) h) () h [] :=
  ⟨rfl, rfl, rfl⟩

theorem Answers.bind {x : Run Host α} {next : α → Run Host β} {a : α} {c : β} {middle after : Host}
    {seen more : List Sight} (first : Answers (x h) a middle seen) (second : Answers (next a middle) c after more) :
    Answers ((x >>= next) h) c after (seen ++ more) := by
  rw [Run.run_bind, first.outcome, first.state]
  exact ⟨second.outcome, second.state, by rw [sights_append, first.sights, second.sights]⟩

/-- A first operation of which nothing is seen adds nothing. -/
theorem Answers.bind_quiet {x : Run Host α} {next : α → Run Host β} {a : α} {c : β} {middle after : Host}
    {seen : List Sight} (first : Answers (x h) a middle []) (second : Answers (next a middle) c after seen) :
    Answers ((x >>= next) h) c after seen :=
  first.bind second

theorem Answers.then_quiet {x : Run Host α} {next : α → Run Host β} {a : α} {c : β} {middle after : Host}
    {seen : List Sight} (first : Answers (x h) a middle seen) (second : Answers (next a middle) c after []) :
    Answers ((x >>= next) h) c after seen := by
  have whole := first.bind second
  rwa [List.append_nil] at whole

theorem Answers.map {x : Run Host α} {a : α} {after : Host} {seen : List Sight} (first : Answers (x h) a after seen)
    (g : α → β) : Answers ((x >>= fun a => pure (g a)) h) (g a) after seen := by
  rw [Run.run_bind_pure, first.outcome]
  exact ⟨rfl, first.state, first.sights⟩

theorem sights_within (function : String) (trace : List Entry) :
    sights (trace.map (Entry.within function)) = sights trace := by
  have same : ∀ entry : Entry, (entry.within function).sight? = entry.sight? := by
    rintro (⟨event, _ | span⟩ | _ | _ | _ | _) <;> rfl
  rw [sights, List.filterMap_map, sights]
  exact congrArg (List.filterMap · trace) (funext same)

theorem Answers.guarded {x : Run Host α} {a : α} {after : Host} {seen : List Sight} (first : Answers (x h) a after seen)
    (function : String) : Answers (Host.guarded function x h) a after seen := by
  rw [guarded_run, first.outcome]
  exact ⟨rfl, first.state, first.sights⟩

theorem Answers.spanned {x : Run Host α} {a : α} {after : Host} {seen : List Sight} (first : Answers (x h) a after seen)
    (function : String) : Answers (Host.spanned function x h) a after seen := by
  rw [spanned_run]
  exact ⟨first.outcome, first.state, (sights_within function _).trans first.sights⟩

/-! ## Asking the slot -/

theorem pendingCount_idle {s : Session} (idle : h.slot = .idle s) :
    Answers (pendingCount h) s.queue.length h [] := by
  obtain ⟨_, environment, hooked, lastFault, logging⟩ := h
  subst idle
  refine ⟨?_, rfl, rfl⟩
  exact congrArg Except.ok (List.length_map ..)

/-- New settings change nothing but the settings and the formatter, and those only of a session that is at hand. -/
theorem configureFromEnvironment_run (h : Host) :
    ∃ status slot, Answers (configureFromEnvironment h) status { h with slot } [] ∧
      (slot = h.slot ∨ ∃ s accepted, h.slot = .idle s ∧
        slot = .idle { s with settings := accepted, formatter := accepted.formatter }) := by
  rw [configureFromEnvironment_eq]
  cases offered : h.offer with
  | error e => exact ⟨-1, h.slot, ⟨rfl, rfl, rfl⟩, .inl rfl⟩
  | ok settings =>
    obtain ⟨-, s, idle, unbound, empty⟩ := (offer_eq_ok_iff h settings).mp offered
    refine ⟨0, _, ⟨rfl, rfl, rfl⟩, .inr ⟨s, settings, idle, ?_⟩⟩
    -- A session without a reporter and without expectations is the empty one, up to its settings.
    obtain ⟨_, _, ⟨items⟩, ⟨bound⟩⟩ := s
    obtain rfl : items = [] := empty
    cases bound with
    | none => rfl
    | some r => cases unbound

/-! ## Telling a callback -/

/-- A callback gets the message once, and what it asks for in between is not seen. -/
theorem sights_spellCallback (environment : Environment) (c : Callback) (message : String) :
    sights (spellCallback environment c message) = [.told (.callback c) (callbackText message)] := by
  cases c with
  | recording name => rfl
  | reentering => rfl
  | querying asks =>
    have unseen : ∀ queries : List Query, sights (queries.flatMap (refusalLog environment)) = [] := by
      intro queries
      induction queries with
      | nil => rfl
      | cons query rest ih =>
        rw [List.flatMap_cons, sights_append, ih]
        cases query <;> rfl
    simp only [spellCallback, sights_append, unseen]
    rfl

/-- What is seen of a session's trace is seen of it in the host, with the messages as callbacks get them. -/
theorem sights_spelled (environment : Environment) {trace : List Entry} (unheard : ∀ e ∈ trace, e.isHeard = false) :
    sights (trace.flatMap (Entry.spelled (spell environment))) = (sights trace).map spelled := by
  induction trace with
  | nil => rfl
  | cons entry rest ih =>
    rw [List.flatMap_cons, sights_append, ih fun e member => unheard e (List.mem_cons_of_mem _ member)]
    cases entry with
    | logged | released | dropped => rfl
    | heard r text findings => cases unheard _ (List.mem_cons_self ..)
    | reported r message =>
      cases r with
      | callback c =>
        change sights (spellCallback environment c message) ++ _ = _
        rw [sights_spellCallback]
        rfl
      | collector | closure | raising | probing | reentering => rfl

/-- A report as the reporter gets it. -/
def asHeard : Reporter × String → Reporter × String
  | (.callback c, text) => (.callback c, callbackText text)
  | report => report

theorem reports_spelled (environment : Environment) {trace : List Entry} (unheard : ∀ e ∈ trace, e.isHeard = false) :
    reports (trace.flatMap (Entry.spelled (spell environment))) = (reports trace).map asHeard := by
  rw [reports_eq_sights, reports_eq_sights, sights_spelled environment unheard, List.filterMap_map, List.map_filterMap]
  congr 1
  funext sight
  rcases sight with ⟨r, text⟩ | _ | _
  · cases r <;> rfl
  · rfl
  · rfl

theorem inSession_answers {x : Run Session α} {s after : Session} {a : α} {trace : List Entry}
    (idle : h.slot = .idle s) (ran : x s = ⟨.ok a, after, trace⟩) (keeps : s.Keeps (x s)) :
    Answers (inSession x h) a { h with slot := .idle after } ((sights trace).map spelled) := by
  have unheard := fun e member => (keeps.made e member).1
  rw [inSession_run idle]
  rw [ran] at unheard ⊢
  exact ⟨rfl, rfl, sights_spelled h.environment unheard⟩

/-- The end of payloads is seen as it is. -/
theorem spelled_endings (payloads : List Payload) : (endings payloads).map spelled = endings payloads := by
  have asIs : ∀ sight ∈ endings payloads, spelled sight = sight := by
    intro sight member
    rcases sight with ⟨r, text⟩ | _ | _
    · have told : (r, text) ∈ (endings payloads).filterMap Sight.report? := List.mem_filterMap.mpr ⟨_, member, rfl⟩
      rw [reports_endings] at told
      cases told
    · rfl
    · rfl
  rw [List.map_congr_left asIs]
  exact List.map_id _

end

/-! ## Calls with something to tell -/

/-- What is seen of a text for a callback. -/
def sightings (b : Binding) (text : String) : List Sight :=
  b.reporter.toList.map fun r => .told r (callbackText text)

/-- A session that only foreign code uses. What is bound is a callback, and was bound by a call that also
set up variadic messages. -/
structure Ready (h : Host) (s : Session) : Prop where
  idle : h.slot = .idle s
  pointers : ∀ e ∈ s.queue.items, ∃ f, e.payload = .foreign f
  callback : ∀ r, s.binding.reporter = some r → ∃ c, r = .callback c
  hooked : s.isBound = true → h.hooked = true

/-- Whether a callback is bound that comes back when it is told something. -/
def listens (b : Binding) : Bool :=
  match b.reporter with
  | some (.callback .reentering) => false
  | some (.callback _) => true
  | _ => false

/-- With the binding `b`, the step has a text to tell, or none. If there is a text but nothing that listens,
it unwinds; else it is answered. -/
structure Relays {α : Type} (b : Binding) (step : Step Host α) (u : Unwind) (answer : α) (text? : Option String)
    (after : Host) (seen : List Sight) : Prop where
  answered : text? = none ∨ listens b = true → Answers step answer after seen
  unanswered : text? ≠ none → listens b = false →
    step.outcome = .error u ∧ (b.isBound = false → reports step.trace = [])

section

variable {α β : Type} {b : Binding} {h : Host} {s : Session} {u : Unwind}

theorem relays_of_answers {step : Step Host α} {a : α} {after : Host} {seen : List Sight}
    (answers : Answers step a after seen) : Relays b step u a none after seen :=
  ⟨fun _ => answers, fun something => absurd rfl something⟩

theorem Relays.bind {x : Run Host α} {next : α → Run Host β} {a : α} {c : β} {text? : Option String}
    {middle after : Host} {seen more : List Sight} (first : Relays b (x h) u a text? middle seen)
    (second : Answers (next a middle) c after more) : Relays b ((x >>= next) h) u c text? after (seen ++ more) := by
  refine ⟨fun somebody => (first.answered somebody).bind second, fun something nobody => ?_⟩
  obtain ⟨unwound, none⟩ := first.unanswered something nobody
  rw [Run.run_bind, unwound]
  exact ⟨rfl, none⟩

theorem Relays.then_quiet {x : Run Host α} {next : α → Run Host β} {a : α} {c : β} {text? : Option String}
    {middle after : Host} {seen : List Sight} (first : Relays b (x h) u a text? middle seen)
    (second : Answers (next a middle) c after []) : Relays b ((x >>= next) h) u c text? after seen := by
  have whole := first.bind second
  rwa [List.append_nil] at whole

theorem Answers.bind_relays {x : Run Host α} {next : α → Run Host β} {a : α} {c : β} {text? : Option String}
    {middle after : Host} {seen : List Sight} (first : Answers (x h) a middle [])
    (second : Relays b (next a middle) u c text? after seen) : Relays b ((x >>= next) h) u c text? after seen := by
  refine ⟨fun somebody => first.bind_quiet (second.answered somebody), fun something nobody => ?_⟩
  obtain ⟨unwound, none⟩ := second.unanswered something nobody
  rw [Run.run_bind, first.outcome, first.state]
  refine ⟨unwound, fun unbound => ?_⟩
  rw [reports_append, reports_eq_sights, first.sights, none unbound]
  rfl

theorem Relays.map {x : Run Host α} {a : α} {text? : Option String} {after : Host} {seen : List Sight}
    (first : Relays b (x h) u a text? after seen) (g : α → β) :
    Relays b ((x >>= fun a => pure (g a)) h) u (g a) text? after seen := by
  refine ⟨fun somebody => (first.answered somebody).map g, fun something nobody => ?_⟩
  obtain ⟨unwound, none⟩ := first.unanswered something nobody
  rw [Run.run_bind_pure, unwound]
  exact ⟨rfl, none⟩

theorem Relays.spanned {x : Run Host α} {a : α} {text? : Option String} {after : Host} {seen : List Sight}
    (relays : Relays b (x h) u a text? after seen) (function : String) :
    Relays b (Host.spanned function x h) u a text? after seen := by
  refine ⟨fun somebody => (relays.answered somebody).spanned function, fun something nobody => ?_⟩
  obtain ⟨unwound, none⟩ := relays.unanswered something nobody
  rw [spanned_run, reports_within]
  exact ⟨unwound, none⟩

/-- Whatever unwinds in the body of a foreign call ends the process. -/
theorem Relays.guarded {x : Run Host α} {a : α} {text? : Option String} {after : Host} {seen : List Sight}
    (relays : Relays b (x h) u a text? after seen) (function : String) :
    Relays b (Host.guarded function x h) .aborted a text? after seen := by
  refine ⟨fun somebody => (relays.answered somebody).guarded function, fun something nobody => ?_⟩
  obtain ⟨unwound, none⟩ := relays.unanswered something nobody
  rw [guarded_run, unwound]
  cases u with
  | aborted => exact ⟨rfl, none⟩
  | _ =>
    refine ⟨rfl, fun unbound => ?_⟩
    rw [reports_append, none unbound]
    rfl

/-- What is discarded at the end is discarded also if the operation unwinds, unless the process ends. -/
theorem Relays.ensuring {x : Run Host α} {a : α} {text? : Option String} {after : Host} {seen : List Sight}
    (relays : Relays b (x h) u a text? after seen) (payloads : List Payload) :
    Relays b ((x.ensuring (Run.discard payloads)) h) u a text? after (seen ++ endings payloads) := by
  refine ⟨fun somebody => ?_, fun something nobody => ?_⟩
  · obtain ⟨outcome, state, sights⟩ := relays.answered somebody
    rw [Run.run_ensuring, outcome, Run.run_discard]
    exact ⟨rfl, state, by rw [sights_append, sights, endings]⟩
  · obtain ⟨unwound, none⟩ := relays.unanswered something nobody
    rw [Run.run_ensuring, unwound, Run.run_discard]
    split
    · rename_i ended
      exact ⟨ended.symm ▸ rfl, none⟩
    · refine ⟨rfl, fun unbound => ?_⟩
      rw [reports_append, none unbound, reports_discardAll]
      rfl

theorem Ready.host_eq (ready : Ready h s) : { h with slot := .idle s } = h := by
  rw [← ready.idle]

theorem isBound_of_listens {b : Binding} (listening : listens b = true) : b.isBound = true := by
  unfold listens at listening
  split at listening
  · cases listening
  · rename_i reporter
    rw [Binding.isBound, reporter]
    rfl
  · cases listening

theorem Ready.fate (ready : Ready h s) (listening : listens s.binding = true) (text : String) :
    s.binding.fate text = .ok () := by
  cases reporter : s.binding.reporter with
  | none => simp [listens, reporter] at listening
  | some r =>
    obtain ⟨c, rfl⟩ := ready.callback r reporter
    cases c with
    | reentering => simp [listens, reporter] at listening
    | recording | querying => simp [Binding.fate, reporter, Reporter.reply, Reporter.fate]

theorem Ready.fate_of_not_listens (ready : Ready h s) (nobody : listens s.binding = false) (text : String) :
    ∃ u, s.binding.fate text = .error u := by
  cases reporter : s.binding.reporter with
  | none => exact ⟨.noReporter text, by simp [Binding.fate, reporter]⟩
  | some r =>
    obtain ⟨c, rfl⟩ := ready.callback r reporter
    cases c with
    | reentering => exact ⟨.aborted, by simp [Binding.fate, reporter, Reporter.reply, Reporter.fate]⟩
    | recording | querying => simp [listens, reporter] at nobody

theorem Ready.spelled_sights (ready : Ready h s) (text : String) :
    (s.binding.reporter.toList.map fun r => Sight.told r text).map spelled = sightings s.binding text := by
  unfold sightings
  cases reporter : s.binding.reporter with
  | none => rfl
  | some r =>
    obtain ⟨c, rfl⟩ := ready.callback r reporter
    rfl

/-- An operation that may discard something and then tells one text. -/
theorem Ready.inSession_relays (ready : Ready h s) {x : Run Session α} {after : Session} {a : α} {text : String}
    {trace : List Entry} {payloads : List Payload}
    (ran : x s = ⟨(s.binding.fate text).map fun _ => a, after, trace⟩) (keeps : s.Keeps (x s))
    (seen : sights trace =
      endings payloads ++ s.binding.reporter.toList.map fun r => .told r text) :
    ∃ u, Relays s.binding (inSession x h) u a (some text) { h with slot := .idle after }
      (endings payloads ++ sightings s.binding text) := by
  cases listening : listens s.binding with
  | true =>
    rw [ready.fate listening text] at ran
    have answers := inSession_answers ready.idle ran keeps
    rw [seen, List.map_append, spelled_endings, ready.spelled_sights] at answers
    exact ⟨.aborted, fun _ => answers, fun _ nobody => by simp [listening] at nobody⟩
  | false =>
    obtain ⟨u, unwinds⟩ := ready.fate_of_not_listens listening text
    have unheard := fun e member => (keeps.made e member).1
    rw [unwinds] at ran
    refine ⟨u, fun somebody => by simp [listening] at somebody, fun _ _ => ?_⟩
    rw [inSession_run ready.idle]
    rw [ran] at unheard ⊢
    refine ⟨rfl, fun unbound => ?_⟩
    have none : s.binding.reporter = none := by simpa [Binding.isBound] using unbound
    rw [reports_spelled _ unheard, reports_eq_sights, seen, none, List.filterMap_append, reports_endings]
    rfl

theorem Ready.deliver_relays (ready : Ready h s) {message : Message.Bounded} (made : s.formatter.Makes message) :
    ∃ u, Relays s.binding (inSession (Session.deliver message) h) u () (some message.text) h
      (sightings s.binding message.text) := by
  have ran : Session.deliver message s =
      ⟨(s.binding.fate message.text).map fun _ => (), s, s.told s.binding message⟩ := by
    rw [Session.deliver_run]
    cases s.binding.fate message.text <;> rfl
  have keeps : s.Keeps (Session.deliver message s) := Session.keeps_deliver made
  have seen : sights (s.told s.binding message) =
      endings [] ++ s.binding.reporter.toList.map fun r => .told r message.text :=
    sights_told s s.binding message
  have relays := ready.inSession_relays ran keeps seen
  rwa [ready.host_eq] at relays

end

end Host

/-! ## What a call does -/

/-- The cell behind a payload. -/
def cellOf : Payload → Option Cell
  | .foreign f => f.cell
  | _ => none

/-- The payload with other content in its cell. -/
def poked (content : Int64) : Payload → Payload
  | .foreign f => .foreign { f with cell := f.cell.map fun c => { c with content } }
  | other => other

namespace Call

/-- Whether foreign code can make the call. -/
def isForeign : Call → Bool
  | sessionRegister _ _ => false
  | sessionConfigure _ => false
  | sessionAssert _ _ => false
  | sessionConsume => false
  | notify _ _ => false
  | wrap _ _ _ => false
  | _ => true

/-- The format of a variadic call goes with its arguments: what they point to can be read. -/
def Fits (h : Host) : Call → Prop
  | assertVariadic room true (some format) args => formatBytes room h.lastFault format args ≠ .error .crashed
  | _ => True

/-- Whether the call has a failure to tell. -/
def raises (s : Session) : Call → Bool
  | initialise none => true
  | initialise (some _) => s.isBound
  | register _ none => true
  | registerWithRelease _ none _ => true
  | peek => s.queue.items.isEmpty
  | poke _ => s.queue.items.isEmpty
  | verify => !s.queue.items.isEmpty
  | assertVariadic _ condition _ _ => condition
  | assertText condition _ => condition
  | reportFormatted _ _ => true
  | _ => false

def queueAfter (s : Session) : Call → Queue
  | register cell (some name) => { items := s.queue.items ++ [⟨Host.textOf name, .foreign ⟨cell, some .free⟩⟩] }
  | registerWithRelease cell (some name) release =>
    { items := s.queue.items ++ [⟨Host.textOf name, .foreign ⟨cell, release⟩⟩] }
  | poke content => s.queue.editLatest (poked content)
  | getNext => { items := s.queue.items.tail }
  | verify => {}
  | reset => {}
  | _ => s.queue

def bindingAfter (s : Session) : Call → Binding
  | initialise (some c) => ⟨some (.callback c)⟩
  | verify => if s.settings.unbindOnVerify then {} else s.binding
  | reset => {}
  | _ => s.binding

/-- What the call discards before it tells anything. -/
def drained (s : Session) : Call → List Payload
  | verify => s.queue.items.map Expectation.payload
  | reset => s.queue.items.map Expectation.payload
  | _ => []

/-- What the call discards after it told that it was misused. -/
def refused : Call → List Payload
  | register cell none => [.foreign ⟨cell, some .free⟩]
  | registerWithRelease cell none release => [.foreign ⟨cell, release⟩]
  | _ => []

/-- Whether the call sets up variadic messages. -/
def hooks : Call → Bool
  | initialise _ => true
  | _ => false

/-- The answer of a call that asks for something in the queue. -/
def answer? (s : Session) : Call → Option Reply
  | peek => some (.cell (s.queue.latest?.bind fun e => cellOf e.payload))
  | poke _ => some (.cell (s.queue.latest?.bind fun e => cellOf e.payload))
  | getNext => some (.cell (s.queue.next?.bind fun e => cellOf e.payload))
  | pending => some (.count s.queue.length)
  | _ => none

end Call

open Host

/-- What a call does to a session that only foreign code uses. -/
def Serves (call : Call) (h : Host) (s : Session) : Prop :=
  ∃ (reply : Reply) (text? : Option String) (after : Host) (settings : Settings) (formatter : Message.Formatter),
    Relays s.binding (perform call h) .aborted reply text? after
      (endings (call.drained s) ++ text?.toList.flatMap (sightings s.binding) ++ endings call.refused) ∧
    text?.isSome = call.raises s ∧
    after.slot = .idle { settings, formatter, queue := call.queueAfter s, binding := call.bindingAfter s } ∧
    after.hooked = (h.hooked || call.hooks) ∧
    ∀ r, call.answer? s = some r → reply = r

section

variable {h : Host} {s : Session}

/-! ## What each call does -/

theorem fail_relays (ready : Ready h s) (message : String) :
    ∃ text u, Relays s.binding (inSession (Session.fail message) h) u () (some text) h (sightings s.binding text) := by
  have same : inSession (Session.fail message) h =
      inSession (Session.deliver (s.formatter.compose [message] false)) h :=
    inSession_congr ready.idle (Session.fail_eq_deliver s message)
  rw [same]
  exact ⟨_, ready.deliver_relays (.compose [message] false)⟩

theorem reportNull_relays (ready : Ready h s) (function argument : String) :
    ∃ text u, Relays s.binding (reportNull function argument h) u () (some text) h (sightings s.binding text) := by
  obtain ⟨text, u, told⟩ := fail_relays ready (Error.nullArgument function argument).message
  exact ⟨text, u, (answers_log _).bind_relays told⟩

theorem reportFormatted_relays (ready : Ready h s) (message : Option Bytes) (length : Nat) :
    ∃ text, Relays s.binding (Host.reportFormatted message length h) .aborted () (some text) h
      (sightings s.binding text) := by
  cases message with
  | none =>
    obtain ⟨text, u, told⟩ := reportNull_relays ready "mcmock_assert_msg" "fmt"
    exact ⟨text, (told.guarded _).spanned _⟩
  | some bytes =>
    have made : s.formatter.Makes (s.formatter.clip (Text.decodeLossy bytes) (decide (bytes.length < length))) := by
      have bound := Message.Formatter.Makes.bound (f := s.formatter) (textOf bytes) (decide (bytes.length < length))
      rwa [Message.Formatter.bound_eq_clip, textOf, String.toList_ofList] at bound
    obtain ⟨u, told⟩ := ready.deliver_relays made
    rw [reportFormatted_run ready.idle]
    exact ⟨_, (told.guarded _).spanned _⟩

theorem serves_of_relays {α : Type} {call : Call} {x : Run Host α} {g : α → Reply} {a : α} {text : String}
    {after : Host} {settings : Settings} {formatter : Message.Formatter} (acts : perform call = (do return g (← x)))
    (relays : Relays s.binding (x h) .aborted a (some text) after
      (endings (call.drained s) ++ sightings s.binding text ++ endings call.refused))
    (raises : call.raises s = true)
    (slot : after.slot = .idle { settings, formatter, queue := call.queueAfter s, binding := call.bindingAfter s })
    (hooked : after.hooked = (h.hooked || call.hooks)) (answer : ∀ r, call.answer? s = some r → g a = r) :
    Serves call h s := by
  refine ⟨g a, some text, after, settings, formatter, ?_, raises.symm, slot, hooked, answer⟩
  rw [acts]
  simpa using relays.map g

/-- A call that tells something and discards nothing. -/
theorem serves_of_told {α : Type} {call : Call} {x : Run Host α} {g : α → Reply} {a : α} {text : String} {after : Host}
    {settings : Settings} {formatter : Message.Formatter} (acts : perform call = (do return g (← x)))
    (relays : Relays s.binding (x h) .aborted a (some text) after (sightings s.binding text))
    (raises : call.raises s = true) (drained : call.drained s = []) (refused : call.refused = [])
    (slot : after.slot = .idle { settings, formatter, queue := call.queueAfter s, binding := call.bindingAfter s })
    (hooked : after.hooked = (h.hooked || call.hooks)) (answer : ∀ r, call.answer? s = some r → g a = r) :
    Serves call h s := by
  have seen : endings (call.drained s) ++ sightings s.binding text ++ endings call.refused =
      sightings s.binding text := by
    simp [drained, refused]
  rw [← seen] at relays
  exact serves_of_relays acts relays raises slot hooked answer

/-- A call that tells nothing. -/
theorem serves_of_answers {α : Type} {call : Call} {x : Run Host α} {g : α → Reply} {a : α} {after : Host}
    {settings : Settings} {formatter : Message.Formatter} (acts : perform call = (do return g (← x)))
    (answers : Answers (x h) a after (endings (call.drained s)))
    (raises : call.raises s = false) (refused : call.refused = [])
    (slot : after.slot = .idle { settings, formatter, queue := call.queueAfter s, binding := call.bindingAfter s })
    (hooked : after.hooked = (h.hooked || call.hooks)) (answer : ∀ r, call.answer? s = some r → g a = r) :
    Serves call h s := by
  refine ⟨g a, none, after, settings, formatter, relays_of_answers ?_, raises.symm, slot, hooked, answer⟩
  rw [acts, refused]
  simpa using answers.map g

theorem serves_initialise_none (ready : Ready h s) : Serves (.initialise none) h s := by
  let after : Host := { h with hooked := true }
  have readied : Ready after s := ⟨ready.idle, ready.pointers, ready.callback, fun _ => rfl⟩
  obtain ⟨text, u, told⟩ := reportNull_relays readied "mcmock_initialise" "callback"
  have set : Answers ((Run.modify fun h => { h with hooked := true } : Run Host Unit) h) () after [] := ⟨rfl, rfl, rfl⟩
  have relays : Relays s.binding (bindCallback none h) .aborted () (some text) after (sightings s.binding text) :=
    Relays.spanned (Answers.bind_relays set (told.guarded _)) _
  exact serves_of_told (g := fun _ => .nothing) rfl relays rfl rfl rfl ready.idle (Bool.or_true _).symm nofun

/-- A callback that takes the place of another: that one is told before. -/
theorem bindReporter_relays (ready : Ready h s) {r : Reporter} (reporter : s.binding.reporter = some r) (q : Reporter) :
    ∃ text u, Relays s.binding (inSession (Session.bindReporter q) h) u (.error .reporterAlreadyBound) (some text)
      { h with slot := .idle (s.under ⟨some q⟩) } (sightings s.binding text) := by
  let message := s.formatter.compose [Error.reporterAlreadyBound.message] false
  have same : s.under ⟨some r⟩ = s := by
    obtain ⟨settings, formatter, queue, ⟨_⟩⟩ := s
    cases reporter
    rfl
  have binding : s.binding = ⟨some r⟩ := congrArg Session.binding same.symm
  have ran := Session.bindReporter_run_bound s r q
  rw [same, ← binding] at ran
  refine ⟨message.text, ?_⟩
  cases listening : listens s.binding with
  | true =>
    simp only [ready.fate listening] at ran
    have answers := inSession_answers ready.idle ran (Session.faithful_bindReporter q s)
    rw [sights_append, sights_told, List.map_append, ready.spelled_sights] at answers
    change Answers _ _ _ (_ ++ []) at answers
    rw [List.append_nil] at answers
    exact ⟨.aborted, fun _ => answers, fun _ nobody => by simp [listening] at nobody⟩
  | false =>
    obtain ⟨u, unwinds⟩ := ready.fate_of_not_listens listening message.text
    simp only [message] at unwinds
    simp only [unwinds] at ran
    refine ⟨u, fun somebody => by simp [listening] at somebody, fun _ _ => ?_⟩
    rw [inSession_run ready.idle, ran]
    refine ⟨rfl, fun unbound => ?_⟩
    simp [Binding.isBound, reporter] at unbound

theorem serves_initialise_some (ready : Ready h s) (c : Callback) : Serves (.initialise (some c)) h s := by
  let hooked : Host := { h with hooked := true }
  let after : Host := { hooked with slot := .idle (s.under ⟨some (.callback c)⟩) }
  have readied : Ready hooked s := ⟨ready.idle, ready.pointers, ready.callback, fun _ => rfl⟩
  have set : Answers ((Run.modify fun h => { h with hooked := true } : Run Host Unit) h) () hooked [] := ⟨rfl, rfl, rfl⟩
  have flag : after.hooked = (h.hooked || true) := (Bool.or_true _).symm
  cases reporter : s.binding.reporter with
  | none =>
    have same : s.under {} = s := by
      obtain ⟨settings, formatter, queue, ⟨_⟩⟩ := s
      cases reporter
      rfl
    have ran := Session.bindReporter_run_unbound s (.callback c)
    rw [same] at ran
    have bound := inSession_answers readied.idle ran (Session.faithful_bindReporter _ s)
    have answers : Answers (bindCallback (some c) h) () after [] :=
      Answers.spanned (Answers.bind_quiet set (Answers.guarded (Answers.then_quiet bound (answers_pure ())) _)) _
    have unbound : s.isBound = false := by simp [Session.isBound, Binding.isBound, reporter]
    exact serves_of_answers (g := fun _ => .nothing) rfl answers unbound rfl rfl flag nofun
  | some r =>
    obtain ⟨text, u, bound⟩ := bindReporter_relays readied reporter (.callback c)
    have relays : Relays s.binding (bindCallback (some c) h) .aborted () (some text) after (sightings s.binding text) :=
      Relays.spanned (Answers.bind_relays set (Relays.guarded (Relays.then_quiet bound (answers_log _)) _)) _
    have isBound : s.isBound = true := by simp [Session.isBound, Binding.isBound, reporter]
    exact serves_of_told (g := fun _ => .nothing) rfl relays isBound rfl rfl rfl flag nofun

/-- A registration without a name is refused: its pointer is discarded once the misuse was told. -/
theorem registerForeign_relays_none (ready : Ready h s) (function : String) (f : Foreign) :
    ∃ text u, Relays s.binding (registerForeign function f none h) u () (some text) h
      (sightings s.binding text ++ endings [.foreign f]) := by
  obtain ⟨text, u, told⟩ := reportNull_relays ready function "api_name"
  exact ⟨text, u, told.ensuring _⟩

theorem registerForeign_answers_some (ready : Ready h s) (function : String) (f : Foreign) (name : Bytes) :
    Answers (registerForeign function f (some name) h) ()
      { h with slot := .idle { s with queue := { items := s.queue.items ++ [⟨textOf name, .foreign f⟩] } } } [] :=
  inSession_answers ready.idle (Session.register_run (textOf name) (.foreign f) s) (Session.faithful_register _ _ s)

theorem serves_register (ready : Ready h s) (cell : Option Cell) (api : Option Bytes) :
    Serves (.register cell api) h s := by
  cases api with
  | none =>
    obtain ⟨text, u, told⟩ := registerForeign_relays_none ready "mcmock_register_expectation" ⟨cell, some .free⟩
    exact serves_of_relays (g := fun _ => .nothing) rfl ((told.guarded _).spanned _) rfl ready.idle
      (Bool.or_false _).symm nofun
  | some name =>
    have answers := registerForeign_answers_some ready "mcmock_register_expectation" ⟨cell, some .free⟩ name
    exact serves_of_answers (g := fun _ => .nothing) rfl ((answers.guarded _).spanned _) rfl rfl rfl
      (Bool.or_false _).symm nofun

theorem serves_registerWithRelease (ready : Ready h s) (cell : Option Cell) (api : Option Bytes)
    (release : Option Release) : Serves (.registerWithRelease cell api release) h s := by
  cases api with
  | none =>
    obtain ⟨text, u, told⟩ :=
      registerForeign_relays_none ready "mcmock_register_expectation_with_release" ⟨cell, release⟩
    exact serves_of_relays (g := fun _ => .nothing) rfl ((told.guarded _).spanned _) rfl ready.idle
      (Bool.or_false _).symm nofun
  | some name =>
    have answers :=
      registerForeign_answers_some ready "mcmock_register_expectation_with_release" ⟨cell, release⟩ name
    exact serves_of_answers (g := fun _ => .nothing) rfl ((answers.guarded _).spanned _) rfl rfl rfl
      (Bool.or_false _).symm nofun

/-! ### Looking and taking -/

theorem peekLatest_relays_nil (ready : Ready h s) (items : s.queue = {}) :
    ∃ text, Relays s.binding (Host.peekLatest h) .aborted none (some text) h (sightings s.binding text) := by
  let text := (s.formatter.compose [Error.emptyQueuePeek.message] false).text
  have ran := Session.peekLatest_run_nil items
  rw [Session.raise_run] at ran
  obtain ⟨u, looked⟩ : ∃ u, Relays s.binding (inSession Session.peekLatest h) u (.error .emptyQueuePeek) (some text) h
      (sightings s.binding text) := by
    have seen : sights (s.told s.binding (s.formatter.compose [Error.emptyQueuePeek.message] false)) =
        endings [] ++ s.binding.reporter.toList.map fun r => .told r text :=
      sights_told ..
    have relays := ready.inSession_relays ran (Session.faithful_peekLatest s) seen
    rwa [ready.host_eq] at relays
  exact ⟨text, Relays.spanned (Relays.guarded (Relays.then_quiet looked (answers_pure none)) _) _⟩

theorem peekLatest_answers (ready : Ready h s) {front : List Expectation} {e : Expectation} {f : Foreign}
    (items : s.queue = { items := front ++ [e] }) (payload : e.payload = .foreign f) :
    Answers (Host.peekLatest h) f.cell h [] := by
  have ran := Session.peekLatest_run items
  rw [payload] at ran
  have looked := inSession_answers ready.idle ran (Session.faithful_peekLatest s)
  rw [ready.host_eq] at looked
  exact Answers.spanned (Answers.guarded (Answers.then_quiet looked (answers_pure f.cell)) _) _

/-- The latest payload of a queue that only foreign code fills is a pointer. -/
theorem Host.Ready.latest (ready : Ready h s) :
    s.queue = {} ∨ ∃ front api f, s.queue = { items := front ++ [⟨api, .foreign f⟩] } := by
  rcases Session.queue_eq_nil_or_append s.queue with items | ⟨front, ⟨api, payload⟩, items⟩
  · exact .inl items
  · obtain ⟨f, rfl⟩ : ∃ f, payload = .foreign f := ready.pointers ⟨api, payload⟩ (by simp [items])
    exact .inr ⟨front, api, f, items⟩

theorem serves_peek (ready : Ready h s) : Serves .peek h s := by
  have answer : ∀ (cell : Option Cell) (r : Reply), (s.queue.latest?.bind fun e => cellOf e.payload) = cell →
      Call.answer? s .peek = some r → Reply.cell cell = r := by
    rintro _ _ rfl ⟨⟩
    rfl
  rcases ready.latest with items | ⟨front, api, f, items⟩
  · obtain ⟨text, told⟩ := peekLatest_relays_nil ready items
    have empty : s.queue.items.isEmpty = true := by simp [items]
    refine serves_of_told (g := .cell) rfl told empty rfl rfl ready.idle (Bool.or_false _).symm fun r => answer none r ?_
    simp [items, Queue.latest?]
  · have filled : s.queue.items.isEmpty = false := by simp [items]
    refine serves_of_answers (g := .cell) rfl (peekLatest_answers ready items rfl) filled rfl ready.idle
      (Bool.or_false _).symm fun r => answer f.cell r ?_
    simp [items, cellOf]

theorem poke_answers (ready : Ready h s) (content : Int64) :
    Answers (inSession (Run.modify fun s => { s with queue := s.queue.editLatest (poked content) }) h) ()
      { h with slot := .idle { s with queue := s.queue.editLatest (poked content) } } [] :=
  inSession_answers (x := Run.modify _) ready.idle rfl (Session.faithful_changeQueue (·.editLatest (poked content)) s)

theorem serves_poke (ready : Ready h s) (content : Int64) : Serves (.poke content) h s := by
  have answer : ∀ (cell : Option Cell) (r : Reply), (s.queue.latest?.bind fun e => cellOf e.payload) = cell →
      Call.answer? s (.poke content) = some r → Reply.cell cell = r := by
    rintro _ _ rfl ⟨⟩
    rfl
  rcases ready.latest with items | ⟨front, api, f, items⟩
  · obtain ⟨text, told⟩ := peekLatest_relays_nil ready items
    have poke : Relays s.binding (pokeLatest content h) .aborted none (some text) h (sightings s.binding text) :=
      Relays.then_quiet told (answers_pure none)
    have kept : h.slot = .idle { s with queue := s.queue.editLatest (poked content) } := by
      rw [ready.idle, items]
      obtain ⟨settings, formatter, queue, binding⟩ := s
      cases items
      rfl
    have empty : s.queue.items.isEmpty = true := by simp [items]
    refine serves_of_told (g := .cell) rfl poke empty rfl rfl kept (Bool.or_false _).symm fun r => answer none r ?_
    simp [items, Queue.latest?]
  · let after : Host := { h with slot := .idle { s with queue := s.queue.editLatest (poked content) } }
    have looked := peekLatest_answers ready items rfl
    have poke : Answers (pokeLatest content h) f.cell after [] := by
      cases cell : f.cell with
      | some c =>
        rw [cell] at looked
        exact Answers.bind_quiet looked (Answers.map (poke_answers ready content) fun _ => some c)
      | none =>
        rw [cell] at looked
        -- Nothing is written through a null pointer, and a null pointer that is written to stays one.
        have kept : s.queue.editLatest (poked content) = s.queue := by
          obtain ⟨_, release⟩ := f
          cases cell
          rw [items, Queue.editLatest_append]
          rfl
        have same : after = h := by
          simp only [after, kept]
          exact ready.host_eq
        rw [same]
        exact Answers.bind_quiet looked (answers_pure none)
    have filled : s.queue.items.isEmpty = false := by simp [items]
    refine serves_of_answers (g := .cell) rfl poke filled rfl rfl (Bool.or_false _).symm fun r => answer f.cell r ?_
    simp [items, cellOf]

/-- A pointer that goes to the caller is not released. -/
theorem intoRaw_answers (f : Foreign) (h : Host) : Answers (intoRaw f h) f.cell h [] := by
  obtain ⟨cell, release⟩ := f
  cases cell <;> exact ⟨rfl, rfl, rfl⟩

theorem serves_getNext (ready : Ready h s) : Serves .getNext h s := by
  cases items : s.queue.items with
  | nil =>
    have empty : s.queue = {} := congrArg Queue.mk items
    have taken : Answers (inSession Session.consumeNext h) none h [] := by
      have answers := inSession_answers ready.idle (Session.consumeNext_run_nil empty) (Session.faithful_consumeNext s)
      rwa [ready.host_eq] at answers
    have next : Answers (Host.getNext h) none h [] := by
      refine Answers.spanned (Answers.guarded (Answers.then_quiet taken ?_) _) _
      exact answers_pure none
    have kept : h.slot = .idle { s with queue := { items := s.queue.items.tail } } := by
      rw [ready.idle, items]
      exact congrArg (fun queue => Slot.idle { s with queue }) empty
    refine serves_of_answers (g := .cell) rfl next rfl rfl kept (Bool.or_false _).symm ?_
    rintro r ⟨⟩
    simp [Queue.next?, items]
  | cons e rest =>
    obtain ⟨f, payload⟩ := ready.pointers e (by simp [items])
    have ran := Session.consumeNext_run_cons (congrArg Queue.mk items)
    rw [payload] at ran
    have taken := inSession_answers ready.idle ran (Session.faithful_consumeNext s)
    have next : Answers (Host.getNext h) f.cell { h with slot := .idle { s with queue := { items := rest } } } [] :=
      Answers.spanned (Answers.guarded (Answers.then_quiet taken (intoRaw_answers f _)) _) _
    have tail : ({ items := rest } : Queue) = { items := s.queue.items.tail } := by rw [items, List.tail_cons]
    rw [tail] at next
    refine serves_of_answers (g := .cell) rfl next rfl rfl rfl (Bool.or_false _).symm ?_
    rintro r ⟨⟩
    simp [Queue.next?, items, payload, cellOf]

/-! ### Emptying the queue -/

theorem serves_reset (ready : Ready h s) : Serves .reset h s := by
  have answers := inSession_answers ready.idle (Session.reset_run s) (Session.faithful_reset s)
  rw [sights_append, ← endings, List.map_append, spelled_endings] at answers
  change Answers _ _ _ (_ ++ []) at answers
  rw [List.append_nil] at answers
  exact serves_of_answers (g := fun _ => .nothing) rfl ((answers.guarded _).spanned _) rfl rfl rfl
    (Bool.or_false _).symm nofun

theorem serves_verify (ready : Ready h s) : Serves .verify h s := by
  cases items : s.queue.items with
  | nil =>
    have answers := inSession_answers ready.idle (Session.verify_run_nil (congrArg Queue.mk items))
      (Session.faithful_verify s)
    have verified : Answers (Host.verify h) () { h with slot := .idle s.verified } [] :=
      Answers.spanned (Answers.guarded (Answers.then_quiet answers (answers_pure ())) _) _
    have seen : endings (s.queue.items.map Expectation.payload) = [] := by simp [items]
    rw [← seen] at verified
    have none : (!s.queue.items.isEmpty) = false := by simp [items]
    exact serves_of_answers (g := fun _ => .nothing) rfl verified none rfl rfl (Bool.or_false _).symm nofun
  | cons e rest =>
    let message := s.leftOverMessage (e :: rest)
    have seen : sights (((e :: rest).map Expectation.payload).flatMap Payload.discard
        ++ ([.logged (.leftOver (e :: rest).length) none] ++ s.told s.binding message)) =
          endings (s.queue.items.map Expectation.payload) ++
            s.binding.reporter.toList.map fun r => .told r message.text := by
      rw [sights_append, sights_append, sights_told, items]
      rfl
    obtain ⟨u, told⟩ := ready.inSession_relays (Session.verify_run_cons (congrArg Queue.mk items))
      (Session.faithful_verify s) seen
    have verified : Relays s.binding (Host.verify h) .aborted () (some message.text) { h with slot := .idle s.verified }
        (endings (s.queue.items.map Expectation.payload) ++ sightings s.binding message.text) :=
      Relays.spanned (Relays.guarded (Relays.then_quiet told (answers_log _)) _) _
    rw [← List.append_nil (_ ++ _)] at verified
    have left : (!s.queue.items.isEmpty) = true := by simp [items]
    exact serves_of_relays (g := fun _ => .nothing) rfl verified left rfl (Bool.or_false _).symm nofun

/-! ### Asserting and asking -/

theorem serves_assertText (ready : Ready h s) (condition : Bool) (message : Option Bytes) :
    Serves (.assertText condition message) h s := by
  cases condition with
  | false =>
    have answers : Answers (Host.assertText false message h) () h [] :=
      Answers.spanned (Answers.guarded (answers_pure ()) _) _
    exact serves_of_answers (g := fun _ => .nothing) rfl answers rfl rfl ready.idle (Bool.or_false _).symm nofun
  | true =>
    obtain ⟨text, relays⟩ : ∃ text, Relays s.binding (Host.assertText true message h) .aborted () (some text) h
        (sightings s.binding text) := by
      cases message with
      | none =>
        obtain ⟨text, u, told⟩ := reportNull_relays ready "mcmock_assert_str" "message"
        exact ⟨text, (told.guarded _).spanned _⟩
      | some bytes =>
        obtain ⟨text, u, told⟩ := fail_relays ready (textOf bytes)
        exact ⟨text, (told.guarded _).spanned _⟩
    exact serves_of_told (g := fun _ => .nothing) rfl relays rfl rfl rfl ready.idle (Bool.or_false _).symm nofun

theorem serves_reportFormatted (ready : Ready h s) (message : Option Bytes) (length : Nat) :
    Serves (.reportFormatted message length) h s := by
  obtain ⟨text, told⟩ := reportFormatted_relays ready message length
  exact serves_of_told (g := fun _ => .nothing) rfl told rfl rfl rfl ready.idle (Bool.or_false _).symm nofun

theorem serves_capacity (ready : Ready h s) : Serves .capacity h s := by
  have answers : Answers (messageCapacity h) s.formatter.capacity h [] := by
    rw [messageCapacity_run ready.idle]
    exact ⟨rfl, rfl, rfl⟩
  exact serves_of_answers (g := .count) rfl answers rfl rfl ready.idle (Bool.or_false _).symm nofun

theorem serves_pending (ready : Ready h s) : Serves .pending h s := by
  refine serves_of_answers (g := .count) rfl (pendingCount_idle ready.idle) rfl rfl ready.idle (Bool.or_false _).symm ?_
  rintro r ⟨⟩
  rfl

theorem serves_startLogging (ready : Ready h s) : Serves .startLogging h s := by
  have unasked : ∀ reply r, Call.startLogging.answer? s = some r → reply = r := by
    rintro _ _ ⟨⟩
  cases logging : h.logging with
  | true =>
    have answers : Answers (startLogging h) (-1) h [] := by
      simp only [startLogging, Run.run_bind, Run.run_get, logging, if_true]
      exact ⟨rfl, rfl, rfl⟩
    exact serves_of_answers (g := .number) rfl answers rfl rfl ready.idle (Bool.or_false _).symm (unasked _)
  | false =>
    have answers : Answers (startLogging h) 0 { h with logging := true } [] := by
      simp only [startLogging, Run.run_bind, Run.run_get, logging]
      exact ⟨rfl, rfl, rfl⟩
    exact serves_of_answers (g := .number) rfl answers rfl rfl ready.idle (Bool.or_false _).symm (unasked _)

theorem serves_configure (ready : Ready h s) (environment : Environment) : Serves (.configure environment) h s := by
  let set : Host := { h with environment }
  have entered : Answers ((Run.modify fun h => { h with environment } : Run Host Unit) h) () set [] := ⟨rfl, rfl, rfl⟩
  obtain ⟨status, slot, configured, changed⟩ := configureFromEnvironment_run set
  obtain ⟨settings, formatter, same⟩ : ∃ settings formatter, slot = .idle { s with settings, formatter } := by
    rcases changed with kept | ⟨t, accepted, idle, reset⟩
    · exact ⟨s.settings, s.formatter, kept.trans ready.idle⟩
    · obtain rfl : s = t := Slot.idle.inj (ready.idle.symm.trans idle)
      exact ⟨accepted, accepted.formatter, reset⟩
  subst same
  have answers : Answers (perform (.configure environment) h) (.number status) _ [] :=
    Answers.bind_quiet entered (configured.map _)
  exact ⟨_, none, _, settings, formatter, relays_of_answers answers, rfl, rfl, (Bool.or_false _).symm, nofun⟩

/-- A variadic message is told like any other. It needs the set-up that binding a callback does, but
without it no callback is bound. -/
theorem assertVariadic_relays (ready : Ready h s) (room : Room) (format : Option Bytes) (args : Arguments)
    (sound : (Host.assertVariadic room true format args h).outcome ≠ .error .aborted ∨
      Call.Fits h (.assertVariadic room true format args)) :
    ∃ text lastFault, Relays s.binding (Host.assertVariadic room true format args h) .aborted () (some text)
      { h with lastFault } (sightings s.binding text) := by
  have recorded : ∀ fault, Ready { h with lastFault := some fault } s :=
    fun _ => ⟨ready.idle, ready.pointers, ready.callback, ready.hooked⟩
  by_cases hooked : h.hooked = true
  · cases format with
    | none =>
      obtain ⟨text, told⟩ := reportFormatted_relays ready none 0
      refine ⟨text, h.lastFault, Answers.bind_relays ⟨rfl, rfl, rfl⟩ ?_⟩
      rw [if_pos hooked]
      exact told
    | some format =>
      have ran := Host.assertVariadic_run hooked (messageCapacity_run ready.idle) room format args
      rw [ran]
      cases allocated : room.buffer with
      | false =>
        obtain ⟨text, told⟩ := reportFormatted_relays (recorded .noMemory) (some format) format.length
        exact ⟨text, some .noMemory, told⟩
      | true =>
        rw [allocated, if_pos rfl] at ran
        rw [if_pos rfl]
        rcases formatted : formatBytes room h.lastFault format args with (fault | _) | output
        · obtain ⟨text, told⟩ := reportFormatted_relays (recorded fault) (some []) 0
          exact ⟨text, some fault, told⟩
        · rw [formatted] at ran
          rcases sound with answered | fits
          · exact absurd (congrArg Step.outcome ran) answered
          · exact absurd formatted fits
        · obtain ⟨text, told⟩ := reportFormatted_relays ready
            (some (bufferText (bufferSize s.formatter.capacity) output)) (Message.lengthOf output)
          exact ⟨text, h.lastFault, told⟩
  -- Without the set-up the process ends at once, as it would if there were a message and nobody to tell.
  · have nobody : listens s.binding = false :=
      Bool.eq_false_iff.mpr fun listening => hooked (ready.hooked (isBound_of_listens listening))
    refine ⟨"", h.lastFault, fun somebody => by simp [nobody] at somebody, fun _ _ => ?_⟩
    simp only [Host.assertVariadic, if_true, Run.run_bind, Run.run_get, hooked]
    exact ⟨rfl, fun _ => rfl⟩

theorem serves_assertVariadic (ready : Ready h s) {room : Room} {condition : Bool} {format : Option Bytes} {args : Arguments}
    (sound : (perform (.assertVariadic room condition format args) h).outcome ≠ .error .aborted ∨
      Call.Fits h (.assertVariadic room condition format args)) : Serves (.assertVariadic room condition format args) h s := by
  cases condition with
  | false =>
    have answers : Answers (Host.assertVariadic room false format args h) () h [] := answers_pure ()
    exact serves_of_answers (g := fun _ => .nothing) rfl answers rfl rfl ready.idle (Bool.or_false _).symm nofun
  | true =>
    have soundInside : (Host.assertVariadic room true format args h).outcome ≠ .error .aborted ∨
        Call.Fits h (.assertVariadic room true format args) := by
      refine sound.imp_left fun answered ended => answered ?_
      have acted : perform (.assertVariadic room true format args) h = ⟨_, _, _⟩ :=
        Run.run_bind_pure (Host.assertVariadic room true format args) (fun _ => Reply.nothing) h
      rw [acted, ended]
      rfl
    obtain ⟨text, lastFault, told⟩ := assertVariadic_relays ready room format args soundInside
    exact serves_of_told (g := fun _ => .nothing) rfl told rfl rfl rfl ready.idle (Bool.or_false _).symm nofun

/-- Every foreign call does what is said of it. Only a variadic call whose arguments do not go with its
format could do otherwise, and then it is not answered. -/
theorem perform_serves {call : Call} (ready : Ready h s) (foreign : call.isForeign = true)
    (sound : (perform call h).outcome ≠ .error .aborted ∨ call.Fits h) : Serves call h s := by
  cases call with
  | initialise callback =>
    cases callback with
    | none => exact serves_initialise_none ready
    | some c => exact serves_initialise_some ready c
  | register cell api => exact serves_register ready cell api
  | registerWithRelease cell api release => exact serves_registerWithRelease ready cell api release
  | peek => exact serves_peek ready
  | poke content => exact serves_poke ready content
  | getNext => exact serves_getNext ready
  | verify => exact serves_verify ready
  | reset => exact serves_reset ready
  | capacity => exact serves_capacity ready
  | pending => exact serves_pending ready
  | assertVariadic room condition format args => exact serves_assertVariadic ready sound
  | assertText condition message => exact serves_assertText ready condition message
  | reportFormatted message length => exact serves_reportFormatted ready message length
  | configure environment => exact serves_configure ready environment
  | startLogging => exact serves_startLogging ready
  | sessionRegister | sessionConfigure | sessionAssert | sessionConsume | notify | wrap => cases foreign

/-! ## Runs of foreign calls -/

theorem queueAfter_pointers {call : Call} (pointers : ∀ e ∈ s.queue.items, ∃ f, e.payload = .foreign f) :
    ∀ e ∈ (call.queueAfter s).items, ∃ f, e.payload = .foreign f := by
  have appended : ∀ name f, ∀ e ∈ s.queue.items ++ [⟨name, .foreign f⟩], ∃ f, e.payload = .foreign f := by
    intro name f e member
    rcases List.mem_append.mp member with before | last
    · exact pointers e before
    · exact ⟨f, by rw [List.mem_singleton.mp last]⟩
  cases call with
  | register cell api =>
    cases api with
    | none => exact pointers
    | some name => exact appended _ _
  | registerWithRelease cell api release =>
    cases api with
    | none => exact pointers
    | some name => exact appended _ _
  | poke content =>
    intro e member
    change e ∈ (s.queue.editLatest (poked content)).items at member
    rcases Session.queue_eq_nil_or_append s.queue with items | ⟨front, last, items⟩
    · rw [items] at member
      cases member
    · rw [items, Queue.editLatest_append] at member
      rcases List.mem_append.mp member with before | isLast
      · exact pointers e (by rw [items]; exact List.mem_append_left _ before)
      · obtain ⟨f, payload⟩ := pointers last (by rw [items]; exact List.mem_append_right _ (List.mem_singleton_self _))
        rw [List.mem_singleton.mp isLast]
        exact ⟨_, congrArg (poked content) payload⟩
  | getNext => exact fun e member => pointers e (List.mem_of_mem_tail member)
  | verify | reset => exact nofun
  | _ => exact pointers

theorem bindingAfter_callback {call : Call} (callback : ∀ r, s.binding.reporter = some r → ∃ c, r = .callback c) :
    ∀ r, (call.bindingAfter s).reporter = some r → ∃ c, r = .callback c := by
  cases call with
  | initialise c =>
    cases c with
    | none => exact callback
    | some c =>
      rintro _ ⟨⟩
      exact ⟨c, rfl⟩
  | verify =>
    intro r reporter
    rw [Call.bindingAfter] at reporter
    split at reporter
    · cases reporter
    · exact callback r reporter
  | reset => exact nofun
  | _ => exact callback

theorem bindingAfter_hooked {call : Call} (hooked : s.isBound = true → h.hooked = true)
    (bound : (call.bindingAfter s).isBound = true) : (h.hooked || call.hooks) = true := by
  cases call with
  | initialise => exact Bool.or_true _
  | verify =>
    rw [Call.bindingAfter] at bound
    split at bound
    · cases bound
    · rw [hooked bound]
      rfl
  | reset => cases bound
  | _ =>
    rw [hooked bound]
    rfl

/-- A call that is answered leaves the session ready for the next. -/
theorem perform_answered {call : Call} {reply : Reply} (ready : Ready h s) (foreign : call.isForeign = true)
    (answered : (perform call h).outcome = .ok reply) :
    ∃ (text? : Option String) (after : Session),
      Ready (perform call h).state after ∧ after.queue = call.queueAfter s ∧ after.binding = call.bindingAfter s ∧
      text?.isSome = call.raises s ∧ (text?.isSome = true → s.isBound = true) ∧
      sights (perform call h).trace =
        endings (call.drained s) ++ text?.toList.flatMap (sightings s.binding) ++ endings call.refused ∧
      ∀ r, call.answer? s = some r → reply = r := by
  have sound : (perform call h).outcome ≠ .error .aborted := by simp [answered]
  obtain ⟨given, text?, after, settings, formatter, relays, raises, slot, hooked, answer⟩ :=
    perform_serves ready foreign (.inl sound)
  have somebody : text? = none ∨ listens s.binding = true := by
    by_cases none : text? = none
    · exact .inl none
    · refine .inr (Bool.not_eq_false _ ▸ fun nobody => sound ?_)
      exact (relays.unanswered none nobody).1
  obtain ⟨outcome, state, seen⟩ := relays.answered somebody
  obtain rfl : reply = given := Except.ok.inj (answered.symm.trans outcome)
  refine ⟨text?, { settings, formatter, queue := call.queueAfter s, binding := call.bindingAfter s }, ?_, rfl, rfl,
    raises, ?_, seen, answer⟩
  · rw [state]
    refine ⟨slot, queueAfter_pointers ready.pointers, bindingAfter_callback ready.callback, fun bound => ?_⟩
    rw [hooked]
    exact bindingAfter_hooked ready.hooked bound
  · intro something
    rcases somebody with none | listening
    · rw [none] at something
      cases something
    · exact isBound_of_listens listening

/-- A call that has nothing to tell is answered, whoever is bound. -/
theorem perform_quiet {call : Call} {r : Reply} (ready : Ready h s) (foreign : call.isForeign = true)
    (fits : call.Fits h) (quiet : call.raises s = false) (answer : call.answer? s = some r) :
    (perform call h).outcome = .ok r := by
  obtain ⟨reply, text?, _, _, _, relays, raises, -, -, answers⟩ := perform_serves ready foreign (.inr fits)
  have none : text? = none := by simpa [quiet] using raises
  rw [(relays.answered (.inl none)).outcome, answers r answer]

end

/-- The calls were all answered. -/
def Answered (calls : List Call) (start : Host) : Prop :=
  ∀ step ∈ Run.history perform calls start, ∃ reply, step.outcome = .ok reply

theorem Answered.head {call : Call} {rest : List Call} {start : Host} (answered : Answered (call :: rest) start) :
    ∃ reply, (perform call start).outcome = .ok reply :=
  answered _ (List.mem_cons_self ..)

theorem Answered.tail {call : Call} {rest : List Call} {start : Host} (answered : Answered (call :: rest) start) :
    Answered rest (perform call start).state :=
  fun step member => answered step (List.mem_cons_of_mem _ member)

theorem ready_fresh {start : Host} (fresh : start.slot = .fresh) : Ready start {} :=
  ⟨fresh, nofun, nofun, nofun⟩

end Boundary

end MockQueue

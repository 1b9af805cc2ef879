import MockQueue.Proofs.ExpectedCalls
import MockQueue.Proofs.Ledger

/-!
# What an operation tells

Apart from binding a reporter, an operation asks nothing of the reporter before it tells it something,
and changes nothing afterwards. So what it answers, tells, leaves and discards does not depend on the
reporter (`Tells`); the reporter only decides how far the telling gets (`Binding.ending`,
`Binding.heard`). `act_behaves` says so of every action, and that an answer owns up to just the failures
that are told. Binding a reporter included, each of these failures is told once, to the reporter that was bound
before (`failures_told_once`).
-/

namespace MockQueue

namespace Binding

/-- How telling texts one after another ends: at the first that makes the reporter unwind. -/
def ending (b : Binding) : List String → Except Unwind Unit
  | [] => .ok ()
  | text :: rest =>
    match b.fate text with
    | .ok () => b.ending rest
    | .error u => .error u

/-- Who hears which of the texts: nobody hears those after the first that unwinds. -/
def heard (b : Binding) : List String → List (Reporter × String)
  | [] => []
  | text :: rest =>
    b.reporter.toList.map (fun r => (r, text)) ++
      match b.fate text with
      | .ok () => b.heard rest
      | .error _ => []

@[simp] theorem ending_nil (b : Binding) : b.ending [] = .ok () := rfl

@[simp] theorem heard_nil (b : Binding) : b.heard [] = [] := rfl

theorem ending_single (b : Binding) (text : String) : b.ending [text] = b.fate text := by
  simp only [ending]
  cases b.fate text <;> rfl

theorem heard_single (b : Binding) (text : String) :
    b.heard [text] = b.reporter.toList.map fun r => (r, text) := by
  simp only [heard]
  cases b.fate text <;> simp

/-- More texts are told only if the first ones were all told. -/
theorem ending_append (b : Binding) (front back : List String) :
    b.ending (front ++ back) =
      match b.ending front with
      | .ok () => b.ending back
      | .error u => .error u := by
  induction front with
  | nil => rfl
  | cons text rest ih =>
    simp only [List.cons_append, ending]
    cases b.fate text with
    | ok => exact ih
    | error u => rfl

theorem heard_append (b : Binding) (front back : List String) :
    b.heard (front ++ back) =
      b.heard front ++
        match b.ending front with
        | .ok () => b.heard back
        | .error _ => [] := by
  induction front with
  | nil => rfl
  | cons text rest ih =>
    simp only [List.cons_append, heard, ending, List.append_assoc]
    cases b.fate text with
    | ok => rw [ih]
    | error u => simp

theorem ending_of_returns {r : Reporter} (returns : r.Returns) (texts : List String) :
    ending ⟨some r⟩ texts = .ok () := by
  induction texts with
  | nil => rfl
  | cons text rest ih => simp only [ending, returns.fate, ih]

/-- A reporter that comes back hears everything. -/
theorem heard_of_returns {r : Reporter} (returns : r.Returns) (texts : List String) :
    heard ⟨some r⟩ texts = texts.map fun text => (r, text) := by
  induction texts with
  | nil => rfl
  | cons text rest ih => simp [heard, returns.fate, ih]

theorem heard_unbound (texts : List String) : heard {} texts = [] := by
  cases texts <;> rfl

end Binding

namespace Session

open Message (Argument Bounded PlacesRefused)

/-! ## Steps that tell -/

/-- With the binding `b`, the step gives the answer if `b` lets all the texts be told. Whether it does
or not, the session is left as `after` and `released` is discarded. -/
structure Tells {α : Type} (b : Binding) (step : Step Session α) (answer : α) (texts : List String)
    (after : Session) (released : List Payload) : Prop where
  outcome : step.outcome = (b.ending texts).map fun _ => answer
  state : step.state = after
  heard : reports step.trace = b.heard texts
  released : drops step.trace = released

section

variable {α β : Type} {b : Binding} {s : Session}

theorem tells_pure (a : α) : Tells b ((pure a : Run Session α) s) a [] s [] :=
  ⟨rfl, rfl, rfl, rfl⟩

/-- One operation after another. Once something was told, nothing may be changed any more. -/
theorem Tells.bind {x : Run Session α} {next : α → Run Session β} {a : α} {c : β} {texts later : List String}
    {middle after : Session} {released more : List Payload} (first : Tells b (x s) a texts middle released)
    (second : Tells b (next a middle) c later after more) (settled : texts = [] ∨ after = middle ∧ more = []) :
    Tells b ((x >>= next) s) c (texts ++ later) after (released ++ more) := by
  obtain ⟨outcome, state, heard, dropped⟩ := first
  rw [Run.run_bind, outcome, state]
  cases ended : b.ending texts with
  | ok =>
    refine ⟨?_, second.state, ?_, ?_⟩
    · simp [b.ending_append, ended, Except.map, second.outcome]
    · simp [b.heard_append, ended, Except.map, heard, second.heard]
    · simp [Except.map, dropped, second.released]
  | error u =>
    -- The second operation is not reached, so it must have nothing to change or discard.
    rcases settled with none | ⟨rfl, rfl⟩
    · simp [none] at ended
    · refine ⟨?_, rfl, ?_, ?_⟩
      · simp [b.ending_append, ended, Except.map]
      · simp [b.heard_append, ended, Except.map, heard]
      · simp [Except.map, dropped]

/-- A first operation that tells nothing and discards nothing adds nothing. -/
theorem Tells.bind_quiet {x : Run Session α} {next : α → Run Session β} {a : α} {c : β} {texts : List String}
    {middle after : Session} {released : List Payload} (first : Tells b (x s) a [] middle [])
    (second : Tells b (next a middle) c texts after released) : Tells b ((x >>= next) s) c texts after released :=
  first.bind second (.inl rfl)

theorem Tells.map {x : Run Session α} {a : α} {texts : List String} {after : Session} {released : List Payload}
    (told : Tells b (x s) a texts after released) (g : α → β) :
    Tells b ((x >>= fun a => pure (g a)) s) (g a) texts after released := by
  rw [Run.run_bind_pure]
  refine ⟨?_, told.state, told.heard, told.released⟩
  rw [told.outcome]
  cases b.ending texts <;> rfl

end

/-! ## Operations that only tell -/

/-- The session with another binding. -/
def under (s : Session) (b : Binding) : Session :=
  { s with binding := b }

section

variable {α : Type} (s : Session) (b : Binding)

theorem deliver_tells (message : Bounded) :
    Tells b (deliver message (s.under b)) () [message.text] (s.under b) [] := by
  rw [deliver_run]
  refine ⟨?_, rfl, ?_, drops_told ..⟩
  · rw [Binding.ending_single]
    change b.fate message.text = _
    cases b.fate message.text <;> rfl
  · rw [Binding.heard_single, reports_told]
    rfl

theorem fail_eq_deliver (text : String) : fail text s = deliver (s.formatter.compose [text] false) s := by
  rw [fail_run, deliver_run]

theorem raise_tells (e : Error) :
    Tells b ((raise e : Run Session (Except Error α)) (s.under b)) (.error e)
      [(s.formatter.compose [e.message] false).text] (s.under b) [] := by
  have told : Tells b (fail e.message (s.under b)) () [(s.formatter.compose [e.message] false).text]
      (s.under b) [] := by
    rw [fail_eq_deliver]
    exact deliver_tells s b (s.formatter.compose [e.message] false)
  exact told.map fun _ => Except.error e

theorem assertPieces_tells (condition : Bool) (pieces : List String) (keepGoing : Bool) :
    Tells b (assertPieces condition pieces keepGoing (s.under b)) ()
      (if condition then [(s.formatter.compose pieces keepGoing).text] else []) (s.under b) [] := by
  cases condition with
  | true => exact deliver_tells s b (s.formatter.compose pieces keepGoing)
  | false => exact tells_pure ()

end

/-- A check tells one failure if it does not accept, and none if it does. -/
theorem checkArgument_tells (s : Session) (api param : String) (expected : Expected Value) (actual : Value) :
    ∃ texts, texts.length = (!expected.accepts Value.same actual).toNat ∧ ∀ b,
      Tells b (checkArgument api param expected actual (s.under b)) (expected.accepts Value.same actual) texts
        (s.under b) [] := by
  let pieces := [api, "(): parameter '", param, "' expected ", String.ofList expected.value.shown, ", got ",
    String.ofList actual.shown]
  let condition := !expected.accepts Value.same actual
  refine ⟨if condition then [(s.formatter.compose pieces false).text] else [], ?_, fun b => ?_⟩
  · change _ = condition.toNat
    cases condition <;> rfl
  · exact (assertPieces_tells s b condition pieces false).map fun _ => expected.accepts Value.same actual

theorem checkBytes_tells (s : Session) (api param : String) (expected : Option (List UInt8)) (actual : List UInt8) :
    ∃ (accepted : Bool) (texts : List String), texts.length = (!accepted).toNat ∧ ∀ b,
      Tells b (checkBytes api param expected actual (s.under b)) accepted texts (s.under b) [] := by
  have refused : ∀ pieces, ∃ (accepted : Bool) (texts : List String), texts.length = (!accepted).toNat ∧ ∀ b,
      Tells b ((assertPieces true pieces false >>= fun _ => pure false) (s.under b)) accepted texts (s.under b) [] :=
    fun pieces => ⟨false, [(s.formatter.compose pieces false).text], rfl, fun b =>
      (assertPieces_tells s b true pieces false).map fun _ => false⟩
  cases expected with
  | none => exact ⟨true, [], rfl, fun _ => tells_pure true⟩
  | some expected =>
    by_cases sameLength : expected.length = actual.length
    · simp only [checkBytes, sameLength, ne_eq, not_true_eq_false, if_false]
      cases firstDifference expected actual with
      | none => exact ⟨true, [], rfl, fun _ => tells_pure true⟩
      | some place => exact refused _
    · simp only [checkBytes, sameLength, ne_eq, not_false_eq_true, if_true]
      exact refused _

/-! ## Failures that an answer owns up to -/

namespace Action

/-- Whether the action is to tell a failure of the program's own. -/
def asserts : Action → Bool
  | command (.assertWith condition _ _) => condition
  | command (.assertPieces condition _ _) => condition
  | command (.fail _) => true
  | command (.failPreformatted _ _) => true
  | command (.unexpectedCall _) => true
  | _ => false

/-- Whether the action checks one thing and answers if it is as expected. -/
def checks : Action → Bool
  | command (.checkArgument _ _ _ _) => true
  | command (.checkBytes _ _ _ _) => true
  | _ => false

/-- How many failures an answer of the action owns up to. It is at most one, but for the call of a stub,
which checks two things. -/
def failures (a : Action) : Answer → Nat
  | .failed _ => 1
  | .truth accepted => (a.checks && !accepted).toNat
  | .served fd data _ => (!fd).toNat + (!data).toNat
  | .unexpected => 1
  | _ => a.asserts.toNat

/-- Whether the action unbinds the reporter under the settings. -/
def unbinds (a : Action) (settings : Settings) : Bool :=
  match a with
  | command .reset => true
  | command .verify => settings.unbindOnVerify
  | _ => false

/-- What the action leaves of a binding, if it does not bind a reporter itself. -/
def bindingAfter (a : Action) (settings : Settings) (b : Binding) : Binding :=
  if a.unbinds settings then {} else b

/-- Whether the action can take something from the queue and then tell of it. -/
def takes : Action → Bool
  | command .verify => true
  | command (.consumeAs _ _) => true
  | command (.call _ _ _) => true
  | _ => false

/-- The request for which the action gets no message to tell. -/
def refusal? (a : Action) (formatter : Message.Formatter) : Option PlacesRefused :=
  match a with
  | command (.assertWith true template args) =>
    match formatter.format template args with
    | .ok _ => none
    | .error refusal => some refusal
  | _ => none

end Action

/-- The texts are the failures that the answer owns up to. An error is told in its own words, but for the
one on expectations that were left over, and always says that the test failed. -/
structure Owns (a : Action) (s : Session) (answer : Answer) (texts : List String) : Prop where
  count : texts.length = a.failures answer
  testFailure : ∀ e, answer = .failed e → e.isTestFailure = true
  wording : ∀ e, answer = .failed e → (∀ count listing, e ≠ .unfulfilled count listing) →
    texts = [(s.formatter.compose [e.message] false).text]

/-- What the action does to the session is settled before a reporter comes into play, and its answer owns
up to what it tells. If it tells something, only an action that takes from the queue changed anything. -/
def Behaves (a : Action) (s : Session) : Prop :=
  ∃ (answer : Answer) (texts : List String) (after : Session) (released : List Payload),
    Owns a s answer texts ∧
    (texts ≠ [] → a.takes = false →
      released = [] ∧ ∀ b, after.under (a.bindingAfter s.settings b) = s.under b) ∧
    ∀ b, Tells b (act a (s.under b)) answer texts (after.under (a.bindingAfter s.settings b)) released

section

variable {α : Type} {a : Action} {s after : Session}

theorem owns_of_success {answer : Answer} {texts : List String} (count : texts.length = a.failures answer)
    (success : ∀ e, answer ≠ .failed e) : Owns a s answer texts :=
  ⟨count, fun e failed => absurd failed (success e), fun e failed => absurd failed (success e)⟩

theorem owns_error {e : Error} (testFailure : e.isTestFailure = true) :
    Owns a s (.failed e) [(s.formatter.compose [e.message] false).text] := by
  refine ⟨rfl, ?_, ?_⟩
  · rintro _ ⟨⟩
    exact testFailure
  · rintro _ ⟨⟩ _
    rfl

/-- An action that only tells. -/
theorem behaves_of_tells {x : Run Session α} {g : α → Answer} {answer : α} {texts : List String}
    (acts : act a = (do return g (← x))) (owns : Owns a s (g answer) texts) (keeps : a.unbinds s.settings = false)
    (told : ∀ b, Tells b (x (s.under b)) answer texts (s.under b) []) : Behaves a s := by
  have kept : ∀ b, s.under (a.bindingAfter s.settings b) = s.under b := by
    intro b
    rw [Action.bindingAfter, keeps]
    rfl
  refine ⟨g answer, texts, s, [], owns, fun _ _ => ⟨rfl, kept⟩, fun b => ?_⟩
  rw [acts, kept]
  exact (told b).map g

/-- An action that ends in the report of an error. -/
theorem behaves_of_raise {x : Run Session (Except Error α)} {g : α → Answer} {e : Error}
    (acts : act a = (do return .ofExcept g (← x))) (raised : ∀ b, x (s.under b) = raise e (s.under b))
    (testFailure : e.isTestFailure = true) (keeps : a.unbinds s.settings = false) : Behaves a s := by
  have told : ∀ b, Tells b (x (s.under b)) (.error e) [(s.formatter.compose [e.message] false).text]
      (s.under b) [] := by
    intro b
    rw [raised b]
    exact raise_tells s b e
  exact behaves_of_tells acts (owns_error testFailure) keeps told

/-- An action that tells nothing. -/
theorem behaves_of_quiet {x : Run Session α} {g : α → Answer} {answer : α} {trace : List Entry}
    (acts : act a = (do return g (← x)))
    (ended : ∀ b, x (s.under b) = ⟨.ok answer, after.under (a.bindingAfter s.settings b), trace⟩)
    (silent : reports trace = []) (none : a.failures (g answer) = 0) (success : ∀ e, g answer ≠ .failed e) :
    Behaves a s := by
  refine ⟨g answer, [], after, drops trace, owns_of_success none.symm success, fun told => absurd rfl told, ?_⟩
  intro b
  have quiet : Tells b (x (s.under b)) answer [] (after.under (a.bindingAfter s.settings b)) (drops trace) := by
    rw [ended b]
    exact ⟨rfl, rfl, silent, rfl⟩
  rw [acts]
  exact quiet.map g

end

/-! ## What each action tells -/

section

variable (s : Session)

/-- Whichever reporter is bound, the queue is empty or has a latest expectation. -/
theorem under_queue_back :
    (∀ b, (s.under b).queue = {}) ∨ ∃ front e, ∀ b, (s.under b).queue = { items := front ++ [e] } := by
  rcases queue_eq_nil_or_append s.queue with items | ⟨front, e, items⟩
  · exact .inl fun _ => items
  · exact .inr ⟨front, e, fun _ => items⟩

theorem under_queue_front :
    (∀ b, (s.under b).queue = {}) ∨ ∃ e rest, ∀ b, (s.under b).queue = { items := e :: rest } := by
  cases items : s.queue.items with
  | nil => exact .inl fun _ => congrArg Queue.mk items
  | cons e rest => exact .inr ⟨e, rest, fun _ => congrArg Queue.mk items⟩

theorem behaves_reset : Behaves (.command .reset) s := by
  let after : Session := { s with queue := {} }
  have ended : ∀ b, reset (s.under b) =
      ⟨.ok (), after.under {}, (s.queue.items.map Expectation.payload).flatMap Payload.discard
        ++ [.logged (.sessionReset s.queue.items.length) none]⟩ := fun b => reset_run (s.under b)
  exact behaves_of_quiet (g := fun _ => .nothing) rfl ended (by simp) rfl nofun

/-- Expectations that are left over are told in one message, whoever was bound when verifying began. -/
theorem behaves_verify : Behaves (.command .verify) s := by
  let after : Session := { s with queue := {} }
  rcases s.under_queue_front with items | ⟨e, rest, items⟩
  · have ended : ∀ b, verify (s.under b) =
        ⟨.ok (.ok ()), after.under (Action.bindingAfter (.command .verify) s.settings b),
          [.logged .allFulfilled none]⟩ :=
      fun b => verify_run_nil (items b)
    exact behaves_of_quiet (g := Answer.ofExcept fun _ => .done) rfl ended rfl rfl nofun
  · let error := Error.unfulfilled (rest.length + 1) (Queue.listing (e :: rest))
    have owns : Owns (.command .verify) s (.failed error) [(s.leftOverMessage (e :: rest)).text] := by
      refine ⟨rfl, ?_, ?_⟩
      · rintro _ ⟨⟩
        rfl
      · rintro _ ⟨⟩ other
        exact absurd rfl (other _ _)
    refine ⟨_, _, after, (e :: rest).map Expectation.payload, owns, nofun, fun b => ?_⟩
    have told : Tells b (verify (s.under b)) (.error error) [(s.leftOverMessage (e :: rest)).text]
        (after.under (Action.bindingAfter (.command .verify) s.settings b)) ((e :: rest).map Expectation.payload) := by
      rw [verify_run_cons (items b)]
      refine ⟨?_, rfl, ?_, ?_⟩
      · rw [Binding.ending_single]
        rfl
      · rw [reports_append, reports_discardAll, Binding.heard_single]
        exact reports_told ..
      · simp
    exact told.map (Answer.ofExcept fun _ => .done)

/-! ### Looking at the latest expectation -/

theorem behaves_of_peekLatest {a : Action} {g : Payload → Answer}
    (acts : act a = (do return .ofExcept g (← peekLatest))) (keeps : a.unbinds s.settings = false)
    (none : ∀ p, a.failures (g p) = 0) (success : ∀ p e, g p ≠ .failed e) : Behaves a s := by
  rcases s.under_queue_back with items | ⟨front, e, items⟩
  · exact behaves_of_raise acts (fun b => peekLatest_run_nil (items b)) rfl keeps
  · have ended : ∀ b, peekLatest (s.under b) =
        ⟨.ok (.ok e.payload), s.under (a.bindingAfter s.settings b), []⟩ := by
      intro b
      rw [Action.bindingAfter, keeps]
      exact peekLatest_run (items b)
    exact behaves_of_quiet acts ended rfl (none e.payload) (success e.payload)

theorem behaves_peekAs (kind : Kind) (api : String) : Behaves (.command (.peekAs kind api)) s := by
  rcases s.under_queue_back with items | ⟨front, e, items⟩
  · exact behaves_of_raise (x := peekLatestAs kind api) rfl (fun b => peekLatestAs_run_nil (items b) kind api) rfl rfl
  · by_cases same : e.payload.kind = kind
    · subst same
      have ended : ∀ b, peekLatestAs e.payload.kind api (s.under b) = ⟨.ok (.ok e.payload), s.under b, []⟩ :=
        fun b => peekLatestAs_run (items b) api
      exact behaves_of_quiet (g := Answer.ofExcept .held) rfl ended rfl rfl nofun
    · exact behaves_of_raise (x := peekLatestAs kind api) rfl
        (fun b => peekLatestAs_run_other (items b) same api) rfl rfl

/-- A change through a look for one kind. -/
theorem behaves_of_editLatestAs {a : Action} {kind : Kind} {api : String} {f : Payload → Payload}
    (acts : act a = (do return .ofExcept (fun _ => .done) (← editLatestAs kind api f)))
    (keeps : a.unbinds s.settings = false) (none : a.failures .done = 0) : Behaves a s := by
  rcases s.under_queue_back with items | ⟨front, e, items⟩
  · exact behaves_of_raise acts (fun b => look_raises (peekLatestAs_run_nil (items b) kind api) _) rfl keeps
  · by_cases same : e.payload.kind = kind
    · subst same
      let after : Session := { s with queue := { items := front ++ [{ e with payload := f e.payload }] } }
      have ended : ∀ b, editLatestAs e.payload.kind api f (s.under b) =
          ⟨.ok (.ok ()), after.under (a.bindingAfter s.settings b), []⟩ := by
        intro b
        rw [Action.bindingAfter, keeps]
        exact editLatestAs_run (items b) api f
      exact behaves_of_quiet acts ended rfl none nofun
    · exact behaves_of_raise acts (fun b => look_raises (peekLatestAs_run_other (items b) same api) _) rfl keeps

theorem behaves_alter (f : Payload → Payload) : Behaves (.alter f) s := by
  rcases s.under_queue_back with items | ⟨front, e, items⟩
  · exact behaves_of_raise (x := alterLatest f) rfl (fun b => look_raises (peekLatest_run_nil (items b)) _) rfl rfl
  · let after : Session := { s with queue := { items := front ++ [{ e with payload := f e.payload }] } }
    have ended : ∀ b, alterLatest f (s.under b) = ⟨.ok (.ok ()), after.under b, []⟩ :=
      fun b => alterLatest_run (items b) f
    exact behaves_of_quiet (g := Answer.ofExcept fun _ => .done) rfl ended rfl rfl nofun

theorem behaves_replace (payload : Payload) : Behaves (.replace payload) s := by
  rcases s.under_queue_back with items | ⟨front, e, items⟩
  · exact behaves_of_raise (x := replaceLatest payload) rfl
      (fun b => look_raises (peekLatest_run_nil (items b)) _) rfl rfl
  · let after : Session := { s with queue := { items := front ++ [{ e with payload := payload }] } }
    have ended : ∀ b, replaceLatest payload (s.under b) = ⟨.ok (.ok ()), after.under b, e.payload.discard⟩ :=
      fun b => replaceLatest_run (items b) payload
    exact behaves_of_quiet (g := Answer.ofExcept fun _ => .done) rfl ended (reports_discard _) rfl nofun

theorem behaves_overwrite (payload : Payload) : Behaves (.command (.overwrite payload)) s := by
  rcases s.under_queue_back with items | ⟨front, e, items⟩
  · exact behaves_of_raise (x := overwriteLatest payload) rfl
      (fun b => look_raises (peekLatest_run_nil (items b)) _) rfl rfl
  · by_cases same : e.payload.kind = payload.kind
    · let after : Session := { s with queue := { items := front ++ [{ e with payload := payload }] } }
      have ended : ∀ b, overwriteLatest payload (s.under b) =
          ⟨.ok (.ok true), after.under b, e.payload.discard⟩ := fun b => overwriteLatest_run_same (items b) same
      exact behaves_of_quiet (g := Answer.ofExcept .truth) rfl ended (reports_discard _) rfl nofun
    · have ended : ∀ b, overwriteLatest payload (s.under b) = ⟨.ok (.ok false), s.under b, []⟩ :=
        fun b => overwriteLatest_run_other (items b) same
      exact behaves_of_quiet (g := Answer.ofExcept .truth) rfl ended rfl rfl nofun

theorem behaves_overwriteAs (api : String) (payload : Payload) :
    Behaves (.command (.overwriteAs api payload)) s := by
  rcases s.under_queue_back with items | ⟨front, e, items⟩
  · exact behaves_of_raise (x := overwriteLatestAs api payload) rfl
      (fun b => look_raises (peekLatestAs_run_nil (items b) payload.kind api) _) rfl rfl
  · by_cases same : e.payload.kind = payload.kind
    · let after : Session := { s with queue := { items := front ++ [{ e with payload := payload }] } }
      have ended : ∀ b, overwriteLatestAs api payload (s.under b) =
          ⟨.ok (.ok ()), after.under b, e.payload.discard⟩ := fun b => overwriteLatestAs_run (items b) same api
      exact behaves_of_quiet (g := Answer.ofExcept fun _ => .done) rfl ended (reports_discard _) rfl nofun
    · exact behaves_of_raise (x := overwriteLatestAs api payload) rfl
        (fun b => look_raises (peekLatestAs_run_other (items b) same api) _) rfl rfl

/-! ### Appending and taking -/

theorem behaves_register (api : String) (payload : Payload) : Behaves (.command (.register api payload)) s := by
  let after : Session := { s with queue := { items := s.queue.items ++ [⟨api, payload⟩] } }
  have ended : ∀ b, register api payload (s.under b) =
      ⟨.ok (), after.under b, [.logged (.registering api payload.typeName (s.queue.length + 1)) none]⟩ :=
    fun b => register_run api payload (s.under b)
  exact behaves_of_quiet (g := fun _ => Answer.nothing) rfl ended rfl rfl nofun

theorem behaves_expect (stub : Stub) (c : Conditions) : Behaves (.command (.expect stub c)) s := by
  let after : Session := { s with queue := { items := s.queue.items ++ [⟨stub.name, .conditions stub c⟩] } }
  have ended : ∀ b, expect stub c (s.under b) =
      ⟨.ok (), after.under b,
        [.logged (.registering stub.name (Payload.conditions stub c).typeName (s.queue.length + 1)) none]⟩ :=
    fun b => register_run stub.name (.conditions stub c) (s.under b)
  exact behaves_of_quiet (g := fun _ => Answer.nothing) rfl ended rfl rfl nofun

theorem behaves_consume : Behaves (.command .consume) s := by
  rcases s.under_queue_front with items | ⟨e, rest, items⟩
  · have ended : ∀ b, consumeNext (s.under b) = ⟨.ok none, s.under b, [.logged .consumedNothing none]⟩ :=
      fun b => consumeNext_run_nil (items b)
    exact behaves_of_quiet (g := Answer.ofPayload?) rfl ended rfl rfl nofun
  · let after : Session := { s with queue := { items := rest } }
    have ended : ∀ b, consumeNext (s.under b) =
        ⟨.ok (some e.payload), after.under b, [.logged (.consumed e.api rest.length) none]⟩ :=
      fun b => consumeNext_run_cons (items b)
    exact behaves_of_quiet (g := Answer.ofPayload?) rfl ended rfl rfl nofun

/-- What is taken as one of another kind is discarded before it is told. -/
theorem consumeNextAs_tells_other {s : Session} {b : Binding} {e : Expectation} {rest : List Expectation}
    (items : (s.under b).queue = { items := e :: rest }) {kind : Kind} (other : e.payload.kind ≠ kind)
    (api : String) :
    Tells b (consumeNextAs kind api (s.under b)) (.error (.payloadTypeMismatch api e.api))
      [(s.formatter.compose [(Error.payloadTypeMismatch api e.api).message] false).text]
      ({ s with queue := { items := rest } : Session }.under b) [e.payload] := by
  rw [consumeNextAs_run_other items other api]
  simp only [raise_run]
  refine ⟨?_, rfl, ?_, ?_⟩
  · rw [Binding.ending_single]
    rfl
  · rw [Binding.heard_single, reports_append, reports_append, reports_discard, reports_told]
    rfl
  · simp

theorem behaves_consumeAs (kind : Kind) (api : String) : Behaves (.command (.consumeAs kind api)) s := by
  rcases s.under_queue_front with items | ⟨e, rest, items⟩
  · have ended : ∀ b, consumeNextAs kind api (s.under b) =
        ⟨.ok (.ok none), s.under b, [.logged .consumedNothing none]⟩ :=
      fun b => consumeNextAs_run_nil (items b) kind api
    exact behaves_of_quiet (g := Answer.ofExcept .ofPayload?) rfl ended rfl rfl nofun
  · let after : Session := { s with queue := { items := rest } }
    by_cases same : e.payload.kind = kind
    · subst same
      have ended : ∀ b, consumeNextAs e.payload.kind api (s.under b) =
          ⟨.ok (.ok (some e.payload)), after.under b, [.logged (.consumed e.api rest.length) none]⟩ :=
        fun b => consumeNextAs_run_same (items b) api
      exact behaves_of_quiet (g := Answer.ofExcept .ofPayload?) rfl ended rfl rfl nofun
    · have owns : Owns (.command (.consumeAs kind api)) s (.failed (.payloadTypeMismatch api e.api)) _ :=
        owns_error rfl
      exact ⟨_, _, after, [e.payload], owns, nofun, fun b =>
        (consumeNextAs_tells_other (items b) same api).map (Answer.ofExcept .ofPayload?)⟩

/-! ### Asserting and checking -/

theorem behaves_assertPieces (condition : Bool) (pieces : List String) (keepGoing : Bool) :
    Behaves (.command (.assertPieces condition pieces keepGoing)) s := by
  have owns : Owns (.command (.assertPieces condition pieces keepGoing)) s .nothing
      (if condition then [(s.formatter.compose pieces keepGoing).text] else []) :=
    owns_of_success (by cases condition <;> rfl) nofun
  exact behaves_of_tells (g := fun _ => Answer.nothing) rfl owns rfl fun b =>
    assertPieces_tells s b condition pieces keepGoing

/-- An action that tells one message and answers nothing. -/
theorem behaves_of_deliver {a : Action} {x : Run Session Unit} {message : Bounded}
    (acts : act a = (do x; return .nothing)) (asserts : a.asserts = true) (keeps : a.unbinds s.settings = false)
    (delivers : ∀ b, x (s.under b) = deliver message (s.under b)) : Behaves a s := by
  have one : 1 = a.asserts.toNat := by rw [asserts, Bool.toNat_true]
  have owns : Owns a s .nothing [message.text] := owns_of_success one nofun
  have told : ∀ b, Tells b (x (s.under b)) () [message.text] (s.under b) [] := by
    intro b
    rw [delivers b]
    exact deliver_tells s b message
  exact behaves_of_tells (g := fun _ => Answer.nothing) acts owns keeps told

theorem behaves_fail (text : String) : Behaves (.command (.fail text)) s := by
  have delivers : ∀ b, fail text (s.under b) = deliver (s.formatter.compose [text] false) (s.under b) :=
    fun b => fail_eq_deliver (s.under b) text
  exact behaves_of_deliver s rfl rfl rfl delivers

theorem behaves_failPreformatted (text : String) (truncated : Bool) :
    Behaves (.command (.failPreformatted text truncated)) s := by
  have delivers : ∀ b, failPreformatted text truncated (s.under b) =
      deliver (s.formatter.bound text truncated) (s.under b) :=
    fun b => failPreformatted_run text truncated (s.under b)
  exact behaves_of_deliver s rfl rfl rfl delivers

theorem behaves_unexpectedCall (api : String) : Behaves (.command (.unexpectedCall api)) s := by
  have delivers : ∀ b, unexpectedCall api (s.under b) =
      deliver (s.formatter.compose ["Unexpected call to ", api, "(): no expectations remaining"] false) (s.under b) :=
    fun _ => rfl
  exact behaves_of_deliver s rfl rfl rfl delivers

theorem behaves_assertWith {condition : Bool} {template : String} {args : List Argument}
    (formats : Action.refusal? (.command (.assertWith condition template args)) s.formatter = none) :
    Behaves (.command (.assertWith condition template args)) s := by
  cases condition with
  | false =>
    exact behaves_of_tells (g := fun _ => Answer.nothing) rfl (owns_of_success rfl nofun) rfl fun _ => tells_pure ()
  | true =>
    cases formatted : s.formatter.format template args with
    | error refusal => simp [Action.refusal?, formatted] at formats
    | ok message =>
      have delivers : ∀ b, assertWith true template args (s.under b) = deliver message (s.under b) := by
        intro b
        rw [deliver_run]
        exact report_run_ok (s := s.under b) formatted b
      exact behaves_of_deliver s rfl rfl rfl delivers

/-! ### Calling a stub -/

variable {s} {b : Binding}

theorem call_tells_nil (items : (s.under b).queue = {}) (stub : Stub) (fd : Int32) (data : List UInt8) :
    Tells b (call stub fd data (s.under b)) (.ok .unexpected)
      [(s.formatter.compose ["Unexpected call to ", stub.name, "(): no expectations remaining"] false).text]
      (s.under b) [] := by
  have taken : Tells b (consumeNextAs (.conditions stub) stub.name (s.under b)) (.ok none) [] (s.under b) [] := by
    rw [consumeNextAs_run_nil items]
    exact ⟨rfl, rfl, rfl, rfl⟩
  have told := assertPieces_tells s b true ["Unexpected call to ", stub.name, "(): no expectations remaining"] false
  exact taken.bind_quiet (told.map _)

/-- A call whose conditions come next tells what the two checks tell. -/
theorem call_tells_same {api : String} {stub : Stub} {c : Conditions} {rest : List Expectation}
    (items : ∀ b, (s.under b).queue = { items := ⟨api, .conditions stub c⟩ :: rest }) (fd : Int32)
    (data : List UInt8) :
    ∃ (fdAccepted dataAccepted : Bool) (texts : List String),
      texts.length = (!fdAccepted).toNat + (!dataAccepted).toNat ∧
        ∀ b, Tells b (call stub fd data (s.under b)) (.ok (.served fdAccepted dataAccepted c.retval)) texts
          ({ s with queue := { items := rest } : Session }.under b) [] := by
  let after : Session := { s with queue := { items := rest } }
  have taken : ∀ b, Tells b (consumeNextAs (.conditions stub) stub.name (s.under b))
      (.ok (some (.conditions stub c))) [] (after.under b) [] := by
    intro b
    have ran := consumeNextAs_run_same (items b) stub.name
    change consumeNextAs (.conditions stub) stub.name (s.under b) = _ at ran
    rw [ran]
    exact ⟨rfl, rfl, rfl, rfl⟩
  obtain ⟨fdTexts, fdCount, fdTold⟩ := checkArgument_tells after stub.name "fd"
    ⟨.int32 c.fd.value, c.fd.ignored⟩ (.int32 fd)
  obtain ⟨dataAccepted, dataTexts, dataCount, dataTold⟩ := checkBytes_tells after stub.name "buf" c.data data
  refine ⟨_, dataAccepted, fdTexts ++ dataTexts, by rw [List.length_append, fdCount, dataCount], fun b => ?_⟩
  exact (taken b).bind_quiet (Tells.bind (fdTold b) ((dataTold b).map _) (.inr ⟨rfl, rfl⟩))

theorem call_tells_other {e : Expectation} {rest : List Expectation}
    (items : (s.under b).queue = { items := e :: rest }) {stub : Stub} (other : e.payload.kind ≠ .conditions stub)
    (fd : Int32) (data : List UInt8) :
    Tells b (call stub fd data (s.under b)) (.error (.payloadTypeMismatch stub.name e.api))
      [(s.formatter.compose [(Error.payloadTypeMismatch stub.name e.api).message] false).text]
      ({ s with queue := { items := rest } : Session }.under b) [e.payload] := by
  have taken := consumeNextAs_tells_other items other stub.name
  unfold call
  exact taken.bind (tells_pure _) (.inr ⟨rfl, rfl⟩)

variable (s) in
theorem behaves_call (stub : Stub) (fd : Int32) (data : List UInt8) : Behaves (.command (.call stub fd data)) s := by
  rcases s.under_queue_front with items | ⟨⟨api, payload⟩, rest, items⟩
  · have owns : Owns (.command (.call stub fd data)) s .unexpected
        [(s.formatter.compose ["Unexpected call to ", stub.name, "(): no expectations remaining"] false).text] :=
      owns_of_success rfl nofun
    exact ⟨_, _, s, [], owns, nofun, fun b => (call_tells_nil (items b) stub fd data).map (Answer.ofExcept .ofCall)⟩
  · let after : Session := { s with queue := { items := rest } }
    by_cases same : payload.kind = .conditions stub
    · obtain ⟨c, rfl⟩ : ∃ c, payload = .conditions stub c := by
        cases payload with
        | conditions owner c =>
          cases same
          exact ⟨c, rfl⟩
        | plain | tracked | foreign => cases same
      obtain ⟨fdAccepted, dataAccepted, texts, count, told⟩ := call_tells_same items fd data
      have owns : Owns (.command (.call stub fd data)) s (.served fdAccepted dataAccepted c.retval) texts :=
        owns_of_success count nofun
      exact ⟨_, _, after, [], owns, nofun, fun b => (told b).map (Answer.ofExcept .ofCall)⟩
    · have owns : Owns (.command (.call stub fd data)) s (.failed (.payloadTypeMismatch stub.name api)) _ :=
        owns_error rfl
      exact ⟨_, _, after, [payload], owns, nofun, fun b =>
        (call_tells_other (items b) same fd data).map (Answer.ofExcept .ofCall)⟩

end

/-- What every action does, but for binding a reporter, if it gets a message to tell. -/
theorem act_behaves {a : Action} {s : Session} (noBinding : ∀ r, a ≠ .command (.bindReporter r))
    (formats : a.refusal? s.formatter = none) : Behaves a s := by
  rcases a with c | f | ⟨kind, api, f⟩ | payload
  · cases c with
    | bindReporter r => exact absurd rfl (noBinding r)
    | reset => exact behaves_reset s
    | verify => exact behaves_verify s
    | register api payload => exact behaves_register s api payload
    | peek => exact behaves_of_peekLatest (g := .held) s rfl rfl (fun _ => rfl) (fun _ => nofun)
    | peekIs kind =>
      exact behaves_of_peekLatest (g := fun p => .truth (p.kind = kind)) s rfl rfl (fun _ => rfl) (fun _ => nofun)
    | overwrite payload => exact behaves_overwrite s payload
    | peekAs kind api => exact behaves_peekAs s kind api
    | overwriteAs api payload => exact behaves_overwriteAs s api payload
    | consume => exact behaves_consume s
    | consumeAs kind api => exact behaves_consumeAs s kind api
    | assertWith condition template args => exact behaves_assertWith s formats
    | assertPieces condition pieces keepGoing => exact behaves_assertPieces s condition pieces keepGoing
    | fail text => exact behaves_fail s text
    | failPreformatted text truncated => exact behaves_failPreformatted s text truncated
    | unexpectedCall api => exact behaves_unexpectedCall s api
    | checkArgument api param expected actual =>
      obtain ⟨texts, count, told⟩ := checkArgument_tells s api param expected actual
      exact behaves_of_tells rfl (owns_of_success count nofun) rfl told
    | checkBytes api param expected actual =>
      obtain ⟨accepted, texts, count, told⟩ := checkBytes_tells s api param expected actual
      exact behaves_of_tells rfl (owns_of_success count nofun) rfl told
    | expect stub c => exact behaves_expect s stub c
    | ignoreFd stub => exact behaves_of_editLatestAs s rfl rfl rfl
    | setData stub data => exact behaves_of_editLatestAs s rfl rfl rfl
    | call stub fd data => exact behaves_call s stub fd data
  · exact behaves_alter s f
  · exact behaves_of_editLatestAs s rfl rfl rfl
  · exact behaves_replace s payload

/-- Without a message there is nothing to tell, whoever is bound. -/
theorem act_refused {a : Action} {s : Session} {refusal : PlacesRefused}
    (refused : a.refusal? s.formatter = some refusal) (b : Binding) :
    act a (s.under b) = ⟨.error (.placesRefused refusal), s.under b, []⟩ := by
  rcases a with c | _ | _ | _
  · cases c with
    | assertWith condition template args =>
      cases condition with
      | false => cases refused
      | true =>
        cases formatted : s.formatter.format template args with
        | ok message => simp [Action.refusal?, formatted] at refused
        | error found =>
          obtain rfl : found = refusal := by simpa [Action.refusal?, formatted] using refused
          simp [act, perform, assertWith, report, under, Run.run_bind, formatted, Except.map]
    | _ => cases refused
  all_goals cases refused

/-! ## Binding a reporter -/

theorem bindReporter_run_unbound (s : Session) (q : Reporter) :
    bindReporter q (s.under {}) = ⟨.ok (.ok ()), s.under ⟨some q⟩, [.logged (.reporterBound false) none]⟩ := rfl

/-- A reporter takes the place of another once that one was told. -/
theorem bindReporter_run_bound (s : Session) (r q : Reporter) :
    bindReporter q (s.under ⟨some r⟩) =
      (let message := s.formatter.compose [Error.reporterAlreadyBound.message] false
       let told := (s.under ⟨some r⟩).told ⟨some r⟩ message
       match Binding.fate ⟨some r⟩ message.text with
       | .ok () =>
         ⟨.ok (.error .reporterAlreadyBound), s.under ⟨some q⟩, told ++ [.logged (.reporterBound true) none]⟩
       | .error u => ⟨.error u, s.under ⟨some r⟩, told⟩) := by
  have bound : (s.under ⟨some r⟩).isBound = true := rfl
  let message := s.formatter.compose [Error.reporterAlreadyBound.message] false
  have told : fail Error.reporterAlreadyBound.message (s.under ⟨some r⟩) =
      ⟨Binding.fate ⟨some r⟩ message.text, s.under ⟨some r⟩, (s.under ⟨some r⟩).told ⟨some r⟩ message⟩ :=
    fail_run _ (s.under ⟨some r⟩)
  simp only [bindReporter, Run.run_bind, Run.run_get, bound, if_true, told]
  cases Binding.fate ⟨some r⟩ message.text <;> rfl

theorem bindReporter_run_returns (s : Session) {r : Reporter} (returns : r.Returns) (q : Reporter) :
    bindReporter q (s.under ⟨some r⟩) =
      ⟨.ok (.error .reporterAlreadyBound), s.under ⟨some q⟩,
        (s.under ⟨some r⟩).told ⟨some r⟩ (s.formatter.compose [Error.reporterAlreadyBound.message] false)
          ++ [.logged (.reporterBound true) none]⟩ := by
  rw [bindReporter_run_bound]
  simp only [returns.fate]

/-! ## The single funnel -/

theorem ending_unbound (texts : List String) :
    Binding.ending {} texts =
      match texts with
      | [] => .ok ()
      | text :: _ => .error (.noReporter text) := by
  cases texts <;> rfl

theorem Owns.truncates {a : Action} {s : Session} (agrees : s.formatter = s.settings.formatter) {answer : Answer}
    {texts : List String} (owns : Owns a s answer texts) {e : Error} (failed : answer = .failed e)
    (worded : ∀ count listing, e ≠ .unfulfilled count listing) :
    ∃ message : Bounded, texts = [message.text] ∧
      Message.Truncates s.settings.capacity s.settings.marker e.message.toList false message := by
  refine ⟨s.formatter.compose [e.message] false, owns.wording e failed worded, ?_⟩
  have whole : [e.message].flatMap String.toList = e.message.toList := by simp
  rw [agrees, Message.Formatter.compose_eq_clip, whole]
  exact Message.Formatter.clip_truncates s.settings.capacity s.settings.marker e.message.toList false

/-- With a reporter that comes back, every action that gets a message to tell is answered, and the
reporter that was bound when it began hears of each failure that the answer owns up to, once, and of
nothing else. Every error says that the test failed; it is told in its own words, cut at the bound, but
for the one on expectations that were left over. Without a reporter nobody hears anything: the action
unwinds with the first of these texts, and is answered just as well if there is none. Only binding a
reporter then needs no other. An action that gets no message to tell unwinds before anyone is told. -/
theorem failures_told_once (settings : Settings) (queue : Queue) (a : Action) (r : Reporter) (returns : r.Returns) :
    let s : Session := { settings, queue }
    let bound := act a (s.under ⟨some r⟩)
    let unbound := act a (s.under {})
    match a.refusal? s.formatter with
    | some refusal =>
      bound = ⟨.error (.placesRefused refusal), s.under ⟨some r⟩, []⟩ ∧
        unbound = ⟨.error (.placesRefused refusal), s.under {}, []⟩
    | none =>
      ∃ (answer : Answer) (texts : List String),
        bound.outcome = .ok answer ∧
        reports bound.trace = texts.map (fun text => (r, text)) ∧
        texts.length = a.failures answer ∧
        (∀ e, answer = .failed e → e.isTestFailure = true ∧
          ((∀ count listing, e ≠ .unfulfilled count listing) →
            ∃ message : Bounded, texts = [message.text] ∧
              Message.Truncates settings.capacity settings.marker e.message.toList false message)) ∧
        reports unbound.trace = [] ∧
        ((∀ q, a ≠ .command (.bindReporter q)) →
          unbound.outcome =
            match texts with
            | [] => .ok answer
            | text :: _ => .error (.noReporter text)) ∧
        ∀ q, a = .command (.bindReporter q) →
          unbound.outcome = .ok .done ∧ unbound.state = s.under ⟨some q⟩ := by
  intro s bound unbound
  cases formats : a.refusal? s.formatter with
  | some refusal => exact ⟨act_refused formats _, act_refused formats _⟩
  | none =>
    -- Binding is the one action that asks whether a reporter is bound, so it is looked at by itself.
    by_cases binds : ∃ q, a = .command (.bindReporter q)
    · obtain ⟨q, rfl⟩ := binds
      let message := s.formatter.compose [Error.reporterAlreadyBound.message] false
      have acted : bound = ⟨_, _, _⟩ := Run.run_bind_pure (bindReporter q) (Answer.ofExcept fun _ => Answer.done) _
      rw [bindReporter_run_returns s returns q] at acted
      have owns : Owns (.command (.bindReporter q)) s (.failed .reporterAlreadyBound) [message.text] := owns_error rfl
      refine ⟨.failed .reporterAlreadyBound, [message.text], ?_, ?_, owns.count, ?_, rfl, ?_, ?_⟩
      · rw [acted]
        rfl
      · rw [acted, reports_append, reports_told]
        rfl
      · exact fun e failed => ⟨owns.testFailure e failed, owns.truncates rfl failed⟩
      · exact fun other => absurd rfl (other q)
      · rintro _ ⟨⟩
        exact ⟨rfl, rfl⟩
    · have other : ∀ q, a ≠ .command (.bindReporter q) := fun q same => binds ⟨q, same⟩
      obtain ⟨answer, texts, after, released, owns, -, told⟩ := act_behaves other formats
      have heard := told ⟨some r⟩
      have unheard := told {}
      refine ⟨answer, texts, ?_, ?_, owns.count, ?_, ?_, ?_, ?_⟩
      · rw [heard.outcome, Binding.ending_of_returns returns]
        rfl
      · rw [heard.heard, Binding.heard_of_returns returns]
      · exact fun e failed => ⟨owns.testFailure e failed, owns.truncates rfl failed⟩
      · rw [unheard.heard, Binding.heard_unbound]
      · intro _
        rw [unheard.outcome, ending_unbound]
        cases texts <;> rfl
      · exact fun q same => absurd same (other q)

/-- Taking a payload of another kind: a collector hears one text, and without it the action unwinds with
that text. -/
theorem failures_told_once_other_kind :
    (Reporter.collector "A").Returns ∧
      let queue : Queue := { items := [⟨"read", .tracked { number := 0, name := "Guard" } 1⟩] }
      let s : Session := { queue }
      let a : Action := .command (.consumeAs .foreign "write")
      ∃ text, reports (act a (s.under ⟨some (.collector "A")⟩)).trace = [(.collector "A", text)] ∧
        (act a (s.under {})).outcome = .error (.noReporter text) := by
  have returns : (Reporter.collector "A").Returns := fun _ => rfl
  refine ⟨returns, ?_⟩
  intro queue s a
  obtain ⟨answer, texts, ended, heard, count, -, -, unheard, -⟩ :=
    failures_told_once {} queue a (.collector "A") returns
  have evaluated : (act a (s.under ⟨some (.collector "A")⟩)).outcome =
      .ok (.failed (.payloadTypeMismatch "write" "read")) := rfl
  obtain rfl : answer = .failed (.payloadTypeMismatch "write" "read") :=
    Except.ok.inj (ended.symm.trans evaluated)
  obtain ⟨text, rfl⟩ : ∃ text, texts = [text] := List.length_eq_one_iff.mp count
  exact ⟨text, heard, unheard (by simp [a])⟩

/-- The least power of ten that general notation writes without an exponent, with as many digits as can
be asked for, needs more places than can be written: of this assertion a collector hears nothing. -/
theorem assertion_untold :
    (Reporter.collector "A").Returns ∧
      let step := act (.command (.assertWith true "%.65535g" [.float (.ofBits 0x3f1a36e2eb1c432d)]))
        { settings := { capacity := 64500 }, binding := ⟨some (.collector "A")⟩ }
      step.outcome = .error (.placesRefused ⟨65538⟩) ∧ reports step.trace = [] := by
  refine ⟨fun _ => rfl, ?_⟩
  let a : Action := .command (.assertWith true "%.65535g" [.float (.ofBits 0x3f1a36e2eb1c432d)])
  have refused : a.refusal? (.make 64500 "...") = some ⟨65538⟩ := by decide +kernel
  have ended := act_refused (s := { settings := { capacity := 64500 } }) refused ⟨some (.collector "A")⟩
  exact ⟨congrArg Step.outcome ended, congrArg (fun step => reports step.trace) ended⟩

end Session

end MockQueue

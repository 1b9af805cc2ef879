import MockQueue.Proofs.Operations
import MockQueue.Session.Visit

/-!
# The ledger of payloads

Whoever watches a session from outside sees what is registered, what a look at the latest expectation
changes, what a consume hands over and what is discarded. A `Ledger` books just that. Every action
does one of the things that `Moves` lists (`act_accounts`), so the ledger of any run is balanced: what
left is the front of what was registered, in order, and the queue is the rest (`payloads_conserved`).
This holds whatever the reporter does, since an operation that unwinds still leaves its state and its
trace.
-/

namespace MockQueue.Session

/-! ## Actions -/

theorem alterLatest_run {s : Session} {front : List Expectation} {e : Expectation}
    (items : s.queue = { items := front ++ [e] }) (f : Payload → Payload) :
    alterLatest f s =
      ⟨.ok (.ok ()), { s with queue := { items := front ++ [{ e with payload := f e.payload }] } }, []⟩ := by
  simp [alterLatest, Run.run_bind, peekLatest_run items, items, Queue.editLatest_append, Except.map]

theorem replaceLatest_run {s : Session} {front : List Expectation} {e : Expectation}
    (items : s.queue = { items := front ++ [e] }) (payload : Payload) :
    replaceLatest payload s =
      ⟨.ok (.ok ()), { s with queue := { items := front ++ [{ e with payload := payload }] } },
        e.payload.discard⟩ := by
  simp [replaceLatest, Run.run_bind, peekLatest_run items, items, Queue.editLatest_append, Except.map]

/-- A change of a payload. -/
structure Change where
  apply : Payload → Payload
  /-- Whether another value takes the place of the old one, instead of that one being changed. -/
  discards : Bool := false

/-- The change that puts a payload in the place of another. -/
def Change.overwriting (payload : Payload) : Change :=
  { apply := fun _ => payload, discards := true }

namespace Action

/-- What the action registers. -/
def arrivals : Action → List Expectation
  | command (.register api payload) => [⟨api, payload⟩]
  | command (.expect stub c) => [⟨stub.name, .conditions stub c⟩]
  | _ => []

/-- A change of conditions as a change of payloads. -/
def onConditions (f : Conditions → Conditions) : Payload → Payload
  | .conditions owner c => .conditions owner (f c)
  | other => other

/-- The change of the latest payload that the action asks for. -/
def change? : Action → Option Change
  | command (.overwrite payload) => some (.overwriting payload)
  | command (.overwriteAs _ payload) => some (.overwriting payload)
  | command (.ignoreFd _) => some { apply := onConditions fun c => { c with fd := c.fd.ignore } }
  | command (.setData _ data) => some { apply := onConditions fun c => { c with data := data } }
  | alter f => some { apply := f }
  | alterAs _ _ f => some { apply := f }
  | replace payload => some (.overwriting payload)
  | _ => none

/-- Whether the action looks at the latest payload. -/
def looks : Action → Bool
  | command .peek => true
  | command (.peekIs _) => true
  | command (.peekAs _ _) => true
  | a => a.change?.isSome

/-- If the action takes the oldest payload, which payloads it takes for itself. -/
def wants? : Action → Option (Payload → Bool)
  | command .consume => some fun _ => true
  | command (.consumeAs kind _) => some fun p => p.kind = kind
  | command (.call stub _ _) => some fun p => p.kind = .conditions stub
  | _ => none

/-- The payload that an answer hands over. -/
def answered : Except Unwind Answer → Option Payload
  | .ok (.held p) => some p
  | _ => none

/-- The payload that taking one hands over. -/
def taken : Except Unwind (Except Error (Option Payload)) → Option Payload
  | .ok (.ok found) => found
  | _ => none

/-- The payload that a consume hands over in the course of the action: the answer of the two consumes,
and what a stub takes when it is called. -/
def handed (a : Action) (s : Session) : Option Payload :=
  match a with
  | command .consume => answered (perform .consume s).outcome
  | command (.consumeAs kind api) => answered (perform (.consumeAs kind api) s).outcome
  | command (.call stub _ _) => taken (consumeNextAs (.conditions stub) stub.name s).outcome
  | _ => none

end Action

/-! ## What is seen -/

/-- Whether an action that asks for a change says that it was made. -/
def saysDone : Except Unwind Answer → Bool
  | .ok .done => true
  | .ok (.truth b) => b
  | _ => false

/-- What is seen of one action. -/
structure Movement where
  arrived : List Expectation := []
  changed : Option Change := none
  /-- Values that a change put others in the place of. -/
  overwritten : List Payload := []
  released : List Payload := []
  handed : Option Payload := none

/-- What is seen of an action on a session, by its answer and its trace. -/
def observe (a : Action) (s : Session) : Movement :=
  let step := act a s
  let changed := if saysDone step.outcome then a.change? else none
  let discards := changed.any Change.discards
  { arrived := a.arrivals
    changed := changed
    overwritten := if discards then drops step.trace else []
    released := if discards then [] else drops step.trace
    handed := a.handed s }

theorem drops_eq_observed (a : Action) (s : Session) :
    drops (act a s).trace = (observe a s).overwritten ++ (observe a s).released := by
  by_cases discards : (observe a s).changed.any Change.discards = true
  · simp_all [observe]
  · simp_all [observe]

/-- All that an action can do to a queue, with what is seen of it. -/
inductive Moves : List Expectation → Movement → List Expectation → Prop where
  | keeps (items : List Expectation) : Moves items {} items
  | appends (items : List Expectation) (e : Expectation) : Moves items { arrived := [e] } (items ++ [e])
  | edits (front : List Expectation) (e : Expectation) (change : Change) :
    Moves (front ++ [e])
      { changed := some change, overwritten := if change.discards then [e.payload] else [] }
      (front ++ [{ e with payload := change.apply e.payload }])
  | hands (e : Expectation) (rest : List Expectation) : Moves (e :: rest) { handed := some e.payload } rest
  | releases (e : Expectation) (rest : List Expectation) : Moves (e :: rest) { released := [e.payload] } rest
  | drains (items : List Expectation) : Moves items { released := items.map Expectation.payload } []

/-- In a trace, whatever is discarded is discarded before anyone is told. -/
def DropsFirst (trace : List Entry) : Prop :=
  ∃ front back, trace = front ++ back ∧ reports front = [] ∧ drops back = []

theorem dropsFirst_of_noDrops {trace : List Entry} (none : drops trace = []) : DropsFirst trace :=
  ⟨[], trace, rfl, rfl, none⟩

theorem dropsFirst_of_noReports {trace : List Entry} (none : reports trace = []) : DropsFirst trace :=
  ⟨trace, [], by simp, none, rfl⟩

theorem DropsFirst.append {trace later : List Entry} (first : DropsFirst trace) (none : drops later = []) :
    DropsFirst (trace ++ later) := by
  obtain ⟨front, back, whole, quiet, kept⟩ := first
  exact ⟨front, back ++ later, by simp [whole], quiet, by simp [kept, none]⟩

/-- What holds of every action: the queue moves as it is seen to, whatever is discarded is discarded
before anyone is told, and a look that brings no change does nothing else either. -/
structure Accounts (a : Action) (s : Session) : Prop where
  moves : Moves s.queue.items (observe a s) (act a s).state.queue.items
  dropsFirst : DropsFirst (act a s).trace
  looks : a.looks = true → (observe a s).changed = none → (act a s).state = s ∧ drops (act a s).trace = []

/-! ## What each action does -/

/-- An action that keeps the queue and discards nothing is seen to do nothing. -/
theorem observe_of_kept {a : Action} {s : Session} (arrives : a.arrivals = []) (hands : a.handed s = none)
    (unchanged : a.change? = none ∨ saysDone (act a s).outcome = false) (none : drops (act a s).trace = []) :
    observe a s = {} := by
  rcases unchanged with asks | failed
  · simp [observe, arrives, hands, asks, none]
  · simp [observe, arrives, hands, failed, none]

theorem accounts_of_kept {a : Action} {s : Session} (arrives : a.arrivals = []) (hands : a.handed s = none)
    (unchanged : a.change? = none ∨ saysDone (act a s).outcome = false)
    (kept : (act a s).state = s) (none : drops (act a s).trace = []) : Accounts a s where
  moves := by
    rw [observe_of_kept arrives hands unchanged none, kept]
    exact .keeps _
  dropsFirst := dropsFirst_of_noDrops none
  looks _ _ := ⟨kept, none⟩

theorem accounts_of_onlyTells {α : Type} {a : Action} {x : Run Session α} {g : α → Answer} (s : Session)
    (acts : act a = (do return g (← x))) (tells : OnlyTells x) (arrives : a.arrivals = [])
    (hands : a.handed s = none) (asks : a.change? = none) : Accounts a s := by
  obtain ⟨kept, none⟩ := tells.bind (fun found => onlyTells_pure (g found)) s
  rw [← acts] at kept none
  exact accounts_of_kept arrives hands (.inl asks) kept none

/-- An action that ends in the report of a failure is seen to do nothing. -/
theorem accounts_of_raise {α : Type} {a : Action} {s : Session} {x : Run Session (Except Error α)} {e : Error}
    {g : α → Answer} (acts : act a = (do return .ofExcept g (← x))) (raised : x s = raise e s)
    (arrives : a.arrivals = []) (hands : a.handed s = none) : Accounts a s := by
  have ended : act a s =
      ⟨(s.binding.fate (s.formatter.compose [e.message] false).text).map fun _ => .failed e, s,
        s.told s.binding (s.formatter.compose [e.message] false)⟩ := by
    rw [acts, Run.run_bind_pure, raised, raise_run]
    cases s.binding.fate (s.formatter.compose [e.message] false).text <;> rfl
  refine accounts_of_kept arrives hands (.inr ?_) ?_ ?_
  · rw [ended]
    cases s.binding.fate (s.formatter.compose [e.message] false).text <;> rfl
  · rw [ended]
  · rw [ended, drops_told]

/-- An action that says it made the change it asks for, and made it. -/
theorem accounts_of_edit {α : Type} {a : Action} {s : Session} {x : Run Session (Except Error α)} {g : α → Answer}
    {answer : α} {front : List Expectation} {e : Expectation} {change : Change}
    (acts : act a = (do return .ofExcept g (← x))) (items : s.queue = { items := front ++ [e] })
    (ended : x s =
      ⟨.ok (.ok answer), { s with queue := { items := front ++ [{ e with payload := change.apply e.payload }] } },
        if change.discards then e.payload.discard else []⟩)
    (done : saysDone (.ok (g answer)) = true) (arrives : a.arrivals = []) (hands : a.handed s = none)
    (asks : a.change? = some change) : Accounts a s := by
  have acted : act a s = ⟨.ok (g answer), (x s).state, if change.discards then e.payload.discard else []⟩ := by
    rw [acts, Run.run_bind_pure, ended]
    rfl
  have seen : observe a s =
      { changed := some change, overwritten := if change.discards then [e.payload] else [] } := by
    cases discards : change.discards <;> simp [observe, acted, arrives, hands, asks, done, discards]
  refine ⟨?_, ?_, fun _ unchanged => by simp [seen] at unchanged⟩
  · rw [seen, items, acted, ended]
    exact .edits front e change
  · rw [acted]
    apply dropsFirst_of_noReports
    split <;> simp

/-- An action that edits through a look for one kind. -/
theorem accounts_of_editLatestAs {a : Action} {kind : Kind} {api : String} {f : Payload → Payload} (s : Session)
    (acts : act a = (do return .ofExcept (fun _ => .done) (← editLatestAs kind api f)))
    (arrives : a.arrivals = []) (hands : a.handed s = none) (asks : a.change? = some { apply := f }) :
    Accounts a s := by
  rcases queue_eq_nil_or_append s.queue with items | ⟨front, e, items⟩
  · exact accounts_of_raise acts (look_raises (peekLatestAs_run_nil items kind api) _) arrives hands
  · by_cases same : e.payload.kind = kind
    · subst same
      exact accounts_of_edit acts items (editLatestAs_run items api f) rfl arrives hands asks
    · exact accounts_of_raise acts (look_raises (peekLatestAs_run_other items same api) _) arrives hands

theorem accounts_alter (f : Payload → Payload) (s : Session) : Accounts (.alter f) s := by
  rcases queue_eq_nil_or_append s.queue with items | ⟨front, e, items⟩
  · exact accounts_of_raise rfl (look_raises (peekLatest_run_nil items) _) rfl rfl
  · exact accounts_of_edit rfl items (alterLatest_run items f) rfl rfl rfl rfl

theorem accounts_replace (payload : Payload) (s : Session) : Accounts (.replace payload) s := by
  rcases queue_eq_nil_or_append s.queue with items | ⟨front, e, items⟩
  · exact accounts_of_raise rfl (look_raises (peekLatest_run_nil items) _) rfl rfl
  · exact accounts_of_edit rfl items (replaceLatest_run items payload) rfl rfl rfl rfl

theorem accounts_overwrite (payload : Payload) (s : Session) : Accounts (.command (.overwrite payload)) s := by
  rcases queue_eq_nil_or_append s.queue with items | ⟨front, e, items⟩
  · exact accounts_of_raise rfl (look_raises (peekLatest_run_nil items) _) rfl rfl
  · by_cases same : e.payload.kind = payload.kind
    · exact accounts_of_edit rfl items (overwriteLatest_run_same items same) rfl rfl rfl rfl
    · -- The look succeeds, but what it finds is of another kind: nothing is put in its place.
      have acted : act (.command (.overwrite payload)) s = ⟨.ok (.truth false), s, []⟩ := by
        change (do return Answer.ofExcept Answer.truth (← overwriteLatest payload) : Run Session Answer) s = _
        rw [Run.run_bind_pure, overwriteLatest_run_other items same]
        rfl
      refine accounts_of_kept rfl rfl (.inr ?_) ?_ ?_ <;> rw [acted] <;> rfl

theorem accounts_overwriteAs (api : String) (payload : Payload) (s : Session) :
    Accounts (.command (.overwriteAs api payload)) s := by
  rcases queue_eq_nil_or_append s.queue with items | ⟨front, e, items⟩
  · exact accounts_of_raise rfl (look_raises (peekLatestAs_run_nil items payload.kind api) _) rfl rfl
  · by_cases same : e.payload.kind = payload.kind
    · exact accounts_of_edit rfl items (overwriteLatestAs_run items same api) rfl rfl rfl rfl
    · exact accounts_of_raise rfl (look_raises (peekLatestAs_run_other items same api) _) rfl rfl

/-! ### Taking and emptying -/

/-- What is seen of an action that neither registers nor changes anything. -/
theorem observe_of_plain {a : Action} (s : Session) (arrives : a.arrivals = []) (asks : a.change? = none) :
    observe a s = { released := drops (act a s).trace, handed := a.handed s } := by
  simp [observe, arrives, asks]

/-- An action that takes the oldest payload as one of a kind, and after that only tells. -/
theorem accounts_of_consumeNextAs {a : Action} {s : Session} {kind : Kind} {api : String}
    (follows : (act a s).state = (consumeNextAs kind api s).state ∧
      ∃ later, (act a s).trace = (consumeNextAs kind api s).trace ++ later ∧ drops later = [])
    (hands : a.handed s = Action.taken (consumeNextAs kind api s).outcome) (arrives : a.arrivals = [])
    (asks : a.change? = none) (noLook : a.looks = false) : Accounts a s := by
  obtain ⟨state, later, trace, noDrops⟩ := follows
  have seen := observe_of_plain s arrives asks
  rw [hands, trace, drops_append, noDrops, List.append_nil] at seen
  suffices taken : Moves s.queue.items (observe a s) (consumeNextAs kind api s).state.queue.items ∧
      DropsFirst (consumeNextAs kind api s).trace by
    refine ⟨state ▸ taken.1, trace ▸ taken.2.append noDrops, fun looks => ?_⟩
    rw [noLook] at looks
    contradiction
  rw [seen]
  obtain ⟨settings, formatter, ⟨items⟩, binding⟩ := s
  cases items with
  | nil =>
    rw [consumeNextAs_run_nil rfl]
    exact ⟨.keeps [], dropsFirst_of_noDrops rfl⟩
  | cons e rest =>
    by_cases same : e.payload.kind = kind
    · subst same
      rw [consumeNextAs_run_same rfl]
      exact ⟨.hands e rest, dropsFirst_of_noDrops rfl⟩
    · -- What is taken is discarded before the mismatch is reported, so an unwinding report loses nothing.
      rw [consumeNextAs_run_other rfl same]
      simp only [raise_run]
      constructor
      · cases Binding.fate binding _ <;> simpa [Except.map, Action.taken] using Moves.releases e rest
      · have first : DropsFirst ([.logged (.consumed e.api rest.length) none] ++ e.payload.discard) :=
          dropsFirst_of_noReports (by simp)
        rw [← List.append_assoc]
        exact first.append (drops_told ..)

theorem accounts_consume (s : Session) : Accounts (.command .consume) s := by
  have seen := observe_of_plain s (a := .command .consume) rfl rfl
  obtain ⟨settings, formatter, ⟨items⟩, binding⟩ := s
  refine ⟨?_, ?_, fun looks => nomatch looks⟩
  · rw [seen]
    cases items with
    | nil => exact .keeps []
    | cons e rest => exact .hands e rest
  · cases items <;> exact dropsFirst_of_noDrops rfl

theorem handed_consumeAs (kind : Kind) (api : String) (s : Session) :
    Action.handed (.command (.consumeAs kind api)) s = Action.taken (consumeNextAs kind api s).outcome := by
  change Action.answered ((consumeNextAs kind api >>= fun found => pure (.ofExcept .ofPayload? found)) s).outcome = _
  rw [Run.run_bind_pure]
  rcases (consumeNextAs kind api s).outcome with u | e | _ | p <;> rfl

theorem accounts_consumeAs (kind : Kind) (api : String) (s : Session) :
    Accounts (.command (.consumeAs kind api)) s :=
  accounts_of_consumeNextAs (bind_onlyTells _ (fun _ => onlyTells_pure _) s) (handed_consumeAs kind api s) rfl rfl rfl

/-- Once a stub has taken what it expects, it only tells. -/
theorem call_follows (stub : Stub) (fd : Int32) (data : List UInt8) (s : Session) :
    (call stub fd data s).state = (consumeNextAs (.conditions stub) stub.name s).state ∧
      ∃ later, (call stub fd data s).trace = (consumeNextAs (.conditions stub) stub.name s).trace ++ later ∧
        drops later = [] := by
  have unexpected :
      OnlyTells (do unexpectedCall stub.name; return .ok .unexpected : Run Session (Except Error CallResult)) :=
    (onlyTells_unexpectedCall stub.name).bind fun _ => onlyTells_pure _
  refine bind_onlyTells (consumeNextAs (.conditions stub) stub.name) (fun found => ?_) s
  rcases found with e | _ | p
  · exact onlyTells_pure _
  · exact unexpected
  · cases p with
    | conditions owner c =>
      refine OnlyTells.bind (onlyTells_checkArgument _ _ _ _) fun _ => ?_
      exact OnlyTells.bind (onlyTells_checkBytes _ _ _ _) fun _ => onlyTells_pure _
    | plain | tracked | foreign => exact unexpected

theorem accounts_call (stub : Stub) (fd : Int32) (data : List UInt8) (s : Session) :
    Accounts (.command (.call stub fd data)) s := by
  have acted : act (.command (.call stub fd data)) s =
      ⟨_, (call stub fd data s).state, (call stub fd data s).trace⟩ :=
    Run.run_bind_pure (call stub fd data) (Answer.ofExcept Answer.ofCall) s
  refine accounts_of_consumeNextAs ?_ rfl rfl rfl rfl
  rw [acted]
  exact call_follows stub fd data s

/-- An action that empties the queue. -/
theorem accounts_of_drain {a : Action} {s : Session} (arrives : a.arrivals = []) (hands : a.handed s = none)
    (asks : a.change? = none) (noLook : a.looks = false) (emptied : (act a s).state.queue = {})
    (all : drops (act a s).trace = s.queue.items.map Expectation.payload) (first : DropsFirst (act a s).trace) :
    Accounts a s := by
  refine ⟨?_, first, fun looks => ?_⟩
  · rw [observe_of_plain s arrives asks, hands, all, emptied]
    exact .drains _
  · rw [noLook] at looks
    contradiction

theorem accounts_reset (s : Session) : Accounts (.command .reset) s := by
  have acted : act (.command .reset) s = ⟨_, (reset s).state, (reset s).trace⟩ :=
    Run.run_bind_pure reset (fun _ => Answer.nothing) s
  rw [reset_run] at acted
  refine accounts_of_drain rfl rfl rfl rfl ?_ ?_ ?_
  · rw [acted]
  · simp [acted]
  · rw [acted]
    exact dropsFirst_of_noReports (by simp)

/-- Verifying discards all that is left before it reports it. -/
theorem verify_drains (s : Session) :
    (verify s).state.queue = {} ∧ drops (verify s).trace = s.queue.items.map Expectation.payload ∧
      DropsFirst (verify s).trace := by
  cases items : s.queue.items with
  | nil =>
    rw [verify_run_nil (congrArg Queue.mk items)]
    exact ⟨rfl, rfl, dropsFirst_of_noDrops rfl⟩
  | cons e rest =>
    rw [verify_run_cons (congrArg Queue.mk items)]
    refine ⟨rfl, by simp, ?_⟩
    exact (dropsFirst_of_noReports (reports_discardAll _)).append (by simp)

theorem accounts_verify (s : Session) : Accounts (.command .verify) s := by
  have acted : act (.command .verify) s = ⟨_, (verify s).state, (verify s).trace⟩ :=
    Run.run_bind_pure verify (Answer.ofExcept fun _ => .done) s
  obtain ⟨emptied, all, first⟩ := verify_drains s
  refine accounts_of_drain rfl rfl rfl rfl ?_ ?_ ?_ <;> rw [acted]
  · exact emptied
  · exact all
  · exact first

/-! ### All actions -/

theorem accounts_register (api : String) (payload : Payload) (s : Session) :
    Accounts (.command (.register api payload)) s where
  moves := .appends s.queue.items ⟨api, payload⟩
  dropsFirst := dropsFirst_of_noDrops rfl
  looks looks := nomatch looks

theorem accounts_expect (stub : Stub) (c : Conditions) (s : Session) : Accounts (.command (.expect stub c)) s where
  moves := .appends s.queue.items ⟨stub.name, .conditions stub c⟩
  dropsFirst := dropsFirst_of_noDrops rfl
  looks looks := nomatch looks

/-- Binding a reporter keeps the queue, also if the reporter that was bound before unwinds. -/
theorem accounts_bindReporter (r : Reporter) (s : Session) : Accounts (.command (.bindReporter r)) s := by
  have acted : act (.command (.bindReporter r)) s = ⟨_, (bindReporter r s).state, (bindReporter r s).trace⟩ :=
    Run.run_bind_pure (bindReporter r) (Answer.ofExcept fun _ => Answer.done) s
  have kept : (bindReporter r s).state.queue = s.queue ∧ drops (bindReporter r s).trace = [] := by
    unfold bindReporter
    cases bound : s.isBound with
    | false => simp [Run.run_bind, bound]
    | true =>
      simp only [Run.run_bind, Run.run_get, bound, if_true, fail_run]
      cases s.binding.fate _ <;> simp
  refine ⟨?_, ?_, fun looks => nomatch looks⟩
  · rw [observe_of_kept rfl rfl (.inl rfl) (acted ▸ kept.2), acted, kept.1]
    exact .keeps _
  · exact dropsFirst_of_noDrops (acted ▸ kept.2)

/-- Every action on every session is accounted for. -/
theorem act_accounts (a : Action) (s : Session) : Accounts a s := by
  rcases a with c | f | ⟨kind, api, f⟩ | payload
  · cases c with
    | bindReporter r => exact accounts_bindReporter r s
    | reset => exact accounts_reset s
    | verify => exact accounts_verify s
    | register api payload => exact accounts_register api payload s
    | peek => exact accounts_of_onlyTells s rfl onlyTells_peekLatest rfl rfl rfl
    | peekIs kind => exact accounts_of_onlyTells s rfl onlyTells_peekLatest rfl rfl rfl
    | overwrite payload => exact accounts_overwrite payload s
    | peekAs kind api => exact accounts_of_onlyTells s rfl (onlyTells_peekLatestAs kind api) rfl rfl rfl
    | overwriteAs api payload => exact accounts_overwriteAs api payload s
    | consume => exact accounts_consume s
    | consumeAs kind api => exact accounts_consumeAs kind api s
    | assertWith condition template args =>
      exact accounts_of_onlyTells s rfl (onlyTells_assertWith condition template args) rfl rfl rfl
    | assertPieces condition pieces keepGoing =>
      exact accounts_of_onlyTells s rfl (onlyTells_assertPieces condition pieces keepGoing) rfl rfl rfl
    | fail text => exact accounts_of_onlyTells s rfl (onlyTells_fail text) rfl rfl rfl
    | failPreformatted text truncated =>
      exact accounts_of_onlyTells s rfl (onlyTells_failPreformatted text truncated) rfl rfl rfl
    | unexpectedCall api => exact accounts_of_onlyTells s rfl (onlyTells_unexpectedCall api) rfl rfl rfl
    | checkArgument api param expected actual =>
      exact accounts_of_onlyTells s rfl (onlyTells_checkArgument api param expected actual) rfl rfl rfl
    | checkBytes api param expected actual =>
      exact accounts_of_onlyTells s rfl (onlyTells_checkBytes api param expected actual) rfl rfl rfl
    | expect stub c => exact accounts_expect stub c s
    | ignoreFd stub => exact accounts_of_editLatestAs s rfl rfl rfl rfl
    | setData stub data => exact accounts_of_editLatestAs s rfl rfl rfl rfl
    | call stub fd data => exact accounts_call stub fd data s
  · exact accounts_alter f s
  · exact accounts_of_editLatestAs s rfl rfl rfl rfl
  · exact accounts_replace payload s

/-- Taking as one kind takes the oldest payload, and hands it over if it is of that kind. -/
theorem consumeNextAs_takes (kind : Kind) (api : String) (s : Session) :
    (consumeNextAs kind api s).state.queue.items = s.queue.items.tail ∧
      Action.taken (consumeNextAs kind api s).outcome =
        (s.queue.items.head?.map Expectation.payload).filter fun p => p.kind = kind := by
  obtain ⟨settings, formatter, ⟨items⟩, binding⟩ := s
  cases items with
  | nil =>
    rw [consumeNextAs_run_nil rfl]
    exact ⟨rfl, rfl⟩
  | cons e rest =>
    by_cases same : e.payload.kind = kind
    · subst same
      rw [consumeNextAs_run_same rfl]
      simp [Action.taken, Option.filter]
    · rw [consumeNextAs_run_other rfl same]
      simp only [raise_run]
      refine ⟨rfl, ?_⟩
      cases Binding.fate binding _ <;> simp [Except.map, Action.taken, Option.filter, same]

/-- Whatever takes the oldest payload takes it out of the queue, also if it does not want it. -/
theorem act_takes {a : Action} {wants : Payload → Bool} (takes : a.wants? = some wants) (s : Session) :
    (act a s).state.queue.items = s.queue.items.tail ∧
      (observe a s).handed = (s.queue.items.head?.map Expectation.payload).filter wants := by
  change _ ∧ a.handed s = _
  rcases a with c | _ | _ | _
  · cases c with
    | consume =>
      cases takes
      obtain ⟨settings, formatter, ⟨items⟩, binding⟩ := s
      cases items <;> exact ⟨rfl, rfl⟩
    | consumeAs kind api =>
      cases takes
      obtain ⟨state, -⟩ := bind_onlyTells (consumeNextAs kind api) (fun found =>
        onlyTells_pure (Answer.ofExcept Answer.ofPayload? found)) s
      obtain ⟨taken, handed⟩ := consumeNextAs_takes kind api s
      exact ⟨(congrArg (·.queue.items) state).trans taken, (handed_consumeAs kind api s).trans handed⟩
    | call stub fd data =>
      cases takes
      have acted : act (.command (.call stub fd data)) s = ⟨_, (call stub fd data s).state, _⟩ :=
        Run.run_bind_pure (call stub fd data) (Answer.ofExcept Answer.ofCall) s
      obtain ⟨taken, handed⟩ := consumeNextAs_takes (.conditions stub) stub.name s
      refine ⟨?_, handed⟩
      rw [acted, (call_follows stub fd data s).1]
      exact taken
    | _ => cases takes
  all_goals cases takes

/-- Verifying and starting over leave nothing in the queue. -/
theorem act_empties {a : Action} (empties : a = .command .verify ∨ a = .command .reset) (s : Session) :
    (act a s).state.queue.items = [] := by
  rcases empties with rfl | rfl
  · have acted : act (.command .verify) s = ⟨_, (verify s).state, _⟩ :=
      Run.run_bind_pure verify (Answer.ofExcept fun _ => .done) s
    rw [acted, (verify_drains s).1]
  · have acted : act (.command .reset) s = ⟨_, (reset s).state, _⟩ :=
      Run.run_bind_pure reset (fun _ => Answer.nothing) s
    rw [acted, reset_run]

/-! ## The ledger of a run -/

/-- How a payload left. -/
inductive Exit where
  | handed
  | released
  deriving DecidableEq, Repr

/-- A payload that left, as it was when it left. -/
structure Departure where
  payload : Payload
  exit : Exit
  deriving DecidableEq, Repr

/-- What came, with the changes that were made since, and what left; both in order. -/
structure Ledger where
  registered : List Expectation := []
  departed : List Departure := []
  deriving DecidableEq, Repr

namespace Ledger

/-- The ledger after payloads were released. -/
def release (l : Ledger) (payloads : List Payload) : Ledger :=
  { l with departed := l.departed ++ payloads.map (⟨·, .released⟩) }

/-- The ledger after a payload was handed over, if one was. -/
def hand (l : Ledger) (payload : Option Payload) : Ledger :=
  { l with departed := l.departed ++ payload.toList.map (⟨·, .handed⟩) }

/-- The ledger after a change of what was registered last. -/
def amend (l : Ledger) (change : Option Change) : Ledger :=
  match change with
  | some c => { l with registered := (Queue.editLatest ⟨l.registered⟩ c.apply).items }
  | none => l

/-- The ledger after expectations were registered. -/
def arrive (l : Ledger) (expectations : List Expectation) : Ledger :=
  { l with registered := l.registered ++ expectations }

@[simp] theorem release_nil (l : Ledger) : l.release [] = l := by
  simp [release]

@[simp] theorem hand_none (l : Ledger) : l.hand none = l := by
  simp [hand]

@[simp] theorem amend_none (l : Ledger) : l.amend none = l := rfl

@[simp] theorem arrive_nil (l : Ledger) : l.arrive [] = l := by
  simp [arrive]

/-- The ledger after what is seen of an action. -/
def record (l : Ledger) (m : Movement) : Ledger :=
  (((l.amend m.changed).release m.released).hand m.handed).arrive m.arrived

/-- What left is the front of what was registered, each once and in order, and what is pending is the
rest. -/
def Balanced (l : Ledger) (pending : List Expectation) : Prop :=
  ∃ gone, l.registered = gone ++ pending ∧ gone.map Expectation.payload = l.departed.map Departure.payload

theorem Balanced.release {l : Ledger} (left pending : List Expectation) (balanced : l.Balanced (left ++ pending)) :
    (l.release (left.map Expectation.payload)).Balanced pending := by
  obtain ⟨gone, registered, departed⟩ := balanced
  refine ⟨gone ++ left, by simp [Ledger.release, registered], ?_⟩
  simp [Ledger.release, departed, Function.comp_def]

theorem Balanced.hand {l : Ledger} {e : Expectation} {pending : List Expectation}
    (balanced : l.Balanced (e :: pending)) : (l.hand (some e.payload)).Balanced pending := by
  obtain ⟨gone, registered, departed⟩ := balanced
  exact ⟨gone ++ [e], by simp [Ledger.hand, registered], by simp [Ledger.hand, departed]⟩

/-- A change of the latest payload that is pending is a change of the one that was registered last. -/
theorem Balanced.amend {l : Ledger} {front : List Expectation} {e : Expectation} (change : Change)
    (balanced : l.Balanced (front ++ [e])) :
    (l.amend (some change)).Balanced (front ++ [{ e with payload := change.apply e.payload }]) := by
  obtain ⟨gone, registered, departed⟩ := balanced
  refine ⟨gone, ?_, departed⟩
  simp only [Ledger.amend, registered, ← List.append_assoc, Queue.editLatest_append]

theorem Balanced.arrive {l : Ledger} {pending : List Expectation} (e : Expectation) (balanced : l.Balanced pending) :
    (l.arrive [e]).Balanced (pending ++ [e]) := by
  obtain ⟨gone, registered, departed⟩ := balanced
  exact ⟨gone, by simp [Ledger.arrive, registered], departed⟩

/-- Whatever is seen to move keeps the ledger balanced. -/
theorem Balanced.record {l : Ledger} {before after : List Expectation} {m : Movement}
    (balanced : l.Balanced before) (moved : Moves before m after) : (l.record m).Balanced after := by
  cases moved with
  | keeps => simpa [Ledger.record] using balanced
  | appends _ e => simpa [Ledger.record] using balanced.arrive e
  | edits front e change => simpa [Ledger.record] using balanced.amend change
  | hands e => simpa [Ledger.record] using balanced.hand
  | releases e => simpa [Ledger.record] using balanced.release [e] _
  | drains =>
    rw [← List.append_nil before] at balanced
    simpa [Ledger.record] using balanced.release before []

end Ledger

/-- What a ledger becomes in a run. -/
def ledgerOf : List Action → Session → Ledger → Ledger
  | [], _, l => l
  | a :: rest, s, l => ledgerOf rest (act a s).state (l.record (observe a s))

/-- The ledger stays balanced in every run. -/
theorem ledgerOf_balanced (actions : List Action) {s : Session} {l : Ledger} (balanced : l.Balanced s.queue.items) :
    (ledgerOf actions s l).Balanced (Run.final act actions s).queue.items := by
  induction actions generalizing s l with
  | nil => exact balanced
  | cons a rest ih => exact ih (balanced.record (act_accounts a s).moves)

/-- What changes is the latest payload and nothing else. -/
theorem Moves.of_changed {before after : List Expectation} {m : Movement} {change : Change}
    (moved : Moves before m after) (changed : m.changed = some change) :
    ∃ front latest, before = front ++ [latest] ∧
      after = front ++ [{ latest with payload := change.apply latest.payload }] ∧
      m.overwritten = if change.discards then [latest.payload] else [] := by
  cases moved with
  | edits front e _ =>
    cases changed
    exact ⟨front, e, rfl, rfl, rfl⟩
  | _ => contradiction

theorem Moves.released_or_handed {before after : List Expectation} {m : Movement} (moved : Moves before m after) :
    m.released = [] ∨ m.handed = none := by
  cases moved with
  | hands => exact .inl rfl
  | _ => exact .inr rfl

/-- Payloads are conserved in every run, whatever its reporters do. At every moment what left is the
front of what was registered, each payload once and in order, and the queue is the rest; when the
session ends, all that is left is released. From there every action does one of the moves: no payload is
both handed over and released, a change touches the latest payload only and discards what it puts
another value in the place of, a look that fails does nothing, taking removes the oldest payload and
hands it over if it is of the kind that is wanted, verifying and starting over release all, and what an
action discards it discards before anyone is told. -/
theorem payloads_conserved (settings : Settings) (actions : List Action) :
    let s := Run.final act actions (fresh settings)
    let ledger := ledgerOf actions (fresh settings) {}
    ledger.Balanced s.queue.items ∧
    (close s).state.queue.items = [] ∧
    ledger.registered.map Expectation.payload =
      ledger.departed.map Departure.payload ++ drops (close s).trace ∧
    ∀ next : Action,
      let seen := observe next s
      let step := act next s
      Moves s.queue.items seen step.state.queue.items ∧
      drops step.trace = seen.overwritten ++ seen.released ∧
      (seen.released = [] ∨ seen.handed = none) ∧
      (∀ change, seen.changed = some change →
        ∃ front latest, s.queue.items = front ++ [latest] ∧
          step.state.queue.items = front ++ [{ latest with payload := change.apply latest.payload }] ∧
          seen.overwritten = if change.discards then [latest.payload] else []) ∧
      (next.looks = true → seen.changed = none → step.state = s ∧ drops step.trace = []) ∧
      (∀ wants, next.wants? = some wants → step.state.queue.items = s.queue.items.tail ∧
        seen.handed = (s.queue.items.head?.map Expectation.payload).filter wants) ∧
      (next = .command .verify ∨ next = .command .reset → step.state.queue.items = []) ∧
      DropsFirst step.trace := by
  intro s ledger
  have balanced : ledger.Balanced s.queue.items := ledgerOf_balanced actions ⟨[], rfl, rfl⟩
  refine ⟨balanced, ?_, ?_, fun next => ?_⟩
  · rw [close_run]
  · obtain ⟨gone, registered, departed⟩ := balanced
    rw [close_run, drops_discardAll, registered, List.map_append, departed]
  · obtain ⟨moves, first, looks⟩ := act_accounts next s
    exact ⟨moves, drops_eq_observed next s, moves.released_or_handed, fun _ changed => moves.of_changed changed,
      looks, fun _ takes => act_takes takes s, fun empties => act_empties empties s, first⟩

end MockQueue.Session

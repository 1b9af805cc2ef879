import MockQueue.Proofs.Funnel
import MockQueue.Proofs.Truncation

/-!
# What each operation on the queue does

One equation for each operation of a session and each shape of queue that it can meet. Proofs about
runs take them from here and do not open the operations again. A run is a row of operations, each
carried out on the state that the one before it left, also if that one unwound (`Run.history`).
-/

namespace MockQueue

/-! ## Runs -/

namespace Run

variable {σ κ α : Type}

/-- The steps of a run. -/
def history (act : κ → Run σ α) : List κ → σ → List (Step σ α)
  | [], _ => []
  | k :: rest, s => act k s :: history act rest (act k s).state

/-- The state that a run leaves. -/
def final (act : κ → Run σ α) : List κ → σ → σ
  | [], s => s
  | k :: rest, s => final act rest (act k s).state

/-- Everything that the steps of a run leave in the trace. -/
def traceOf (steps : List (Step σ α)) : List Entry :=
  steps.flatMap Step.trace

theorem history_append (act : κ → Run σ α) (front back : List κ) (s : σ) :
    history act (front ++ back) s = history act front s ++ history act back (final act front s) := by
  induction front generalizing s with
  | nil => rfl
  | cons k rest ih => simp only [List.cons_append, history, final, ih]

/-- Every step of a run starts where the run has come to. -/
theorem exists_of_mem_history {act : κ → Run σ α} {inputs : List κ} {s : σ} {step : Step σ α}
    (member : step ∈ history act inputs s) :
    ∃ front k back, inputs = front ++ k :: back ∧ step = act k (final act front s) := by
  induction inputs generalizing s with
  | nil => cases member
  | cons k rest ih =>
    rcases List.mem_cons.mp member with rfl | later
    · exact ⟨[], k, rest, rfl, rfl⟩
    · obtain ⟨front, k', back, rfl, reached⟩ := ih later
      exact ⟨k :: front, k', back, rfl, reached⟩

theorem final_append (act : κ → Run σ α) (front back : List κ) (s : σ) :
    final act (front ++ back) s = final act back (final act front s) := by
  induction front generalizing s with
  | nil => rfl
  | cons k rest ih => simp only [List.cons_append, final, ih]

end Run

/-! ## Templates that are never refused -/

namespace Message

/-- Whether a part of a template asks for a float. -/
def Segment.asksFloat : Segment → Bool
  | literal _ => false
  | directive d =>
    match d.conversion? with
    | some (.float _ _) => true
    | _ => false

/-- Only floats have places to write. -/
theorem refusal?_eq_none {conversion : Conversion} (noFloat : ∀ style upper, conversion ≠ .float style upper)
    (layout : Layout) (arg : Argument) : conversion.refusal? layout arg = none := by
  cases conversion with
  | float style upper => exact absurd rfl (noFloat style upper)
  | signed | unsigned | char | text | address => simp [Conversion.refusal?, Conversion.places]

theorem renderSegments_unrefused {limit : Nat} {parts : List Segment}
    (noFloat : ∀ part ∈ parts, part.asksFloat = false) (args : List Argument) :
    (renderSegments limit parts args).refused = none := by
  induction parts generalizing args with
  | nil => rfl
  | cons part rest ih =>
    have restNone := ih fun later member => noFloat later (List.mem_cons_of_mem _ member)
    have here := noFloat part (List.mem_cons_self ..)
    cases part with
    | literal c => exact restNone args
    | directive d =>
      unfold renderSegments
      by_cases percent : d.conversion = some '%'
      · rw [if_pos percent]
        exact restNone args
      · rw [if_neg percent]
        cases asked : d.conversion? with
        | none => exact restNone args
        | some conversion =>
          cases args with
          | nil => exact restNone []
          | cons arg others =>
            have served : conversion.refusal? (d.layout.clamp limit) arg = none := by
              apply refusal?_eq_none
              rintro style upper rfl
              simp [Segment.asksFloat, asked] at here
            simp only [served]
            exact restNone others

end Message

namespace Session

open Message (Argument Bounded)

/-! ## Looking at the latest expectation -/

/-- A queue is empty or has a latest expectation. -/
theorem queue_eq_nil_or_append (q : Queue) : q = {} ∨ ∃ front e, q = { items := front ++ [e] } := by
  obtain ⟨items⟩ := q
  rcases List.eq_nil_or_concat items with rfl | ⟨front, e, rfl⟩
  · exact .inl rfl
  · exact .inr ⟨front, e, by rw [List.concat_eq_append]⟩

/-- A look that finds something answers it and does nothing else. -/
theorem peekLatest_run {s : Session} {front : List Expectation} {e : Expectation}
    (items : s.queue = { items := front ++ [e] }) : peekLatest s = ⟨.ok (.ok e.payload), s, []⟩ := by
  simp [peekLatest, Run.run_bind, items]

theorem peekLatestAs_run {s : Session} {front : List Expectation} {e : Expectation}
    (items : s.queue = { items := front ++ [e] }) (api : String) :
    peekLatestAs e.payload.kind api s = ⟨.ok (.ok e.payload), s, []⟩ := by
  simp [peekLatestAs, Run.run_bind, items]

theorem peekLatest_run_nil {s : Session} (items : s.queue = {}) : peekLatest s = raise .emptyQueuePeek s := by
  simp [peekLatest, Run.run_bind, items, Queue.latest?]

theorem peekLatestAs_run_nil {s : Session} (items : s.queue = {}) (kind : Kind) (api : String) :
    peekLatestAs kind api s = raise .emptyQueuePeek s := by
  simp [peekLatestAs, Run.run_bind, items, Queue.latest?]

theorem peekLatestAs_run_other {s : Session} {front : List Expectation} {e : Expectation}
    (items : s.queue = { items := front ++ [e] }) {kind : Kind} (other : e.payload.kind ≠ kind) (api : String) :
    peekLatestAs kind api s = raise (.payloadTypeMismatch api e.api) s := by
  simp [peekLatestAs, Run.run_bind, items, other]

/-- What was to follow a look that fails does not happen. -/
theorem look_raises {α : Type} {look : Run Session (Except Error Payload)} {s : Session} {e : Error}
    (raised : look s = raise e s) (next : Payload → Run Session (Except Error α)) :
    (do match ← look with
        | .ok p => next p
        | .error e => return .error e : Run Session (Except Error α)) s = raise e s := by
  rw [Run.run_bind, raised, raise_run, raise_run]
  cases s.binding.fate (s.formatter.compose [e.message] false).text <;> simp [Except.map]

theorem editLatestAs_run {s : Session} {front : List Expectation} {e : Expectation}
    (items : s.queue = { items := front ++ [e] }) (api : String) (f : Payload → Payload) :
    editLatestAs e.payload.kind api f s =
      ⟨.ok (.ok ()), { s with queue := { items := front ++ [{ e with payload := f e.payload }] } }, []⟩ := by
  simp [editLatestAs, Run.run_bind, Except.map, peekLatestAs_run items, items, Queue.editLatest_append]

/-- A payload of the same kind takes the place of the latest, which is discarded. -/
theorem overwriteLatest_run_same {s : Session} {front : List Expectation} {e : Expectation} {payload : Payload}
    (items : s.queue = { items := front ++ [e] }) (same : e.payload.kind = payload.kind) :
    overwriteLatest payload s =
      ⟨.ok (.ok true), { s with queue := { items := front ++ [{ e with payload := payload }] } },
        e.payload.discard⟩ := by
  simp [overwriteLatest, onQueue, queueComponent, Queue.overwriteLatest, Run.run_bind, Except.map,
    peekLatest_run items, items, same, Queue.editLatest_append]

theorem overwriteLatest_run_other {s : Session} {front : List Expectation} {e : Expectation} {payload : Payload}
    (items : s.queue = { items := front ++ [e] }) (other : e.payload.kind ≠ payload.kind) :
    overwriteLatest payload s = ⟨.ok (.ok false), s, []⟩ := by
  obtain ⟨settings, formatter, queue, binding⟩ := s
  subst items
  simp [overwriteLatest, onQueue, queueComponent, Queue.overwriteLatest, Run.run_bind, Except.map,
    peekLatest, other]

theorem overwriteLatestAs_run {s : Session} {front : List Expectation} {e : Expectation} {payload : Payload}
    (items : s.queue = { items := front ++ [e] }) (same : e.payload.kind = payload.kind) (api : String) :
    overwriteLatestAs api payload s =
      ⟨.ok (.ok ()), { s with queue := { items := front ++ [{ e with payload := payload }] } },
        e.payload.discard⟩ := by
  have looked := peekLatestAs_run items api
  rw [same] at looked
  simp [overwriteLatestAs, onQueue, queueComponent, Queue.overwriteLatest, Run.run_bind, Except.map,
    looked, items, same, Queue.editLatest_append]

/-! ## Appending and taking -/

theorem register_run (api : String) (payload : Payload) (s : Session) :
    register api payload s =
      ⟨.ok (), { s with queue := { items := s.queue.items ++ [⟨api, payload⟩] } },
        [.logged (.registering api payload.typeName (s.queue.length + 1)) none]⟩ := rfl

theorem consumeNext_run_nil {s : Session} (items : s.queue = {}) :
    consumeNext s = ⟨.ok none, s, [.logged .consumedNothing none]⟩ := by
  obtain ⟨settings, formatter, queue, binding⟩ := s
  subst items
  rfl

theorem consumeNext_run_cons {s : Session} {e : Expectation} {rest : List Expectation}
    (items : s.queue = { items := e :: rest }) :
    consumeNext s =
      ⟨.ok (some e.payload), { s with queue := { items := rest } },
        [.logged (.consumed e.api rest.length) none]⟩ := by
  obtain ⟨settings, formatter, queue, binding⟩ := s
  subst items
  rfl

theorem consumeNextAs_run_nil {s : Session} (items : s.queue = {}) (kind : Kind) (api : String) :
    consumeNextAs kind api s = ⟨.ok (.ok none), s, [.logged .consumedNothing none]⟩ := by
  obtain ⟨settings, formatter, queue, binding⟩ := s
  subst items
  rfl

/-- A payload of the kind that is asked for is handed over. -/
theorem consumeNextAs_run_same {s : Session} {e : Expectation} {rest : List Expectation}
    (items : s.queue = { items := e :: rest }) (api : String) :
    consumeNextAs e.payload.kind api s =
      ⟨.ok (.ok (some e.payload)), { s with queue := { items := rest } },
        [.logged (.consumed e.api rest.length) none]⟩ := by
  obtain ⟨settings, formatter, queue, binding⟩ := s
  subst items
  simp [consumeNextAs, onQueue, queueComponent, Run.run_bind, Queue.consumeNext_run_cons]

/-- A payload of another kind is taken and discarded, and then reported. -/
theorem consumeNextAs_run_other {s : Session} {e : Expectation} {rest : List Expectation}
    (items : s.queue = { items := e :: rest }) {kind : Kind} (other : e.payload.kind ≠ kind) (api : String) :
    consumeNextAs kind api s =
      (let after := { s with queue := { items := rest } }
       let raised := (raise (.payloadTypeMismatch api e.api) : Run Session (Except Error (Option Payload))) after
       ⟨raised.outcome, raised.state,
        [.logged (.consumed e.api rest.length) none] ++ (e.payload.discard ++ raised.trace)⟩) := by
  obtain ⟨settings, formatter, queue, binding⟩ := s
  subst items
  simp [consumeNextAs, onQueue, queueComponent, Run.run_bind, Queue.consumeNext_run_cons, other]

/-! ## Emptying the queue -/

theorem reset_run (s : Session) :
    reset s =
      ⟨.ok (), { s with queue := {}, binding := {} },
        (s.queue.items.map Expectation.payload).flatMap Payload.discard
          ++ [.logged (.sessionReset s.queue.items.length) none]⟩ := by
  simp [reset, onQueue, queueComponent, Queue.drainAndDiscard, Queue.drain, Run.run_bind, Except.map]

/-- What a session is when verifying has emptied it. -/
def verified (s : Session) : Session :=
  { s with queue := {}, binding := if s.settings.unbindOnVerify then {} else s.binding }

theorem verify_run_nil {s : Session} (items : s.queue = {}) :
    verify s = ⟨.ok (.ok ()), s.verified, [.logged .allFulfilled none]⟩ := by
  obtain ⟨settings, formatter, queue, binding⟩ := s
  subst items
  cases unbinds : settings.unbindOnVerify <;>
    simp [verify, verified, onQueue, queueComponent, Queue.drain, Run.run_bind, Except.map, unbinds]

/-- The report on expectations that were left over. -/
def leftOverMessage (s : Session) (left : List Expectation) : Bounded :=
  s.formatter.clip
    (Message.render s.formatter.precisionLimit leftOverTemplate.toList
      [.uint (UInt64.ofNat left.length), .text (Queue.listing left)]).text false

theorem format_leftOver (s : Session) (left : List Expectation) :
    s.formatter.format leftOverTemplate [.uint (UInt64.ofNat left.length), .text (Queue.listing left)] =
      .ok (s.leftOverMessage left) := by
  have noFloat : ∀ part ∈ Message.segments leftOverTemplate.toList, part.asksFloat = false := by decide +kernel
  have unrefused : (Message.render s.formatter.precisionLimit leftOverTemplate.toList
      [.uint (UInt64.ofNat left.length), .text (Queue.listing left)]).refused = none :=
    Message.renderSegments_unrefused noFloat _
  rw [Message.Formatter.format_eq_clip, unrefused, leftOverMessage]

/-- What is left is discarded, then reported to the reporter that was bound. -/
theorem verify_run_cons {s : Session} {e : Expectation} {rest : List Expectation}
    (items : s.queue = { items := e :: rest }) :
    verify s =
      (let left := e :: rest
       ⟨(s.binding.fate (s.leftOverMessage left).text).map fun _ =>
          .error (.unfulfilled left.length (Queue.listing left)),
        s.verified,
        (left.map Expectation.payload).flatMap Payload.discard
          ++ ([.logged (.leftOver left.length) none] ++ s.told s.binding (s.leftOverMessage left))⟩) := by
  have reported := report_run_ok (s := s.verified) (s.format_leftOver (e :: rest)) s.binding
  change _ = (⟨_, _, s.told s.binding (s.leftOverMessage (e :: rest))⟩ : Step Session Unit) at reported
  obtain ⟨settings, formatter, queue, binding⟩ := s
  subst items
  cases unbinds : settings.unbindOnVerify <;>
    simp_all [verify, verified, onQueue, queueComponent, Queue.drain, Run.run_bind, Except.map]

theorem close_run (s : Session) :
    close s =
      ⟨.ok (), { s with queue := {} }, (s.queue.items.map Expectation.payload).flatMap Payload.discard⟩ := by
  simp [close, onQueue, queueComponent, Queue.close, Queue.drainAndDiscard, Queue.drain, Run.run_bind, Except.map]

end Session

end MockQueue

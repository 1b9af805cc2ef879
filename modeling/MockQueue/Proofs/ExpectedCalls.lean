import MockQueue.Proofs.Operations

/-!
# Calls against expectations

A test plans calls, each for a stub and with conditions that may be refined right after they were
registered, then the stubs are called and in the end the session is verified. With a reporter that
comes back, every step is answered and tells it so many times (`Yields`, `Passes`), and over a whole
test that is the number of `mismatches` of plans and calls taken place by place. So a test is silent
exactly if the calls are those that were planned (`silent_iff_calls_match`).
-/

namespace MockQueue

/-- A reporter that comes back, whatever it is told. -/
def Reporter.Returns (r : Reporter) : Prop :=
  ∀ message, r.fate message = none

theorem Reporter.Returns.fate {r : Reporter} (returns : r.Returns) (text : String) : Binding.fate ⟨some r⟩ text = .ok () := by
  simp only [Binding.fate, Reporter.reply, returns text]

namespace Session

open Message (Bounded Argument)

/-! ## Steps with a reporter that comes back -/

/-- The step ended with an answer and a state, and told the reporter `r`, and no other, `count`
times. -/
structure Yields {α : Type} (r : Reporter) (step : Step Session α) (answer : α) (after : Session)
    (count : Nat) : Prop where
  outcome : step.outcome = .ok answer
  state : step.state = after
  count_eq : (reports step.trace).length = count
  addressed : ∀ told ∈ reports step.trace, told.1 = r

section

variable {r : Reporter} {s : Session} {α β : Type}

theorem Yields.bind {x : Run Session α} {next : α → Run Session β} {a : α} {middle after : Session} {b : β}
    {n m : Nat} (first : Yields r (x s) a middle n) (second : Yields r (next a middle) b after m) :
    Yields r ((x >>= next) s) b after (n + m) := by
  obtain ⟨ended, left, count, addressed⟩ := first
  rw [Run.run_bind, ended, left]
  refine ⟨second.outcome, second.state, ?_, ?_⟩
  · simp [count, second.count_eq]
  · intro told member
    rw [reports_append, List.mem_append] at member
    rcases member with before | later
    · exact addressed told before
    · exact second.addressed told later

/-- A first operation that reports nothing adds nothing. -/
theorem Yields.bind_quiet {x : Run Session α} {next : α → Run Session β} {a : α} {middle after : Session}
    {b : β} {n : Nat} (first : Yields r (x s) a middle 0) (second : Yields r (next a middle) b after n) :
    Yields r ((x >>= next) s) b after n := by
  simpa using first.bind second

theorem yields_pure (a : α) : Yields r ((pure a : Run Session α) s) a s 0 :=
  ⟨rfl, rfl, rfl, by simp⟩

theorem Yields.map {x : Run Session α} {a : α} {after : Session} {n : Nat} (ended : Yields r (x s) a after n)
    (g : α → β) : Yields r ((x >>= fun a => pure (g a)) s) (g a) after n := by
  rw [Run.run_bind_pure, ended.outcome]
  exact ⟨rfl, ended.state, ended.count_eq, ended.addressed⟩

variable (returns : r.Returns) (bound : s.binding = ⟨some r⟩)

include returns in
/-- Handing over one message is one report. -/
theorem deliverTo_yields (message : Bounded) : Yields r (deliverTo ⟨some r⟩ message s) () s 1 := by
  rw [deliverTo_run]
  refine ⟨?_, rfl, ?_, ?_⟩
  · exact returns.fate message.text
  · simp [reports_told]
  · simp [reports_told]

include returns bound

theorem deliver_yields (message : Bounded) : Yields r (deliver message s) () s 1 := by
  have handed := deliverTo_yields (s := s) returns message
  rwa [deliverTo_run, ← bound, ← deliver_run] at handed

theorem raise_yields (e : Error) : Yields r ((raise e : Run Session (Except Error α)) s) (.error e) s 1 := by
  have told : Yields r (fail e.message s) () s 1 := by
    rw [fail, Run.run_get_bind]
    exact deliver_yields returns bound _
  exact told.map fun _ => Except.error e

theorem assertPieces_yields (condition : Bool) (pieces : List String) (keepGoing : Bool) :
    Yields r (assertPieces condition pieces keepGoing s) () s (if condition then 1 else 0) := by
  cases condition with
  | true =>
    rw [assertPieces, if_pos rfl, Run.run_get_bind]
    exact deliver_yields returns bound _
  | false => exact yields_pure ()

/-! ## Checks -/

theorem checkArgument_yields (api param : String) (expected : Expected Value) (actual : Value) :
    Yields r (checkArgument api param expected actual s) (expected.accepts Value.same actual) s
      (if expected.accepts Value.same actual then 0 else 1) := by
  have told := assertPieces_yields returns bound (!expected.accepts Value.same actual)
    [api, "(): parameter '", param, "' expected ", String.ofList expected.value.shown, ", got ",
     String.ofList actual.shown] false
  have ended := told.map fun _ => expected.accepts Value.same actual
  cases accepted : expected.accepts Value.same actual with
  | true => simpa [checkArgument, accepted] using ended
  | false => simpa [checkArgument, accepted] using ended

omit returns bound in
/-- Rows of one length that nowhere differ are equal. -/
theorem firstDifference_eq_none_iff {expected actual : List UInt8} (sameLength : expected.length = actual.length) :
    firstDifference expected actual = none ↔ expected = actual := by
  induction expected generalizing actual with
  | nil =>
    cases actual with
    | nil => simp [firstDifference]
    | cons a actual => simp at sameLength
  | cons e expected ih =>
    cases actual with
    | nil => simp at sameLength
    | cons a actual =>
      have tail := ih (Nat.succ.inj sameLength)
      by_cases same : e = a
      · simp [firstDifference, same, tail]
      · simp [firstDifference, same]

/-- Whether bytes are as expected; none expected accepts all. -/
def BytesAccepted (expected : Option (List UInt8)) (actual : List UInt8) : Prop :=
  expected = none ∨ expected = some actual

instance (expected : Option (List UInt8)) (actual : List UInt8) : Decidable (BytesAccepted expected actual) :=
  inferInstanceAs (Decidable (_ ∨ _))

theorem checkBytes_yields (api param : String) (expected : Option (List UInt8)) (actual : List UInt8) :
    Yields r (checkBytes api param expected actual s) (decide (BytesAccepted expected actual)) s
      (if BytesAccepted expected actual then 0 else 1) := by
  have told := fun pieces => (assertPieces_yields returns bound true pieces false).map fun _ => false
  cases expected with
  | none => simpa [BytesAccepted, checkBytes] using yields_pure true
  | some expected =>
    by_cases sameLength : expected.length = actual.length
    · have differs := firstDifference_eq_none_iff sameLength
      simp only [checkBytes, sameLength, ne_eq, not_true_eq_false, if_false]
      cases found : firstDifference expected actual with
      | none =>
        have same : expected = actual := differs.mp found
        simpa [BytesAccepted, same] using yields_pure true
      | some place =>
        have other : expected ≠ actual := fun same => by simp [differs.mpr same] at found
        simpa [BytesAccepted, other] using told _
    · have other : expected ≠ actual := fun same => sameLength (congrArg List.length same)
      simp only [checkBytes, sameLength, ne_eq, not_false_eq_true, if_true]
      simpa [BytesAccepted, other] using told _

/-! ## Calls -/

/-- Whether a descriptor is as expected. -/
def FdAccepted (expected : Expected Int32) (actual : Int32) : Prop :=
  expected.ignored = true ∨ actual = expected.value

instance (expected : Expected Int32) (actual : Int32) : Decidable (FdAccepted expected actual) :=
  inferInstanceAs (Decidable (_ ∨ _))

omit returns bound in
theorem accepts_eq_fdAccepted (expected : Expected Int32) (actual : Int32) :
    (⟨.int32 expected.value, expected.ignored⟩ : Expected Value).accepts Value.same (.int32 actual) =
      decide (FdAccepted expected actual) := by
  rw [Bool.eq_iff_iff, decide_eq_true_eq]
  simp only [Expected.accepts, Value.same, Bool.or_eq_true, beq_iff_eq, Value.int32.injEq]
  exact or_congr_right eq_comm

/-- A call whose conditions come next is checked against them. -/
theorem call_yields_same {api : String} {stub : Stub} {c : Conditions} {rest : List Expectation}
    (items : s.queue = { items := ⟨api, .conditions stub c⟩ :: rest }) (fd : Int32) (data : List UInt8) :
    Yields r (call stub fd data s)
      (.ok (.served (decide (FdAccepted c.fd fd)) (decide (BytesAccepted c.data data)) c.retval))
      { s with queue := { items := rest } }
      ((if FdAccepted c.fd fd then 0 else 1) + if BytesAccepted c.data data then 0 else 1) := by
  have taken : Yields r (consumeNextAs (.conditions stub) stub.name s)
      (.ok (some (.conditions stub c))) { s with queue := { items := rest } } 0 := by
    have ran := consumeNextAs_run_same items stub.name
    change consumeNextAs (.conditions stub) stub.name s = _ at ran
    rw [ran]
    exact ⟨rfl, rfl, rfl, by simp⟩
  have fdChecked := checkArgument_yields (s := { s with queue := { items := rest } }) returns bound stub.name "fd"
    ⟨.int32 c.fd.value, c.fd.ignored⟩ (.int32 fd)
  have dataChecked := checkBytes_yields (s := { s with queue := { items := rest } }) returns bound stub.name "buf"
    c.data data
  simp only [accepts_eq_fdAccepted, decide_eq_true_eq] at fdChecked
  exact taken.bind_quiet (Yields.bind fdChecked (dataChecked.map _))

/-- A call whose stub is not the next one costs that one its place, and one report. -/
theorem call_yields_other {api : String} {owner stub : Stub} {c : Conditions} {rest : List Expectation}
    (items : s.queue = { items := ⟨api, .conditions owner c⟩ :: rest }) (other : stub ≠ owner) (fd : Int32)
    (data : List UInt8) :
    Yields r (call stub fd data s) (.error (.payloadTypeMismatch stub.name api))
      { s with queue := { items := rest } } 1 := by
  have otherKind : (Payload.conditions owner c).kind ≠ .conditions stub := by
    intro same
    exact other (Kind.conditions.inj same).symm
  have taken : Yields r (consumeNextAs (.conditions stub) stub.name s)
      (.error (.payloadTypeMismatch stub.name api)) { s with queue := { items := rest } } 1 := by
    have raised := raise_yields (s := { s with queue := { items := rest } }) (α := Option Payload) returns bound
      (.payloadTypeMismatch stub.name api)
    rw [consumeNextAs_run_other items otherKind stub.name]
    refine ⟨?_, ?_, ?_, ?_⟩
    · simpa using raised.outcome
    · simpa using raised.state
    · simpa using raised.count_eq
    · simpa using raised.addressed
  unfold call
  refine Yields.bind (n := 1) (m := 0) taken ?_
  exact yields_pure _

/-- A call after the last expectation is one report. -/
theorem call_yields_nil (items : s.queue = {}) (stub : Stub) (fd : Int32) (data : List UInt8) :
    Yields r (call stub fd data s) (.ok .unexpected) s 1 := by
  have taken : Yields r (consumeNextAs (.conditions stub) stub.name s) (.ok none) s 0 := by
    rw [consumeNextAs_run_nil items]
    exact ⟨rfl, rfl, rfl, by simp⟩
  have told := assertPieces_yields returns bound true
    ["Unexpected call to ", stub.name, "(): no expectations remaining"] false
  exact taken.bind_quiet (told.map _)

/-! ## Verifying -/

theorem verify_yields_cons {e : Expectation} {rest : List Expectation}
    (items : s.queue = { items := e :: rest }) :
    Yields r (verify s) (.error (.unfulfilled (rest.length + 1) (Queue.listing (e :: rest)))) s.verified 1 := by
  rw [verify_run_cons items]
  refine ⟨?_, rfl, ?_, ?_⟩
  · simp [bound, returns.fate, Except.map]
  · simp [reports_told, bound]
  · simp [reports_told, bound]

omit returns bound in
theorem verify_yields_nil (items : s.queue = {}) : Yields r (verify s) (.ok ()) s.verified 0 := by
  rw [verify_run_nil items]
  exact ⟨rfl, rfl, rfl, by simp⟩

end

/-! ## Rows of commands -/

/-- The commands were all answered, led from `s` to `after`, and told the reporter `r`, and no other,
`count` times. -/
structure Passes (r : Reporter) (commands : List Command) (s after : Session) (count : Nat) : Prop where
  final_eq : Run.final perform commands s = after
  answered : ∀ step ∈ Run.history perform commands s, ∃ answer, step.outcome = .ok answer
  count_eq : (reports (Run.traceOf (Run.history perform commands s))).length = count
  addressed : ∀ told ∈ reports (Run.traceOf (Run.history perform commands s)), told.1 = r

section

variable {r : Reporter} {s : Session}

theorem passes_nil : Passes r [] s s 0 :=
  ⟨rfl, by simp [Run.history], rfl, by simp [Run.history, Run.traceOf]⟩

theorem Passes.append {front back : List Command} {middle after : Session} {n m : Nat}
    (first : Passes r front s middle n) (second : Passes r back middle after m) :
    Passes r (front ++ back) s after (n + m) := by
  have steps : Run.history perform (front ++ back) s =
      Run.history perform front s ++ Run.history perform back middle := by
    rw [Run.history_append, first.final_eq]
  have told : reports (Run.traceOf (Run.history perform (front ++ back) s)) =
      reports (Run.traceOf (Run.history perform front s)) ++
        reports (Run.traceOf (Run.history perform back middle)) := by
    rw [steps, Run.traceOf, List.flatMap_append, reports_append]
    rfl
  refine ⟨?_, ?_, ?_, ?_⟩
  · rw [Run.final_append, first.final_eq, second.final_eq]
  · intro step member
    rw [steps, List.mem_append] at member
    rcases member with before | later
    · exact first.answered step before
    · exact second.answered step later
  · rw [told, List.length_append, first.count_eq, second.count_eq]
  · intro each member
    rw [told, List.mem_append] at member
    rcases member with before | later
    · exact first.addressed each before
    · exact second.addressed each later

theorem passes_one {command : Command} {answer : Answer} {after : Session} {n : Nat}
    (ended : Yields r (perform command s) answer after n) : Passes r [command] s after n := by
  obtain ⟨outcome, state, count, addressed⟩ := ended
  refine ⟨state, ?_, ?_, ?_⟩
  · intro step member
    have same : step = perform command s := by simpa [Run.history] using member
    exact ⟨answer, same ▸ outcome⟩
  · simpa [Run.history, Run.traceOf] using count
  · simpa [Run.history, Run.traceOf] using addressed

theorem Passes.cons (command : Command) {rest : List Command} {answer : Answer} {middle after : Session}
    {n m : Nat} (first : Yields r (perform command s) answer middle n) (later : Passes r rest middle after m) :
    Passes r (command :: rest) s after (n + m) :=
  (passes_one first).append later

end

/-! ## Plans and calls -/

/-- A change of conditions that were just registered. -/
inductive Edit where
  | ignoreFd
  | setData (data : Option (List UInt8))
  deriving DecidableEq, Repr

namespace Edit

/-- The conditions after the change. -/
def apply : Edit → Conditions → Conditions
  | ignoreFd, c => { c with fd := c.fd.ignore }
  | setData data, c => { c with data := data }

/-- The command that makes the change. -/
def command (stub : Stub) : Edit → Command
  | ignoreFd => .ignoreFd stub
  | setData data => .setData stub data

end Edit

/-- A call that a test expects, with the changes made right after it was registered. -/
structure Plan where
  stub : Stub
  conditions : Conditions
  edits : List Edit := []
  deriving DecidableEq, Repr

namespace Plan

/-- The conditions after all changes. -/
def expected (p : Plan) : Conditions :=
  p.edits.foldl (fun c edit => edit.apply c) p.conditions

/-- The commands that register the call and change it. -/
def commands (p : Plan) : List Command :=
  .expect p.stub p.conditions :: p.edits.map (Edit.command p.stub)

/-- What the plan leaves in the queue. -/
def expectation (p : Plan) : Expectation :=
  ⟨p.stub.name, .conditions p.stub p.expected⟩

end Plan

/-- A call that is made. -/
structure StubCall where
  stub : Stub
  fd : Int32
  data : List UInt8
  deriving DecidableEq, Repr

/-- The command that makes the call. -/
def StubCall.command (c : StubCall) : Command :=
  .call c.stub c.fd c.data

/-- The call is the one that was planned: the stub is the same, and descriptor and bytes are as
expected, if they matter. -/
structure Plan.Matches (p : Plan) (c : StubCall) : Prop where
  stub_eq : c.stub = p.stub
  fd : FdAccepted p.expected.fd c.fd
  data : BytesAccepted p.expected.data c.data

/-- In how many ways a call differs from what was planned in its place. A call of another stub differs
in one way, since its arguments are not looked at. -/
def Plan.mismatches (p : Plan) (c : StubCall) : Nat :=
  if c.stub = p.stub then
    (if FdAccepted p.expected.fd c.fd then 0 else 1) + if BytesAccepted p.expected.data c.data then 0 else 1
  else 1

theorem Plan.mismatches_eq_zero_iff (p : Plan) (c : StubCall) : p.mismatches c = 0 ↔ p.Matches c := by
  unfold mismatches
  by_cases sameStub : c.stub = p.stub
  · by_cases fd : FdAccepted p.expected.fd c.fd
    · by_cases data : BytesAccepted p.expected.data c.data
      · simpa [sameStub, fd, data] using ⟨sameStub, fd, data⟩
      · simpa [sameStub, fd, data] using fun matched : p.Matches c => data matched.data
    · simpa [sameStub, fd] using fun matched : p.Matches c => fd matched.fd
  · simpa [sameStub] using fun matched : p.Matches c => sameStub matched.stub_eq

/-- In how many ways calls differ from plans, place by place; a call beyond the last plan differs in
one way. -/
def callMismatches : List Plan → List StubCall → Nat
  | _, [] => 0
  | [], _ :: calls => 1 + callMismatches [] calls
  | p :: plans, c :: calls => p.mismatches c + callMismatches plans calls

/-- In how many ways calls differ from plans: those of the calls, and one if there are too few. -/
def mismatches (plans : List Plan) (calls : List StubCall) : Nat :=
  callMismatches plans calls + if calls.length < plans.length then 1 else 0

section

variable {r : Reporter} {s : Session}

theorem refine_yields {front : List Expectation} {stub : Stub} {c : Conditions}
    (items : s.queue = { items := front ++ [⟨stub.name, .conditions stub c⟩] }) (f : Conditions → Conditions) :
    Yields r (refine stub f s) (.ok ())
      { s with queue := { items := front ++ [⟨stub.name, .conditions stub (f c)⟩] } } 0 := by
  have ran : refine stub f s = _ := editLatestAs_run items stub.name _
  rw [ran]
  exact ⟨rfl, rfl, rfl, by simp⟩

/-- Changes right after the registration apply to what was registered. -/
theorem edits_pass {front : List Expectation} {stub : Stub} {c : Conditions}
    (items : s.queue = { items := front ++ [⟨stub.name, .conditions stub c⟩] }) (edits : List Edit) :
    Passes r (edits.map (Edit.command stub)) s
      { s with queue := { items := front ++
        [⟨stub.name, .conditions stub (edits.foldl (fun c edit => edit.apply c) c)⟩] } } 0 := by
  induction edits generalizing s c with
  | nil =>
    obtain ⟨settings, formatter, queue, binding⟩ := s
    subst items
    exact passes_nil
  | cons edit rest ih =>
    have changed : Yields r (perform (edit.command stub) s) .done
        { s with queue := { items := front ++ [⟨stub.name, .conditions stub (edit.apply c)⟩] } } 0 := by
      cases edit with
      | ignoreFd => exact (refine_yields items _).map _
      | setData data => exact (refine_yields items _).map _
    exact Passes.cons (edit.command stub) changed (ih rfl)

theorem plan_passes (p : Plan) :
    Passes r p.commands s { s with queue := { items := s.queue.items ++ [p.expectation] } } 0 := by
  have registered : Yields r (perform (.expect p.stub p.conditions) s) .nothing
      { s with queue := { items := s.queue.items ++ [⟨p.stub.name, .conditions p.stub p.conditions⟩] } } 0 :=
    ⟨rfl, rfl, rfl, by simp [perform, expect, register_run]⟩
  exact Passes.cons (.expect p.stub p.conditions) registered (edits_pass rfl p.edits)

/-- A session that waits for plans. -/
def waiting (settings : Settings) (r : Reporter) (plans : List Plan) : Session :=
  { settings, queue := { items := plans.map Plan.expectation }, binding := ⟨some r⟩ }

/-- Registering plans reports nothing and queues what they expect, in order. -/
theorem plans_pass (settings : Settings) (front plans : List Plan) :
    Passes r (plans.flatMap Plan.commands) (waiting settings r front) (waiting settings r (front ++ plans)) 0 := by
  induction plans generalizing front with
  | nil => simpa using passes_nil
  | cons p rest ih =>
    have first : Passes r p.commands (waiting settings r front) (waiting settings r (front ++ [p])) 0 := by
      simpa [waiting] using plan_passes (r := r) (s := waiting settings r front) p
    simpa using first.append (ih (front ++ [p]))

/-- Every call takes one expectation, as long as there is one, and reports where it differs. -/
theorem calls_pass (returns : r.Returns) (settings : Settings) (plans : List Plan) (calls : List StubCall) :
    Passes r (calls.map StubCall.command) (waiting settings r plans) (waiting settings r (plans.drop calls.length))
      (callMismatches plans calls) := by
  induction calls generalizing plans with
  | nil => simpa [callMismatches] using passes_nil
  | cons c rest ih =>
    cases plans with
    | nil =>
      have ended := call_yields_nil (s := waiting settings r []) returns rfl rfl c.stub c.fd c.data
      have all := Passes.cons c.command (ended.map (Answer.ofExcept Answer.ofCall)) (ih [])
      simpa [callMismatches] using all
    | cons p later =>
      by_cases sameStub : c.stub = p.stub
      · have ended := call_yields_same (s := waiting settings r (p :: later)) returns rfl rfl c.fd c.data
        rw [← sameStub] at ended
        have all := Passes.cons c.command (ended.map (Answer.ofExcept Answer.ofCall)) (ih later)
        simpa [callMismatches, Plan.mismatches, sameStub] using all
      · have ended := call_yields_other (s := waiting settings r (p :: later)) returns rfl rfl sameStub c.fd c.data
        have all := Passes.cons c.command (ended.map (Answer.ofExcept Answer.ofCall)) (ih later)
        simpa [callMismatches, Plan.mismatches, sameStub] using all

/-- Verifying reports once if plans are left, and only then. -/
theorem verify_yields_waiting (returns : r.Returns) (settings : Settings) (plans : List Plan) :
    ∃ answer after, Yields r (perform .verify (waiting settings r plans)) answer after (if plans = [] then 0 else 1) ∧
      (answer = .done ↔ plans = []) := by
  cases plans with
  | nil =>
    have ended := verify_yields_nil (r := r) (s := waiting settings r []) rfl
    exact ⟨_, _, ended.map (Answer.ofExcept fun _ => Answer.done), by simp [Answer.ofExcept]⟩
  | cons p rest =>
    have ended := verify_yields_cons (s := waiting settings r (p :: rest)) returns rfl rfl
    exact ⟨_, _, ended.map (Answer.ofExcept fun _ => Answer.done), by simp [Answer.ofExcept]⟩

end

/-! ## Whole tests -/

/-- The commands of a test: plans, calls, and verifying in the end. -/
def testCommands (plans : List Plan) (calls : List StubCall) : List Command :=
  plans.flatMap Plan.commands ++ calls.map StubCall.command ++ [.verify]

/-- Nothing differs exactly if there are as many calls as plans and each matches the plan in its
place. -/
theorem mismatches_eq_zero_iff (plans : List Plan) (calls : List StubCall) :
    mismatches plans calls = 0 ↔
      plans.length = calls.length ∧
        ∀ (k : Nat) (p : Plan) (c : StubCall), plans[k]? = some p → calls[k]? = some c → p.Matches c := by
  induction plans generalizing calls with
  | nil => cases calls <;> simp [mismatches, callMismatches]
  | cons p plans ih =>
    cases calls with
    | nil => simp [mismatches, callMismatches]
    | cons c calls =>
      have split : mismatches (p :: plans) (c :: calls) = p.mismatches c + mismatches plans calls := by
        simp only [mismatches, callMismatches, List.length_cons, Nat.add_lt_add_iff_right, Nat.add_assoc]
      rw [split, Nat.add_eq_zero_iff, ih, p.mismatches_eq_zero_iff]
      constructor
      · rintro ⟨first, sameLength, later⟩
        refine ⟨by simp [sameLength], ?_⟩
        intro k p' c' atPlans atCalls
        cases k with
        | zero =>
          obtain rfl : p = p' := by simpa using atPlans
          obtain rfl : c = c' := by simpa using atCalls
          exact first
        | succ k => exact later k p' c' (by simpa using atPlans) (by simpa using atCalls)
      · rintro ⟨sameLength, all⟩
        refine ⟨all 0 p c rfl rfl, by simpa using sameLength, ?_⟩
        intro k p' c' atPlans atCalls
        exact all (k + 1) p' c' (by simpa using atPlans) (by simpa using atCalls)

/-- A test with a reporter that comes back is answered at every step and reports as often as calls and
plans differ, always to that reporter. It is silent to its end exactly if there are as many calls as
plans and every call matches the plan in its place. -/
theorem silent_iff_calls_match (settings : Settings) (r : Reporter) (returns : r.Returns) (plans : List Plan)
    (calls : List StubCall) :
    let steps := Run.history perform (testCommands plans calls) { settings, binding := ⟨some r⟩ }
    let told := reports (Run.traceOf steps)
    (∀ step ∈ steps, ∃ answer, step.outcome = .ok answer) ∧
    (∀ each ∈ told, each.1 = r) ∧
    told.length = mismatches plans calls ∧
    ((∃ last, steps.getLast? = some last ∧ last.outcome = .ok .done) ↔ plans.length ≤ calls.length) ∧
    (told = [] ∧ (∃ last, steps.getLast? = some last ∧ last.outcome = .ok .done) ↔
      plans.length = calls.length ∧
        ∀ (k : Nat) (p : Plan) (c : StubCall), plans[k]? = some p → calls[k]? = some c → p.Matches c) := by
  intro steps told
  have planned := plans_pass (r := r) settings [] plans
  have called := planned.append (calls_pass returns settings plans calls)
  obtain ⟨answer, after, verified, doneIff⟩ := verify_yields_waiting returns settings (plans.drop calls.length)
  have passed := called.append (passes_one verified)
  have missing : (if plans.drop calls.length = [] then 0 else 1) = if calls.length < plans.length then 1 else 0 := by
    by_cases enough : plans.length ≤ calls.length
    · simp [enough, Nat.not_lt.mpr enough]
    · simp [enough, Nat.lt_of_not_le enough]
  have count : told.length = mismatches plans calls := by
    have counted := passed.count_eq
    rw [missing, Nat.zero_add] at counted
    exact counted
  have last : steps.getLast? = some (perform .verify (waiting settings r (plans.drop calls.length))) := by
    have parts := Run.history_append perform (plans.flatMap Plan.commands ++ calls.map StubCall.command) [.verify]
      (waiting settings r [])
    rw [called.final_eq] at parts
    change (Run.history perform (testCommands plans calls) (waiting settings r [])).getLast? = _
    rw [testCommands, parts]
    simp [Run.history]
  have verdict : (∃ last, steps.getLast? = some last ∧ last.outcome = .ok .done) ↔
      plans.length ≤ calls.length := by
    rw [← List.drop_eq_nil_iff, ← doneIff, last]
    constructor
    · rintro ⟨_, ⟨⟩, isDone⟩
      exact Except.ok.inj (verified.outcome.symm.trans isDone)
    · rintro rfl
      exact ⟨_, rfl, verified.outcome⟩
  refine ⟨passed.answered, passed.addressed, count, verdict, ?_⟩
  rw [verdict, ← mismatches_eq_zero_iff, ← count, List.length_eq_zero_iff]
  constructor
  · exact And.left
  · intro silent
    refine ⟨silent, ?_⟩
    have none : mismatches plans calls = 0 := by rw [← count, silent]; rfl
    exact Nat.le_of_eq ((mismatches_eq_zero_iff plans calls).mp none).1

/-- Two planned calls, one with its descriptor ignored and one with other bytes set, of which the second
is called with a byte that differs. -/
theorem silent_iff_calls_match_one_byte_off :
    let read : Stub := ⟨"read", { number := 0, name := "Read" }⟩
    let write : Stub := ⟨"write", { number := 1, name := "Write" }⟩
    (Reporter.collector "log").Returns ∧
      (reports (Run.traceOf (Run.history perform
        (testCommands
          [⟨read, ⟨⟨3, false⟩, none, 10⟩, [.ignoreFd]⟩,
            ⟨write, ⟨⟨4, false⟩, none, 2⟩, [.setData (some [1, 2])]⟩]
          [⟨read, 7, []⟩, ⟨write, 4, [1, 9]⟩])
        { binding := ⟨some (.collector "log")⟩ }))).length = 1 := by
  intro read write
  have returns : (Reporter.collector "log").Returns := fun _ => rfl
  refine ⟨returns, ?_⟩
  obtain ⟨_, _, count, _⟩ := silent_iff_calls_match {} (.collector "log") returns
    [⟨read, ⟨⟨3, false⟩, none, 10⟩, [.ignoreFd]⟩, ⟨write, ⟨⟨4, false⟩, none, 2⟩, [.setData (some [1, 2])]⟩]
    [⟨read, 7, []⟩, ⟨write, 4, [1, 9]⟩]
  rw [count]
  decide

end Session

end MockQueue

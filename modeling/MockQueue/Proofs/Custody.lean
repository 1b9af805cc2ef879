import MockQueue.Proofs.ForeignCalls

/-!
# Who owns a pointer

Foreign code hands pointers to the queue and gets them back, or has them released. `Custody` books this by
the calls alone: every registration has a number, waits in the queue, and leaves it once, by being returned
or drained; one without a name is refused at once. The book is kept in good order (`Custody.Linear`), and
whatever calls are made, the session does what the book says (`pointers_leave_once`): the cells that were handed
to what releases them are those of the registrations that were drained or refused, and what is handed out is what
is booked as returned.
-/

namespace MockQueue.Boundary

open Host

/-! ## The book -/

/-- A pointer that was registered: the name of its cell, unless it is the null pointer, and how the cell is
released. -/
structure Registration where
  number : Nat
  pointer : Option String
  release : Option Release
  named : Bool
  deriving DecidableEq, Repr

inductive WayOut where
  | returned
  /-- The queue was emptied. -/
  | drained
  /-- It had no name, so it was never in the queue. -/
  | refused
  deriving DecidableEq, Repr

structure Leave where
  registration : Registration
  way : WayOut
  deriving DecidableEq, Repr

/-- The cell whose release a pointer asks for, and how. A null pointer is never released, nor is one without
a way to release it. -/
def releaseOf (pointer : Option String) (release : Option Release) : Option (String × Release) :=
  match pointer, release with
  | some name, some release => some (name, release)
  | _, _ => none

/-- What is released when a registration leaves: nothing if it is returned. -/
def Leave.release? (l : Leave) : Option (String × Release) :=
  if l.way = .returned then none else releaseOf l.registration.pointer l.registration.release

/-- What foreign code gets when a registration leaves: its pointer if it is returned, unless that is null. -/
def Leave.handed? (l : Leave) : Option String :=
  if l.way = .returned then l.registration.pointer else none

/-- All registrations, those that wait and those that left, each in the order in which that happened. -/
structure Custody where
  registered : List Registration := []
  waiting : List Registration := []
  left : List Leave := []
  deriving DecidableEq, Repr

/-- What a call registers as number `number`. -/
def Call.registration? (number : Nat) : Call → Option Registration
  | register cell api => some ⟨number, cell.map Cell.name, some .free, api.isSome⟩
  | registerWithRelease cell api release => some ⟨number, cell.map Cell.name, release, api.isSome⟩
  | _ => none

namespace Custody

def arriving (c : Custody) (call : Call) : List Registration :=
  (call.registration? c.registered.length).toList

def leaving (c : Custody) : Call → List Leave
  | .getNext => (c.waiting.take 1).map (⟨·, .returned⟩)
  | .verify => c.waiting.map (⟨·, .drained⟩)
  | .reset => c.waiting.map (⟨·, .drained⟩)
  | call => ((c.arriving call).filter (!·.named)).map (⟨·, .refused⟩)

def waitingAfter (c : Custody) : Call → List Registration
  | .getNext => c.waiting.tail
  | .verify => []
  | .reset => []
  | call => c.waiting ++ (c.arriving call).filter Registration.named

def record (c : Custody) (call : Call) : Custody where
  registered := c.registered ++ c.arriving call
  waiting := c.waitingAfter call
  left := c.left ++ c.leaving call

/-- The registrations that were in the queue and left it. -/
def served (c : Custody) : List Registration :=
  (c.left.filter (·.way != .refused)).map Leave.registration

/-- The registrations that were never in the queue. -/
def refused (c : Custody) : List Registration :=
  (c.left.filter (·.way == .refused)).map Leave.registration

/-- The book is in good order: the registrations are numbered, those with a name go through the queue in
order, and those without were refused. -/
structure Linear (c : Custody) : Prop where
  numbers : c.registered.map Registration.number = List.range c.registered.length
  queued : c.served ++ c.waiting = c.registered.filter Registration.named
  turnedAway : c.refused = c.registered.filter (!·.named)

theorem linear_empty : Linear {} :=
  ⟨rfl, rfl, rfl⟩

/-- Three kinds of calls: those that take the first registration that waits, those that empty the queue, and
all others, which only may bring a registration. -/
theorem call_cases (call : Call) :
    call = .getNext ∨ (call = .verify ∨ call = .reset) ∨
      ∀ c : Custody, c.leaving call = ((c.arriving call).filter (!·.named)).map (⟨·, .refused⟩) ∧
        c.waitingAfter call = c.waiting ++ (c.arriving call).filter Registration.named := by
  cases call with
  | getNext => exact .inl rfl
  | verify => exact .inr (.inl (.inl rfl))
  | reset => exact .inr (.inl (.inr rfl))
  | _ => exact .inr (.inr fun _ => ⟨rfl, rfl⟩)

theorem arriving_numbers (c : Custody) (call : Call) :
    c.arriving call = [] ∨ ∃ r, c.arriving call = [r] ∧ r.number = c.registered.length := by
  cases call with
  | register cell api => exact .inr ⟨_, rfl, rfl⟩
  | registerWithRelease cell api release => exact .inr ⟨_, rfl, rfl⟩
  | _ => exact .inl rfl

theorem served_record (c : Custody) (call : Call) :
    (c.record call).served = c.served ++ ((c.leaving call).filter (·.way != .refused)).map Leave.registration := by
  simp [served, record]

theorem refused_record (c : Custody) (call : Call) :
    (c.record call).refused = c.refused ++ ((c.leaving call).filter (·.way == .refused)).map Leave.registration := by
  simp [refused, record]

theorem filter_way (rs : List Registration) (way : WayOut) :
    ((rs.map fun r => (⟨r, way⟩ : Leave)).filter (·.way != .refused)).map Leave.registration =
        (if way = .refused then [] else rs) ∧
      ((rs.map fun r => (⟨r, way⟩ : Leave)).filter (·.way == .refused)).map Leave.registration =
        if way = .refused then rs else [] := by
  cases way <;> simp [List.filter_map, Function.comp_def]

/-- One call keeps the book in good order. -/
theorem Linear.record {c : Custody} (linear : c.Linear) (call : Call) : (c.record call).Linear := by
  obtain ⟨numbers, queued, turnedAway⟩ := linear
  have numbered : (c.record call).registered.map Registration.number =
      List.range (c.record call).registered.length := by
    rcases c.arriving_numbers call with none | ⟨r, one, number⟩
    · simp [Custody.record, none, numbers]
    · simp [Custody.record, one, numbers, number, List.range_succ]
  refine ⟨numbered, ?_, ?_⟩
  -- What is served joins the end of what was served before, and comes from the front of what waits.
  · rw [served_record]
    change _ ++ c.waitingAfter call = (c.registered ++ c.arriving call).filter Registration.named
    rw [List.filter_append, ← queued]
    rcases call_cases call with rfl | (rfl | rfl) | brings
    · have first : c.waiting.take 1 ++ c.waiting.tail = c.waiting := by
        cases c.waiting <;> rfl
      rw [leaving, (filter_way _ _).1, waitingAfter, arriving]
      simp [Call.registration?, first]
    · rw [leaving, (filter_way _ _).1, waitingAfter, arriving]
      simp [Call.registration?]
    · rw [leaving, (filter_way _ _).1, waitingAfter, arriving]
      simp [Call.registration?]
    · rw [(brings c).1, (brings c).2, (filter_way _ _).1]
      simp
  -- Only a call that brings a registration can refuse one.
  · rw [refused_record]
    change _ = (c.registered ++ c.arriving call).filter (!·.named)
    rw [List.filter_append, ← turnedAway]
    rcases call_cases call with rfl | (rfl | rfl) | brings
    · rw [leaving, (filter_way _ _).2]
      rfl
    · rw [leaving, (filter_way _ _).2]
      rfl
    · rw [leaving, (filter_way _ _).2]
      rfl
    · rw [(brings c).1, (filter_way _ _).2]
      rfl

/-- In a book in good order, every registration waits or left, and that once. -/
theorem Linear.partition {c : Custody} (linear : c.Linear) :
    c.registered.Nodup ∧ (c.waiting ++ c.left.map Leave.registration).Perm c.registered := by
  constructor
  · have distinct : (c.registered.map Registration.number).Nodup := by
      rw [linear.numbers]
      exact List.nodup_range
    exact List.Pairwise.of_map Registration.number (fun _ _ differ same => differ (congrArg _ same)) distinct
  · have leaves : (c.served ++ c.refused).Perm (c.left.map Leave.registration) := by
      have parts := (List.filter_append_perm (fun l : Leave => l.way != .refused) c.left).map Leave.registration
      simpa [served, refused, bne] using parts
    calc
      (c.waiting ++ c.left.map Leave.registration).Perm (c.waiting ++ (c.served ++ c.refused)) :=
        leaves.symm.append_left _
      _ = (c.waiting ++ c.served) ++ c.refused := (List.append_assoc ..).symm
      List.Perm _ ((c.served ++ c.waiting) ++ c.refused) := List.perm_append_comm.append_right _
      _ = c.registered.filter Registration.named ++ c.registered.filter (!·.named) := by
        rw [linear.queued, linear.turnedAway]
      List.Perm _ c.registered := List.filter_append_perm ..

def ofCalls (calls : List Call) : Custody :=
  calls.foldl record {}

theorem linear_foldl {c : Custody} (linear : c.Linear) (calls : List Call) : (calls.foldl record c).Linear := by
  induction calls generalizing c with
  | nil => exact linear
  | cons call rest ih => exact ih (linear.record call)

end Custody

/-! ## What the session does -/

/-- The pointer that a payload is, by the name of its cell, and how it is released. -/
def tokenOf : Payload → Option (Option String × Option Release)
  | .foreign f => some (f.cell.map Cell.name, f.release)
  | _ => none

/-- The release that is due when a payload is discarded. -/
def releaseDue? (p : Payload) : Option (String × Release) :=
  (tokenOf p).bind fun token => releaseOf token.1 token.2

/-- The name of the cell, and what released it, if the entry is a release. -/
def releaseOf? : Entry → Option (String × Release)
  | .released cell release => some (cell.name, release)
  | _ => none

/-- All cells that were handed to what releases them, in order. -/
def releases (trace : List Entry) : List (String × Release) :=
  trace.filterMap releaseOf?

@[simp] theorem releases_append (front back : List Entry) : releases (front ++ back) = releases front ++ releases back :=
  List.filterMap_append

/-- A payload that is discarded releases what is due, and nothing else. -/
theorem releases_discard (p : Payload) : releases p.discard = (releaseDue? p).toList := by
  rcases p with _ | _ | _ | ⟨_ | cell, _ | release⟩ <;> rfl

theorem releases_discardAll (payloads : List Payload) :
    releases (payloads.flatMap Payload.discard) = payloads.filterMap releaseDue? := by
  induction payloads with
  | nil => rfl
  | cons p rest ih =>
    rw [List.flatMap_cons, releases_append, releases_discard, ih, List.filterMap_cons]
    cases releaseDue? p <;> rfl

/-- The same of what is seen. -/
def releaseSeen? : Sight → Option (String × Release)
  | .released cell release => some (cell.name, release)
  | _ => none

theorem releases_eq_sights (trace : List Entry) : releases trace = (sights trace).filterMap releaseSeen? := by
  rw [sights, List.filterMap_filterMap, releases]
  congr 1
  funext entry
  cases entry <;> rfl

/-- The pointer that a call handed out, by the name of its cell. -/
def handedOut? : Call → Step Host Reply → Option String
  | .getNext, ⟨.ok (.cell cell), _, _⟩ => cell.map Cell.name
  | _, _ => none

def handedOut (calls : List Call) (start : Host) : List String :=
  (calls.zip (Run.history perform calls start)).filterMap fun (call, step) => handedOut? call step

theorem handedOut_cons (call : Call) (rest : List Call) (start : Host) :
    handedOut (call :: rest) start =
      (handedOut? call (perform call start)).toList ++ handedOut rest (perform call start).state := by
  rw [handedOut, Run.history, List.zip_cons_cons, List.filterMap_cons]
  cases handed : handedOut? call (perform call start) <;> simp [handed, handedOut]

/-- The queue holds the pointers that are booked as waiting, in the same order. -/
def Tracks (c : Custody) (q : Queue) : Prop :=
  q.items.map (fun e => tokenOf e.payload) = c.waiting.map fun r => some (r.pointer, r.release)

theorem tokenOf_poked (content : Int64) (p : Payload) : tokenOf (poked content p) = tokenOf p := by
  cases p with
  | foreign f =>
    obtain ⟨cell, release⟩ := f
    cases cell <;> rfl
  | _ => rfl

section

variable {c : Custody} {s : Session}

theorem tokens_poke (content : Int64) :
    (s.queue.editLatest (poked content)).items.map (fun e => tokenOf e.payload) =
      s.queue.items.map fun e => tokenOf e.payload := by
  rcases Session.queue_eq_nil_or_append s.queue with items | ⟨front, e, items⟩
  · rw [items]
    rfl
  · rw [items, Queue.editLatest_append]
    simp [tokenOf_poked]

theorem Tracks.record (tracks : Tracks c s.queue) (call : Call) : Tracks (c.record call) (call.queueAfter s) := by
  unfold Tracks at tracks ⊢
  -- Most calls bring nothing and take nothing.
  change (call.queueAfter s).items.map _ = (c.waitingAfter call).map _
  have kept : c.waitingAfter call = c.waiting ++ [] → (call.queueAfter s).items.map (fun e => tokenOf e.payload) =
      s.queue.items.map (fun e => tokenOf e.payload) → (call.queueAfter s).items.map (fun e => tokenOf e.payload) =
      (c.waitingAfter call).map fun r => some (r.pointer, r.release) := by
    intro waiting queue
    rw [queue, waiting, List.append_nil, tracks]
  cases call with
  | register cell api =>
    cases api with
    | none => exact kept rfl rfl
    | some name =>
      change (s.queue.items ++ [_]).map _ = (c.waiting ++ [_]).map _
      rw [List.map_append, tracks, List.map_append]
      rfl
  | registerWithRelease cell api release =>
    cases api with
    | none => exact kept rfl rfl
    | some name =>
      change (s.queue.items ++ [_]).map _ = (c.waiting ++ [_]).map _
      rw [List.map_append, tracks, List.map_append]
      rfl
  | poke content => exact kept rfl (tokens_poke content)
  | getNext =>
    change s.queue.items.tail.map _ = c.waiting.tail.map _
    rw [List.map_tail, tracks, ← List.map_tail]
  | verify | reset => rfl
  | _ => exact kept rfl rfl

theorem Tracks.releases_waiting (tracks : Tracks c s.queue) :
    (s.queue.items.map Expectation.payload).filterMap releaseDue? =
      c.waiting.filterMap fun r => releaseOf r.pointer r.release := by
  have tokens := congrArg
    (List.filterMap fun token => token.bind fun token : Option String × Option Release => releaseOf token.1 token.2)
    tracks
  simpa [List.filterMap_map, Function.comp_def, releaseDue?] using tokens

/-- What a call discards is released as it is booked to leave. -/
theorem Tracks.released (tracks : Tracks c s.queue) (call : Call) :
    (call.drained s ++ call.refused).filterMap releaseDue? = (c.leaving call).filterMap Leave.release? := by
  have drained : ((s.queue.items.map Expectation.payload) ++ []).filterMap releaseDue? =
      (c.waiting.map fun r => (⟨r, .drained⟩ : Leave)).filterMap Leave.release? := by
    rw [List.append_nil, tracks.releases_waiting, List.filterMap_map]
    rfl
  cases call with
  | verify | reset => exact drained
  | getNext => cases waiting : c.waiting <;> simp [Custody.leaving, waiting, Call.drained, Call.refused, Leave.release?]
  | register cell api =>
    cases api with
    | none => cases cell <;> rfl
    | some name => rfl
  | registerWithRelease cell api release =>
    cases api with
    | none => cases cell <;> cases release <;> rfl
    | some name => rfl
  | _ => rfl

theorem Tracks.length_eq (tracks : Tracks c s.queue) : s.queue.length = c.waiting.length := by
  simpa [Queue.length] using congrArg List.length tracks

/-- The next pointer in the queue is the one that is booked to wait longest. -/
theorem Tracks.next (tracks : Tracks c s.queue) :
    (s.queue.next?.bind fun e => cellOf e.payload).map Cell.name = c.waiting.head?.bind Registration.pointer := by
  unfold Tracks at tracks
  unfold Queue.next?
  cases items : s.queue.items with
  | nil =>
    rw [items] at tracks
    have none : c.waiting = [] := by simpa using tracks.symm
    rw [none]
    rfl
  | cons e rest =>
    rw [items] at tracks
    cases waiting : c.waiting with
    | nil => simp [waiting] at tracks
    | cons r later =>
      rw [waiting, List.map_cons, List.map_cons] at tracks
      have head := (List.cons.inj tracks).1
      cases payload : e.payload with
      | foreign f =>
        rw [payload] at head
        have pointer : f.cell.map Cell.name = r.pointer := congrArg Prod.fst (Option.some.inj head)
        simpa [payload, cellOf] using pointer
      | plain | tracked | conditions =>
        rw [payload] at head
        cases head

/-- Nothing is released but what is discarded. -/
theorem releases_around (b : Binding) (text? : Option String) (front back : List Payload) :
    (endings front ++ text?.toList.flatMap (sightings b) ++ endings back).filterMap releaseSeen? =
      (front ++ back).filterMap releaseDue? := by
  have ended : ∀ payloads : List Payload, (endings payloads).filterMap releaseSeen? = payloads.filterMap releaseDue? :=
    fun payloads => (releases_eq_sights _).symm.trans (releases_discardAll payloads)
  have told : (text?.toList.flatMap (sightings b)).filterMap releaseSeen? = [] := by
    cases text? <;> simp [sightings, List.filterMap_map, Function.comp_def, releaseSeen?]
  rw [List.filterMap_append, List.filterMap_append, ended, ended, told, List.append_nil, List.filterMap_append]

theorem Tracks.handed (tracks : Tracks c s.queue) {call : Call} {step : Step Host Reply} {reply : Reply}
    (answered : step.outcome = .ok reply) (answer : ∀ r, call.answer? s = some r → reply = r) :
    (handedOut? call step).toList = (c.leaving call).filterMap Leave.handed? := by
  have others : ∀ way ≠ WayOut.returned, ∀ rs : List Registration,
      (rs.map fun r => (⟨r, way⟩ : Leave)).filterMap Leave.handed? = [] := by
    intro way other rs
    simp [List.filterMap_map, Function.comp_def, Leave.handed?, other]
  cases call with
  | getNext =>
    obtain ⟨_, state, trace⟩ := step
    cases answered
    rw [answer _ rfl, handedOut?, tracks.next]
    cases waiting : c.waiting with
    | nil => simp [Custody.leaving, waiting]
    | cons r later =>
      simp only [Custody.leaving, waiting, List.head?_cons, Option.bind_some]
      cases pointer : r.pointer <;> simp [Leave.handed?, pointer]
  | verify | reset => exact (others .drained nofun c.waiting).symm
  | _ => exact (others .refused nofun _).symm

/-- One call that is answered does what is booked for it. -/
theorem perform_tracks {h : Host} {call : Call} {reply : Reply} (ready : Ready h s) (tracks : Tracks c s.queue)
    (foreign : call.isForeign = true) (answered : (perform call h).outcome = .ok reply) :
    ∃ after, Ready (perform call h).state after ∧ Tracks (c.record call) after.queue ∧
      releases (perform call h).trace = (c.leaving call).filterMap Leave.release? ∧
      (handedOut? call (perform call h)).toList = (c.leaving call).filterMap Leave.handed? := by
  obtain ⟨text?, after, readied, queue, -, -, -, seen, answer⟩ := perform_answered ready foreign answered
  refine ⟨after, readied, ?_, ?_, tracks.handed answered answer⟩
  · rw [queue]
    exact tracks.record call
  · rw [← tracks.released call, releases_eq_sights, seen, releases_around]

/-- A run of calls that are all answered does what is booked for it. -/
theorem run_tracks {calls : List Call} {start : Host} (ready : Ready start s) (tracks : Tracks c s.queue)
    (foreign : ∀ call ∈ calls, call.isForeign = true) (answered : Answered calls start) :
    ∃ last, Ready (Run.final perform calls start) last ∧ Tracks (calls.foldl Custody.record c) last.queue ∧
      (calls.foldl Custody.record c).left.filterMap Leave.release? =
        c.left.filterMap Leave.release? ++ releases (Run.traceOf (Run.history perform calls start)) ∧
      (calls.foldl Custody.record c).left.filterMap Leave.handed? =
        c.left.filterMap Leave.handed? ++ handedOut calls start := by
  induction calls generalizing start s c with
  | nil => exact ⟨s, ready, tracks, (List.append_nil _).symm, (List.append_nil _).symm⟩
  | cons call rest ih =>
    obtain ⟨reply, ended⟩ := answered.head
    obtain ⟨after, readied, tracked, released, handed⟩ :=
      perform_tracks ready tracks (foreign call (List.mem_cons_self ..)) ended
    obtain ⟨last, readyLast, tracksLast, releasedLast, handedLast⟩ :=
      ih readied tracked (fun later member => foreign later (List.mem_cons_of_mem _ member)) answered.tail
    have left : (c.record call).left = c.left ++ c.leaving call := rfl
    rw [left, List.filterMap_append] at releasedLast handedLast
    refine ⟨last, readyLast, tracksLast, releasedLast.trans ?_, handedLast.trans ?_⟩
    · rw [← released, List.append_assoc]
      simp [releases, Run.traceOf, Run.history]
    · rw [← handed, List.append_assoc, ← handedOut_cons]

/-- A registration without a name, if it is answered, is first told and then discarded. -/
theorem refused_sights {h : Host} {call : Call} {reply : Reply} (ready : Ready h s) (foreign : call.isForeign = true)
    (answered : (perform call h).outcome = .ok reply) {r : Registration} (arrives : r ∈ c.arriving call)
    (unnamed : r.named = false) :
    ∃ who text p, sights (perform call h).trace = .told who text :: endings [p] ∧
      releases p.discard = (releaseOf r.pointer r.release).toList := by
  obtain ⟨text?, -, -, -, -, raises, bound, seen, -⟩ := perform_answered ready foreign answered
  obtain ⟨p, refused, drained, loud, released⟩ : ∃ p, call.refused = [p] ∧ call.drained s = [] ∧
      call.raises s = true ∧ releaseDue? p = releaseOf r.pointer r.release := by
    cases call with
    | register cell api =>
      obtain rfl := List.mem_singleton.mp arrives
      cases api with
      | some name => cases unnamed
      | none => exact ⟨_, rfl, rfl, rfl, rfl⟩
    | registerWithRelease cell api release =>
      obtain rfl := List.mem_singleton.mp arrives
      cases api with
      | some name => cases unnamed
      | none => exact ⟨_, rfl, rfl, rfl, rfl⟩
    | _ => cases arrives
  rw [loud] at raises
  obtain ⟨text, rfl⟩ := Option.isSome_iff_exists.mp raises
  obtain ⟨who, reporter⟩ := Option.isSome_iff_exists.mp (bound rfl)
  refine ⟨who, callbackText text, p, ?_, by rw [releases_discard, released]⟩
  rw [seen, refused, drained]
  simp [sightings, reporter]

end

/-- Let foreign code make calls that are all answered, on a thread of its own. Every pointer that it
registered then waits in the queue or left, once: those with a name leave in the order in which they came,
returned or drained, and one without is refused in its own call, after that was told. The cells that were handed
to what releases them are those that were drained or refused, apart from null pointers and those without a
release; what was handed out is what was returned. The next call again does what is booked for it: taking hands
out the pointer that waits longest, and the count is that of the registrations with a name that neither were
returned nor drained. -/
theorem pointers_leave_once (start : Host) (fresh : start.slot = .fresh) (calls : List Call)
    (foreign : ∀ call ∈ calls, call.isForeign = true) (answered : Answered calls start) :
    let c := Custody.ofCalls calls
    let h := Run.final perform calls start
    c.Linear ∧ c.registered.Nodup ∧ (c.waiting ++ c.left.map Leave.registration).Perm c.registered ∧
    releases (Run.traceOf (Run.history perform calls start)) = c.left.filterMap Leave.release? ∧
    handedOut calls start = c.left.filterMap Leave.handed? ∧
    (∃ cell, (perform .getNext h).outcome = .ok (.cell cell) ∧
      cell.map Cell.name = c.waiting.head?.bind Registration.pointer) ∧
    (perform .pending h).outcome =
      .ok (.count ((c.registered.filter Registration.named).length - c.served.length)) ∧
    ∀ (next : Call) (reply : Reply), next.isForeign = true → (perform next h).outcome = .ok reply →
      releases (perform next h).trace = (c.leaving next).filterMap Leave.release? ∧
      ∀ r ∈ c.arriving next, r.named = false → ∃ who text p,
        sights (perform next h).trace = .told who text :: endings [p] ∧
          releases p.discard = (releaseOf r.pointer r.release).toList := by
  intro c h
  have linear : c.Linear := Custody.linear_foldl Custody.linear_empty calls
  obtain ⟨distinct, partition⟩ := linear.partition
  obtain ⟨s, ready, tracks, released, handed⟩ := run_tracks (c := {}) (ready_fresh fresh) rfl foreign answered
  refine ⟨linear, distinct, partition, released.symm, handed.symm, ?_, ?_, ?_⟩
  · exact ⟨_, perform_quiet ready rfl trivial rfl rfl, tracks.next⟩
  · have counted : (perform .pending h).outcome = .ok (.count s.queue.length) :=
      perform_quiet ready rfl trivial rfl rfl
    have lengths := congrArg List.length linear.queued
    rw [List.length_append] at lengths
    rw [counted, tracks.length_eq, ← lengths, Nat.add_sub_cancel_left]
    rfl
  · intro next reply isForeign ended
    obtain ⟨-, -, -, releasedNow, -⟩ := perform_tracks ready tracks isForeign ended
    exact ⟨releasedNow, fun r arrives unnamed => refused_sights ready isForeign ended arrives unnamed⟩

/-- One pointer is returned, one is refused and released, and of the two that are drained one has no
release. -/
theorem pointers_leave_once_four_pointers :
    let calls : List Call :=
      [.initialise (some (.recording "log")),
        .registerWithRelease (some { name := "a" }) (some [0x66]) (some .owner),
        .register (some { name := "b" }) none,
        .registerWithRelease (some { name := "c" }) (some [0x67]) none,
        .register (some { name := "d" }) (some [0x66]), .getNext, .verify]
    (∀ call ∈ calls, call.isForeign = true) ∧ Answered calls {} ∧
      releases (Run.traceOf (Run.history perform calls {})) = [("b", .free), ("d", .free)] ∧
      handedOut calls {} = ["a"] := by
  intro calls
  have foreign : ∀ call ∈ calls, call.isForeign = true := by decide
  have ended : (Run.history perform calls {}).all (·.outcome.isOk) = true := by decide +kernel
  have answered : Answered calls {} := by
    intro step member
    have ok := List.all_eq_true.mp ended step member
    cases outcome : step.outcome with
    | ok reply => exact ⟨reply, rfl⟩
    | error u => simp [outcome, Except.isOk, Except.toBool] at ok
  obtain ⟨-, -, -, released, handed, -⟩ := pointers_leave_once {} rfl calls foreign answered
  refine ⟨foreign, answered, ?_, ?_⟩
  · rw [released]
    decide
  · rw [handed]
    decide

end MockQueue.Boundary

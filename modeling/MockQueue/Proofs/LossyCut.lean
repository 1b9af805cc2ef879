import MockQueue.Proofs.ForeignSettings

/-!
# Bytes that are cut before they are read

A variadic message is cut twice: its bytes when they go into the buffer, and the text that is read from
those when it is brought within the bound. A cut through a character leaves a broken unit, which is
read as a replacement character. Still the two cuts make the same message as one cut of the text of
all bytes (`clip_take`, and for calls `variadic_message_cut_once`), because a unit takes no more bytes
than the character that is shown for it, and the marker leaves no room for the unit that was cut.
-/

namespace MockQueue.Text

/-! ## Units of cut bytes -/

theorem utf8Tail_size (bits taken low high owed : Nat) (rest : List UInt8) :
    taken ≤ (utf8Tail bits taken low high owed rest).size ∧
      (utf8Tail bits taken low high owed rest).size ≤ taken + owed := by
  fun_induction utf8Tail bits taken low high owed rest with
  | case1 => simp [Utf8Unit.size]
  | case2 => simp [Utf8Unit.size]
  | case3 bits taken low high owed b rest inRange ih => omega
  | case4 => simp [Utf8Unit.size]

/-- A broken unit lacks at least one byte. -/
theorem utf8Tail_broken {bits taken low high owed : Nat} {rest : List UInt8}
    (broken : (utf8Tail bits taken low high owed rest).char? = none) :
    (utf8Tail bits taken low high owed rest).size < taken + owed := by
  fun_induction utf8Tail bits taken low high owed rest with
  | case1 => simp [Utf8Unit.char?] at broken
  | case2 => simp [Utf8Unit.size]
  | case3 bits taken low high owed b rest inRange ih =>
    have lacks := ih broken
    omega
  | case4 => simp [Utf8Unit.size]

/-- Of a unit that reaches beyond the cut the bytes before the cut are left, as one broken unit. -/
theorem utf8Tail_take (bits taken low high owed : Nat) (rest : List UInt8) (kept : Nat) :
    utf8Tail bits taken low high owed (rest.take kept) =
      if (utf8Tail bits taken low high owed rest).size ≤ taken + kept then
        utf8Tail bits taken low high owed rest
      else .broken (taken + kept) := by
  fun_induction utf8Tail bits taken low high owed rest generalizing kept with
  | case1 => simp [utf8Tail, Utf8Unit.size]
  | case2 => simp [utf8Tail, Utf8Unit.size]
  | case3 bits taken low high owed b rest inRange ih =>
    cases kept with
    | zero =>
      have size := utf8Tail_size (bits * 64 + b.toNat % 64) (taken + 1) 0x80 0xBF owed rest
      rw [if_neg (by omega)]
      rfl
    | succ kept =>
      rw [List.take_succ_cons, utf8Tail, if_pos inRange, ih kept]
      simp only [Nat.add_assoc, Nat.add_comm 1 kept]
  | case4 bits taken low high owed b rest outOfRange =>
    cases kept with
    | zero => simp [utf8Tail, Utf8Unit.size]
    | succ kept => simp [utf8Tail, outOfRange, Utf8Unit.size]

theorem utf8Unit_take (b : UInt8) (rest : List UInt8) (kept : Nat) :
    utf8Unit b (rest.take kept) =
      if (utf8Unit b rest).size ≤ 1 + kept then utf8Unit b rest else .broken (1 + kept) := by
  unfold utf8Unit
  cases utf8Lead b.toNat with
  | none => simp [Utf8Unit.size]
  | some lead => exact utf8Tail_take lead.bits 1 lead.low lead.high lead.owed rest kept

/-! ## The size of a unit -/

theorem val_ofNat {n : Nat} (valid : n.isValidChar) : (Char.ofNat n).val.toNat = n := by
  rw [Char.ofNat, dif_pos valid]
  rfl

/-- The size of a character by its number. -/
theorem utf8Size_ofNat {n : Nat} (valid : n.isValidChar) :
    (Char.ofNat n).utf8Size =
      if n ≤ 0x7F then 1 else if n ≤ 0x7FF then 2 else if n ≤ 0xFFFF then 3 else 4 := by
  unfold Char.utf8Size
  simp only [UInt32.le_iff_toNat_le, val_ofNat valid]
  rfl

/-- How many numbers a row of following bytes tells apart. -/
def tailSpan : (owed : Nat) → Nat
  | 0 => 1
  | owed + 1 => 64 * tailSpan owed

/-- The number of a character whose bytes are all there lies where its first two bytes say. -/
theorem utf8Tail_scalar {bits taken low high owed size : Nat} {rest : List UInt8} {c : Char}
    (low80 : 0x80 ≤ low) (highBF : high ≤ 0xBF)
    (whole : utf8Tail bits taken low high (owed + 1) rest = .scalar c size) :
    size = taken + owed + 1 ∧ ∃ n, c = Char.ofNat n ∧
      (bits * 64 + (low - 0x80)) * tailSpan owed ≤ n ∧ n < (bits * 64 + (high - 0x80) + 1) * tailSpan owed := by
  induction owed generalizing bits taken low high rest with
  | zero =>
    cases rest with
    | nil => simp [utf8Tail] at whole
    | cons b rest =>
      by_cases inRange : low ≤ b.toNat ∧ b.toNat ≤ high
      · simp only [utf8Tail, inRange, and_self, if_true, Utf8Unit.scalar.injEq] at whole
        obtain ⟨rfl, rfl⟩ := whole
        refine ⟨rfl, _, rfl, ?_, ?_⟩ <;> rw [tailSpan] <;> omega
      · simp [utf8Tail, inRange] at whole
  | succ owed ih =>
    cases rest with
    | nil => simp [utf8Tail] at whole
    | cons b rest =>
      by_cases inRange : low ≤ b.toNat ∧ b.toNat ≤ high
      · rw [utf8Tail, if_pos inRange] at whole
        obtain ⟨sized, n, read, least, greatest⟩ := ih (Nat.le_refl _) (Nat.le_refl _) whole
        refine ⟨by omega, n, read, ?_, ?_⟩
        · calc (bits * 64 + (low - 0x80)) * tailSpan (owed + 1)
              = ((bits * 64 + (low - 0x80)) * 64) * tailSpan owed := by rw [tailSpan, Nat.mul_assoc]
            _ ≤ ((bits * 64 + b.toNat % 64) * 64 + (0x80 - 0x80)) * tailSpan owed :=
              Nat.mul_le_mul_right _ (by omega)
            _ ≤ n := least
        · calc n < ((bits * 64 + b.toNat % 64) * 64 + (0xBF - 0x80) + 1) * tailSpan owed := greatest
            _ ≤ ((bits * 64 + (high - 0x80) + 1) * 64) * tailSpan owed := Nat.mul_le_mul_right _ (by omega)
            _ = (bits * 64 + (high - 0x80) + 1) * tailSpan (owed + 1) := by rw [tailSpan, Nat.mul_assoc]
      · simp [utf8Tail, inRange] at whole

/-- The numbers of the characters that a first byte allows, by the bounds of the byte after it. -/
def Utf8Lead.Allows (lead : Utf8Lead) (n : Nat) : Prop :=
  match lead.owed with
  | 0 => n = lead.bits
  | owed + 1 =>
    (lead.bits * 64 + (lead.low - 0x80)) * tailSpan owed ≤ n ∧
      n < (lead.bits * 64 + (lead.high - 0x80) + 1) * tailSpan owed

/-- All that a first byte can announce. -/
theorem utf8Lead_cases {b : Nat} {lead : Utf8Lead} (starts : utf8Lead b = some lead) :
    (b < 0x80 ∧ lead = { bits := b, owed := 0 }) ∨
    (∃ bits, 2 ≤ bits ∧ bits < 0x20 ∧ lead = { bits, owed := 1 }) ∨
    lead = { bits := 0, owed := 2, low := 0xA0 } ∨
    lead = { bits := 0xD, owed := 2, high := 0x9F } ∨
    (∃ bits, 1 ≤ bits ∧ bits < 0x10 ∧ bits ≠ 0xD ∧ lead = { bits, owed := 2 }) ∨
    lead = { bits := 0, owed := 3, low := 0x90 } ∨
    (∃ bits, 1 ≤ bits ∧ bits < 4 ∧ lead = { bits, owed := 3 }) ∨
    lead = { bits := 4, owed := 3, high := 0x8F } := by
  unfold utf8Lead at starts
  repeat' split at starts
  all_goals first | contradiction | obtain rfl := Option.some.inj starts
  · exact .inl ⟨by assumption, rfl⟩
  · exact .inr (.inl ⟨b - 0xC0, by omega, by omega, rfl⟩)
  · exact .inr (.inr (.inl rfl))
  · exact .inr (.inr (.inr (.inl rfl)))
  · exact .inr (.inr (.inr (.inr (.inl ⟨b - 0xE0, by omega, by omega, by omega, rfl⟩))))
  · exact .inr (.inr (.inr (.inr (.inr (.inl rfl)))))
  · exact .inr (.inr (.inr (.inr (.inr (.inr (.inl ⟨b - 0xF0, by omega, by omega, rfl⟩))))))
  · exact .inr (.inr (.inr (.inr (.inr (.inr (.inr rfl))))))

theorem utf8Lead_bounds {b : Nat} {lead : Utf8Lead} (starts : utf8Lead b = some lead) :
    lead.owed ≤ 3 ∧ 0x80 ≤ lead.low ∧ lead.high ≤ 0xBF := by
  rcases utf8Lead_cases starts with
    ⟨-, rfl⟩ | ⟨bits, -, -, rfl⟩ | rfl | rfl | ⟨bits, -, -, -, rfl⟩ | rfl | ⟨bits, -, -, rfl⟩ | rfl <;> simp

/-- A first byte announces the size of the characters that it allows: the bounds of the second byte
leave out those that would be shorter, and those that are none. -/
theorem utf8Lead_utf8Size {b : Nat} {lead : Utf8Lead} (starts : utf8Lead b = some lead) {n : Nat}
    (allowed : lead.Allows n) : (Char.ofNat n).utf8Size = 1 + lead.owed := by
  have sized (valid : n.isValidChar) := utf8Size_ofNat valid
  unfold Nat.isValidChar at sized
  rcases utf8Lead_cases starts with
    ⟨least, rfl⟩ | ⟨bits, least, greatest, rfl⟩ | rfl | rfl | ⟨bits, least, greatest, other, rfl⟩ | rfl |
    ⟨bits, least, greatest, rfl⟩ | rfl
  all_goals simp only [Utf8Lead.Allows, tailSpan, Nat.reduceSub, Nat.reduceMul, Nat.reduceAdd] at allowed
  all_goals rw [sized (by omega)]
  all_goals grind

/-- A unit that is a character takes as many bytes as the character has. -/
theorem utf8Unit_scalar {b : UInt8} {rest : List UInt8} {c : Char} {size : Nat}
    (whole : utf8Unit b rest = .scalar c size) : c.utf8Size = size := by
  unfold utf8Unit at whole
  cases starts : utf8Lead b.toNat with
  | none => simp [starts] at whole
  | some lead =>
    obtain ⟨-, low80, highBF⟩ := utf8Lead_bounds starts
    simp only [starts] at whole
    cases owed : lead.owed with
    | zero =>
      simp only [owed, utf8Tail, Utf8Unit.scalar.injEq] at whole
      obtain ⟨rfl, rfl⟩ := whole
      have sized := utf8Lead_utf8Size starts (n := lead.bits) (by simp [Utf8Lead.Allows, owed])
      rw [sized, owed]
    | succ more =>
      rw [owed] at whole
      obtain ⟨rfl, n, rfl, least, greatest⟩ := utf8Tail_scalar low80 highBF whole
      have sized := utf8Lead_utf8Size starts (n := n) (by simp [Utf8Lead.Allows, owed, least, greatest])
      omega

/-- What is shown for a unit. -/
def Utf8Unit.shown (u : Utf8Unit) : Char :=
  u.char?.getD replacement

theorem decodeLossy_cons (b : UInt8) (rest : List UInt8) :
    decodeLossy (b :: rest) =
      (utf8Unit b rest).shown :: decodeLossy (rest.drop ((utf8Unit b rest).size - 1)) := by
  simp [decodeLossy, utf8Units_cons, Utf8Unit.shown]

theorem utf8Unit_broken {b : UInt8} {rest : List UInt8} {size : Nat} (broken : utf8Unit b rest = .broken size) :
    size ≤ 3 := by
  unfold utf8Unit at broken
  cases starts : utf8Lead b.toNat with
  | none =>
    simp only [starts, Utf8Unit.broken.injEq] at broken
    omega
  | some lead =>
    obtain ⟨owed, -, -⟩ := utf8Lead_bounds starts
    simp only [starts] at broken
    have lacks := utf8Tail_broken (by rw [broken]; rfl : (utf8Tail ..).char? = none)
    rw [broken] at lacks
    simp only [Utf8Unit.size] at lacks
    omega

/-- A unit takes no more bytes than the character that is shown for it. -/
theorem size_le_shown (b : UInt8) (rest : List UInt8) :
    (utf8Unit b rest).size ≤ (utf8Unit b rest).shown.utf8Size := by
  cases found : utf8Unit b rest with
  | scalar c size => exact Nat.le_of_eq (utf8Unit_scalar found).symm
  | broken size => exact utf8Unit_broken found

theorem one_le_size (b : UInt8) (rest : List UInt8) : 1 ≤ (utf8Unit b rest).size := by
  unfold utf8Unit
  cases utf8Lead b.toNat with
  | none => exact Nat.le_refl 1
  | some lead => exact (utf8Tail_size ..).1

/-! ## Texts of cut bytes -/

theorem byteSize_pos {text : List Char} (nonempty : text ≠ []) : 0 < byteSize text := by
  obtain ⟨c, rest, rfl⟩ := List.exists_cons_of_ne_nil nonempty
  exact Nat.lt_of_lt_of_le c.utf8Size_pos (Nat.le_add_right _ _)

/-- Induction along the units of a row of bytes. -/
theorem units_induction {motive : List UInt8 → Prop} (nil : motive [])
    (cons : ∀ b rest, motive (rest.drop ((utf8Unit b rest).size - 1)) → motive (b :: rest))
    (bytes : List UInt8) : motive bytes :=
  utf8Units.induct motive nil cons bytes

/-- Bytes do not get fewer by being read. -/
theorem length_le_byteSize_decodeLossy (bytes : List UInt8) : bytes.length ≤ byteSize (decodeLossy bytes) := by
  induction bytes using units_induction with
  | nil => exact Nat.zero_le _
  | cons b rest ih =>
    have size := size_le_shown b rest
    have first := one_le_size b rest
    rw [List.length_drop] at ih
    rw [decodeLossy_cons, byteSize_cons, List.length_cons]
    omega

/-- A cut of bytes does not show in a text that is then cut before the same place. -/
theorem cut_decodeLossy_take {room limit : Nat} (earlier : room < limit) (bytes : List UInt8) :
    cut room (decodeLossy (bytes.take limit)) = cut room (decodeLossy bytes) := by
  induction bytes using units_induction generalizing room limit with
  | nil => simp
  | cons b rest ih =>
    obtain ⟨kept, rfl⟩ : ∃ kept, limit = kept + 1 := ⟨limit - 1, by omega⟩
    have size := size_le_shown b rest
    have first := one_le_size b rest
    rw [List.take_succ_cons, decodeLossy_cons, decodeLossy_cons, utf8Unit_take]
    by_cases inside : (utf8Unit b rest).size ≤ 1 + kept
    · -- The unit is whole, and what follows it is cut where as much room is left.
      rw [if_pos inside, List.drop_take, cut, cut]
      by_cases fits : (utf8Unit b rest).shown.utf8Size ≤ room
      · rw [if_pos fits, if_pos fits, ih (by omega)]
      · rw [if_neg fits, if_neg fits]
    · -- The unit is cut: neither it nor what stands for its first bytes has room.
      have atMost : (utf8Unit b rest).size ≤ 4 := Nat.le_trans size (Char.utf8Size_le_four _)
      have replaced : Utf8Unit.shown (.broken (1 + kept)) = replacement := rfl
      rw [if_neg inside, cut, cut, if_neg, if_neg]
      · omega
      · rw [replaced]
        change ¬ 3 ≤ room
        omega

end MockQueue.Text

namespace MockQueue.Message.Formatter

open Text (byteSize cut decodeLossy)

/-- Bytes that are cut at the bound and then read make the message that all of them make. -/
theorem clip_take {f : Formatter} (marked : f.marker ≠ []) (positive : 0 < f.capacity) (bytes : List UInt8) :
    f.clip (decodeLossy (bytes.take f.capacity)) (decide (f.capacity < bytes.length)) =
      f.clip (decodeLossy bytes) false := by
  by_cases long : f.capacity < bytes.length
  · have longText : f.capacity < byteSize (decodeLossy bytes) :=
      Nat.lt_of_lt_of_le long (Text.length_le_byteSize_decodeLossy bytes)
    have markerSize := Text.byteSize_pos marked
    rw [clip, clip, if_pos (.inr (decide_eq_true long)), if_pos (.inl longText),
      Text.cut_decodeLossy_take (by omega)]
  · rw [List.take_of_length_le (Nat.le_of_not_lt long), decide_eq_false long]

end MockQueue.Message.Formatter

namespace MockQueue.Boundary

open Message (symbolsOf Bounded Truncates)

/-! ## Foreign calls that report -/

/-- The entry without the name of the foreign call in which it was left. -/
def unnamed : Entry → Entry
  | .logged (.aborting _) _ => .logged (.aborting "") none
  | .logged event _ => .logged event none
  | entry => entry

theorem unnamed_within (call : String) (entry : Entry) : unnamed (entry.within call) = unnamed entry := by
  rcases entry with ⟨event, _ | span⟩ | _ | _ | _ | _
  · cases event <;> rfl
  all_goals rfl

/-- Two foreign calls that differ only in the names under which they log. -/
structure Alike (first second : Step Host Unit) : Prop where
  outcome : first.outcome = second.outcome
  state : first.state = second.state
  trace : first.trace.map unnamed = second.trace.map unnamed

namespace Host

/-- A foreign call sees of its body only what that does on the host at hand. -/
theorem guarded_congr {α : Type} {x y : Run Host α} {h : Host} (same : x h = y h) (function : String) :
    (spanned function <| guarded function x) h = (spanned function <| guarded function y) h := by
  rw [spanned_run, spanned_run, guarded_run, guarded_run, same]

theorem inSession_congr {α : Type} {x y : Run Session α} {h : Host} {s : Session} (slot : h.slot = .idle s)
    (same : x s = y s) : inSession x h = inSession y h := by
  rw [inSession_run slot, inSession_run slot, same]

theorem messageCapacity_run {h : Host} {s : Session} (slot : h.slot = .idle s) :
    messageCapacity h = ⟨.ok s.formatter.capacity, h, []⟩ := by
  obtain ⟨_, environment, hooked, lastFault, logging⟩ := h
  subst slot
  rfl

/-- What a variadic call comes to, once a callback has been bound. -/
theorem assertVariadic_run {h : Host} (hooked : h.hooked = true) {capacity : Nat}
    (asked : messageCapacity h = ⟨.ok capacity, h, []⟩) (room : Room) (format : Bytes) (args : Arguments) :
    assertVariadic room true (some format) args h =
      if room.buffer then
        match formatBytes room h.lastFault format args with
        | .ok output =>
          reportFormatted (some (bufferText (bufferSize capacity) output)) (Message.lengthOf output) h
        | .error (.failed fault) => reportFormatted (some []) 0 { h with lastFault := some fault }
        | .error .crashed => ⟨.error .aborted, h, []⟩
      else reportFormatted (some format) format.length { h with lastFault := some .noMemory } := by
  rw [assertVariadic, if_pos rfl, Run.run_get_bind, if_pos hooked, Run.run_bind_of_silent asked]
  cases room.buffer with
  | false => exact Run.run_bind_of_silent rfl _
  | true =>
    rcases formatBytes room h.lastFault format args with (fault | _) | output
    · exact Run.run_bind_of_silent rfl _
    · rfl
    · rfl

/-- A foreign call whose body hands over a message. -/
def delivering (function : String) (message : Bounded) : Run Host Unit :=
  spanned function <| guarded function <| inSession (Session.deliver message)

theorem delivering_alike (first second : String) (message : Bounded) (h : Host) :
    Alike (delivering first message h) (delivering second message h) := by
  have names (function : String) (trace : List Entry) :
      (trace.map (Entry.within function)).map unnamed = trace.map unnamed := by
    simp [Function.comp_def, unnamed_within]
  have ends : unnamed (.logged (.aborting first) none) = unnamed (.logged (.aborting second) none) := rfl
  have ran (function : String) : delivering function message h = ⟨_, _, _⟩ := spanned_run ..
  rw [ran first, ran second, guarded_run, guarded_run]
  split
  all_goals refine ⟨rfl, rfl, ?_⟩
  all_goals simp only [names, List.map_append, List.map_cons, List.map_nil, unnamed_within, ends]

theorem assertText_run {h : Host} {s : Session} (slot : h.slot = .idle s) (bytes : Bytes) :
    assertText true (some bytes) h =
      delivering "assert_str" (s.formatter.clip (Text.decodeLossy bytes) false) h := by
  have composed : s.formatter.compose [textOf bytes] false = s.formatter.clip (Text.decodeLossy bytes) false := by
    simp [Message.Formatter.compose_eq_clip, textOf]
  refine guarded_congr (inSession_congr slot ?_) "assert_str"
  rw [Session.fail_run, Session.deliver_run, composed]

theorem reportFormatted_run {h : Host} {s : Session} (slot : h.slot = .idle s) (bytes : Bytes) (length : Nat) :
    reportFormatted (some bytes) length h =
      delivering "report_formatted"
        (s.formatter.clip (Text.decodeLossy bytes) (decide (bytes.length < length))) h := by
  refine guarded_congr (inSession_congr slot ?_) "report_formatted"
  rw [Session.failPreformatted_run, Message.Formatter.bound_eq_clip, textOf, String.toList_ofList]

theorem upToZero_eq_self {bytes : Bytes} (noZero : 0 ∉ bytes) : upToZero bytes = bytes := by
  induction bytes with
  | nil => rfl
  | cons b rest ih =>
    rw [List.mem_cons, not_or] at noZero
    have plain : (b != 0) = true := bne_iff_ne.mpr (Ne.symm noZero.1)
    rw [upToZero, List.takeWhile_cons, if_pos plain]
    exact congrArg (b :: ·) (ih noZero.2)

/-- A buffer gets as many of the first bytes as it has room for. -/
theorem bufferText_eq_take {output : List (Message.Piece UInt8)} (noZero : 0 ∉ symbolsOf output) (size : Nat) :
    bufferText size output = (symbolsOf output).take (size - 1) := by
  rw [bufferText, Message.takeSymbols_eq_take]
  exact upToZero_eq_self fun isZero => noZero (List.mem_of_mem_take isZero)

/-- A variadic call that gets its buffer and is formatted in full, to given bytes. -/
structure FormatsInFull (h : Host) (s : Session) (room : Room) (format : Bytes) (args : Arguments) (bytes : Bytes) :
    Prop where
  hooked : h.hooked = true
  slot : h.slot = .idle s
  coherent : s.Coherent
  /-- One byte more than the bound is still a word. -/
  inWord : s.settings.capacity < Number.wordSize - 1
  allocated : room.buffer = true
  formatted : ∃ output, formatBytes room h.lastFault format args = .ok output ∧ symbolsOf output = bytes
  noZero : 0 ∉ bytes

section

variable {h : Host} {s : Session} {room : Room} {format : Bytes} {args : Arguments} {bytes : Bytes}

/-- The bytes are cut at the bound, and their number is told. -/
theorem FormatsInFull.assertVariadic_run (full : FormatsInFull h s room format args bytes) :
    assertVariadic room true (some format) args h =
      reportFormatted (some (bytes.take s.formatter.capacity)) bytes.length h := by
  obtain ⟨output, formatted, rfl⟩ := full.formatted
  have size : bufferSize s.formatter.capacity - 1 = s.formatter.capacity := by
    have inWord : s.formatter.capacity < Number.wordSize - 1 := full.coherent ▸ full.inWord
    rw [bufferSize, Nat.mod_eq_of_lt (by omega), Nat.add_sub_cancel]
  have buffered := bufferText_eq_take full.noZero (bufferSize s.formatter.capacity)
  rw [size] at buffered
  rw [Host.assertVariadic_run full.hooked (messageCapacity_run full.slot), full.allocated, if_pos rfl, formatted]
  simp only [buffered, Message.length_symbolsOf]

/-- What two cuts make of a variadic message is what one makes of the text of all its bytes. -/
theorem FormatsInFull.delivers (full : FormatsInFull h s room format args bytes) (marked : s.formatter.marker ≠ []) :
    assertVariadic room true (some format) args h =
      delivering "report_formatted" (s.formatter.clip (Text.decodeLossy bytes) false) h := by
  -- The marker is shorter than the bound, so a marker that is there says that the bound is not zero.
  have positive : 0 < s.formatter.capacity := by
    have markerSize := Text.byteSize_pos marked
    have shorter := Text.byteSize_cut_le (s.settings.formatter.capacity - 1) s.settings.marker.toList
    rw [full.coherent] at markerSize ⊢
    change Text.byteSize s.settings.formatter.marker ≤ _ at shorter
    omega
  have lacks : (bytes.take s.formatter.capacity).length < bytes.length ↔ s.formatter.capacity < bytes.length := by
    rw [List.length_take]
    omega
  rw [full.assertVariadic_run, reportFormatted_run full.slot]
  rw [← s.formatter.clip_take marked positive, ← decide_eq_decide.mpr lacks]

end

end Host

open Host

/-- A variadic message and the text of all its bytes, handed over ready, make the same message: the
text is cut once, and no replacement character shows that the bytes had been cut before. This needs a
marker, which all settings that foreign code can bring about have. -/
theorem variadic_message_cut_once :
    (∀ calls : List Call, (∀ settings, .sessionConfigure settings ∉ calls) →
      ∃ s, (Run.final perform calls {}).slot = .idle s ∧ s.Coherent ∧ s.formatter.marker = "...".toList) ∧
    ∀ (h : Host) (s : Session) (room : Room) (format : Bytes) (args : Arguments) (bytes : Bytes),
      FormatsInFull h s room format args bytes → s.formatter.marker ≠ [] →
      Alike (assertVariadic room true (some format) args h) (assertText true (some bytes) h) ∧
      ∃ message, Truncates s.settings.capacity s.settings.marker (Text.decodeLossy bytes) false message ∧
        assertVariadic room true (some format) args h = delivering "report_formatted" message h ∧
        assertText true (some bytes) h = delivering "assert_str" message h := by
  refine ⟨fun calls others => marker_of_calls others, ?_⟩
  intro h s room format args bytes full marked
  have twice := full.delivers marked
  have once := assertText_run full.slot bytes
  refine ⟨?_, s.formatter.clip (Text.decodeLossy bytes) false, ?_, twice, once⟩
  · rw [twice, once]
    exact delivering_alike ..
  · rw [full.coherent]
    exact Message.Formatter.clip_truncates ..

/-- Ten bytes with one that is no UTF-8, cut at nine within the last character. -/
theorem variadic_message_cut_once_within_character :
    let bytes : Bytes := [0x61, 0x62, 0x63, 0xFF, 0xE2, 0x82, 0xAC, 0xE2, 0x82, 0xAC]
    let s : Session := { settings := { capacity := 9 }, binding := ⟨some (.callback (.recording "log"))⟩ }
    let h : Host := { slot := .idle s, hooked := true }
    let args : Arguments := { words := [.pointer 0], memory := [bytes] }
    FormatsInFull h s {} [0x25, 0x73] args bytes ∧
      Alike (assertVariadic {} true (some [0x25, 0x73]) args h) (assertText true (some bytes) h) ∧
      texts (assertText true (some bytes) h).trace = ["abc\uFFFD..."] := by
  intro bytes s h args
  have written : (formatBytes {} none [0x25, 0x73] args).toOption.map symbolsOf = some bytes := by decide +kernel
  have formatted : ∃ output, formatBytes {} none [0x25, 0x73] args = .ok output ∧ symbolsOf output = bytes := by
    cases done : formatBytes {} none [0x25, 0x73] args with
    | error halt => simp [done, Except.toOption] at written
    | ok output => exact ⟨output, rfl, by simpa [done, Except.toOption] using written⟩
  have full : FormatsInFull h s {} [0x25, 0x73] args bytes :=
    ⟨rfl, rfl, rfl, by decide, rfl, formatted, by decide⟩
  exact ⟨full, (variadic_message_cut_once.2 h s _ _ args bytes full (by decide)).1, by decide +kernel⟩

end MockQueue.Boundary

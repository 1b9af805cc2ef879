import MockQueue.Proofs.EnvironmentGrammar
import MockQueue.Proofs.LossyCut

/-!
# Room for the zero that ends a variadic message

A variadic call formats into memory that it has just asked for, one byte more than the bound, and hands over
what lies before the first zero. Nothing is known of the bytes that were in the memory, so it is the call that
has to put a zero there. It does for every bound but the largest word: one more than that is no word, the size
wraps around to zero, and there is no memory to put a zero into (`buffer_holds_text`).
-/

namespace MockQueue.Boundary

open Host
open Message (Piece symbolsOf lengthOf)

/-! ## Texts in memory -/

/-- A text at the front of memory, with a zero after it. -/
structure HoldsText (memory text : Bytes) : Prop where
  noZero : 0 ∉ text
  ended : text ++ [0] <+: memory

theorem HoldsText.zero_mem {memory text : Bytes} (holds : HoldsText memory text) : 0 ∈ memory :=
  holds.ended.subset (by simp)

/-- Memory with a zero in it holds the bytes before the first one. -/
theorem holdsText_upToZero {memory : Bytes} (zero : 0 ∈ memory) : HoldsText memory (upToZero memory) := by
  refine ⟨zero_notMem_upToZero memory, ?_⟩
  induction memory with
  | nil => cases zero
  | cons b rest ih =>
    by_cases isZero : b = 0
    · subst isZero
      exact ⟨rest, rfl⟩
    · have later : 0 ∈ rest := (List.mem_cons.mp zero).resolve_left (Ne.symm isZero)
      rw [upToZero, List.takeWhile_cons, if_pos (bne_iff_ne.mpr isZero), List.cons_append]
      exact List.cons_prefix_cons.mpr ⟨rfl, ih later⟩

/-- What lies behind a zero is not read. -/
theorem upToZero_zero (front rest : Bytes) : upToZero (front ++ 0 :: rest) = upToZero front := by
  induction front with
  | nil => rfl
  | cons b front ih =>
    simp only [upToZero, List.cons_append, List.takeWhile_cons] at ih ⊢
    rw [ih]

theorem length_overwrite {memory bytes : Bytes} (fits : bytes.length ≤ memory.length) :
    (overwrite memory bytes).length = memory.length := by
  rw [overwrite, List.length_append, List.length_drop]
  omega

/-! ## Formatting into memory -/

@[simp] theorem formatInto_nil (output : Bytes) : formatInto [] output = [] := rfl

theorem formatInto_eq {memory : Bytes} (room : memory ≠ []) (output : Bytes) :
    formatInto memory output =
      output.take (memory.length - 1) ++ 0 :: memory.drop ((output.take (memory.length - 1)).length + 1) := by
  rw [formatInto, if_neg room, overwrite, List.length_append, List.length_singleton, List.append_assoc,
    List.singleton_append]

theorem length_formatInto (memory output : Bytes) : (formatInto memory output).length = memory.length := by
  by_cases none : memory = []
  · rw [none, formatInto_nil]
  · have some : 0 < memory.length := List.length_pos_iff.mpr none
    rw [formatInto, if_neg none]
    apply length_overwrite
    simp only [List.length_append, List.length_take, List.length_singleton]
    omega

/-- The text that is read back, whatever lay in the memory before. -/
theorem upToZero_formatInto {memory : Bytes} (room : memory ≠ []) (output : List (Piece UInt8)) :
    upToZero (formatInto memory (symbolsOf output)) = bufferText memory.length output := by
  rw [formatInto_eq room, upToZero_zero, bufferText, Message.takeSymbols_eq_take]

/-! ## The size of the buffer -/

theorem bufferSize_of_lt {capacity : Nat} (below : capacity < Number.wordSize - 1) :
    bufferSize capacity = capacity + 1 :=
  Nat.mod_eq_of_lt (by omega)

/-- One more than the largest word is no word. -/
theorem bufferSize_last : bufferSize (Number.wordSize - 1) = 0 := by decide

/-- The size exceeds the bound unless that is the largest word. -/
theorem lt_bufferSize_iff {capacity : Nat} (word : capacity < Number.wordSize) :
    capacity < bufferSize capacity ↔ capacity ≠ Number.wordSize - 1 := by
  constructor
  · rintro exceeds rfl
    rw [bufferSize_last] at exceeds
    exact Nat.not_lt_zero _ exceeds
  · intro other
    rw [bufferSize_of_lt (by omega)]
    exact Nat.lt_succ_self capacity

namespace Host

/-! ## Variadic calls -/

/-- The bound that foreign calls go by: that of the session, and the default one while it is lent out. -/
def bound (h : Host) : Nat :=
  match h.slot with
  | .idle s => s.formatter.capacity
  | .busy _ => ({} : Settings).capacity

theorem messageCapacity_eq (h : Host) : messageCapacity h = ⟨.ok h.bound, h, []⟩ := by
  cases here : h.slot with
  | idle s => rw [messageCapacity_run here, bound, here]
  | busy s => rw [messageCapacity_busy here, bound, here]

variable {h : Host} {memory : Bytes}

/-- Memory that is there is handed over with a text in it, which leaves room for the zero. -/
theorem handsOver_text {made : Except Halt (List (Piece UInt8))} (room : memory ≠ []) {buffer : Bytes} {length : Nat}
    {after : Host} (handed : h.handsOver memory made = some (buffer, length, after)) :
    buffer.length = memory.length ∧ HoldsText buffer (upToZero buffer) ∧
      (upToZero buffer).length ≤ memory.length - 1 := by
  have same : buffer.length = memory.length ∧ 0 ∈ buffer := by
    rcases made with (fault | _) | output
    · simp only [handsOver, Option.some.injEq, Prod.mk.injEq] at handed
      obtain ⟨rfl, -, -⟩ := handed
      exact ⟨length_overwrite (List.length_pos_iff.mpr room), by simp [overwrite]⟩
    · cases handed
    · simp only [handsOver, Option.some.injEq, Prod.mk.injEq] at handed
      obtain ⟨rfl, -, -⟩ := handed
      exact ⟨length_formatInto memory _, by simp [formatInto_eq room]⟩
  have holds := holdsText_upToZero same.2
  have shorter : (upToZero buffer ++ [0]).length ≤ buffer.length := holds.ended.length_le
  rw [List.length_append, List.length_singleton, same.1] at shorter
  exact ⟨same.1, holds, by omega⟩

/-- The first zero of what is handed over ends the text that the call reports. -/
theorem assertVariadic_handsOver (hooked : h.hooked = true) (size : memory.length = bufferSize h.bound)
    (inside : memory ≠ []) {room : Room} (allocated : room.buffer = true) (format : Bytes) (args : Arguments) :
    assertVariadic room true (some format) args h =
      match h.handsOver memory (formatBytes room h.lastFault format args) with
      | some (buffer, length, after) => reportFormatted (some (upToZero buffer)) length after
      | none => ⟨.error .aborted, h, []⟩ := by
  have cleared : upToZero (overwrite memory [0]) = [] := upToZero_zero [] (memory.drop 1)
  rw [assertVariadic_run hooked (messageCapacity_eq h), allocated, if_pos rfl]
  rcases formatBytes room h.lastFault format args with (fault | _) | output
  · simp [handsOver, cleared]
  · rfl
  · have text := upToZero_formatInto inside output
    rw [size] at text
    simp [handsOver, text]

end Host

/-- The memory of a variadic call is handed over as large as it was, with a text in it. -/
structure InRoom (memory buffer text : Bytes) : Prop where
  inside : buffer.length = memory.length
  holds : HoldsText buffer text

/-- A variadic call that gets its memory puts into it a text with a zero at its end, of at most as many bytes as
the bound says, and reports that text, whether formatting succeeds or fails. It does so for every bound that is a
word but the last. For that one, which the environment can name too, the size of the memory is zero: nothing in
it ends a text, and to clear its first byte is to write outside of it. -/
theorem buffer_holds_text (capacity : Nat) (word : capacity < Number.wordSize) :
    (∀ (e : Environment) (s : Settings), Settings.ofEnvironment e = .ok s →
      s.validate = .ok s ∧ s.capacity < Number.wordSize) ∧
    (capacity < bufferSize capacity ↔ capacity ≠ Number.wordSize - 1) ∧
    ∀ (h : Host) (room : Room) (format : Bytes) (args : Arguments) (memory : Bytes),
      h.hooked = true → h.bound = capacity → memory.length = bufferSize capacity →
      ∀ buffer length after,
        h.handsOver memory (formatBytes room h.lastFault format args) = some (buffer, length, after) →
        (capacity ≠ Number.wordSize - 1 → ∃ text, InRoom memory buffer text ∧ text.length ≤ capacity ∧
          (room.buffer = true →
            assertVariadic room true (some format) args h = reportFormatted (some text) length after)) ∧
        (capacity = Number.wordSize - 1 → ∀ text, ¬ InRoom memory buffer text) := by
  refine ⟨fun e s read => ⟨ofEnvironment_valid read, ?_⟩, lt_bufferSize_iff word, ?_⟩
  · exact ((Environment.ofEnvironment_eq_ok_iff e s).mp read).capacity_lt
  intro h room format args memory hooked bound size buffer length after handed
  refine ⟨fun other => ?_, fun last text inRoom => ?_⟩
  · have more : bufferSize capacity = capacity + 1 := bufferSize_of_lt (by omega)
    have space : memory ≠ [] := List.length_pos_iff.mp (by omega)
    obtain ⟨inside, holds, short⟩ := handsOver_text space handed
    refine ⟨upToZero buffer, ⟨inside, holds⟩, by omega, fun allocated => ?_⟩
    rw [assertVariadic_handsOver hooked (bound ▸ size) space allocated, handed]
  · rw [last, bufferSize_last] at size
    have empty : buffer = [] := List.length_eq_zero_iff.mp (inRoom.inside.trans size)
    exact List.not_mem_nil (empty ▸ inRoom.holds.zero_mem)

/-- Ten bytes of memory for a bound of nine, and an output of ten bytes. -/
theorem buffer_holds_text_nine :
    let h : Host := { slot := .idle { settings := { capacity := 9 } }, hooked := true }
    let output : Bytes := [0x31, 0x32, 0x33, 0x34, 0x35, 0x36, 0x37, 0x38, 0x39, 0x30]
    let args : Arguments := { words := [.number 1234567890] }
    let memory : Bytes := List.replicate 10 0xFF
    h.handsOver memory (formatBytes {} none [0x25, 0x64] args) = some (output.take 9 ++ [0], 10, h) ∧
      ∃ text, InRoom memory (output.take 9 ++ [0]) text ∧ text.length ≤ 9 ∧
        assertVariadic {} true (some [0x25, 0x64]) args h = reportFormatted (some text) 10 h := by
  intro h output args memory
  have handed : h.handsOver memory (formatBytes {} none [0x25, 0x64] args) = some (output.take 9 ++ [0], 10, h) := by
    have written : (formatBytes {} none [0x25, 0x64] args).toOption.map (fun made => (symbolsOf made, lengthOf made)) =
        some (output, 10) := by decide +kernel
    cases made : formatBytes {} none [0x25, 0x64] args with
    | error halt => simp [made, Except.toOption] at written
    | ok pieces =>
      obtain ⟨symbols, length⟩ : symbolsOf pieces = output ∧ lengthOf pieces = 10 := by
        simpa [made, Except.toOption] using written
      have filled : formatInto memory output = output.take 9 ++ [0] := by decide
      rw [handsOver, symbols, length, filled]
  obtain ⟨text, inRoom, short, reported⟩ :=
    ((buffer_holds_text 9 (by decide)).2.2 h _ _ args memory rfl rfl rfl _ _ _ handed).1 (by decide)
  exact ⟨handed, text, inRoom, short, reported rfl⟩

/-- The last word is a valid bound that the environment can name. The memory that a call then asks for has no
bytes: formatting into it puts no zero there, and clearing the first byte writes behind its end. -/
theorem room_missing :
    let s : Settings := { capacity := Number.wordSize - 1 }
    Settings.ofEnvironment { capacity := some "18446744073709551615" } = .ok s ∧ s.validate = .ok s ∧
      bufferSize s.capacity = 0 ∧ ¬ s.capacity < bufferSize s.capacity ∧
      0 ∉ formatInto [] [0x78] ∧ ([] : Bytes).length < (overwrite [] [0]).length := by
  decide +kernel

end MockQueue.Boundary

import MockQueue.Proofs.DigitRows
import MockQueue.Proofs.Telling
import MockQueue.Proofs.Verbatim

/-!
# The first byte that differs

Bytes behind a parameter are refused in one of two ways: they are of another number, or they are as many and one
of them is the first that differs (`Describes`). The search walks both rows at once and stops with the shorter
one, so the place that it finds lies in both (`firstDifference_eq_some_iff`), and it is the one that a search by
position finds (`firstDifference_of_findIdx?`). A check tells just that and nothing else
(`bytes_pinpointed`).
-/

namespace MockQueue.Session

open Message (Bounded Truncates)
open Number (Radix)

/-! ## The place -/

/-- The rows agree up to an offset and both go on there, with different bytes. -/
structure DiffersFirst (expected actual : List UInt8) (offset : Nat) (e a : UInt8) : Prop where
  expectedByte : expected[offset]? = some e
  actualByte : actual[offset]? = some a
  differ : e ≠ a
  before : ∀ k < offset, expected[k]? = actual[k]?

/-- A common first byte moves the place by one. -/
theorem differsFirst_succ_iff (b : UInt8) (expected actual : List UInt8) (offset : Nat) (e a : UInt8) :
    DiffersFirst (b :: expected) (b :: actual) (offset + 1) e a ↔ DiffersFirst expected actual offset e a := by
  constructor
  · rintro ⟨expectedByte, actualByte, differ, before⟩
    refine ⟨expectedByte, actualByte, differ, fun k below => ?_⟩
    exact before (k + 1) (Nat.succ_lt_succ below)
  · rintro ⟨expectedByte, actualByte, differ, before⟩
    refine ⟨expectedByte, actualByte, differ, fun k below => ?_⟩
    cases k with
    | zero => rfl
    | succ k => exact before k (Nat.lt_of_succ_lt_succ below)

theorem firstDifference_eq_some_iff (expected actual : List UInt8) (offset : Nat) (e a : UInt8) :
    firstDifference expected actual = some (offset, e, a) ↔ DiffersFirst expected actual offset e a := by
  induction expected generalizing actual offset with
  | nil =>
    simp only [firstDifference, reduceCtorEq, false_iff]
    rintro ⟨expectedByte, -, -, -⟩
    cases expectedByte
  | cons b expected ih =>
    cases actual with
    | nil =>
      simp only [firstDifference, reduceCtorEq, false_iff]
      rintro ⟨-, actualByte, -, -⟩
      cases actualByte
    | cons c actual =>
      by_cases same : b = c
      · subst same
        cases offset with
        | zero =>
          simp only [firstDifference, if_true, Option.map_eq_some_iff, Prod.mk.injEq, Nat.add_one_ne_zero, false_and,
            and_false, exists_false, false_iff]
          rintro ⟨expectedByte, actualByte, differ, -⟩
          exact differ (Option.some.inj (expectedByte.symm.trans actualByte))
        | succ offset =>
          rw [differsFirst_succ_iff, ← ih]
          simp [firstDifference]
      · have found : firstDifference (b :: expected) (c :: actual) = some (0, b, c) := if_neg same
        rw [found]
        constructor
        · rintro ⟨⟩
          exact ⟨rfl, rfl, same, fun k below => absurd below (Nat.not_lt_zero k)⟩
        · rintro ⟨expectedByte, actualByte, -, before⟩
          cases offset with
          | zero =>
            obtain rfl := Option.some.inj expectedByte
            obtain rfl := Option.some.inj actualByte
            rfl
          | succ offset => exact absurd (Option.some.inj (before 0 (Nat.succ_pos offset))) same

/-- The place lies in both rows, also if one is longer. -/
theorem DiffersFirst.inside {expected actual : List UInt8} {offset : Nat} {e a : UInt8}
    (first : DiffersFirst expected actual offset e a) : offset < expected.length ∧ offset < actual.length :=
  ⟨(List.getElem?_eq_some_iff.mp first.expectedByte).1, (List.getElem?_eq_some_iff.mp first.actualByte).1⟩

/-- A search by position over the pairs finds a place in both rows, and the bytes there are those found. -/
theorem firstDifference_of_findIdx? {expected actual : List UInt8} {offset : Nat}
    (found : (expected.zip actual).findIdx? (fun pair => pair.1 != pair.2) = some offset) :
    ∃ (inExpected : offset < expected.length) (inActual : offset < actual.length),
      firstDifference expected actual = some (offset, expected[offset], actual[offset]) := by
  obtain ⟨inside, differ, before⟩ := List.findIdx?_eq_some_iff_getElem.mp found
  have lengths := inside
  rw [List.length_zip] at lengths
  have inExpected : offset < expected.length := by omega
  have inActual : offset < actual.length := by omega
  refine ⟨inExpected, inActual, (firstDifference_eq_some_iff ..).mpr ⟨?_, ?_, ?_, fun k below => ?_⟩⟩
  · exact List.getElem?_eq_getElem inExpected
  · exact List.getElem?_eq_getElem inActual
  · simpa using differ
  · have equal := before k below
    rw [List.getElem?_eq_getElem (by omega), List.getElem?_eq_getElem (by omega)]
    simpa using equal

/-! ## The message -/

/-- A byte as two hexadecimal digits in small letters, that of the sixteens first. -/
def hexPair (b : UInt8) : String :=
  String.ofList [(Radix.hex false).symbol (b.toNat / 16), (Radix.hex false).symbol (b.toNat % 16)]

theorem byteText_eq_hexPair (b : UInt8) : byteText b = hexPair b := by
  have range : b.toNat < 256 := b.toNat_lt
  unfold byteText hexPair
  rcases Nat.lt_or_ge b.toNat 16 with small | large
  · have quotient : b.toNat / 16 = 0 := Nat.div_eq_of_lt small
    have remainder : b.toNat % 16 = b.toNat := Nat.mod_eq_of_lt small
    rw [Radix.digits_of_lt (.hex false) small, quotient, remainder]
    rfl
  · have quotient : b.toNat / 16 < (Radix.hex false).base := by
      change _ < 16
      omega
    have digits : (Radix.hex false).digits b.toNat =
        [(Radix.hex false).symbol (b.toNat / 16), (Radix.hex false).symbol (b.toNat % 16)] := by
      rw [Radix.digits_of_le (.hex false) large]
      exact congrArg (· ++ _) (Radix.digits_of_lt (.hex false) quotient)
    rw [digits]
    rfl

/-- What a message about the bytes behind a parameter begins with. -/
def subject (api param : String) : String :=
  api ++ "(): data behind parameter '" ++ param ++ "' "

theorem join_subject (api param : String) (rest : List String) :
    String.join ([api, "(): data behind parameter '", param, "' "] ++ rest) =
      subject api param ++ String.join rest := by
  simp [subject, String.append_assoc]

/-- What there is to say about bytes that are not the expected ones: their number, if it is another, and else the
first place where they differ. -/
inductive Describes (api param : String) (expected actual : List UInt8) : String → Prop
  | lengths (other : expected.length ≠ actual.length) :
    Describes api param expected actual
      (subject api param ++ "expected " ++ toString expected.length ++ " bytes, got " ++ toString actual.length)
  | place {offset : Nat} (sameLength : expected.length = actual.length) (inExpected : offset < expected.length)
    (inActual : offset < actual.length) (differ : expected[offset] ≠ actual[offset])
    (least : ∀ k, (below : k < offset) → expected[k] = actual[k]) :
    Describes api param expected actual
      (subject api param ++ "differs at byte " ++ toString offset ++ " (expected 0x" ++ hexPair expected[offset] ++
        ", got 0x" ++ hexPair actual[offset] ++ ")")

/-- The first difference of rows that are equally long is the place to tell. -/
theorem DiffersFirst.describes {expected actual : List UInt8} {offset : Nat} {e a : UInt8}
    (first : DiffersFirst expected actual offset e a) (sameLength : expected.length = actual.length)
    (api param : String) :
    Describes api param expected actual
      (subject api param ++ "differs at byte " ++ toString offset ++ " (expected 0x" ++ hexPair e ++
        ", got 0x" ++ hexPair a ++ ")") := by
  obtain ⟨inExpected, rfl⟩ := List.getElem?_eq_some_iff.mp first.expectedByte
  obtain ⟨inActual, rfl⟩ := List.getElem?_eq_some_iff.mp first.actualByte
  refine .place sameLength inExpected inActual first.differ fun k below => ?_
  have equal := first.before k below
  rwa [List.getElem?_eq_getElem (by omega), List.getElem?_eq_getElem (by omega), Option.some.injEq] at equal

/-! ## The check -/

section

variable (api param : String) (s : Session)

theorem checkBytes_accepts {expected : Option (List UInt8)} {actual : List UInt8}
    (accepted : BytesAccepted expected actual) :
    checkBytes api param expected actual s = (return true : Run Session Bool) s := by
  rcases accepted with rfl | rfl
  · rfl
  · have nowhere : firstDifference actual actual = none := (firstDifference_eq_none_iff rfl).mpr rfl
    simp [checkBytes, nowhere]

/-- Bytes that are not the expected ones are refused, with one text that describes them. -/
theorem checkBytes_refuses {expected actual : List UInt8} (other : expected ≠ actual) :
    ∃ text, Describes api param expected actual text ∧
      checkBytes api param (some expected) actual s = (do quote text; return false : Run Session Bool) s := by
  by_cases sameLength : expected.length = actual.length
  · cases found : firstDifference expected actual with
    | none => exact absurd ((firstDifference_eq_none_iff sameLength).mp found) other
    | some place =>
      obtain ⟨offset, e, a⟩ := place
      have first := (firstDifference_eq_some_iff ..).mp found
      refine ⟨_, first.describes sameLength api param, ?_⟩
      simp only [checkBytes, sameLength, ne_eq, not_true_eq_false, if_false, found, Run.run_bind_pure,
        assertPieces_eq_quote, join_subject, byteText_eq_hexPair]
      simp [String.append_assoc]
  · refine ⟨_, .lengths sameLength, ?_⟩
    simp only [checkBytes, sameLength, ne_eq, not_false_eq_true, if_true, Run.run_bind_pure, assertPieces_eq_quote,
      join_subject]
    simp [String.append_assoc]

end

/-- With a reporter that comes back, bytes are accepted in silence exactly if none are expected or they are the
expected ones. All others are refused and told once, by the text that describes them, cut at the bound: the text
itself where it fits. The place where rows of bytes first differ lies in both of them, however long they are. -/
theorem bytes_pinpointed {r : Reporter} (returns : r.Returns) (settings : Settings) (queue : Queue)
    (api param : String) (expected : Option (List UInt8)) (actual : List UInt8) :
    let s : Session := { settings, queue, binding := ⟨some r⟩ }
    let step := checkBytes api param expected actual s
    (step.outcome = .ok true ∧ reports step.trace = [] ↔ expected = none ∨ expected = some actual) ∧
    (∀ bytes, expected = some bytes → bytes ≠ actual →
      ∃ text message, Describes api param bytes actual text ∧
        Truncates s.settings.capacity s.settings.marker text.toList false message ∧
        (text.utf8ByteSize ≤ s.settings.capacity → message = ⟨text, false⟩) ∧
        step.outcome = .ok false ∧ reports step.trace = [(r, message.text)]) ∧
    ∀ bytes offset, (List.zip bytes actual).findIdx? (fun pair => pair.1 != pair.2) = some offset →
      ∃ (inBytes : offset < bytes.length) (inActual : offset < actual.length),
        firstDifference bytes actual = some (offset, bytes[offset], actual[offset]) := by
  intro s step
  have refused (bytes : List UInt8) (given : expected = some bytes) (other : bytes ≠ actual) :
      ∃ text message, Describes api param bytes actual text ∧
        Truncates s.settings.capacity s.settings.marker text.toList false message ∧
        (text.utf8ByteSize ≤ s.settings.capacity → message = ⟨text, false⟩) ∧
        step.outcome = .ok false ∧ reports step.trace = [(r, message.text)] := by
    obtain ⟨text, describes, ran⟩ := checkBytes_refuses api param s other
    have cuts := Message.Formatter.clip_truncates s.settings.capacity s.settings.marker text.toList false
    have ended : step = (do quote text; return false : Run Session Bool) s := by rw [← ran, ← given]
    rw [Run.run_bind_pure, quote_run, returns.fate] at ended
    refine ⟨text, s.formatter.clip text.toList false, describes, cuts, fun fits => ?_, by rw [ended]; rfl, ?_⟩
    · rw [← Text.byteSize_toList] at fits
      exact (cuts.whole fits rfl).trans (by rw [String.ofList_toList])
    · rw [ended, reports_told]
      rfl
  refine ⟨⟨fun silent => ?_, fun accepted => ?_⟩, refused, fun bytes offset found => ?_⟩
  · cases given : expected with
    | none => exact .inl rfl
    | some bytes =>
      refine .inr (congrArg some (Decidable.byContradiction fun other => ?_))
      obtain ⟨-, -, -, -, -, outcome, -⟩ := refused bytes given other
      rw [outcome] at silent
      exact absurd silent.1 (by simp)
  · have ran : step = (return true : Run Session Bool) s := checkBytes_accepts api param s accepted
    rw [ran]
    exact ⟨rfl, rfl⟩
  · exact firstDifference_of_findIdx? found

/-- Rows of three bytes that differ in the last two: the first of these is told. -/
theorem bytes_pinpointed_second_byte :
    let s : Session := { binding := ⟨some (.collector "A")⟩ }
    let step := checkBytes "write" "buf" (some [1, 2, 3]) [1, 171, 255] s
    (Reporter.collector "A").Returns ∧ ([1, 2, 3] : List UInt8) ≠ [1, 171, 255] ∧ step.outcome = .ok false ∧
      reports step.trace =
        [(.collector "A", "write(): data behind parameter 'buf' differs at byte 1 (expected 0x02, got 0xab)")] := by
  intro s step
  have returns : (Reporter.collector "A").Returns := fun _ => rfl
  have other : ([1, 2, 3] : List UInt8) ≠ [1, 171, 255] := by decide
  obtain ⟨-, refused, -⟩ := bytes_pinpointed returns s.settings s.queue "write" "buf" (some [1, 2, 3]) [1, 171, 255]
  obtain ⟨text, message, describes, -, whole, outcome, told⟩ := refused _ rfl other
  have wording : text = "write(): data behind parameter 'buf' differs at byte 1 (expected 0x02, got 0xab)" := by
    cases describes with
    | lengths longer => exact absurd rfl longer
    | @place offset _ inExpected _ differ least =>
      have three : offset < 3 := inExpected
      obtain rfl | rfl | rfl : offset = 0 ∨ offset = 1 ∨ offset = 2 := by omega
      · exact absurd rfl differ
      · change subject "write" "buf" ++ "differs at byte " ++ toString 1 ++ " (expected 0x" ++ hexPair 2 ++ ", got 0x"
          ++ hexPair 171 ++ ")" = _
        decide +kernel
      · exact absurd (least 1 (by decide)) (by simp)
  refine ⟨returns, other, outcome, ?_⟩
  rw [told, whole (by rw [wording]; decide +kernel), wording]

end MockQueue.Session

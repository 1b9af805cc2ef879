import Mathlib.Data.List.TakeWhile
import MockQueue.Proofs.Juxtaposition
import MockQueue.Proofs.LongDecimals
import MockQueue.Proofs.Rows
import MockQueue.Proofs.Truncation

/-!
# Directives as they are written

A directive is written part after part, and one character can be of several parts: a zero is a flag and a digit.
It is proper if each of its parts stands where a greedy reader takes it for that part, and its conversion
character where no part takes it (`IsProper`). Those are the directives that are read back, whatever follows them
(`scan_print`), and no others are ever read (`scan_isProper`). The bytes that are counted on the way are those of
the written form (`parse_size`), so they end between two characters.
-/

namespace MockQueue.Message

open Number (AllDigits digitValue valueOf)
open Text (Stops behind byteSize stops_nil stops_cons stops_append stops_dropWhile takeWhile_row dropWhile_row)

/-! ## Parts -/

/-- The characters that are flags. -/
def flagLetters : List Char := ['-', '0', '+', ' ', '#']

/-- The length letters. -/
def lengthLetters : List Char := ['h', 'l', 'L', 'q', 'j', 'z', 't']

theorem isFlag_iff (c : Char) : isFlag c = true ↔ c ∈ flagLetters := by
  simp [isFlag, flagLetters, or_assoc]

theorem isLengthLetter_iff (c : Char) : isLengthLetter c = true ↔ c ∈ lengthLetters := by
  simp [isLengthLetter, lengthLetters, or_assoc]

theorem isFlag_of_digit {c : Char} (digit : c.isDigit = true) (positive : c ≠ '0') : isFlag c = false := by
  rw [← Bool.not_eq_true, isFlag_iff]
  intro member
  have cases : c = '-' ∨ c = '0' ∨ c = '+' ∨ c = ' ' ∨ c = '#' := by simpa [flagLetters] using member
  rcases cases with rfl | rfl | rfl | rfl | rfl <;> simp_all

namespace DirectiveText

variable {d : DirectiveText}

/-- The character, coming after all other parts of the directive, would be taken as part of them: as a length
letter, as a digit unless length letters have come, as the point if neither a precision has come, and as a flag if
no width has. -/
def Absorbs (d : DirectiveText) (c : Char) : Prop :=
  c ∈ lengthLetters ∨
    d.lengths = [] ∧ (c.isDigit = true ∨ d.precision = none ∧ (c = '.' ∨ d.width = [] ∧ c ∈ flagLetters))

/-- Each part is made of its own characters and stands where none of the parts before it takes it. -/
structure IsProper (d : DirectiveText) : Prop where
  flags : ∀ c ∈ d.flags, c ∈ flagLetters
  width : AllDigits d.width
  /-- A zero in front would be a flag. -/
  widthStart : d.width.head? ≠ some '0'
  precision : ∀ digits ∈ d.precision, AllDigits digits
  lengths : ∀ c ∈ d.lengths, c ∈ lengthLetters
  conversion : ∀ c ∈ d.conversion, ¬ d.Absorbs c

/-- What the written parts of a directive ask for: the flags that occur, and the numbers, kept within a word. -/
structure Means (d : DirectiveText) (l : Layout) : Prop where
  left : l.flags.left = true ↔ '-' ∈ d.flags
  zero : l.flags.zero = true ↔ '0' ∈ d.flags
  plus : l.flags.plus = true ↔ '+' ∈ d.flags
  space : l.flags.space = true ↔ ' ' ∈ d.flags
  alternate : l.flags.alternate = true ↔ '#' ∈ d.flags
  width : l.width = min (valueOf 10 d.width) (2 ^ 64 - 1)
  precision : l.precision = d.precision.map fun digits => min (valueOf 10 digits) (2 ^ 64 - 1)

theorem layout_means (d : DirectiveText) : d.Means d.layout where
  left := List.contains_iff_mem
  zero := List.contains_iff_mem
  plus := List.contains_iff_mem
  space := List.contains_iff_mem
  alternate := List.contains_iff_mem
  width := boundedNumber_eq_min d.width
  precision := congrArg (d.precision.map ·) (funext boundedNumber_eq_min)

/-! ## What is written is read -/

section

variable {after : List Char} (proper : d.IsProper) (ends : d.conversion = none → after = [])

include ends in
/-- The text from the conversion character on does not begin with a class that this character is not of. -/
theorem stops_conversion {p : Char → Bool} (other : ∀ c ∈ d.conversion, p c = false) :
    Stops p (d.conversion.toList ++ after) := by
  cases given : d.conversion with
  | none =>
    rw [ends given]
    exact stops_nil
  | some c => exact stops_cons (other c given)

include proper ends

/-- Nor does the text from the length letters on, if they are not of the class either. -/
theorem stops_lengths {p : Char → Bool} (letters : lengthLetters.any p = false)
    (other : d.lengths = [] → ∀ c ∈ d.conversion, p c = false) :
    Stops p (d.lengths ++ (d.conversion.toList ++ after)) :=
  stops_append (fun c member => Bool.eq_false_iff.mpr (List.any_eq_false.mp letters c (proper.lengths c member)))
    fun none => stops_conversion ends (other none)

theorem stops_digits : Stops Char.isDigit (d.lengths ++ (d.conversion.toList ++ after)) := by
  refine stops_lengths proper ends (by decide) fun none c here => ?_
  rw [← Bool.not_eq_true]
  exact fun digit => proper.conversion c here (.inr ⟨none, .inl digit⟩)

theorem scanConversion_print :
    scanConversion (d.lengths ++ (d.conversion.toList ++ after)) = (d.lengths, d.conversion, after) := by
  have ofClass : ∀ c ∈ d.lengths, isLengthLetter c = true :=
    fun c member => (isLengthLetter_iff c).mpr (proper.lengths c member)
  have stops : Stops isLengthLetter (d.conversion.toList ++ after) := by
    refine stops_conversion ends fun c here => ?_
    rw [← Bool.not_eq_true, isLengthLetter_iff]
    exact fun letter => proper.conversion c here (.inl letter)
  rw [scanConversion, takeWhile_row ofClass stops, dropWhile_row ofClass stops]
  cases given : d.conversion with
  | none => rw [ends given]; rfl
  | some c => rfl

theorem scanPrecision_print :
    scanPrecision (precisionText d.precision ++ (d.lengths ++ (d.conversion.toList ++ after))) =
      (d.precision, d.lengths ++ (d.conversion.toList ++ after)) := by
  cases given : d.precision with
  | some digits =>
    have row : AllDigits digits := proper.precision digits given
    have stops := stops_digits proper ends
    simp only [precisionText, List.cons_append, scanPrecision, takeWhile_row row stops, dropWhile_row row stops]
  | none =>
    have noPoint : Stops (· == '.') (d.lengths ++ (d.conversion.toList ++ after)) := by
      refine stops_lengths proper ends (by decide) fun none c here => ?_
      rw [beq_eq_false_iff_ne]
      exact fun point => proper.conversion c here (.inr ⟨none, .inr ⟨given, .inl point⟩⟩)
    cases behind : d.lengths ++ (d.conversion.toList ++ after) with
    | nil => rfl
    | cons c rest =>
      rw [behind] at noPoint
      exact scanPrecision_of_ne (beq_eq_false_iff_ne.mp (noPoint c rfl)) rest

/-- Neither a digit nor, where there is no width, a flag follows the width. -/
theorem stops_width :
    Stops Char.isDigit (precisionText d.precision ++ (d.lengths ++ (d.conversion.toList ++ after))) ∧
      (d.width = [] →
        Stops isFlag (precisionText d.precision ++ (d.lengths ++ (d.conversion.toList ++ after)))) := by
  cases given : d.precision with
  | some digits => exact ⟨stops_cons rfl, fun _ => stops_cons rfl⟩
  | none =>
    refine ⟨stops_digits proper ends, fun noWidth => stops_lengths proper ends (by decide) fun none c here => ?_⟩
    rw [← Bool.not_eq_true, isFlag_iff]
    exact fun flag => proper.conversion c here (.inr ⟨none, .inr ⟨given, .inr ⟨noWidth, flag⟩⟩⟩)

/-- A proper directive is read back as it was written, and what follows it is left. -/
theorem scan_print {text : List Char} (written : d.print ++ after = '%' :: text) : scan text = (d, after) := by
  obtain ⟨noDigit, noFlag⟩ := stops_width proper ends
  have flags : ∀ c ∈ d.flags, isFlag c = true := fun c member => (isFlag_iff c).mpr (proper.flags c member)
  have flagsEnd : Stops isFlag
      (d.width ++ (precisionText d.precision ++ (d.lengths ++ (d.conversion.toList ++ after)))) := by
    cases given : d.width with
    | nil => exact noFlag given
    | cons c rest =>
      have digit : c.isDigit = true := proper.width c (given ▸ List.mem_cons_self)
      have positive : c ≠ '0' := fun zero => proper.widthStart (by rw [given, zero]; rfl)
      exact stops_cons (isFlag_of_digit digit positive)
  have body : text = d.flags ++
      (d.width ++ (precisionText d.precision ++ (d.lengths ++ (d.conversion.toList ++ after)))) := by
    simpa [print] using written.symm
  subst body
  simp only [scan, takeWhile_row flags flagsEnd, dropWhile_row flags flagsEnd, takeWhile_row proper.width noDigit,
    dropWhile_row proper.width noDigit, scanPrecision_print proper ends, scanConversion_print proper ends]

end

/-! ## What is read was written -/

theorem stops_scanPrecision {text : List Char} (stops : Stops Char.isDigit text) :
    Stops Char.isDigit (scanPrecision text).2 := by
  unfold scanPrecision
  split
  · exact stops_dropWhile _
  · exact stops

theorem scanPrecision_eq_none {text : List Char} (none : (scanPrecision text).1 = none) :
    (scanPrecision text).2 = text ∧ Stops (· == '.') text := by
  cases text with
  | nil => exact ⟨rfl, stops_nil⟩
  | cons c rest =>
    by_cases point : c = '.'
    · subst point
      cases none
    · rw [scanPrecision_of_ne point]
      exact ⟨rfl, stops_cons (beq_eq_false_iff_ne.mpr point)⟩

/-- A part that takes nothing leaves the text as it was. -/
theorem dropWhile_of_takeWhile {p : Char → Bool} {text : List Char} (none : text.takeWhile p = []) :
    text.dropWhile p = text := by
  have whole := List.takeWhile_append_dropWhile (p := p) (l := text)
  rwa [none] at whole

/-- The parts that are read off any text make up a proper directive: each reader has taken all that it could. -/
theorem scan_isProper (text : List Char) : (scan text).1.IsProper where
  flags := fun c member => (isFlag_iff c).mp (List.mem_takeWhile_imp member)
  width := fun c member => List.mem_takeWhile_imp member
  widthStart := by
    intro zero
    change ((text.dropWhile isFlag).takeWhile Char.isDigit).head? = some '0' at zero
    rw [List.head?_takeWhile, Option.filter_eq_some_iff] at zero
    exact absurd (stops_dropWhile text '0' zero.1) (by decide)
  precision := by
    intro digits given
    change (scanPrecision ((text.dropWhile isFlag).dropWhile Char.isDigit)).1 = some digits at given
    unfold scanPrecision at given
    split at given
    · obtain rfl := Option.some.inj given
      exact fun c member => List.mem_takeWhile_imp member
    · cases given
  lengths := fun c member => (isLengthLetter_iff c).mp (List.mem_takeWhile_imp member)
  conversion := by
    intro c here absorbs
    change ((scanPrecision ((text.dropWhile isFlag).dropWhile Char.isDigit)).2.dropWhile isLengthLetter).head? = some c
      at here
    rcases absorbs with letter | ⟨noLengths, others⟩
    · have stops := stops_dropWhile _ c here
      rw [(isLengthLetter_iff c).mpr letter] at stops
      cases stops
    · -- Without length letters the conversion character comes right after the precision, and so on to the front.
      rw [dropWhile_of_takeWhile noLengths] at here
      rcases others with digit | ⟨noPrecision, others⟩
      · have stops := stops_scanPrecision (stops_dropWhile (text.dropWhile isFlag)) c here
        rw [digit] at stops
        cases stops
      · obtain ⟨same, noPoint⟩ := scanPrecision_eq_none noPrecision
        rw [same] at here
        rcases others with rfl | ⟨noWidth, flag⟩
        · cases noPoint _ here
        · rw [dropWhile_of_takeWhile noWidth] at here
          have stops := stops_dropWhile text c here
          rw [(isFlag_iff c).mpr flag] at stops
          cases stops

/-- Only the end of the text leaves a directive without its conversion character. -/
theorem scan_ends (text : List Char) (ended : (scan text).1.conversion = none) : (scan text).2 = [] := by
  change ((scanPrecision ((text.dropWhile isFlag).dropWhile Char.isDigit)).2.dropWhile isLengthLetter).head? = none
    at ended
  change ((scanPrecision ((text.dropWhile isFlag).dropWhile Char.isDigit)).2.dropWhile isLengthLetter).tail = []
  rw [List.head?_eq_none_iff.mp ended, List.tail_nil]

/-! ## Sizes -/

/-- The bytes that are counted are those of the written form. -/
theorem parse_size (text : List Char) : (parse ('%' :: text)).2 = byteSize (parse ('%' :: text)).1.print := by
  obtain ⟨parts, before, split, size⟩ := parse_percent text
  rw [size, parts]
  exact congrArg byteSize (List.append_cancel_right (split.symm.trans (print_scan_append text).symm))

/-- A proper directive is read back from its written form, whatever comes after it, and means the flags and
numbers that were written; the bytes that are counted are those of the written form. From any text that begins with
a percent sign a proper directive is read that stands at its front: it takes one byte at least, no more than there
are, and ends between two characters. -/
theorem directives_read_back :
    (∀ (d : DirectiveText) (after : List Char), d.IsProper → (d.conversion = none → after = []) →
      let read := parse (d.print ++ after)
      read.1 = d ∧ d.Means read.1.layout ∧ read.2 = byteSize d.print ∧ behind read.2 (d.print ++ after) = after) ∧
    ∀ text : List Char,
      let directive := '%' :: text
      let read := parse directive
      read.1.IsProper ∧ read.1.print ++ behind read.2 directive = directive ∧
        (read.1.conversion = none → behind read.2 directive = []) ∧
        1 ≤ read.2 ∧ read.2 ≤ byteSize directive ∧
        String.Pos.Raw.IsValid (String.ofList directive) ⟨read.2⟩ := by
  refine ⟨fun d after proper ends => ?_, fun text => ?_⟩
  · obtain ⟨text, written⟩ : ∃ text, d.print ++ after = '%' :: text := ⟨_, rfl⟩
    have scanned := scan_print proper ends written
    obtain ⟨parts, stands⟩ := parse_percent text
    have size := parse_size text
    rw [scanned] at parts stands
    rw [parts] at size
    rw [written]
    refine ⟨parts, ?_, size, stands.behind_eq⟩
    rw [parts]
    exact layout_means d
  · obtain ⟨parts, stands⟩ := parse_percent text
    have size := parse_size text
    obtain ⟨before, split, counted⟩ := stands
    have behindEq : behind (parse ('%' :: text)).2 ('%' :: text) = (scan text).2 :=
      StandsAt.behind_eq ⟨before, split, counted⟩
    refine ⟨?_, ?_, ?_, ?_, ?_, ?_⟩
    · rw [parts]
      exact scan_isProper text
    · rw [behindEq, parts, print_scan_append]
    · rw [behindEq, parts]
      exact scan_ends text
    · rw [size, print, Text.byteSize_cons]
      exact Nat.le_trans (Char.utf8Size_pos '%') (Nat.le_add_right _ _)
    · rw [counted, split, Text.byteSize_append]
      exact Nat.le_add_right _ _
    · refine String.Pos.Raw.isValid_iff_exists_append.mpr
        ⟨String.ofList before, String.ofList (scan text).2, ?_, ?_⟩
      · rw [← String.ofList_append, ← split]
      · rw [String.Pos.Raw.ext_iff, String.byteIdx_rawEndPos, ← Text.byteSize_toList, String.toList_ofList, counted]

/-- Flags with a zero among them, a width beyond a word, a precision without digits, length letters and a
conversion character of two bytes, with more digits behind it. -/
theorem directives_read_back_two_bytes :
    let d : DirectiveText := ⟨"-0-".toList, "99999999999999999999".toList, some [], "ll".toList, some 'é'⟩
    let read := parse "%-0-99999999999999999999.llé7".toList
    d.IsProper ∧ read.1 = d ∧ read.2 = 29 ∧ read.1.layout.width = 2 ^ 64 - 1 ∧
      read.1.layout.precision = some 0 ∧ read.1.layout.flags.zero = true ∧ read.1.layout.flags.plus ≠ true := by
  intro d read
  have proper : d.IsProper := by
    refine ⟨by simp [d, flagLetters], List.all_eq_true.mp rfl, by decide, ?_, by simp [d, lengthLetters], ?_⟩
    · rintro _ ⟨⟩
      exact nofun
    · rintro _ ⟨⟩ (letter | ⟨none, -⟩)
      · exact absurd letter (by decide)
      · cases none
  have written : read = parse (d.print ++ ['7']) := congrArg parse (by decide)
  obtain ⟨parts, means, size, -⟩ := directives_read_back.1 d ['7'] proper nofun
  rw [written]
  exact ⟨proper, parts, size.trans (by decide), means.width.trans (by decide), means.precision.trans (by decide),
    means.zero.mpr (by decide), mt means.plus.mp (by decide)⟩

end DirectiveText

end MockQueue.Message

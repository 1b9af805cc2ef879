import MockQueue.Number.Radix
import MockQueue.Text.Cut

/-!
# Directives

A directive is a percent sign with flags, a width, a precision, length letters and a conversion
character. `DirectiveText.parse` reads its parts from position to position, taking as much as each part
can hold, and counts the bytes; `DirectiveText.print` writes the parts back. Numbers above the largest
64-bit word count as that word.

The same parts are found without positions, by taking them off the front of the text after the percent
sign (`DirectiveText.scan`, `DirectiveText.parse_percent`).
-/

namespace MockQueue.Message

open Text (behind byteSize)

structure Flags where
  left : Bool := false
  zero : Bool := false
  plus : Bool := false
  space : Bool := false
  alternate : Bool := false
  deriving DecidableEq, Repr

def isFlag (c : Char) : Bool :=
  c == '-' || c == '0' || c == '+' || c == ' ' || c == '#'

/-- Whether a character is one of the length letters, which are read and ignored. -/
def isLengthLetter (c : Char) : Bool :=
  c == 'h' || c == 'l' || c == 'L' || c == 'q' || c == 'j' || c == 'z' || c == 't'

def Flags.ofChars (chars : List Char) : Flags where
  left := chars.contains '-'
  zero := chars.contains '0'
  plus := chars.contains '+'
  space := chars.contains ' '
  alternate := chars.contains '#'

/-- The largest width or precision. -/
def wordMax : Nat := Number.wordSize - 1

/-- A number with one more digit; neither the product nor the sum leaves a word. -/
def countOn (total : Nat) (c : Char) : Nat :=
  min (min (total * 10) wordMax + Number.digitValue c) wordMax

/-- The number that a row of decimal digits denotes, kept within a word; no digits give zero. -/
def boundedNumber (digits : List Char) : Nat :=
  digits.foldl countOn 0

/-- Once the largest word is reached the number stays there, as the number itself stays beyond it. -/
theorem foldl_countOn_min (digits : List Char) (total : Nat) :
    digits.foldl countOn (min total wordMax) =
      min (digits.foldl (fun total c => total * 10 + Number.digitValue c) total) wordMax := by
  induction digits generalizing total with
  | nil => rfl
  | cons c rest ih =>
    have step : countOn (min total wordMax) c = min (total * 10 + Number.digitValue c) wordMax := by
      unfold countOn
      omega
    rw [List.foldl_cons, List.foldl_cons, step, ih]

theorem boundedNumber_eq_min (digits : List Char) :
    boundedNumber digits = min (Number.valueOf 10 digits) wordMax :=
  foldl_countOn_min digits 0

/-- What a directive asks for, its conversion character aside. -/
structure Layout where
  flags : Flags := {}
  width : Nat := 0
  precision : Option Nat := none
  deriving DecidableEq, Repr

/-- The parts of a directive as they are written after the percent sign. -/
structure DirectiveText where
  flags : List Char
  width : List Char
  /-- The digits after the point, if there is a point. -/
  precision : Option (List Char)
  lengths : List Char
  /-- None if the text ended first. -/
  conversion : Option Char
  deriving DecidableEq, Repr

namespace DirectiveText

def layout (d : DirectiveText) : Layout where
  flags := Flags.ofChars d.flags
  width := boundedNumber d.width
  precision := d.precision.map boundedNumber

def precisionText : Option (List Char) → List Char
  | none => []
  | some digits => '.' :: digits

def print (d : DirectiveText) : List Char :=
  '%' :: (d.flags ++ d.width ++ precisionText d.precision ++ d.lengths ++ d.conversion.toList)

/-- Reads the precision at a position, if there is a point, and gives the position after it. -/
def precisionAt (directive : List Char) (i : Nat) : Option (List Char) × Nat :=
  if (behind i directive).head? = some '.' then
    let digits := (behind (i + 1) directive).takeWhile Char.isDigit
    (some digits, i + 1 + digits.length)
  else (none, i)

/-- Reads the parts of a directive from the text that begins with its percent sign, and counts the bytes that
they take. All characters before the conversion character are of one byte. -/
def parse (directive : List Char) : DirectiveText × Nat :=
  let flags := (behind 1 directive).takeWhile isFlag
  let i := 1 + flags.length
  let width := (behind i directive).takeWhile Char.isDigit
  let (precision, i) := precisionAt directive (i + width.length)
  let lengths := (behind i directive).takeWhile isLengthLetter
  let i := i + lengths.length
  match (behind i directive).head? with
  | some c => ({ flags, width, precision, lengths, conversion := some c }, i + c.utf8Size)
  | none => ({ flags, width, precision, lengths, conversion := none }, i)

/-- Reads the precision, if the text goes on with a point. -/
def scanPrecision : List Char → Option (List Char) × List Char
  | '.' :: rest => (some (rest.takeWhile Char.isDigit), rest.dropWhile Char.isDigit)
  | text => (none, text)

def scanConversion (text : List Char) : List Char × Option Char × List Char :=
  let rest := text.dropWhile isLengthLetter
  (text.takeWhile isLengthLetter, rest.head?, rest.tail)

/-- Reads the parts of a directive from the text after its percent sign, and gives the text after the
directive. -/
def scan (text : List Char) : DirectiveText × List Char :=
  let afterFlags := text.dropWhile isFlag
  let afterWidth := afterFlags.dropWhile Char.isDigit
  let precision := scanPrecision afterWidth
  let conversion := scanConversion precision.2
  ({ flags := text.takeWhile isFlag
     width := afterFlags.takeWhile Char.isDigit
     precision := precision.1
     lengths := conversion.1
     conversion := conversion.2.1 },
   conversion.2.2)

theorem scanPrecision_of_ne {c : Char} (other : c ≠ '.') (rest : List Char) :
    scanPrecision (c :: rest) = (none, c :: rest) := by
  unfold scanPrecision
  split
  · rename_i here
    exact absurd (List.cons.inj here).1 other
  · rfl

theorem scanPrecision_append (text : List Char) :
    precisionText (scanPrecision text).1 ++ (scanPrecision text).2 = text := by
  unfold scanPrecision
  split
  · simp [precisionText, List.takeWhile_append_dropWhile]
  · rfl

theorem scanConversion_append (text : List Char) :
    (scanConversion text).1 ++ (scanConversion text).2.1.toList ++ (scanConversion text).2.2 = text := by
  have whole := List.takeWhile_append_dropWhile (p := isLengthLetter) (l := text)
  cases rest : text.dropWhile isLengthLetter with
  | nil => simpa [scanConversion, rest] using whole
  | cons c after => simpa [scanConversion, rest] using whole

/-- Reading a directive loses nothing: its parts and the text after it make up the text again. -/
theorem print_scan_append (text : List Char) :
    (scan text).1.print ++ (scan text).2 = '%' :: text := by
  have flags := List.takeWhile_append_dropWhile (p := isFlag) (l := text)
  have width := List.takeWhile_append_dropWhile (p := Char.isDigit) (l := text.dropWhile isFlag)
  have precision := scanPrecision_append ((text.dropWhile isFlag).dropWhile Char.isDigit)
  have conversion := scanConversion_append
    (scanPrecision ((text.dropWhile isFlag).dropWhile Char.isDigit)).2
  simp only [List.append_assoc] at conversion
  simp only [print, scan, List.cons_append, List.append_assoc, conversion, precision, width, flags]

theorem scanPrecision_length_le (text : List Char) :
    (scanPrecision text).2.length ≤ text.length := by
  unfold scanPrecision
  split
  · have := (List.dropWhile_sublist (l := ‹List Char›) Char.isDigit).length_le
    simp only [List.length_cons]
    omega
  · simp

theorem scanConversion_length_le (text : List Char) :
    (scanConversion text).2.2.length ≤ text.length := by
  have := (List.dropWhile_sublist (l := text) isLengthLetter).length_le
  simp only [scanConversion, List.length_tail]
  omega

/-- A directive never lengthens the text that follows it. -/
theorem scan_length_le (text : List Char) : (scan text).2.length ≤ text.length := by
  have flags := (List.dropWhile_sublist (l := text) isFlag).length_le
  have width := (List.dropWhile_sublist (l := text.dropWhile isFlag) Char.isDigit).length_le
  have precision := scanPrecision_length_le ((text.dropWhile isFlag).dropWhile Char.isDigit)
  have conversion := scanConversion_length_le
    (scanPrecision ((text.dropWhile isFlag).dropWhile Char.isDigit)).2
  simp only [scan]
  omega

/-! ### By position -/

/-- Behind `i` bytes of the directive there stands the text. -/
def StandsAt (directive : List Char) (i : Nat) (text : List Char) : Prop :=
  ∃ before, directive = before ++ text ∧ i = byteSize before

theorem StandsAt.behind_eq {directive text : List Char} {i : Nat} (stands : StandsAt directive i text) :
    behind i directive = text := by
  obtain ⟨before, rfl, rfl⟩ := stands
  exact Text.behind_append before text

theorem StandsAt.next {directive rest : List Char} {i : Nat} {c : Char} (stands : StandsAt directive i (c :: rest)) :
    StandsAt directive (i + c.utf8Size) rest := by
  obtain ⟨before, rfl, rfl⟩ := stands
  exact ⟨before ++ [c], by simp, by simp⟩

/-- A row of characters of one byte is passed by their number. -/
theorem StandsAt.passed {p : Char → Bool} (ascii : ∀ c, p c = true → c.utf8Size = 1) {directive text : List Char}
    {i : Nat} (stands : StandsAt directive i text) :
    StandsAt directive (i + (text.takeWhile p).length) (text.dropWhile p) := by
  obtain ⟨before, rfl, rfl⟩ := stands
  refine ⟨before ++ text.takeWhile p, by simp [List.takeWhile_append_dropWhile], ?_⟩
  have row : byteSize (text.takeWhile p) = (text.takeWhile p).length :=
    Text.byteSize_of_ascii fun c member => ascii c (List.all_eq_true.mp List.all_takeWhile c member)
  rw [Text.byteSize_append, row]

theorem utf8Size_of_isFlag (c : Char) (flag : isFlag c = true) : c.utf8Size = 1 := by
  simp only [isFlag, Bool.or_eq_true, beq_iff_eq] at flag
  rcases flag with (((rfl | rfl) | rfl) | rfl) | rfl <;> rfl

theorem utf8Size_of_isDigit (c : Char) (digit : c.isDigit = true) : c.utf8Size = 1 := by
  simp only [Char.isDigit, Bool.and_eq_true, decide_eq_true_eq] at digit
  have small : c.val.toNat ≤ 57 := digit.2
  simp only [Char.utf8Size, UInt32.le_iff_toNat_le]
  rw [if_pos (Nat.le_trans small (by decide))]

theorem utf8Size_of_isLengthLetter (c : Char) (letter : isLengthLetter c = true) : c.utf8Size = 1 := by
  simp only [isLengthLetter, Bool.or_eq_true, beq_iff_eq] at letter
  rcases letter with (((((rfl | rfl) | rfl) | rfl) | rfl) | rfl) | rfl <;> rfl

theorem precisionAt_eq {directive text : List Char} {i : Nat} (stands : StandsAt directive i text) :
    (precisionAt directive i).1 = (scanPrecision text).1 ∧
      StandsAt directive (precisionAt directive i).2 (scanPrecision text).2 := by
  cases text with
  | nil =>
    simp only [precisionAt, stands.behind_eq, List.head?_nil, reduceCtorEq, if_false]
    exact ⟨rfl, stands⟩
  | cons c rest =>
    by_cases point : c = '.'
    · subst point
      have afterPoint := stands.next
      have size : i + 1 = i + '.'.utf8Size := rfl
      simp only [precisionAt, stands.behind_eq, List.head?_cons, if_true, size, afterPoint.behind_eq]
      exact ⟨rfl, afterPoint.passed utf8Size_of_isDigit⟩
    · simp only [precisionAt, stands.behind_eq, List.head?_cons, Option.some.injEq, point, if_false,
        scanPrecision_of_ne point]
      exact ⟨trivial, stands⟩

/-- The parts that are found by position are those that are taken off the front, and the bytes that are counted
end where these do. -/
theorem parse_percent (text : List Char) :
    (parse ('%' :: text)).1 = (scan text).1 ∧ StandsAt ('%' :: text) (parse ('%' :: text)).2 (scan text).2 := by
  have start : StandsAt ('%' :: text) 1 text := ⟨['%'], rfl, rfl⟩
  have afterFlags := start.passed utf8Size_of_isFlag
  have afterWidth := afterFlags.passed utf8Size_of_isDigit
  obtain ⟨precision, afterPrecision⟩ := precisionAt_eq afterWidth
  have afterLengths := afterPrecision.passed utf8Size_of_isLengthLetter
  simp only [parse, start.behind_eq, afterFlags.behind_eq, afterPrecision.behind_eq, afterLengths.behind_eq, precision,
    scan, scanConversion]
  cases rest : (scanPrecision ((text.dropWhile isFlag).dropWhile Char.isDigit)).2.dropWhile isLengthLetter with
  | nil =>
    rw [rest] at afterLengths
    exact ⟨rfl, afterLengths⟩
  | cons c after =>
    rw [rest] at afterLengths
    exact ⟨rfl, afterLengths.next⟩

/-- A directive takes its percent sign at least. -/
theorem length_behind_parse_lt (text : List Char) :
    (behind (parse ('%' :: text)).2 ('%' :: text)).length < ('%' :: text).length := by
  rw [(parse_percent text).2.behind_eq]
  exact Nat.lt_succ_of_le (scan_length_le text)

end DirectiveText

end MockQueue.Message

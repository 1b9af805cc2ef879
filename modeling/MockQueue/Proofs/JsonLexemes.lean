import Mathlib.Data.List.Chain
import MockQueue.Proofs.DigitRows
import MockQueue.Proofs.Rows
import MockQueue.Settings.PlainJson

/-!
# Written JSON

The spellings of a token (`Lexeme`): a character of a string stands for itself or is escaped by a letter or by its
UTF-16 units (`Spells`), and a number is written in its decimal digits. A text of lexemes with blanks between them
(`Lexed`) is read as its tokens again, whichever spellings were chosen (`tokens?_of_lexed`).
-/

namespace MockQueue.Settings.Token

open Number (Radix AllDigits decimalText valueOf)
open Text (Stops stops_nil stops_cons stops_append takeWhile_row dropWhile_row)

/-! ## Strings -/

/-- The letters of the short escapes, with the characters they stand for. -/
def escapeLetters : List (Char × Char) :=
  [('"', '"'), ('\\', '\\'), ('/', '/'), ('b', '\x08'), ('f', '\x0c'), ('n', '\n'), ('r', '\r'), ('t', '\t')]

/-- The hexadecimal digits in both cases. -/
def hexLetters : List Char := "0123456789abcdefABCDEF".toList

/-- Four hexadecimal digits that denote a number. -/
structure FourDigits (digits : List Char) (n : Nat) : Prop where
  length : digits.length = 4
  letters : digits ⊆ hexLetters
  value : valueOf 16 digits = n

/-- The ways to write a character inside a string: as itself unless it would end the string, begin an escape or is
a control character; by a short escape; by its UTF-16 unit; or by the two units of a surrogate pair. -/
inductive Spells (c : Char) : List Char → Prop
  | plain (noQuote : c ≠ '"') (noBackslash : c ≠ '\\') (visible : 0x20 ≤ c.toNat) : Spells c [c]
  | short {letter : Char} (listed : (letter, c) ∈ escapeLetters) : Spells c ['\\', letter]
  | unit {digits : List Char} (written : FourDigits digits c.toNat) : Spells c ('\\' :: 'u' :: digits)
  | pair {first second : List Char} {high low : Nat} (writtenFirst : FourDigits first high)
    (writtenSecond : FourDigits second low) (highRange : 0xD800 ≤ high ∧ high < 0xDC00)
    (lowRange : 0xDC00 ≤ low ∧ low < 0xE000)
    (value : c.toNat = 0x10000 + (high - 0xD800) * 0x400 + (low - 0xDC00)) :
    Spells c ('\\' :: 'u' :: (first ++ '\\' :: 'u' :: second))

/-- The ways to write a text inside a string, character by character. -/
inductive SpellsText : List Char → List Char → Prop
  | nil : SpellsText [] []
  | cons {c : Char} {text spelled rest : List Char} (first : Spells c spelled) (others : SpellsText text rest) :
    SpellsText (c :: text) (spelled ++ rest)

theorem isHexDigit_of_mem {c : Char} (member : c ∈ hexLetters) : isHexDigit c = true := by
  have all : hexLetters.all isHexDigit = true := by decide
  exact List.all_eq_true.mp all c member

/-- Four digits behind an escape are one unit. -/
theorem stringUnits_unit {digits : List Char} {n : Nat} (written : FourDigits digits n) (rest : List Char) :
    stringUnits ('\\' :: 'u' :: (digits ++ rest)) =
      (stringUnits rest).map fun (units, after) => (.escaped n :: units, after) := by
  obtain ⟨length, letters, rfl⟩ := written
  match digits, length with
  | [a, b, c, d], _ =>
    have hex : [a, b, c, d].all isHexDigit = true :=
      List.all_eq_true.mpr fun c member => isHexDigit_of_mem (letters member)
    simp only [List.cons_append, List.nil_append, stringUnits, hex, if_true]

theorem stringUnits_plain {c : Char} (noQuote : c ≠ '"') (noBackslash : c ≠ '\\') (visible : 0x20 ≤ c.toNat)
    (rest : List Char) :
    stringUnits (c :: rest) = (stringUnits rest).map fun (units, after) => (.char c :: units, after) := by
  have allowed : ¬ (c = '\\' || c.toNat < 0x20) = true := by
    simp only [Bool.or_eq_true, decide_eq_true_eq, not_or, Nat.not_lt]
    exact ⟨noBackslash, visible⟩
  rw [stringUnits.eq_def]
  split <;> simp_all

/-- A unit that is no surrogate is a character by itself. -/
theorem decodeUnits_escaped {n : Nat} (noHigh : isHighSurrogate n = false) (noLow : isLowSurrogate n = false)
    (rest : List StringUnit) :
    decodeUnits (.escaped n :: rest) = (decodeUnits rest).map (Char.ofNat n :: ·) := by
  match rest with
  | [] => simp [decodeUnits, noHigh, noLow]
  | .char c :: rest => simp [decodeUnits, noHigh, noLow]
  | .escaped low :: rest => simp [decodeUnits, noHigh, noLow]

theorem noSurrogate (c : Char) : isHighSurrogate c.toNat = false ∧ isLowSurrogate c.toNat = false := by
  have valid : c.toNat < 0xD800 ∨ 0xDFFF < c.toNat ∧ c.toNat < 0x110000 := c.valid
  simp only [isHighSurrogate, isLowSurrogate, Bool.and_eq_false_iff, decide_eq_false_iff_not]
  omega

/-- The units that are read from a spelling, and that they stand for the character. -/
theorem Spells.read {c : Char} {spelled : List Char} (spells : Spells c spelled) :
    ∃ units : List StringUnit,
      (∀ rest, stringUnits (spelled ++ rest) = (stringUnits rest).map fun (more, after) => (units ++ more, after)) ∧
      ∀ more, decodeUnits (units ++ more) = (decodeUnits more).map (c :: ·) := by
  cases spells with
  | plain noQuote noBackslash visible =>
    exact ⟨[.char c], stringUnits_plain noQuote noBackslash visible, fun _ => by rfl⟩
  | @short letter listed =>
    refine ⟨[.char c], fun rest => ?_, fun _ => by rfl⟩
    simp only [escapeLetters, List.mem_cons, Prod.mk.injEq, List.not_mem_nil, or_false] at listed
    rcases listed with ⟨rfl, rfl⟩ | ⟨rfl, rfl⟩ | ⟨rfl, rfl⟩ | ⟨rfl, rfl⟩ | ⟨rfl, rfl⟩ | ⟨rfl, rfl⟩ | ⟨rfl, rfl⟩ |
      ⟨rfl, rfl⟩ <;> rfl
  | unit written =>
    obtain ⟨noHigh, noLow⟩ := noSurrogate c
    refine ⟨[.escaped c.toNat], stringUnits_unit written, fun more => ?_⟩
    rw [List.cons_append, List.nil_append, decodeUnits_escaped noHigh noLow, Char.ofNat_toNat]
  | @pair first second high low writtenFirst writtenSecond highRange lowRange value =>
    refine ⟨[.escaped high, .escaped low], fun rest => ?_, fun more => ?_⟩
    · have joined : '\\' :: 'u' :: (first ++ '\\' :: 'u' :: second) ++ rest =
          '\\' :: 'u' :: (first ++ '\\' :: 'u' :: (second ++ rest)) := by simp
      rw [joined, stringUnits_unit writtenFirst, stringUnits_unit writtenSecond, Option.map_map]
      rfl
    · have isHigh : isHighSurrogate high = true := by simpa [isHighSurrogate] using highRange
      have isLow : isLowSurrogate low = true := by simpa [isLowSurrogate] using lowRange
      simp only [List.cons_append, List.nil_append, decodeUnits, isHigh, isLow, if_true, ← value, Char.ofNat_toNat]

/-- A spelled text is read up to its closing quote, and decoded. -/
theorem SpellsText.read {text spelled : List Char} (spells : SpellsText text spelled) :
    ∃ units : List StringUnit,
      (∀ rest, stringUnits (spelled ++ '"' :: rest) = some (units, rest)) ∧ decodeUnits units = some text := by
  induction spells with
  | nil => exact ⟨[], fun _ => by rfl, by rfl⟩
  | cons first others ih =>
    obtain ⟨units, firstRead, firstDecoded⟩ := first.read
    obtain ⟨more, read, decoded⟩ := ih
    refine ⟨units ++ more, fun rest => ?_, ?_⟩
    · rw [List.append_assoc, firstRead, read]
      rfl
    · rw [firstDecoded, decoded]
      rfl

/-! ## Numbers -/

/-- Only zero is written with a zero in front. -/
theorem decimalText_start {n : Nat} (zero : (decimalText n).head? = some '0') : n = 0 := by
  induction n using Nat.strongRecOn with
  | ind n ih =>
    rcases Nat.lt_or_ge n 10 with small | large
    · have value := Radix.digitValue_symbol .decimal small
      rw [decimalText, Radix.digits_of_lt .decimal small] at zero
      rw [Option.some.inj zero] at value
      exact value.symm
    · have split : decimalText n = decimalText (n / 10) ++ [Radix.decimal.symbol (n % 10)] :=
        Radix.digits_of_le .decimal large
      obtain ⟨c, others, row⟩ := List.exists_cons_of_length_pos (Number.length_decimalText_pos (n / 10))
      have front : (decimalText (n / 10)).head? = some '0' := by
        rw [split, row] at zero
        rwa [row]
      have small := ih (n / 10) (by omega) front
      omega

/-- The characters that can go on a number. -/
def continuesNumber (c : Char) : Bool :=
  c.isDigit || c == '.' || c == 'e' || c == 'E'

theorem unsigned?_decimalText {n : Nat} {rest : List Char} (ends : Stops continuesNumber rest) :
    unsigned? false (decimalText n ++ rest) = some (.number (some n), rest) := by
  have noDigit : Stops Char.isDigit rest := by
    intro c here
    have other := ends c here
    simp only [continuesNumber, Bool.or_eq_false_iff] at other
    exact other.1.1.1
  have digits : digits? (decimalText n ++ rest) = some (decimalText n, rest) := by
    have row := Number.allDigits_decimalText n
    have nonempty : (decimalText n).isEmpty = false := by
      rw [List.isEmpty_eq_false_iff, ← List.length_pos_iff]
      exact Number.length_decimalText_pos n
    simp only [digits?, takeWhile_row row noDigit, dropWhile_row row noDigit, nonempty]
    rfl
  have others : fraction? rest = some (false, rest) ∧ exponent? rest = some (false, rest) := by
    cases rest with
    | nil => exact ⟨rfl, rfl⟩
    | cons c rest =>
      have other := ends c rfl
      simp only [continuesNumber, Bool.or_eq_false_iff, beq_eq_false_iff_ne] at other
      obtain ⟨⟨⟨-, noPoint⟩, noSmall⟩, noLarge⟩ := other
      constructor
      · simp [fraction?, noPoint]
      · simp [exponent?, noSmall, noLarge]
  have value : valueOf 10 (decimalText n) = n := Number.valueOf_digits .decimal n
  have start : ¬ ((decimalText n).head? = some '0' ∧ (decimalText n).length ≠ 1) := by
    rintro ⟨zero, long⟩
    obtain rfl := decimalText_start zero
    exact long rfl
  simp only [unsigned?, digits, others, value, start, Option.bind_eq_bind, Option.bind_some, if_false]
  rfl

/-- What begins with a digit is read as a number. -/
theorem next?_of_digit {c : Char} (digit : c.isDigit = true) (rest : List Char) :
    next? (c :: rest) = unsigned? false (c :: rest) := by
  rw [next?.eq_def]
  split <;> simp_all [Char.isDigit]

/-! ## Lexemes -/

/-- The ways to write a token. -/
inductive Lexeme : Token → List Char → Prop
  | openBrace : Lexeme .openBrace ['{']
  | closeBrace : Lexeme .closeBrace ['}']
  | colon : Lexeme .colon [':']
  | comma : Lexeme .comma [',']
  | bool (value : Bool) : Lexeme (.bool value) (jsonBool value)
  | number (n : Nat) : Lexeme (.number (some n)) (decimalText n)
  | string {text spelled : List Char} (spells : SpellsText text spelled) :
    Lexeme (.string (some text)) ('"' :: (spelled ++ ['"']))

/-- Whether the token is a number. -/
def isNumber : Token → Bool
  | .number _ => true
  | _ => false

theorem next?_lexeme {token : Token} {lexeme rest : List Char} (writes : Lexeme token lexeme)
    (ends : token.isNumber = true → Stops continuesNumber rest) : next? (lexeme ++ rest) = some (token, rest) := by
  cases writes with
  | openBrace | closeBrace | colon | comma => rfl
  | bool value => cases value <;> rfl
  | number n =>
    have read := unsigned?_decimalText (n := n) (ends rfl)
    obtain ⟨c, others, row⟩ := List.exists_cons_of_length_pos (Number.length_decimalText_pos n)
    have digit : c.isDigit = true := Number.allDigits_decimalText n c (row ▸ List.mem_cons_self)
    rw [row] at read ⊢
    rw [List.cons_append, next?_of_digit digit]
    exact read
  | string spells =>
    obtain ⟨units, read, decoded⟩ := spells.read
    simp [next?, read, decoded]

theorem isSpace_iff {c : Char} : isSpace c = true ↔ c = ' ' ∨ c = '\t' ∨ c = '\n' ∨ c = '\r' := by
  simp [isSpace, or_assoc]

/-- A lexeme that is not a number begins with a character that neither is a blank nor goes on a number. -/
theorem Lexeme.start {token : Token} {lexeme : List Char} (writes : Lexeme token lexeme) :
    ∃ c others, lexeme = c :: others ∧ isSpace c = false ∧ (token.isNumber = false → continuesNumber c = false) := by
  cases writes with
  | openBrace | closeBrace | colon | comma => exact ⟨_, _, rfl, by decide, fun _ => by decide⟩
  | bool value => cases value <;> exact ⟨_, _, rfl, by decide, fun _ => by decide⟩
  | number n =>
    obtain ⟨c, others, row⟩ := List.exists_cons_of_length_pos (Number.length_decimalText_pos n)
    have digit : c.isDigit = true := Number.allDigits_decimalText n c (row ▸ List.mem_cons_self)
    have noSpace : isSpace c = false := by
      rw [← Bool.not_eq_true]
      intro space
      rcases isSpace_iff.mp space with rfl | rfl | rfl | rfl <;> cases digit
    exact ⟨c, others, row, noSpace, nofun⟩
  | string spells => exact ⟨_, _, rfl, by decide, fun _ => by decide⟩

/-! ## Texts of lexemes -/

/-- The text is made of lexemes of the tokens, with blanks in front of each and at the end. -/
inductive Lexed : List Token → List Char → Prop
  | nil {blanks : List Char} (blank : ∀ c ∈ blanks, isSpace c = true) : Lexed [] blanks
  | cons {token : Token} {tokens : List Token} {blanks lexeme rest : List Char}
    (blank : ∀ c ∈ blanks, isSpace c = true) (writes : Lexeme token lexeme) (others : Lexed tokens rest) :
    Lexed (token :: tokens) (blanks ++ (lexeme ++ rest))

/-- A lexeme may stand without blanks in front. -/
theorem Lexed.next {token : Token} {tokens : List Token} {lexeme rest : List Char} (writes : Lexeme token lexeme)
    (others : Lexed tokens rest) : Lexed (token :: tokens) (lexeme ++ rest) :=
  .cons (List.forall_mem_nil _) writes others

/-- No number comes right after a number. -/
def NumbersApart : List Token → Prop :=
  List.IsChain fun first second => first.isNumber = true → second.isNumber = false

theorem tokens?_blanks {blanks : List Char} (blank : ∀ c ∈ blanks, isSpace c = true) (rest : List Char) :
    tokens? (blanks ++ rest) = tokens? rest := by
  induction blanks with
  | nil => rfl
  | cons c blanks ih =>
    obtain ⟨space, others⟩ := List.forall_mem_cons.mp blank
    rw [List.cons_append, tokens?, if_pos space, ih others]

theorem tokens?_next {c : Char} (noSpace : isSpace c = false) {text after : List Char} {token : Token}
    (read : next? (c :: text) = some (token, after)) : tokens? (c :: text) = (tokens? after).map (token :: ·) := by
  rw [tokens?, if_neg (by simp [noSpace])]
  split <;> simp_all

/-- After a number there is nothing that goes it on. -/
theorem Lexed.stops {tokens : List Token} {text : List Char} (lexed : Lexed tokens text)
    (other : ∀ token ∈ tokens.head?, token.isNumber = false) : Stops continuesNumber text := by
  have blanksStop : ∀ c, isSpace c = true → continuesNumber c = false := by
    intro c space
    rcases isSpace_iff.mp space with rfl | rfl | rfl | rfl <;> rfl
  cases lexed with
  | nil blank =>
    rw [← List.append_nil text]
    exact stops_append (fun c member => blanksStop c (blank c member)) fun _ => stops_nil
  | cons blank writes others =>
    obtain ⟨c, more, rfl, -, stops⟩ := writes.start
    exact stops_append (fun c member => blanksStop c (blank c member)) fun _ => stops_cons (stops (other _ rfl))

/-- A text of lexemes is read as their tokens. -/
theorem tokens?_of_lexed {tokens : List Token} {text : List Char} (lexed : Lexed tokens text)
    (apart : NumbersApart tokens) : tokens? text = some tokens := by
  induction lexed with
  | nil blank =>
    have read := tokens?_blanks blank []
    rw [List.append_nil] at read
    rw [read, tokens?]
  | @cons token tokens blanks lexeme rest blank writes others ih =>
    obtain ⟨next, apart⟩ := List.isChain_cons.mp apart
    have read := next?_lexeme writes fun number => others.stops fun token here => next token here number
    obtain ⟨c, more, rfl, noSpace, -⟩ := writes.start
    rw [List.cons_append] at read
    rw [tokens?_blanks blank, List.cons_append, tokens?_next noSpace read, ih apart]
    rfl

end MockQueue.Settings.Token

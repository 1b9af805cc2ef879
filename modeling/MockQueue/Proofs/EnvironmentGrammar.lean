import Mathlib.Data.List.Induction
import Mathlib.Data.List.TakeWhile
import MockQueue.Proofs.DigitRows
import MockQueue.Proofs.Rows
import MockQueue.Settings.Environment

/-!
# What the environment may say

The two variables have a small grammar: white space around a numeral or around a word for a truth value.
Settings are made of those environments that keep to it and name a bound that leaves room for the marker
(`Environment.Asks`); all others break it somewhere first, which is what the problem names
(`Environment.Breaks`). The readers of the two variables decide the grammar, and each environment either asks
for settings or breaks it (`environment_grammar`).
-/

namespace MockQueue

namespace Text

/-! ## White space around a word -/

/-- A text is a word with white space before and after it, and the word has none at its ends. -/
structure Framed (text word : List Char) : Prop where
  around : ∃ before after, text = before ++ (word ++ after) ∧
    (∀ c ∈ before, isBlank c = true) ∧ ∀ c ∈ after, isBlank c = true
  first : ∀ c ∈ word.head?, isBlank c = false
  last : ∀ c ∈ word.getLast?, isBlank c = false

theorem framed_trim (text : List Char) : Framed text (trim text) := by
  have parts := List.takeWhile_append_dropWhile (p := isBlank) (l := text)
  have ends := List.takeWhile_append_dropWhile (p := isBlank) (l := (text.dropWhile isBlank).reverse)
  have rest : text.dropWhile isBlank =
      trim text ++ ((text.dropWhile isBlank).reverse.takeWhile isBlank).reverse := by
    rw [trim, ← List.reverse_append, ends, List.reverse_reverse]
  constructor
  · refine ⟨_, _, parts.symm.trans (congrArg _ rest), ?_, ?_⟩
    · exact fun c member => List.mem_takeWhile_imp member
    · exact fun c member => List.mem_takeWhile_imp (List.mem_reverse.mp member)
  · intro c here
    apply stops_dropWhile text c
    rw [rest, List.head?_append]
    simp [Option.mem_def.mp here]
  · intro c here
    apply stops_dropWhile _ c
    rwa [trim, List.getLast?_reverse] at here

/-- Trimming finds the word. -/
theorem framed_iff (text word : List Char) : Framed text word ↔ word = trim text := by
  constructor
  · rintro ⟨⟨before, after, rfl, blankBefore, blankAfter⟩, first, last⟩
    have behind : ∀ c ∈ after.reverse, isBlank c = true := fun c member => blankAfter c (List.mem_reverse.mp member)
    have stops : ∀ c ∈ word.reverse.head?, isBlank c = false := by rwa [List.head?_reverse]
    by_cases none : word = []
    · subst none
      have blank : ∀ c ∈ before ++ after, isBlank c = true := fun c member =>
        (List.mem_append.mp member).elim (blankBefore c) (blankAfter c)
      have dropped : (before ++ after ++ []).dropWhile isBlank = [] := dropWhile_row blank stops_nil
      rw [List.append_nil] at dropped
      rw [trim, List.nil_append, dropped]
      rfl
    · have firstBehind : ∀ c ∈ (word ++ after).head?, isBlank c = false := by
        obtain ⟨c, rest, rfl⟩ := List.exists_cons_of_ne_nil none
        exact first
      rw [trim, dropWhile_row blankBefore firstBehind, List.reverse_append, dropWhile_row behind stops,
        List.reverse_reverse]
  · rintro rfl
    exact framed_trim text

end Text

namespace Number

/-! ## Numerals -/

theorem mem_alphabet_of_isDigit {c : Char} (digit : c.isDigit = true) : c ∈ Radix.decimal.alphabet := by
  have all : ∀ n < 58, 48 ≤ n → Char.ofNat n ∈ Radix.decimal.alphabet := by decide
  have range : 48 ≤ c.toNat ∧ c.toNat ≤ 57 := by simpa [Char.isDigit, UInt32.le_iff_toNat_le] using digit
  rw [← Char.ofNat_toNat c]
  exact all c.toNat (by omega) range.1

/-- A digit is the symbol for its value. -/
theorem symbol_digitValue {c : Char} (digit : c.isDigit = true) :
    digitValue c < 10 ∧ Radix.decimal.symbol (digitValue c) = c := by
  have all : Radix.decimal.alphabet.all
      (fun c => digitValue c < 10 ∧ Radix.decimal.symbol (digitValue c) = c) = true := by decide
  exact of_decide_eq_true (List.all_eq_true.mp all c (mem_alphabet_of_isDigit digit))

theorem decimalText_digitValue {c : Char} (digit : c.isDigit = true) : decimalText (digitValue c) = [c] := by
  obtain ⟨small, symbol⟩ := symbol_digitValue digit
  rw [decimalText, Radix.digits_of_lt .decimal small, symbol]

/-- A digit behind a number that is not zero is its next digit. -/
theorem decimalText_append {n : Nat} (positive : 0 < n) {c : Char} (digit : c.isDigit = true) :
    decimalText n ++ [c] = decimalText (n * 10 + digitValue c) := by
  obtain ⟨small, symbol⟩ := symbol_digitValue digit
  have large : Radix.decimal.base ≤ n * 10 + digitValue c := by
    change 10 ≤ _
    omega
  have quotient : (n * 10 + digitValue c) / 10 = n := by omega
  have remainder : (n * 10 + digitValue c) % 10 = digitValue c := by omega
  rw [decimalText, decimalText, Radix.digits_of_le .decimal large]
  simp only [Radix.base, quotient, remainder, symbol]

/-- A row of digits is a number with zeros in front. -/
theorem row_eq_zeros_append {row : List Char} (digits : AllDigits row) (nonempty : row ≠ []) :
    ∃ k, row = zeros k ++ decimalText (valueOf 10 row) := by
  induction row using List.reverseRecOn with
  | nil => exact absurd rfl nonempty
  | append_singleton front c ih =>
    obtain ⟨frontDigits, last⟩ := allDigits_append.mp digits
    have digit : c.isDigit = true := last c (List.mem_singleton_self c)
    have value : valueOf 10 (front ++ [c]) = valueOf 10 front * 10 + digitValue c := by
      rw [valueOf_append]
      simp [valueOf]
    rw [value]
    by_cases none : front = []
    · subst none
      refine ⟨0, ?_⟩
      simp [valueOf, zeros, decimalText_digitValue digit]
    · obtain ⟨k, frontEq⟩ := ih frontDigits none
      rcases Nat.eq_zero_or_pos (valueOf 10 front) with zero | positive
      · -- What stands before the last digit is zero, and that zero is one more in front.
        refine ⟨k + 1, ?_⟩
        rw [zero] at frontEq
        rw [zero, Nat.zero_mul, Nat.zero_add, decimalText_digitValue digit, zeros_add]
        exact congrArg (· ++ [c]) frontEq
      · refine ⟨k, ?_⟩
        rw [← decimalText_append positive digit, ← List.append_assoc]
        exact congrArg (· ++ [c]) frontEq

theorem valueOf_zeros_decimalText (k n : Nat) : valueOf 10 (zeros k ++ decimalText n) = n := by
  rw [valueOf_zeros_append]
  exact valueOf_digits .decimal n

/-- The decimal numerals of a number: a plus sign or none, any number of zeros, and the number. -/
inductive Counts (n : Nat) : List Char → Prop
  | plain (k : Nat) : Counts n (zeros k ++ decimalText n)
  | signed (k : Nat) : Counts n ('+' :: (zeros k ++ decimalText n))

/-- The word after an optional plus sign. -/
def withoutPlus (word : List Char) : List Char :=
  if word.head? = some '+' then word.tail else word

theorem withoutPlus_of_allDigits {row : List Char} (digits : AllDigits row) : withoutPlus row = row := by
  refine if_neg fun plus => ?_
  exact digits.noLetter (c := '+') rfl (List.mem_of_mem_head? plus)

/-- A numeral is a row of digits behind an optional plus sign. -/
theorem counts_iff (n : Nat) (word : List Char) :
    Counts n word ↔ withoutPlus word ≠ [] ∧ AllDigits (withoutPlus word) ∧ valueOf 10 (withoutPlus word) = n := by
  constructor
  · intro counts
    have digits (k : Nat) : AllDigits (zeros k ++ decimalText n) :=
      allDigits_append.mpr ⟨allDigits_zeros k, allDigits_decimalText n⟩
    have row (k : Nat) : zeros k ++ decimalText n ≠ [] :=
      List.append_ne_nil_of_right_ne_nil _ (List.length_pos_iff.mp (length_decimalText_pos n))
    cases counts with
    | plain k =>
      rw [withoutPlus_of_allDigits (digits k)]
      exact ⟨row k, digits k, valueOf_zeros_decimalText k n⟩
    | signed k => exact ⟨row k, digits k, valueOf_zeros_decimalText k n⟩
  · rintro ⟨nonempty, digits, rfl⟩
    obtain ⟨k, same⟩ := row_eq_zeros_append digits nonempty
    by_cases plus : word.head? = some '+'
    · obtain ⟨rest, rfl⟩ := List.head?_eq_some_iff.mp plus
      have behind : withoutPlus ('+' :: rest) = rest := rfl
      rw [behind] at same ⊢
      have counts := (Counts.signed k : Counts (valueOf 10 rest) _)
      rwa [← same] at counts
    · have whole : withoutPlus word = word := if_neg plus
      rw [whole] at same ⊢
      have counts := (Counts.plain k : Counts (valueOf 10 word) _)
      rwa [← same] at counts

end Number

namespace Environment

open Number (AllDigits Counts withoutPlus wordSize)

/-! ## The two readers -/

/-- What is refused before its value is looked at is no row of digits. -/
theorem refused_iff (digits : List Char) :
    (digits.isEmpty || digits.any (!·.isDigit)) = true ↔ digits = [] ∨ ¬ AllDigits digits := by
  simp [AllDigits]

/-- The reader of byte counts finds the number whose numeral it is given, if that is a word. -/
theorem byteCount?_eq_some_iff (raw : String) (n : Nat) :
    byteCount? raw = some n ↔ Counts n (Text.trim raw.toList) ∧ n < wordSize := by
  have opened : byteCount? raw =
      let digits := withoutPlus (Text.trim raw.toList)
      if digits.isEmpty || digits.any (!·.isDigit) then none
      else if Number.valueOf 10 digits < wordSize then some (Number.valueOf 10 digits) else none := rfl
  rw [opened, Number.counts_iff]
  generalize withoutPlus (Text.trim raw.toList) = digits
  by_cases row : digits = [] ∨ ¬ AllDigits digits
  · rw [if_pos ((refused_iff digits).mpr row)]
    simp only [reduceCtorEq, false_iff]
    rintro ⟨⟨nonempty, all, -⟩, -⟩
    exact row.elim nonempty fun other => other all
  · rw [if_neg fun refused => row ((refused_iff digits).mp refused), Option.ite_none_right_eq_some, Option.some.injEq]
    rw [not_or, not_not] at row
    constructor
    · rintro ⟨small, rfl⟩
      exact ⟨⟨row.1, row.2, rfl⟩, small⟩
    · rintro ⟨⟨-, -, rfl⟩, small⟩
      exact ⟨small, rfl⟩

/-- The spellings of a truth value in small letters. -/
def spellings : Bool → List String
  | true => ["1", "true", "yes", "on"]
  | false => ["0", "false", "no", "off", ""]

/-- No spelling is shared. -/
theorem spellings_disjoint {word : String} (first : word ∈ spellings true) : word ∉ spellings false := by
  have all : ∀ word ∈ spellings true, word ∉ spellings false := by decide
  exact all word first

/-- The word spells a truth value, in letters of any case. -/
def Spells (b : Bool) (word : List Char) : Prop :=
  String.ofList (word.map Char.toLower) ∈ spellings b

theorem truth?_eq_some_iff (raw : String) (b : Bool) :
    truth? raw = some b ↔ Spells b (Text.trim raw.toList) := by
  have opened : truth? raw =
      if String.ofList ((Text.trim raw.toList).map Char.toLower) ∈ spellings true then some true
      else if String.ofList ((Text.trim raw.toList).map Char.toLower) ∈ spellings false then some false
      else none := by
    simp only [truth?, List.contains_iff_mem]
    rfl
  rw [opened, Spells]
  generalize String.ofList ((Text.trim raw.toList).map Char.toLower) = word
  by_cases isTrue : word ∈ spellings true
  · have notFalse := spellings_disjoint isTrue
    cases b <;> simp [isTrue, notFalse]
  · cases b <;> simp [isTrue]

/-! ## The grammar -/

/-- The bound that an environment names; without the variable it is the default one. -/
def NamesCapacity (e : Environment) (n : Nat) : Prop :=
  match e.capacity with
  | none => n = 3000
  | some raw => ∃ word, Text.Framed raw.toList word ∧ Counts n word ∧ n < wordSize

/-- The truth value that an environment names; without the variable it is false. -/
def NamesFlag (e : Environment) (b : Bool) : Prop :=
  match e.unbind with
  | none => b = false
  | some raw => ∃ word, Text.Framed raw.toList word ∧ Spells b word

/-- The settings that an environment asks for. -/
inductive Asks (e : Environment) : Settings → Prop
  | of {n : Nat} {b : Bool} (capacity : e.NamesCapacity n) (flag : e.NamesFlag b) (room : 4 ≤ n) :
    Asks e { capacity := n, marker := "...", unbindOnVerify := b }

/-- The first condition that an environment breaks. -/
inductive Breaks (e : Environment) : Settings.Problem → Prop
  | notByteCount {raw : String} (set : e.capacity = some raw) (unnamed : ∀ n, ¬ e.NamesCapacity n) :
    Breaks e (.notByteCount raw)
  | notBoolean {raw : String} {n : Nat} (capacity : e.NamesCapacity n) (set : e.unbind = some raw)
    (unnamed : ∀ b, ¬ e.NamesFlag b) : Breaks e (.notBoolean raw)
  | zeroCapacity {b : Bool} (capacity : e.NamesCapacity 0) (flag : e.NamesFlag b) : Breaks e .zeroCapacity
  | markerTooLong {n : Nat} {b : Bool} (capacity : e.NamesCapacity n) (flag : e.NamesFlag b) (positive : 0 < n)
    (short : n < 4) : Breaks e (.markerTooLong 3 n)

theorem namesCapacity_iff (e : Environment) (n : Nat) :
    e.NamesCapacity n ↔ (e.capacity.elim (some 3000) byteCount?) = some n := by
  unfold NamesCapacity
  cases e.capacity with
  | none => simp [eq_comm]
  | some raw => simp [Text.framed_iff, byteCount?_eq_some_iff]

theorem namesFlag_iff (e : Environment) (b : Bool) :
    e.NamesFlag b ↔ (e.unbind.elim (some false) truth?) = some b := by
  unfold NamesFlag
  cases e.unbind with
  | none => simp [eq_comm]
  | some raw => simp [Text.framed_iff, truth?_eq_some_iff]

end Environment

namespace Settings

/-! ## Reading an environment -/

variable {e : Environment} {n : Nat} {b : Bool}

theorem withCapacity_of_names (names : e.NamesCapacity n) : withCapacity {} e.capacity = .ok { capacity := n } := by
  rw [Environment.namesCapacity_iff] at names
  cases set : e.capacity with
  | none =>
    rw [set] at names
    obtain rfl := Option.some.inj names
    rfl
  | some raw =>
    rw [set, Option.elim_some] at names
    rw [withCapacity, names]

theorem withUnbind_of_names (s : Settings) (names : e.NamesFlag b) :
    ({ s with unbindOnVerify := false } : Settings).withUnbind e.unbind = .ok { s with unbindOnVerify := b } := by
  rw [Environment.namesFlag_iff] at names
  cases set : e.unbind with
  | none =>
    rw [set] at names
    obtain rfl := Option.some.inj names
    rfl
  | some raw =>
    rw [set, Option.elim_some] at names
    rw [withUnbind, names]

theorem withCapacity_of_unnamed {raw : String} (set : e.capacity = some raw) (unnamed : ∀ n, ¬ e.NamesCapacity n) :
    withCapacity {} e.capacity = .error (.notByteCount raw) := by
  simp only [Environment.namesCapacity_iff, set, Option.elim_some] at unnamed
  rw [set, withCapacity, Option.eq_none_iff_forall_ne_some.mpr unnamed]

theorem withUnbind_of_unnamed (s : Settings) {raw : String} (set : e.unbind = some raw)
    (unnamed : ∀ b, ¬ e.NamesFlag b) : s.withUnbind e.unbind = .error (.notBoolean raw) := by
  simp only [Environment.namesFlag_iff, set, Option.elim_some] at unnamed
  rw [set, withUnbind, Option.eq_none_iff_forall_ne_some.mpr unnamed]

/-- What the variables name only has to be valid. -/
theorem ofEnvironment_of_names (capacity : e.NamesCapacity n) (flag : e.NamesFlag b) :
    ofEnvironment e = ({ capacity := n, unbindOnVerify := b } : Settings).validate := by
  have second := withUnbind_of_names { capacity := n } flag
  simp only [ofEnvironment, withCapacity_of_names capacity, second, bind, Except.bind]

theorem markerSize_dots (n : Nat) (b : Bool) : ({ capacity := n, unbindOnVerify := b } : Settings).markerSize = 3 := by
  change Text.byteSize "...".toList = 3
  decide

theorem ofEnvironment_of_asks {s : Settings} (asks : e.Asks s) : ofEnvironment e = .ok s := by
  obtain ⟨capacity, flag, room⟩ := asks
  rw [ofEnvironment_of_names capacity flag, validate_eq_ok_iff, markerSize_dots]
  exact ⟨room, rfl⟩

theorem ofEnvironment_of_breaks {p : Problem} (breaks : e.Breaks p) : ofEnvironment e = .error p := by
  cases breaks with
  | notByteCount set unnamed =>
    simp only [ofEnvironment, withCapacity_of_unnamed set unnamed, bind, Except.bind]
  | notBoolean capacity set unnamed =>
    simp only [ofEnvironment, withCapacity_of_names capacity, withUnbind_of_unnamed _ set unnamed, bind, Except.bind]
  | zeroCapacity capacity flag =>
    rw [ofEnvironment_of_names capacity flag]
    rfl
  | markerTooLong capacity flag positive short =>
    rw [ofEnvironment_of_names capacity flag, validate, markerSize_dots, if_neg (Nat.ne_of_gt positive)]
    exact if_pos (Nat.le_of_lt_succ short)

end Settings

namespace Environment

/-- An environment asks for settings, or there is a first condition that it breaks. -/
theorem asks_or_breaks (e : Environment) : (∃ s, e.Asks s) ∨ ∃ p, e.Breaks p := by
  by_cases capacityNamed : ∃ n, e.NamesCapacity n
  · obtain ⟨n, capacity⟩ := capacityNamed
    by_cases flagNamed : ∃ b, e.NamesFlag b
    · obtain ⟨b, flag⟩ := flagNamed
      rcases Nat.lt_or_ge n 4 with short | room
      · rcases Nat.eq_zero_or_pos n with rfl | positive
        · exact .inr ⟨_, .zeroCapacity capacity flag⟩
        · exact .inr ⟨_, .markerTooLong capacity flag positive short⟩
      · exact .inl ⟨_, .of capacity flag room⟩
    · cases set : e.unbind with
      | none => exact absurd ⟨false, by simp [NamesFlag, set]⟩ flagNamed
      | some raw => exact .inr ⟨_, .notBoolean capacity set (not_exists.mp flagNamed)⟩
  · cases set : e.capacity with
    | none => exact absurd ⟨3000, by simp [NamesCapacity, set]⟩ capacityNamed
    | some raw => exact .inr ⟨_, .notByteCount set (not_exists.mp capacityNamed)⟩

theorem ofEnvironment_eq_ok_iff (e : Environment) (s : Settings) : Settings.ofEnvironment e = .ok s ↔ e.Asks s := by
  refine ⟨fun read => ?_, Settings.ofEnvironment_of_asks⟩
  rcases e.asks_or_breaks with ⟨t, asks⟩ | ⟨p, breaks⟩
  · rw [Settings.ofEnvironment_of_asks asks] at read
    exact Except.ok.inj read ▸ asks
  · rw [Settings.ofEnvironment_of_breaks breaks] at read
    cases read

theorem ofEnvironment_eq_error_iff (e : Environment) (p : Settings.Problem) :
    Settings.ofEnvironment e = .error p ↔ e.Breaks p := by
  refine ⟨fun read => ?_, Settings.ofEnvironment_of_breaks⟩
  rcases e.asks_or_breaks with ⟨s, asks⟩ | ⟨q, breaks⟩
  · rw [Settings.ofEnvironment_of_asks asks] at read
    cases read
  · rw [Settings.ofEnvironment_of_breaks breaks] at read
    exact Except.error.inj read ▸ breaks

/-- An environment names no bound beyond a word. -/
theorem Asks.capacity_lt {e : Environment} {s : Settings} (asks : e.Asks s) : s.capacity < Number.wordSize := by
  obtain ⟨capacity, -, -⟩ := asks
  unfold NamesCapacity at capacity
  cases set : e.capacity with
  | none =>
    rw [set] at capacity
    subst capacity
    change 3000 < Number.wordSize
    decide
  | some raw =>
    rw [set] at capacity
    obtain ⟨_, -, -, small⟩ := capacity
    exact small

/-- Settings are read from exactly the environments that ask for them, and are what those ask for. All other
environments are refused with an error of configuration that tells the first condition they break. -/
theorem environment_grammar (e : Environment) :
    (∀ s, Settings.ofEnvironment e = .ok s ↔ e.Asks s) ∧
    (∀ p, Settings.ofEnvironment e = .error p ↔ e.Breaks p) ∧
    ∀ failure, (Settings.ofEnvironment e).mapError Settings.Problem.error = .error failure ↔
      ∃ p, e.Breaks p ∧ failure = .config p.message := by
  refine ⟨ofEnvironment_eq_ok_iff e, ofEnvironment_eq_error_iff e, fun failure => ?_⟩
  simp only [← ofEnvironment_eq_error_iff]
  cases Settings.ofEnvironment e with
  | ok s => simp [Except.mapError]
  | error p => simp [Except.mapError, Settings.Problem.error, eq_comm]

/-- The truth value is looked at before the bound is found to be zero. -/
example : Settings.ofEnvironment { capacity := some " +00\t", unbind := some "maybe" } = .error (.notBoolean "maybe") := by
  decide

end Environment

end MockQueue

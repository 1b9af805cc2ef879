import MockQueue.Number.Radix

/-!
# Tokens of JSON

The lexical half of JSON: a text falls into punctuation, words, numbers and strings, blanks between
them being dropped. A string is kept decoded; one whose surrogate escapes do not pair up is still a
token, without a decoded text. A number is kept as far as its use needs: whether it is a plain
sequence of digits, and which.
-/

namespace MockQueue.Settings

/-- A character of a string as written: itself, or a UTF-16 unit given by an escape. -/
inductive StringUnit where
  | char (c : Char)
  | escaped (code : Nat)
  deriving DecidableEq, Repr

inductive Token where
  | openBrace
  | closeBrace
  | openBracket
  | closeBracket
  | colon
  | comma
  | null
  | bool (value : Bool)
  /-- A number, with its value if it is written as decimal digits alone. -/
  | number (natural : Option Nat)
  /-- A string, with its text unless a surrogate stands alone in it. -/
  | string (decoded : Option (List Char))
  deriving DecidableEq, Repr

namespace Token

def isHighSurrogate (code : Nat) : Bool :=
  0xD800 ≤ code && code < 0xDC00

def isLowSurrogate (code : Nat) : Bool :=
  0xDC00 ≤ code && code < 0xE000

/-- The text of a row of units; surrogates must come in pairs. -/
def decodeUnits : List StringUnit → Option (List Char)
  | [] => some []
  | .char c :: rest => (decodeUnits rest).map (c :: ·)
  | .escaped high :: .escaped low :: rest =>
    if isHighSurrogate high then
      if isLowSurrogate low then
        (decodeUnits rest).map
          (Char.ofNat (0x10000 + (high - 0xD800) * 0x400 + (low - 0xDC00)) :: ·)
      else none
    else if isLowSurrogate high then none
    else (decodeUnits (.escaped low :: rest)).map (Char.ofNat high :: ·)
  | .escaped code :: rest =>
    if isHighSurrogate code || isLowSurrogate code then none
    else (decodeUnits rest).map (Char.ofNat code :: ·)

def isHexDigit (c : Char) : Bool :=
  c.isDigit || ('a' ≤ c && c ≤ 'f') || ('A' ≤ c && c ≤ 'F')

def simpleEscape? (c : Char) : Option Char :=
  if c = '"' then some '"'
  else if c = '\\' then some '\\'
  else if c = '/' then some '/'
  else if c = 'b' then some '\x08'
  else if c = 'f' then some '\x0c'
  else if c = 'n' then some '\n'
  else if c = 'r' then some '\r'
  else if c = 't' then some '\t'
  else none

/-- Reads the units of a string up to its closing quote. -/
def stringUnits : List Char → Option (List StringUnit × List Char)
  | [] => none
  | '"' :: rest => some ([], rest)
  | '\\' :: 'u' :: a :: b :: c :: d :: rest =>
    if [a, b, c, d].all isHexDigit then
      (stringUnits rest).map fun (units, after) =>
        (.escaped (Number.valueOf 16 [a, b, c, d]) :: units, after)
    else none
  | '\\' :: c :: rest =>
    match simpleEscape? c with
    | some char => (stringUnits rest).map fun (units, after) => (.char char :: units, after)
    | none => none
  | c :: rest =>
    if c = '\\' || c.toNat < 0x20 then none
    else (stringUnits rest).map fun (units, after) => (.char c :: units, after)

/-- Reads one or more digits; none if there is none. -/
def digits? (text : List Char) : Option (List Char × List Char) :=
  let found := text.takeWhile Char.isDigit
  if found.isEmpty then none else some (found, text.dropWhile Char.isDigit)

/-- Reads the fraction of a number, if there is one; gives whether there was. -/
def fraction? : List Char → Option (Bool × List Char)
  | '.' :: rest => (digits? rest).map fun found => (true, found.2)
  | text => some (false, text)

def skipSign : List Char → List Char
  | '+' :: rest => rest
  | '-' :: rest => rest
  | text => text

/-- Reads the exponent of a number, if there is one; gives whether there was. -/
def exponent? : List Char → Option (Bool × List Char)
  | 'e' :: rest => (digits? (skipSign rest)).map fun found => (true, found.2)
  | 'E' :: rest => (digits? (skipSign rest)).map fun found => (true, found.2)
  | text => some (false, text)

/-- Reads a number without its sign. A whole part of several digits does not start with zero. -/
def unsigned? (negative : Bool) (text : List Char) : Option (Token × List Char) := do
  let whole ← digits? text
  if whole.1.head? = some '0' ∧ whole.1.length ≠ 1 then none
  else
    let fraction ← fraction? whole.2
    let exponent ← exponent? fraction.2
    let plain := !negative && !fraction.1 && !exponent.1
    return (.number (if plain then some (Number.valueOf 10 whole.1) else none), exponent.2)

/-- Reads the token at the front of a text that does not start with a blank. -/
def next? : List Char → Option (Token × List Char)
  | '{' :: rest => some (openBrace, rest)
  | '}' :: rest => some (closeBrace, rest)
  | '[' :: rest => some (openBracket, rest)
  | ']' :: rest => some (closeBracket, rest)
  | ':' :: rest => some (colon, rest)
  | ',' :: rest => some (comma, rest)
  | 'n' :: 'u' :: 'l' :: 'l' :: rest => some (null, rest)
  | 't' :: 'r' :: 'u' :: 'e' :: rest => some (bool true, rest)
  | 'f' :: 'a' :: 'l' :: 's' :: 'e' :: rest => some (bool false, rest)
  | '"' :: rest => (stringUnits rest).map fun (units, after) => (string (decodeUnits units), after)
  | '-' :: rest => unsigned? true rest
  | text => unsigned? false text

def isSpace (c : Char) : Bool :=
  c == ' ' || c == '\t' || c == '\n' || c == '\r'

/-! ## Every token takes a character at least -/

theorem stringUnits_length_lt {text rest : List Char} {units : List StringUnit}
    (read : stringUnits text = some (units, rest)) : rest.length < text.length := by
  fun_induction stringUnits text generalizing units with
  | case1 => simp at read
  | case2 => simp_all
  | case3 a b c d after _ ih =>
    obtain ⟨⟨others, tail⟩, found, pair⟩ := Option.map_eq_some_iff.1 read
    have shorter := @ih others (by simp_all)
    simp only [List.length_cons]
    omega
  | case4 => simp at read
  | case5 c after _ char _ ih =>
    obtain ⟨⟨others, tail⟩, found, pair⟩ := Option.map_eq_some_iff.1 read
    have shorter := @ih others (by simp_all)
    simp only [List.length_cons]
    omega
  | case6 => simp at read
  | case7 => simp at read
  | case8 c after _ _ _ _ ih =>
    obtain ⟨⟨others, tail⟩, found, pair⟩ := Option.map_eq_some_iff.1 read
    have shorter := @ih others (by simp_all)
    simp only [List.length_cons]
    omega

theorem digits?_length_lt {text : List Char} {found : List Char × List Char}
    (read : digits? text = some found) : found.2.length < text.length := by
  simp only [digits?] at read
  split at read
  · simp at read
  · rename_i some_digit
    obtain rfl := Option.some.inj read
    have whole := congrArg List.length (List.takeWhile_append_dropWhile (p := Char.isDigit) (l := text))
    have front : 0 < (text.takeWhile Char.isDigit).length := by
      rw [List.length_pos_iff]
      simpa using some_digit
    simp only [List.length_append] at whole
    simp only
    omega

theorem fraction?_length_le {text : List Char} {found : Bool × List Char}
    (read : fraction? text = some found) : found.2.length ≤ text.length := by
  unfold fraction? at read
  split at read
  · obtain ⟨inner, digits, rfl⟩ := Option.map_eq_some_iff.1 read
    have := digits?_length_lt digits
    simp only [List.length_cons]
    omega
  · obtain rfl := Option.some.inj read
    simp

theorem skipSign_length_le (text : List Char) : (skipSign text).length ≤ text.length := by
  unfold skipSign
  split <;> simp

theorem exponent?_length_le {text : List Char} {found : Bool × List Char}
    (read : exponent? text = some found) : found.2.length ≤ text.length := by
  unfold exponent? at read
  split at read
  · rename_i rest
    obtain ⟨inner, digits, rfl⟩ := Option.map_eq_some_iff.1 read
    have := digits?_length_lt digits
    have := skipSign_length_le rest
    simp only [List.length_cons]
    omega
  · rename_i rest
    obtain ⟨inner, digits, rfl⟩ := Option.map_eq_some_iff.1 read
    have := digits?_length_lt digits
    have := skipSign_length_le rest
    simp only [List.length_cons]
    omega
  · obtain rfl := Option.some.inj read
    simp

theorem unsigned?_length_lt {negative : Bool} {text : List Char} {found : Token × List Char}
    (read : unsigned? negative text = some found) : found.2.length < text.length := by
  simp only [unsigned?, Option.bind_eq_bind, Option.bind_eq_some_iff] at read
  obtain ⟨whole, wholeRead, read⟩ := read
  split at read
  · simp at read
  · simp only [Option.bind_eq_some_iff, Option.pure_def, Option.some.injEq] at read
    obtain ⟨fraction, fractionRead, exponent, exponentRead, rfl⟩ := read
    have := digits?_length_lt wholeRead
    have := fraction?_length_le fractionRead
    have := exponent?_length_le exponentRead
    simp only
    omega

theorem next?_length_lt {text : List Char} {found : Token × List Char}
    (read : next? text = some found) : found.2.length < text.length := by
  unfold next? at read
  split at read
  case h_10 =>
    obtain ⟨⟨units, after⟩, inner, rfl⟩ := Option.map_eq_some_iff.1 read
    have := stringUnits_length_lt inner
    simp only [List.length_cons]
    omega
  case h_11 =>
    have := unsigned?_length_lt read
    simp only [List.length_cons]
    omega
  case h_12 => exact unsigned?_length_lt read
  all_goals
    obtain rfl := Option.some.inj read
    simp only [List.length_cons]
    omega

/-- The tokens of a text; none if some part of it is no token. -/
def tokens? : List Char → Option (List Token)
  | [] => some []
  | c :: rest =>
    if isSpace c then tokens? rest
    else
      match _found : next? (c :: rest) with
      | none => none
      | some (token, after) => (tokens? after).map (token :: ·)
termination_by text => text.length
decreasing_by
  · simp
  · exact next?_length_lt _found

end Token

end MockQueue.Settings

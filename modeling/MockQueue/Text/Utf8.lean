/-!
# Reading bytes as UTF-8

A row of bytes falls into units: a character, or the longest run of bytes that starts a character
without completing it (one byte, if it starts none). `decode?` reads bytes that are all characters,
`decodeLossy` puts the replacement character for every broken unit.
-/

namespace MockQueue.Text

/-- What stands at the front of a row of bytes, with the number of bytes it takes. -/
inductive Utf8Unit where
  | scalar (c : Char) (size : Nat)
  | broken (size : Nat)
  deriving DecidableEq, Repr

namespace Utf8Unit

def size : Utf8Unit → Nat
  | scalar _ n => n
  | broken n => n

/-- The character, unless the unit is broken. -/
def char? : Utf8Unit → Option Char
  | scalar c _ => some c
  | broken _ => none

end Utf8Unit

/-- What a first byte announces. -/
structure Utf8Lead where
  /-- The bits of the character in the first byte. -/
  bits : Nat
  /-- How many bytes are still owed. -/
  owed : Nat
  /-- The least and the greatest byte that may come second. -/
  low : Nat := 0x80
  high : Nat := 0xBF
  deriving Repr

/-- Reads a first byte; none if no character starts with it. The narrower ranges of the second byte
leave out overlong forms, surrogates and what lies above the last code point. -/
def utf8Lead (b : Nat) : Option Utf8Lead :=
  if b < 0x80 then some { bits := b, owed := 0 }
  else if b < 0xC2 then none
  else if b < 0xE0 then some { bits := b - 0xC0, owed := 1 }
  else if b = 0xE0 then some { bits := 0, owed := 2, low := 0xA0 }
  else if b = 0xED then some { bits := 0xD, owed := 2, high := 0x9F }
  else if b < 0xF0 then some { bits := b - 0xE0, owed := 2 }
  else if b = 0xF0 then some { bits := 0, owed := 3, low := 0x90 }
  else if b < 0xF4 then some { bits := b - 0xF0, owed := 3 }
  else if b = 0xF4 then some { bits := 4, owed := 3, high := 0x8F }
  else none

/-- Collects the bytes that are owed, `taken` having been taken; the next must lie between `low` and
`high`, those after it in the common range. -/
def utf8Tail (bits taken low high : Nat) : (owed : Nat) → List UInt8 → Utf8Unit
  | 0, _ => .scalar (Char.ofNat bits) taken
  | _ + 1, [] => .broken taken
  | owed + 1, b :: rest =>
    if low ≤ b.toNat ∧ b.toNat ≤ high then
      utf8Tail (bits * 64 + b.toNat % 64) (taken + 1) 0x80 0xBF owed rest
    else .broken taken

/-- The unit at the front of `b :: rest`. -/
def utf8Unit (b : UInt8) (rest : List UInt8) : Utf8Unit :=
  match utf8Lead b.toNat with
  | none => .broken 1
  | some lead => utf8Tail lead.bits 1 lead.low lead.high lead.owed rest

/-- Splits bytes into units; a broken one gives none. A unit takes its first byte and `size - 1` of
those that follow. -/
def utf8Units : List UInt8 → List (Option Char)
  | [] => []
  | b :: rest =>
    let found := utf8Unit b rest
    found.char? :: utf8Units (rest.drop (found.size - 1))
termination_by bytes => bytes.length
decreasing_by simp only [List.length_drop, List.length_cons]; omega

@[simp] theorem utf8Units_nil : utf8Units [] = [] := by
  rw [utf8Units]

theorem utf8Units_cons (b : UInt8) (rest : List UInt8) :
    utf8Units (b :: rest) =
      (utf8Unit b rest).char? :: utf8Units (rest.drop ((utf8Unit b rest).size - 1)) := by
  rw [utf8Units]

/-- The character that stands for a broken unit. -/
def replacement : Char := '\uFFFD'

/-- The text of a row of bytes, with the replacement character for every broken unit. -/
def decodeLossy (bytes : List UInt8) : List Char :=
  (utf8Units bytes).map (·.getD replacement)

/-- The text of a row of bytes that is UTF-8 throughout. -/
def decode? (bytes : List UInt8) : Option (List Char) :=
  (utf8Units bytes).mapM id

end MockQueue.Text

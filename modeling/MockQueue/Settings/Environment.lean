import MockQueue.Settings.Basic
import MockQueue.Text.Blank
import MockQueue.Text.Utf8

/-!
# Settings from the environment

Two variables, both optional: a byte count and a truth value, each with white space around it. The
first that cannot be read is named; what can be read must then be valid.
-/

namespace MockQueue

open Text (trim)

/-- The values of the two variables; none if a variable is unset or no UTF-8. -/
structure Environment where
  capacity : Option String := none
  unbind : Option String := none
  deriving DecidableEq, Repr

namespace Environment

/-- The value of a variable that holds these bytes. -/
def value? (bytes : List UInt8) : Option String :=
  (Text.decode? bytes).map String.ofList

/-- Reads a byte count: an optional plus sign and decimal digits that fit in a word. -/
def byteCount? (raw : String) : Option Nat :=
  let trimmed := trim raw.toList
  let digits := if trimmed.head? = some '+' then trimmed.tail else trimmed
  if digits.isEmpty || digits.any (!·.isDigit) then none
  else
    let count := Number.valueOf 10 digits
    if count < Number.wordSize then some count else none

def trueWords : List String := ["1", "true", "yes", "on"]

/-- The words for false; so is no word. -/
def falseWords : List String := ["0", "false", "no", "off", ""]

/-- Reads a truth value in any letter case. -/
def truth? (raw : String) : Option Bool :=
  let word := String.ofList ((trim raw.toList).map Char.toLower)
  if trueWords.contains word then some true
  else if falseWords.contains word then some false
  else none

end Environment

namespace Settings

def withCapacity (s : Settings) : Option String → Except Problem Settings
  | none => .ok s
  | some raw =>
    match Environment.byteCount? raw with
    | some count => .ok { s with capacity := count }
    | none => .error (.notByteCount raw)

def withUnbind (s : Settings) : Option String → Except Problem Settings
  | none => .ok s
  | some raw =>
    match Environment.truth? raw with
    | some b => .ok { s with unbindOnVerify := b }
    | none => .error (.notBoolean raw)

/-- The settings that an environment asks for, all else being the default. -/
def ofEnvironment (e : Environment) : Except Problem Settings := do
  let s ← withCapacity {} e.capacity
  let s ← s.withUnbind e.unbind
  s.validate

end Settings

end MockQueue
